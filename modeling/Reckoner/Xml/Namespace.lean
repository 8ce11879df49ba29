import Reckoner.Xml.Node
import Reckoner.Xml.Scan

/-!
# Namespaces

Qualified names are resolved against the namespace declarations around them.  An element takes the
default namespace, an attribute without a prefix none.  The resolved name is then written with the
short name that a table gives to its namespace, or with the whole namespace when the table does not
know it; an empty short name leaves the bare local name.
-/

namespace Reckoner.Xml

/-- Short names for namespaces; none, or the empty name, leaves a name bare. -/
abbrev ShortNames := List (String × Option String)

/-- What prefixes stand for; the default namespace has the empty prefix, and none is no
namespace. -/
abbrev Scope := List (String × Option String)

/-- Where the names of the standard namespaces begin. -/
def standardRoot : String := "http://www.w3.org"

/-- The namespace that the prefix `xml` always stands for. -/
def xmlNamespace : String := standardRoot ++ "/XML/1998/namespace"

/-- The namespace of declarations, which no prefix may stand for. -/
def declarationNamespace : String := standardRoot ++ "/2000/xmlns/"

/-- The scope around the outermost element. -/
def outermostScope : Scope := [("xml", some xmlNamespace)]

/-- The prefix and the local part of a name. -/
def splitName (s : String) : Option String × String :=
  let cs := s.toList
  let front := cs.takeWhile (· != ':')
  match cs.drop front.length with
  | ':' :: rest => (some (String.ofList front), String.ofList rest)
  | _ => (none, s)

/-- The prefix that an attribute declares. -/
def declaredPrefix? (attribute_ : String) : Option String :=
  match splitName attribute_ with
  | (none, "xmlns") => some ""
  | (some "xmlns", local_) => some local_
  | _ => none

/-- A declaration is allowed: `xml` keeps its namespace and no other prefix takes it, the namespace
of declarations is not bound, and only the default namespace may be taken back. -/
def declarationOk (label uri : String) : Bool :=
  label != "xmlns" && (label == "xml") == (uri == xmlNamespace) && uri != declarationNamespace &&
    (label == "" || uri != "")

/-- The namespaces that an element's attributes declare. -/
def declarations (attributes : List (String × String)) : Option (List (String × Option String)) :=
  (attributes.filterMap fun (key, uri) => (declaredPrefix? key).map fun p => (p, uri)).mapM
    fun (label, uri) =>
      if declarationOk label uri then some (label, if uri.isEmpty then none else some uri)
      else none

/-- A name with its namespace. -/
structure ResolvedName where
  space : Option String
  bare : String
  deriving DecidableEq

/-- The name written with the short name of its namespace. -/
def ResolvedName.display (short : ShortNames) (n : ResolvedName) : String :=
  match n.space with
  | none => n.bare
  | some uri =>
    match short.lookup uri with
    | none => uri ++ ":" ++ n.bare
    | some none => n.bare
    | some (some label) => if label.isEmpty then n.bare else label ++ ":" ++ n.bare

/-- The name of an element. -/
def resolveElement (scope : Scope) (s : String) : Option ResolvedName :=
  match splitName s with
  | (none, bare) => some ⟨(scope.lookup "").join, bare⟩
  | (some label, bare) => do
    let uri ← (scope.lookup label).join
    some ⟨some uri, bare⟩

/-- The name of an attribute. -/
def resolveAttribute (scope : Scope) (s : String) : Option ResolvedName :=
  match splitName s with
  | (none, bare) => some ⟨none, bare⟩
  | (some label, bare) => do
    let uri ← (scope.lookup label).join
    some ⟨some uri, bare⟩

/-- The attributes of an element that declare nothing, with resolved names. -/
def resolveAttributes (scope : Scope) (attributes : List (String × String)) :
    Option (List (ResolvedName × String)) :=
  (attributes.filter fun (key, _) => (declaredPrefix? key).isNone).mapM fun (key, value) => do
    some (← resolveAttribute scope key, value)

mutual

/-- Resolves the names of an element and of everything in it. -/
def Node.resolve (short : ShortNames) (scope : Scope) : Node → Option Node
  | .text s => some (.text s)
  | .element name attributes _ contents => do
    let declared ← declarations attributes
    let scope := declared.reverse ++ scope
    let name ← resolveElement scope name
    let attributes ← resolveAttributes scope attributes
    if (attributes.map (·.1)).Nodup then
      let contents ← Node.resolveAll short scope contents
      some (.element (name.display short)
        (attributes.map fun (key, value) => (key.display short, value)) declared contents)
    else none

/-- Resolves the names of a list of contents. -/
def Node.resolveAll (short : ShortNames) (scope : Scope) : List Node → Option (List Node)
  | [] => some []
  | n :: ns => do
    let n ← n.resolve short scope
    let ns ← Node.resolveAll short scope ns
    some (n :: ns)

end

end Reckoner.Xml
