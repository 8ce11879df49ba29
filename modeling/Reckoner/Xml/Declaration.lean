import Reckoner.Xml.DeclToken

/-!
# Declarations

The declarations of a document type.  What elements may contain and what notations there are has no
effect, so these are only checked.  Declared attributes give types and default values.  A document
that declares an entity is refused at that place, before anything after it is looked at.
-/

namespace Reckoner.Xml

/-- Why a document is refused. -/
inductive Refusal where
  | malformed
  | entityDeclared
  deriving DecidableEq, Repr

/-- A declared attribute of an element. -/
structure AttributeRule where
  element : String
  key : String
  /-- The value is kept as written; otherwise it is a list of words. -/
  isText : Bool
  default : Option String

/-- Adds a rule, unless the attribute has one already. -/
def AttributeRule.enter (rules : List AttributeRule) (r : AttributeRule) : List AttributeRule :=
  if rules.any fun known => known.element == r.element && known.key == r.key then rules
  else rules ++ [r]

/-- A character of a public identifier. -/
def isPublicChar (c : Char) : Bool :=
  c.isAlphanum || c == ' ' || c == '\n' || "-'()+,./:=?;!*#@$_%".toList.contains c

/-- What stands behind the words SYSTEM or PUBLIC. -/
def externalId : List DeclToken → Option (List DeclToken)
  | .name "SYSTEM" true .once :: .quoted _ :: rest => some rest
  | .name "PUBLIC" true .once :: .quoted id :: .quoted _ :: rest =>
    if id.all isPublicChar then some rest else none
  | _ => none

/-- The value of an entity is well formed: ampersands start references and no per cent sign refers
to another entity. -/
def entityValueOk (style : NameStyle) : Nat → List Char → Bool
  | 0, _ => true
  | _ + 1, [] => true
  | fuel + 1, '&' :: cs =>
    match reference ⟨style, true⟩ cs with
    | some (_, rest) => entityValueOk style fuel rest
    | none => false
  | _ + 1, '%' :: _ => false
  | fuel + 1, _ :: cs => entityValueOk style fuel cs

/-- The rest of an entity declaration behind the entity's name: whether it declares something
before its first fault, and whether it is well formed.  A value is looked at only while
declarations count. -/
def entityBody (style : NameStyle) (counts parameter : Bool) (tokens : List DeclToken)
    (ended : Bool) : Bool × Bool :=
  match tokens with
  | .quoted value :: rest =>
    (true, rest.isEmpty && ended && (!counts || entityValueOk style (value.length + 1) value))
  | _ =>
    match externalId tokens with
    | some [] => (ended, ended)
    | some (.name "NDATA" true .once :: .name _ true .once :: rest) =>
      (!parameter, !parameter && rest.isEmpty && ended)
    | _ => (false, false)

/-- Reads an entity declaration.  The five predefined names may be declared; while declarations
still count, any other name refuses the document. -/
def entityDeclaration (style : NameStyle) (counts : Bool) (tokens : List DeclToken)
    (ended : Bool) : Except Refusal Unit :=
  let finish (known : Bool) (body : Bool × Bool) : Except Refusal Unit :=
    if body.1 && counts && !known then .error .entityDeclared
    else if body.2 then .ok () else .error .malformed
  match tokens with
  | .percent :: .name _ true .once :: rest => finish false (entityBody style counts true rest ended)
  | .name s true .once :: rest =>
    finish ((predefined.lookup s).isSome) (entityBody style counts false rest ended)
  | _ => .error .malformed

/-- The rest of a content model: `groups` holds the connector of each open group, innermost first.
The flag tells that a part is due. -/
def contentModel : List (Option Bool) → Bool → List DeclToken → Bool
  | [], _, rest => rest.isEmpty
  | groups, true, .parenOpen :: rest => contentModel (none :: groups) true rest
  | groups, true, .name .. :: rest => contentModel groups false rest
  | _ :: groups, false, .parenClose _ :: rest => contentModel groups false rest
  | group :: groups, false, .bar :: rest =>
    group != some false && contentModel (some true :: groups) true rest
  | group :: groups, false, .comma :: rest =>
    group != some true && contentModel (some false :: groups) true rest
  | _, _, _ => false

/-- The rest of a mixed content model behind its first keyword; the flag tells that names are
listed. -/
def mixedModel : Bool → List DeclToken → Bool
  | false, [.parenClose .once] => true
  | _, [.parenClose .starred] => true
  | _, .bar :: .name _ _ .once :: rest => mixedModel true rest
  | _, _ => false

/-- An element declaration is well formed. -/
def elementDeclarationOk : List DeclToken → Bool
  | [.name _ _ .once, .name "EMPTY" true .once] => true
  | [.name _ _ .once, .name "ANY" true .once] => true
  | .name _ _ .once :: .parenOpen :: .keyword "PCDATA" :: rest => mixedModel false rest
  | .name _ _ .once :: .parenOpen :: rest => contentModel [none] true rest
  | _ => false

/-- A notation declaration is well formed. -/
def notationDeclarationOk : List DeclToken → Bool
  | .name _ true .once :: .name "PUBLIC" true .once :: [.quoted id] => id.all isPublicChar
  | .name _ true .once :: rest => (externalId rest).any List.isEmpty
  | _ => false

/-- The words of a list in parentheses, and what follows it. -/
def choices (word : DeclToken → Bool) : List DeclToken → Option (List DeclToken)
  | t :: .bar :: rest => if word t then choices word rest else none
  | t :: .parenClose .once :: rest => if word t then some rest else none
  | _ => none

/-- The type of an attribute: whether its value is kept as written, and what follows. -/
def attributeType : List DeclToken → Option (Bool × List DeclToken)
  | .name "CDATA" true .once :: rest => some (true, rest)
  | .name "NOTATION" true .once :: .parenOpen :: rest => do
    let rest ← choices (fun | .name _ true .once => true | _ => false) rest
    some (false, rest)
  | .name s true .once :: rest =>
    if ["ID", "IDREF", "IDREFS", "ENTITY", "ENTITIES", "NMTOKEN", "NMTOKENS"].contains s then
      some (false, rest)
    else none
  | .parenOpen :: rest => do
    let rest ← choices (fun | .name _ _ .once => true | .word _ => true | _ => false) rest
    some (false, rest)
  | _ => none

/-- A value as a list of words with single spaces between them. -/
def asWords (value : String) : String :=
  " ".intercalate ((value.splitOn " ").filter fun word => !word.isEmpty)

/-- The value of an attribute of a given type. -/
def typedValue (isText : Bool) (value : List Char) : String :=
  if isText then String.ofList value else asWords (String.ofList value)

/-- The default of an attribute: its written value, if it has one, and what follows. -/
def attributeDefault : List DeclToken → Option (Option (List Char) × List DeclToken)
  | .keyword "IMPLIED" :: rest => some (none, rest)
  | .keyword "REQUIRED" :: rest => some (none, rest)
  | .keyword "FIXED" :: .quoted value :: rest => some (some value, rest)
  | .quoted value :: rest => some (some value, rest)
  | _ => none

/-- The attributes that a declaration lists for an element.  A default value is looked at only while
declarations count. -/
def attributeRules (refs : References) (counts : Bool) (element : String) :
    Nat → List DeclToken → Option (List AttributeRule)
  | _, [] => some []
  | fuel + 1, .name key _ .once :: rest => do
    let (isText, rest) ← attributeType rest
    let (written, rest) ← attributeDefault rest
    let default ← match written, counts with
      | some written, true =>
        (attributeValue refs written).map fun v => some (typedValue isText v)
      | _, _ => some none
    let rules ← attributeRules refs counts element fuel rest
    some (⟨element, key, isText, default⟩ :: rules)
  | _, _ => none

end Reckoner.Xml
