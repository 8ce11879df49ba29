import Reckoner.Xml.Declaration

/-!
# The prolog

What may stand before the first element: a declaration of the version, comments, processing
instructions and one document type.  Of all this three things matter later: the declared
attributes, whether the document stands on its own, and whether declarations may lie outside it.
In a document that does not stand on its own, a reference to an unknown name is then skipped.
-/

namespace Reckoner.Xml

/-- What the prolog says about the rest of the document. -/
structure Prolog where
  rules : List AttributeRule
  /-- The document stands on its own. -/
  standalone : Bool
  /-- Declarations may lie outside the document. -/
  hasOutside : Bool

/-- References to unknown names are skipped. -/
def Prolog.lenient (p : Prolog) : Bool := p.hasOutside && !p.standalone

/-! ## The version declaration -/

/-- A character of a value in the version declaration. -/
def isVersionChar (c : Char) : Bool :=
  c.isAlphanum || c == '.' || c == '-' || c == '_'

/-- A name and its value, with spaces before them; no name when only spaces are left. -/
def setting (cs : List Char) : Option (Option (String × List Char) × List Char) :=
  match cs with
  | [] => some (none, [])
  | c :: _ =>
    if !isSpace c then none
    else
      match skipSpace cs with
      | [] => some (none, [])
      | body => do
        let label := body.takeWhile fun c => !(isSpace c || c == '=')
        let rest ← after? "=" (skipSpace (body.drop label.length))
        let (quote, rest) ← openQuote (skipSpace rest)
        let value := rest.takeWhile isVersionChar
        match label, rest.drop value.length with
        | _ :: _, c :: rest =>
          if c = quote then some (some (String.ofList label, value), rest) else none
        | _, _ => none

/-- The end of a version declaration: whether the document stands on its own. -/
def standaloneSetting (found : Option (String × List Char)) (rest : List Char) : Option Bool :=
  match found with
  | none => some false
  | some (label, value) =>
    if label == "standalone" && (skipSpace rest).isEmpty then
      if value == "yes".toList then some true
      else if value == "no".toList then some false
      else none
    else none

/-- Reads what stands between `<?xml` and `?>`: the version, then an encoding, then whether the
document stands on its own. -/
def versionSettings (cs : List Char) : Option Bool := do
  match ← setting cs with
  | (some ("version", _), rest) =>
    match ← setting rest with
    | (some ("encoding", value), rest) =>
      if value.head?.any Char.isAlpha then do
        let (found, rest) ← setting rest
        standaloneSetting found rest
      else none
    | (found, rest) => standaloneSetting found rest
  | _ => none

/-- The version declaration, if the document starts with one. -/
def versionDeclaration (cs : List Char) : Option (Bool × List Char) :=
  match after? "<?xml" cs with
  | none => some (false, cs)
  | some rest =>
    if rest.head?.any fun c => isSpace c || c == '?' then do
      let (body, rest) ← until? ['?', '>'] rest
      let standalone ← versionSettings body
      some (standalone, rest)
    else some (false, cs)

/-! ## The document type -/

/-- The state between two declarations. -/
structure Subset where
  prolog : Prolog
  /-- Declarations count; after a reference to outside declarations they no longer do. -/
  counts : Bool

/-- The attribute rules that are known after the tokens of an attribute list. -/
def attributeList (style : NameStyle) (state : Subset) :
    List DeclToken → Option (List AttributeRule)
  | .name element _ .once :: rest => do
    let refs : References := ⟨style, state.prolog.lenient⟩
    let rules ← attributeRules refs state.counts element (rest.length + 1) rest
    some (if state.counts then rules.foldl AttributeRule.enter state.prolog.rules
      else state.prolog.rules)
  | _ => none

/-- Reads one declaration, from behind its keyword on. -/
def declaration (style : NameStyle) (state : Subset) (keyword : String) (cs : List Char) :
    Except Refusal (Subset × List Char) :=
  if !cs.head?.any isSpace then .error .malformed
  else
    let (tokens, after) := declTokens style (cs.length + 1) cs
    let done (state : Subset) (good : Bool) : Except Refusal (Subset × List Char) :=
      match after with
      | some rest => if good then .ok (state, rest) else .error .malformed
      | none => .error .malformed
    match keyword with
    | "ENTITY" => do
      entityDeclaration style state.counts tokens after.isSome
      done state true
    | "ELEMENT" => done state (elementDeclarationOk tokens)
    | "NOTATION" => done state (notationDeclarationOk tokens)
    | "ATTLIST" =>
      match attributeList style state tokens with
      | some rules => done { state with prolog := { state.prolog with rules } } true
      | none => .error .malformed
    | _ => .error .malformed

/-- Reads the declarations up to the closing bracket. -/
def subset (style : NameStyle) : Nat → Subset → List Char → Except Refusal (Subset × List Char)
  | 0, _, _ => .error .malformed
  | fuel + 1, state, cs =>
    let continueAt (rest : Option (List Char)) : Except Refusal (Subset × List Char) :=
      match rest with
      | some rest => subset style fuel state rest
      | none => .error .malformed
    match skipSpace cs with
    | ']' :: rest => .ok (state, rest)
    | '%' :: rest =>
      match (simpleName style rest).bind fun (_, rest) => after? ";" rest with
      | some rest =>
        let prolog := { state.prolog with hasOutside := true }
        subset style fuel ⟨prolog, state.counts && prolog.standalone⟩ rest
      | none => .error .malformed
    | '<' :: '?' :: rest => continueAt (instruction? style rest)
    | '<' :: '!' :: '-' :: '-' :: rest => continueAt (comment? rest)
    | '<' :: '!' :: rest =>
      let keyword := rest.takeWhile Char.isAlpha
      match declaration style state (String.ofList keyword) (rest.drop keyword.length) with
      | .ok (state, rest) => subset style fuel state rest
      | .error e => .error e
    | _ => .error .malformed

/-- The name and the outside source of a document type: whether there is a source, and what
follows. -/
def documentTypeHead (style : NameStyle) (cs : List Char) : Option (Bool × List Char) := do
  if !(cs.head?.any isSpace) then none
  let (token, rest) ← declToken style (skipSpace cs)
  match token with
  | .name _ _ .once =>
    let rest := skipSpace rest
    if rest.head?.any fun c => c == '[' || c == '>' then some (false, rest)
    else
      let (word, rest) ← declToken style rest
      let (id, rest) ← declToken style (skipSpace rest)
      match externalId [word, id] with
      | some _ => some (true, skipSpace rest)
      | none =>
        let (source, rest) ← declToken style (skipSpace rest)
        match externalId [word, id, source] with
        | some [] => some (true, skipSpace rest)
        | _ => none
  | _ => none

/-- Reads a document type, from behind its keyword on. -/
def documentType (style : NameStyle) (prolog : Prolog) (cs : List Char) :
    Except Refusal (Prolog × List Char) :=
  match documentTypeHead style cs with
  | none => .error .malformed
  | some (outside, rest) =>
    let prolog := { prolog with hasOutside := outside }
    match rest with
    | '>' :: rest => .ok (prolog, rest)
    | '[' :: rest => do
      let (state, rest) ← subset style (rest.length + 1) ⟨prolog, true⟩ rest
      match skipSpace rest with
      | '>' :: rest => .ok (state.prolog, rest)
      | _ => .error .malformed
    | _ => .error .malformed

/-! ## The whole prolog -/

/-- Reads comments, instructions and at most one document type, up to the first element. -/
def beforeElement (style : NameStyle) : Nat → Bool → Prolog → List Char →
    Except Refusal (Prolog × List Char)
  | 0, _, _, _ => .error .malformed
  | fuel + 1, typed, prolog, cs =>
    let continueAt (rest : Option (List Char)) : Except Refusal (Prolog × List Char) :=
      match rest with
      | some rest => beforeElement style fuel typed prolog rest
      | none => .error .malformed
    match skipSpace cs with
    | '<' :: '?' :: rest => continueAt (instruction? style rest)
    | '<' :: '!' :: '-' :: '-' :: rest => continueAt (comment? rest)
    | '<' :: '!' :: rest =>
      match after? "DOCTYPE" rest with
      | some rest =>
        if typed then .error .malformed
        else do
          let (prolog, rest) ← documentType style prolog rest
          beforeElement style fuel true prolog rest
      | none => .error .malformed
    | rest => .ok (prolog, rest)

/-- Reads everything before the first element. -/
def prolog (style : NameStyle) (cs : List Char) : Except Refusal (Prolog × List Char) :=
  match versionDeclaration cs with
  | none => .error .malformed
  | some (standalone, rest) =>
    beforeElement style (rest.length + 1) false ⟨[], standalone, false⟩ rest

end Reckoner.Xml
