import Reckoner.Text.Blank

/-!
# Paths

Paths as the user and the settings write them: how two of them join, which folder one lies in, and
what its home sign and its variables stand for.
-/

namespace Reckoner.Path

open Text

/-- A name seen from a folder; a name that begins with a slash stands for itself. -/
def join (folder name : String) : String :=
  if name.startsWith "/" then name
  else if folder.isEmpty || folder.endsWith "/" then folder ++ name
  else folder ++ "/" ++ name

/-- The list up to and with the last slash. -/
def throughSlash (cs : List Char) : List Char := dropTrailing (· != '/') cs

/-- The folder that a path lies in; it is empty for a bare name. -/
def parent (path : String) : String :=
  let folder := throughSlash path.toList
  if folder.all (· == '/') then String.ofList folder
  else String.ofList (dropTrailing (· == '/') folder)

/-! ## What a path stands for -/

/-- A path with the home folder in place of a tilde that is its first part. -/
def expandHome (home : Option String) (path : String) : String :=
  match path.toList, home with
  | '~' :: rest, some folder =>
    if rest.isEmpty || rest.head? == some '/' then
      let whole := dropTrailing (· == '/') folder.toList ++ rest
      if whole.isEmpty then "/" else String.ofList whole
    else path
  | _, _ => path

/-- The character may stand in the name of a variable that is not in braces. -/
def isNameChar (c : Char) : Bool := c.isAlphanum || c == '_'

/-- The name of a variable behind a dollar sign, and what follows it.  The name stands in braces or
is as long as it can be. -/
def variableName? : List Char → Option (List Char × List Char)
  | '\x7b' :: rest =>
    let name := rest.takeWhile (· != '\x7d')
    match rest.drop name.length with
    | [] => none
    | _ :: after => some (name, after)
  | cs =>
    let name := cs.takeWhile isNameChar
    if name.isEmpty then none else some (name, cs.drop name.length)

theorem variableName?_length {cs name after : List Char}
    (h : variableName? cs = some (name, after)) : after.length ≤ cs.length := by
  unfold variableName? at h
  split at h
  · rename_i rest
    dsimp only at h
    split at h
    · cases h
    · rename_i c tail heq
      simp only [Option.some.injEq, Prod.mk.injEq] at h
      have := congrArg List.length heq
      simp only [List.length_drop, List.length_cons] at this
      rw [← h.2, List.length_cons]
      omega
  · dsimp only at h
    split at h
    · cases h
    · simp only [Option.some.injEq, Prod.mk.injEq] at h
      rw [← h.2, List.length_drop]
      omega

/-- A text with the values of its variables in their places.  A variable without value stays as it
is written, and a value is not looked into again. -/
def fillVariables (value? : String → Option String) : List Char → List Char
  | [] => []
  | '$' :: rest =>
    match _h : variableName? rest with
    | none => '$' :: fillVariables value? rest
    | some (name, after) =>
      let written := '$' :: rest.take (rest.length - after.length)
      (((value? (String.ofList name)).map String.toList).getD written) ++ fillVariables value? after
  | c :: rest => c :: fillVariables value? rest
termination_by cs => cs.length
decreasing_by
  · simp
  · have := variableName?_length _h
    simp only [List.length_cons]
    omega
  · simp

/-- What a path stands for where variables have the given values. -/
def expand (value? : String → Option String) (path : String) : String :=
  String.ofList (fillVariables value? (expandHome (value? "HOME") path).toList)

end Reckoner.Path
