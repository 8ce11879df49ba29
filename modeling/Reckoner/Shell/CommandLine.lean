import Reckoner.Text.DecimalDigit

/-!
# The command line

The words of the command line are options and parts of an expression.  A word that begins with a
hyphen is an option, unless it looks like a negative number or holds a space; a long option may be
cut short as long as it stays unique, and its argument may be attached with an equals sign.  After
two hyphens alone, all words are parts of the expression.  The parts of the expression have to stand
together.
-/

namespace Reckoner

/-- What the command line asks for. -/
structure CommandLine where
  /-- The parts of the expression. -/
  expression : List String
  /-- The settings file. -/
  config : Option String
  /-- Settings of the form `name=value`. -/
  assignments : List String
  /-- No rates are to be loaded. -/
  offline : Bool
  debug : Bool
  deriving DecidableEq, Repr

namespace CommandLine

/-- Nothing is asked for. -/
def empty : CommandLine := ⟨[], none, [], false, false⟩

/-- The exit code after help was asked for. -/
def helpCode : Nat := 0

/-- The exit code of a command line that is refused. -/
def refusalCode : Nat := 2

/-- An option. -/
inductive Switch where
  | help
  | config
  | set
  | offline
  | debug
  deriving DecidableEq, Repr

/-- The long names of the options. -/
def longNames : List (String × Switch) :=
  [("--help", .help), ("--config", .config), ("--set", .set), ("--offline", .offline),
    ("--debug", .debug)]

/-! ## Words -/

/-- A word of the command line. -/
inductive Word where
  /-- A part of the expression, or the argument of an option. -/
  | plain (text : String)
  /-- Two hyphens alone. -/
  | divider
  /-- An option, with its argument if one is attached. -/
  | switch (name : Switch) (attached : Option String)
  /-- The short name of the help option, with what follows it in the word. -/
  | shortHelp (tail : List Char)
  /-- An option that there is not. -/
  | unknown
  deriving DecidableEq, Repr

/-- A word parted at its first equals sign. -/
def splitAtEquals (cs : List Char) : String × Option String :=
  let name := cs.takeWhile (· != '=')
  match cs.drop name.length with
  | [] => (String.ofList name, none)
  | _ :: value => (String.ofList name, some (String.ofList value))

/-- Digits alone, and at least one. -/
def isDigits (cs : List Char) : Bool := !cs.isEmpty && cs.all Text.isDecimalDigit

/-- The word looks like a negative number: digits, or digits after a point that others may precede.
A line feed may end it. -/
def isNegativeNumber : List Char → Bool
  | '-' :: rest =>
    let cs := if rest.getLast? == some '\n' then rest.dropLast else rest
    let whole := cs.takeWhile (· != '.')
    match cs.drop whole.length with
    | [] => isDigits whole
    | _ :: fraction => whole.all Text.isDecimalDigit && isDigits fraction
  | _ => false

/-- A word that begins with a hyphen but is no option. -/
def notOption (cs : List Char) : Word :=
  if isNegativeNumber cs || cs.contains ' ' then .plain (String.ofList cs) else .unknown

/-- A word that begins with two hyphens: an option whose long name begins so.  A word that could be
several options is refused. -/
def longWord (cs : List Char) : Except Nat Word :=
  let (name, attached) := splitAtEquals cs
  match longNames.lookup (String.ofList cs), longNames.lookup name with
  | some switch, _ => .ok (.switch switch none)
  | none, some switch => .ok (.switch switch attached)
  | none, none =>
    match longNames.filter fun (long, _) => long.startsWith name with
    | [] => .ok (notOption cs)
    | [(_, switch)] => .ok (.switch switch attached)
    | _ => .error refusalCode

/-- A word that stands before any divider. -/
def word (text : String) : Except Nat Word :=
  match text.toList with
  | ['-'] => .ok (.plain text)
  | '-' :: '-' :: rest => longWord ('-' :: '-' :: rest)
  | '-' :: 'h' :: tail => .ok (.shortHelp tail)
  | '-' :: rest => .ok (notOption ('-' :: rest))
  | _ => .ok (.plain text)

/-- The words of a command line. -/
def words : List String → Except Nat (List Word)
  | [] => .ok []
  | "--" :: rest => .ok (.divider :: rest.map .plain)
  | text :: rest => do
    let first ← word text
    pure (first :: (← words rest))

/-! ## Taking the words in -/

/-- A command line read up to some word. -/
structure Draft where
  line : CommandLine
  /-- The parts of the expression have been found. -/
  complete : Bool
  /-- A word was of no use; the command line will be refused once all of it has been read. -/
  surplus : Bool

/-- Help is the last option in what follows its short name: only further short names of it may
follow, none of which may have an argument, and then anything that begins with no hyphen. -/
def isHelpTail : List Char → Bool
  | [] => true
  | '=' :: _ => false
  | '-' :: _ => false
  | 'h' :: rest => isHelpTail rest
  | _ => true

/-- The text of a word that may be a part of the expression. -/
def Word.text? : Word → Option String
  | .plain text => some text
  | .divider => some "--"
  | _ => none

/-- Takes in words that stand together and are no options. -/
def takeRun (d : Draft) (run : List Word) : Draft :=
  if run.isEmpty then d
  else if d.complete then { d with surplus := true }
  else
    let parts := (run.filter (· != .divider)).filterMap Word.text?
    { d with line := { d.line with expression := parts }, complete := true }

/-- Takes in an option with its argument. -/
def takeArgument (d : Draft) (switch : Switch) (argument : String) : Except Nat Draft :=
  match switch with
  | .config => .ok { d with line := { d.line with config := some argument } }
  | .set =>
    .ok { d with line := { d.line with assignments := d.line.assignments ++ [argument] } }
  | _ => .error refusalCode

/-- The option takes an argument. -/
def Switch.hasArgument : Switch → Bool
  | .config | .set => true
  | _ => false

/-- Takes in an option that has no argument. -/
def takeBare (d : Draft) (switch : Switch) : Except Nat Draft :=
  match switch with
  | .help => .error helpCode
  | .offline => .ok { d with line := { d.line with offline := true } }
  | .debug => .ok { d with line := { d.line with debug := true } }
  | _ => .error refusalCode

/-- Takes in all words; `run` holds the words before them that stand together and are no options,
latest first. -/
def takeAll (d : Draft) (run : List Word) : List Word → Except Nat Draft
  | [] => .ok (takeRun d run.reverse)
  | .plain text :: rest => takeAll d (.plain text :: run) rest
  | .divider :: rest => takeAll d (.divider :: run) rest
  | .unknown :: rest => takeAll { takeRun d run.reverse with surplus := true } [] rest
  | .shortHelp tail :: _ => .error (if isHelpTail tail then helpCode else refusalCode)
  | .switch switch (some argument) :: rest => do
    takeAll (← takeArgument (takeRun d run.reverse) switch argument) [] rest
  | .switch switch none :: rest =>
    if switch.hasArgument then
      match rest with
      | .plain argument :: rest => do
        takeAll (← takeArgument (takeRun d run.reverse) switch argument) [] rest
      | _ => .error refusalCode
    else do takeAll (← takeBare (takeRun d run.reverse) switch) [] rest

/-- What a command line asks for, or the exit code with which the program ends at once. -/
def read (arguments : List String) : Except Nat CommandLine := do
  let d ← takeAll ⟨.empty, false, false⟩ [] (← words arguments)
  if d.surplus then .error refusalCode else pure d.line

end CommandLine

end Reckoner
