import Reckoner.Number.Numeral
import Reckoner.Text.Blank

/-!
# Integers in documents

An integer in a document is written in the digits `0` to `9` with gaps around it.  A sign may lead
it, zeros may lead its other digits, single underscores may part its digits, and a point with
nothing but zeros behind it does not count.  What is left without the plus sign, the leading zeros
and the underscores has a limited size.
-/

namespace Reckoner.Document

/-- The zeros and underscores that may lead a number. -/
def isLeadingZero (c : Char) : Bool := c == '0' || c == '_'

/-- Digits without the zeros that lead them; the last zero stays when nothing but a point or the
end follows. -/
def dropLeadingZeros : List Char → Option (List Char)
  | '0' :: cs =>
    match cs.dropWhile isLeadingZero with
    | [] => some [cs.getLastD '0']
    | '.' :: rest => some ((cs.takeWhile isLeadingZero).getLastD '0' :: '.' :: rest)
    | c :: rest => if '1' ≤ c && c ≤ '9' then some (c :: rest) else none
  | c :: cs => if ('1' ≤ c && c ≤ '9') || c == '-' then some (c :: cs) else none
  | [] => none

/-- Two underscores stand side by side. -/
def hasDoubleUnderscore : List Char → Bool
  | '_' :: '_' :: _ => true
  | _ :: cs => hasDoubleUnderscore cs
  | [] => false

/-- Digits without the underscores that part them; misplaced ones stay. -/
def dropUnderscores (cs : List Char) : List Char :=
  if cs.head? == some '_' || cs.getLast? == some '_' || hasDoubleUnderscore cs then cs
  else cs.filter (· != '_')

/-- The number of a run of digits with an optional minus sign. -/
def signedDigits? (cs : List Char) : Option Int :=
  let (negative, digits) := match cs with
    | '-' :: digits => (true, digits)
    | digits => (false, digits)
  if !digits.isEmpty && digits.all fun c => '0' ≤ c && c ≤ '9' then
    let n : Int := Text.ofAsciiDigits digits
    some (if negative then -n else n)
  else none

/-- Digits before a point that only zeros follow. -/
def beforePoint? (cs : List Char) : Option (List Char) :=
  let whole := cs.takeWhile (· != '.')
  match cs.drop whole.length with
  | '.' :: zeros => if zeros.all (· == '0') then some whole else none
  | _ => none

/-- A number without a leading plus sign, before which no minus sign may stand. -/
def dropPlus : List Char → Option (List Char)
  | '+' :: '-' :: _ => none
  | '+' :: cs => some cs
  | cs => some cs

/-- A number as it is read: without blanks, plus sign, leading zeros and underscores. -/
def bareCount? (s : String) : Option String := do
  let cs ← dropPlus (Text.dropAround Text.isGap s.toList)
  pure (String.ofList (dropUnderscores (← dropLeadingZeros cs)))

/-- The integer that a text in a document denotes.  The size is looked at first, a point and the
zeros behind it included. -/
def readCount (s : String) : Except Numeral.Refusal Int :=
  match bareCount? s with
  | none => .error .malformed
  | some bare =>
    if digitLimit < bare.utf8ByteSize then .error (.tooLong bare.utf8ByteSize)
    else
      match (signedDigits? bare.toList).or ((beforePoint? bare.toList).bind signedDigits?) with
      | some n => .ok n
      | none => .error .malformed

end Reckoner.Document
