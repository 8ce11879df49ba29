import Reckoner.Text.Quoted

/-!
# Days and instants

An instant is counted in seconds from the beginning of 1 January 1970 in Universal Time, a day in
days from that day.  A day has a date in the Gregorian calendar, which is extended to all years.  To
find the date, years are taken to begin in March, so that a leap day is the last day of its year.
-/

namespace Reckoner.Calendar

/-- A day, counted from 1 January 1970. -/
structure Day where
  number : Int
  deriving DecidableEq, Repr

/-- An instant, in seconds from the beginning of 1 January 1970 in Universal Time. -/
structure Instant where
  seconds : Int
  deriving DecidableEq, Repr

/-- A date of the Gregorian calendar. -/
structure Date where
  year : Int
  month : Nat
  day : Nat
  deriving DecidableEq, Repr

/-- The seconds of a day. -/
def secondsPerDay : Int := 86400

/-- The days of four hundred years. -/
def daysPerCycle : Nat := 146097

/-- The days from 1 March of the year 0 to 1 January 1970. -/
def daysBeforeCount : Int := 719468

/-- The days of a year before a month, where month 0 is March. -/
def daysBeforeMonth (month : Nat) : Nat := (153 * month + 2) / 5

/-- The days of a cycle before a year of it. -/
def daysBeforeYear (year : Nat) : Nat := 365 * year + year / 4 - year / 100

/-- The year of a cycle that a day of the cycle lies in. -/
def yearOfCycle (day : Nat) : Nat := (day - day / 1460 + day / 36524 - day / 146096) / 365

/-- The date of a day. -/
def Day.date (d : Day) : Date :=
  let n := d.number + daysBeforeCount
  let ofCycle := (n % daysPerCycle).toNat
  let year := yearOfCycle ofCycle
  let ofYear := ofCycle - daysBeforeYear year
  let month := (5 * ofYear + 2) / 153
  let started : Int := n / daysPerCycle * 400 + year
  { year := if month < 10 then started else started + 1
    month := if month < 10 then month + 3 else month - 9
    day := ofYear - daysBeforeMonth month + 1 }

/-- The day of a date. -/
def Date.toDay (d : Date) : Day :=
  let started : Int := if d.month < 3 then d.year - 1 else d.year
  let month := if d.month < 3 then d.month + 9 else d.month - 3
  let year := (started % 400).toNat
  let ofCycle := daysBeforeYear year + daysBeforeMonth month + (d.day - 1)
  ⟨started / 400 * daysPerCycle + ofCycle - daysBeforeCount⟩

/-- The day some days later. -/
def Day.shift (d : Day) (days : Int) : Day := ⟨d.number + days⟩

/-- The instant some days later, all days taken to be equally long. -/
def Instant.shift (t : Instant) (days : Int) : Instant := ⟨t.seconds + days * secondsPerDay⟩

/-- The day of an instant where clocks are ahead of Universal Time by some seconds. -/
def Instant.dayAhead (t : Instant) (ahead : Int) : Day := ⟨(t.seconds + ahead) / secondsPerDay⟩

/-- The instant some seconds after a day begins in Universal Time. -/
def Day.after (d : Day) (seconds : Int) : Instant := ⟨d.number * secondsPerDay + seconds⟩

/-- A year that dates are written for. -/
def Date.IsWritten (d : Date) : Prop := 1 ≤ d.year ∧ d.year ≤ 9999

instance (d : Date) : Decidable d.IsWritten := inferInstanceAs (Decidable (_ ∧ _))

/-- A number of at least two digits. -/
def twoDigits (n : Nat) : String := String.ofList (Text.paddedDigits 10 2 n)

/-- The year, the month and the day with hyphens between; month and day have two digits. -/
def Date.text (d : Date) : String :=
  toString d.year ++ "-" ++ twoDigits d.month ++ "-" ++ twoDigits d.day

end Reckoner.Calendar
