import Reckoner.Calendar.Date
import Reckoner.Fault
import Reckoner.Text.Case

/-!
# Time zones

In a zone clocks are ahead of Universal Time, by an amount that depends on the instant.  A host has
its own table of zones.  Two of them are given here: Universal Time itself, and Budapest, whose
clocks are one hour ahead and two hours in summer.  Since 1996 summer lasts from the last Sunday of
March to the last Sunday of October, by common rule of the European countries; the summers before
that are listed.  The rule is taken to hold through 2037, after which clocks stay one hour ahead.
-/

namespace Reckoner.Calendar

/-- A time zone. -/
structure Zone where
  /-- How far clocks are ahead of Universal Time at an instant, in seconds. -/
  ahead : Instant → Int

/-- A table of zones by name. -/
abbrev Zones := String → Option Zone

namespace Zone

/-- Universal Time. -/
def universal : Zone := ⟨fun _ => 0⟩

/-- The summers of Budapest before 1996, each from its beginning to its end in seconds from the
beginning of 1970. -/
def listedSummers : List (Int × Int) :=
  [(-1693706400, -1680483600), (-1663455600, -1650150000), (-1632006000, -1618700400),
    (-1600470000, -1587250800), (-1569711600, -1555196400), (-906775200, -857257200),
    (-844556400, -828226800), (-812502000, -796777200), (-778471200, -762656400),
    (-749689200, -733276800), (-717634800, -701910000), (-686185200, -670460400),
    (-654130800, -639010800), (-492656400, -481168800), (-461199600, -449708400),
    (-428540400, -418258800), (-397090800, -386809200), (323823600, 338943600),
    (354668400, 370393200), (386118000, 401842800), (417567600, 433292400),
    (449024400, 465354000), (481078800, 496803600), (512528400, 528253200),
    (543978000, 559702800), (575427600, 591152400), (606877200, 622602000),
    (638326800, 654656400), (670381200, 686106000), (701830800, 717555600),
    (733280400, 749005200), (764730000, 780454800), (796179600, 811904400)]

/-- The instant at which the table of Budapest begins, 20:45:52 on 13 December 1901; local mean time
is taken to have ended then.  It is the first instant that a signed word of 32 bits counts. -/
def meanTimeEnd : Instant := ⟨-2147483648⟩

/-- How far local mean time was ahead of Universal Time, in seconds to the full minute. -/
def meanTimeAhead : Int := 4560

/-- The last Sunday on or before a day; 1 January 1970 was a Thursday. -/
def sundayUntil (d : Day) : Day := d.shift (-((d.number + 4) % 7))

/-- One o'clock in Universal Time on the last Sunday of a month of 31 days. -/
def lastSundayAtOne (year : Int) (month : Nat) : Instant :=
  (sundayUntil (Date.toDay ⟨year, month, 31⟩)).after 3600

/-- It is summer by the rule in force since 1996. -/
def isSummerByRule (t : Instant) : Bool :=
  let year := (t.dayAhead 0).date.year
  1996 ≤ year && year ≤ 2037 &&
    (lastSundayAtOne year 3).seconds ≤ t.seconds && t.seconds < (lastSundayAtOne year 10).seconds

/-- It is one of the listed summers. -/
def isListedSummer (t : Instant) : Bool :=
  listedSummers.any fun (start, stop) => start ≤ t.seconds && t.seconds < stop

/-- The zone of Budapest. -/
def budapest : Zone where
  ahead t :=
    if t.seconds < meanTimeEnd.seconds then meanTimeAhead
    else if isListedSummer t || isSummerByRule t then 7200
    else 3600

/-- The zones that are given here, by names in any case. -/
def given : Zones := fun name =>
  let key := Text.upper name
  if key = "UTC" then some universal
  else if key = "EUROPE/BUDAPEST" then some budapest
  else none

/-- The day that it is at an instant. -/
def dayAt (zone : Zone) (t : Instant) : Day := t.dayAhead (zone.ahead t)

end Zone

/-- The date some days from an instant in a zone of a table.  The days are taken off the instant
before it is carried over to the zone. -/
def dateText (zones : Zones) (zoneName : String) (now : Instant) (days : Int) :
    Except Fault String :=
  let t := now.shift days
  if (t.dayAhead 0).date.IsWritten then
    match zones zoneName with
    | none => .error (.unknownZone zoneName)
    | some zone =>
      let date := (zone.dayAt t).date
      if date.IsWritten then .ok date.text else .error .dateOutOfRange
  else .error .dateOutOfRange

end Reckoner.Calendar
