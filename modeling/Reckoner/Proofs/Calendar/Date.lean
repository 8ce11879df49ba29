import Mathlib.Order.Monotone.Basic
import Mathlib.Tactic.IntervalCases
import Reckoner.Calendar.Date
import Reckoner.Proofs.Text.Figure

/-!
# The dates of days

Days are found by years that begin in March: a day is named by such a year and by the days of the
year before it (`Day.ofMarch`).  Every day has one such name (`Day.exists_ofMarch`), and both its
date and the day of that date can be read off it.  So the date of a day gives back the day
(`Day.toDay_date`), and the date of the next day is the next one of the Gregorian calendar
(`Day.date_shift_one`), with its months and its leap years.  Years follow each other in the order of
their days (`Day.le_year_date_iff`), and different days have different dates in writing
(`Day.text_date_inj`).
-/

namespace Reckoner.Calendar

/-! ## Days away -/

@[simp] theorem Day.shift_zero (d : Day) : d.shift 0 = d := by
  simp only [shift, Int.add_zero]

theorem Day.shift_shift (d : Day) (m n : Int) : (d.shift m).shift n = d.shift (m + n) := by
  simp only [shift, Int.add_assoc]

@[simp] theorem Day.shift_inj {d : Day} {m n : Int} : d.shift m = d.shift n ↔ m = n := by
  simp only [shift, Day.mk.injEq]
  omega

/-! ## Leap years -/

/-- The year has a leap day: every fourth year does, but of the full centuries only every fourth. -/
def IsLeap (year : Int) : Prop := year % 4 = 0 ∧ (year % 100 = 0 → year % 400 = 0)

instance (year : Int) : Decidable (IsLeap year) := inferInstanceAs (Decidable (_ ∧ _))

theorem isLeap_add_cycles (year cycles : Int) : IsLeap (year + cycles * 400) ↔ IsLeap year := by
  simp only [IsLeap]
  omega

/-- The days of the year that begins in March of a year. -/
def daysFromMarch (started : Int) : Nat := if IsLeap (started + 1) then 366 else 365

theorem daysFromMarch_cases (started : Int) :
    daysFromMarch started = 366 ∧ IsLeap (started + 1) ∨
      daysFromMarch started = 365 ∧ ¬IsLeap (started + 1) := by
  unfold daysFromMarch
  split
  next h => exact .inl ⟨rfl, h⟩
  next h => exact .inr ⟨rfl, h⟩

/-! ## The years of a cycle -/

theorem daysBeforeYear_succ {year : Nat} (h : year < 399) :
    daysBeforeYear (year + 1) = daysBeforeYear year + daysFromMarch year := by
  have hlength := daysFromMarch_cases year
  simp only [IsLeap] at hlength
  simp only [daysBeforeYear]
  omega

theorem daysBeforeYear_last : daysBeforeYear 399 + daysFromMarch 399 = daysPerCycle := by decide

theorem daysBeforeYear_mono : Monotone daysBeforeYear := by
  refine monotone_nat_of_le_succ fun year => ?_
  simp only [daysBeforeYear]
  omega

/-- A year has ended when a later one begins. -/
theorem daysBeforeYear_add_le {year later : Nat} (h : year < later) (hlater : later < 400) :
    daysBeforeYear year + daysFromMarch year ≤ daysBeforeYear later := by
  rw [← daysBeforeYear_succ (by omega)]
  exact daysBeforeYear_mono h

/-- A year has ended when the cycle ends. -/
theorem daysBeforeYear_add_le_cycle {year : Nat} (h : year < 400) :
    daysBeforeYear year + daysFromMarch year ≤ daysPerCycle := by
  rcases Nat.lt_succ_iff_lt_or_eq.1 h with h | rfl
  · exact (daysBeforeYear_add_le h (by omega)).trans (Nat.le.intro daysBeforeYear_last)
  · exact daysBeforeYear_last.le

/-- A day of a cycle, by the centuries, the groups of four years and the years before it.  Only the
year that ends a group has a leap day, and of the years that end a century only the last. -/
structure CycleDay where
  centuries : Nat
  groups : Nat
  years : Nat
  days : Nat
  centuries_le : centuries ≤ 3
  groups_le : groups ≤ 24
  years_le : years ≤ 3
  days_le : days < 365 ∨ days = 365 ∧ years = 3 ∧ (groups < 24 ∨ centuries = 3)

namespace CycleDay

/-- The day of the cycle. -/
def number (d : CycleDay) : Nat := 36524 * d.centuries + 1461 * d.groups + 365 * d.years + d.days

/-- The year of the cycle. -/
def year (d : CycleDay) : Nat := 100 * d.centuries + 4 * d.groups + d.years

theorem exists_number {n : Nat} (h : n < daysPerCycle) : ∃ d : CycleDay, d.number = n := by
  let centuries := min (n / 36524) 3
  let groups := (n - 36524 * centuries) / 1461
  let years := min ((n - 36524 * centuries - 1461 * groups) / 365) 3
  simp only [daysPerCycle] at h
  exact ⟨⟨centuries, groups, years, n - 36524 * centuries - 1461 * groups - 365 * years,
    by omega, by omega, by omega, by omega⟩, by simp only [number]; omega⟩

theorem yearOfCycle_number (d : CycleDay) : yearOfCycle d.number = d.year := by
  obtain ⟨centuries, groups, years, days, hcenturies, hgroups, hyears, hdays⟩ := d
  simp only [number, year]
  generalize hn : 36524 * centuries + 1461 * groups + 365 * years + days = n
  have hcentury : n / 36524 = centuries ∧ n / 146096 = 0 ∨ n = 146096 := by omega
  have hgroup : n / 1460 = 25 * centuries + groups ∨ n / 1460 = 25 * centuries + groups + 1 := by
    omega
  simp only [yearOfCycle]
  omega

theorem daysBeforeYear_year (d : CycleDay) : daysBeforeYear d.year + d.days = d.number := by
  obtain ⟨centuries, groups, years, days, hcenturies, hgroups, hyears, hdays⟩ := d
  simp only [number, year, daysBeforeYear]
  omega

theorem year_lt (d : CycleDay) : d.year < 400 := by
  obtain ⟨centuries, groups, years, days, hcenturies, hgroups, hyears, hdays⟩ := d
  simp only [year]
  omega

theorem days_lt (d : CycleDay) : d.days < daysFromMarch d.year := by
  obtain ⟨centuries, groups, years, days, hcenturies, hgroups, hyears, hdays⟩ := d
  have hlength := daysFromMarch_cases (100 * centuries + 4 * groups + years : Nat)
  simp only [IsLeap] at hlength
  simp only [year]
  omega

end CycleDay

theorem yearOfCycle_eq {year days : Nat} (hyear : year < 400) (hdays : days < daysFromMarch year) :
    yearOfCycle (daysBeforeYear year + days) = year := by
  have hcycle := daysBeforeYear_add_le_cycle hyear
  obtain ⟨d, hd⟩ := CycleDay.exists_number (n := daysBeforeYear year + days) (by omega)
  have hplace := d.daysBeforeYear_year
  have hdays' := d.days_lt
  rw [← hd, d.yearOfCycle_number]
  rcases Nat.lt_trichotomy d.year year with h | h | h
  · have := daysBeforeYear_add_le h hyear
    omega
  · exact h
  · have := daysBeforeYear_add_le h d.year_lt
    omega

/-! ## Years that begin in March -/

/-- The day some days after the first of March of a year. -/
def Day.ofMarch (started : Int) (days : Nat) : Day :=
  ⟨started / 400 * daysPerCycle + daysBeforeYear (started % 400).toNat + days - daysBeforeCount⟩

/-- The date of that day. -/
def Date.ofMarch (started : Int) (days : Nat) : Date :=
  let month := (5 * days + 2) / 153
  { year := if month < 10 then started else started + 1
    month := if month < 10 then month + 3 else month - 9
    day := days - daysBeforeMonth month + 1 }

theorem daysFromMarch_emod (started : Int) :
    daysFromMarch (started % 400).toNat = daysFromMarch started := by
  have h : ((started % 400).toNat : Int) + 1 + started / 400 * 400 = started + 1 := by omega
  simp only [daysFromMarch, ← h, isLeap_add_cycles]

theorem Day.exists_ofMarch (d : Day) :
    ∃ started days, days < daysFromMarch started ∧ ofMarch started days = d := by
  let n := d.number + daysBeforeCount
  have hcycle : (n % daysPerCycle).toNat < daysPerCycle := by
    simp only [daysPerCycle]
    omega
  obtain ⟨c, hc⟩ := CycleDay.exists_number hcycle
  have hyear := c.year_lt
  have hstarted : ((n / daysPerCycle * 400 + c.year) % 400).toNat = c.year := by omega
  refine ⟨n / daysPerCycle * 400 + c.year, c.days, ?_, ?_⟩
  · rw [← daysFromMarch_emod, hstarted]
    exact c.days_lt
  · have hplace := c.daysBeforeYear_year
    obtain ⟨number⟩ := d
    simp only [ofMarch, hstarted, Day.mk.injEq]
    simp only [n, daysPerCycle] at *
    omega

theorem Day.date_ofMarch {started : Int} {days : Nat} (h : days < daysFromMarch started) :
    (ofMarch started days).date = Date.ofMarch started days := by
  rw [← daysFromMarch_emod] at h
  have hlt : (started % 400).toNat < 400 := by omega
  have hcycle := daysBeforeYear_add_le_cycle hlt
  have hyear := yearOfCycle_eq hlt h
  generalize hwhole : daysBeforeYear (started % 400).toNat + days = n at hyear
  have hn : (ofMarch started days).number + daysBeforeCount = started / 400 * daysPerCycle + n := by
    simp only [ofMarch]
    omega
  have hmod : ((started / 400 * daysPerCycle + n : Int) % daysPerCycle).toNat = n := by
    simp only [daysPerCycle] at *
    omega
  have hdiv : (started / 400 * daysPerCycle + n : Int) / daysPerCycle = started / 400 := by
    simp only [daysPerCycle] at *
    omega
  have hstarted : started / 400 * 400 + ((started % 400).toNat : Int) = started := by omega
  have hdays : n - daysBeforeYear (started % 400).toNat = days := by omega
  simp only [date, hn, hmod, hdiv, hyear, hstarted, hdays, Date.ofMarch]

theorem Date.toDay_ofMarch (started : Int) {days : Nat} (h : days < 366) :
    (ofMarch started days).toDay = Day.ofMarch started days := by
  generalize hmonth : (5 * days + 2) / 153 = month
  have hstart : daysBeforeMonth month ≤ days := by
    simp only [daysBeforeMonth]
    omega
  by_cases hspring : month < 10
  · have hlate : ¬month + 3 < 3 := by omega
    simp only [ofMarch, hmonth, toDay, hspring, if_true, hlate, if_false, Day.ofMarch,
      Nat.add_sub_cancel, Day.mk.injEq]
    omega
  · have hearly : month - 9 < 3 := by omega
    have hback : month - 9 + 9 = month := by omega
    simp only [ofMarch, hmonth, toDay, hspring, if_false, hearly, if_true, Day.ofMarch,
      Nat.add_sub_cancel, Int.add_sub_cancel, hback, Day.mk.injEq]
    omega

/-- The date of a day is the date of no other day. -/
theorem Day.toDay_date (d : Day) : d.date.toDay = d := by
  obtain ⟨started, days, h, rfl⟩ := d.exists_ofMarch
  have := daysFromMarch_cases started
  rw [date_ofMarch h, Date.toDay_ofMarch started (by omega)]

/-! ## The next date -/

/-- The days of a month. -/
def daysOfMonth (year : Int) (month : Nat) : Nat :=
  if month = 2 then (if IsLeap year then 29 else 28)
  else if month ∈ [4, 6, 9, 11] then 30
  else 31

/-- The next date of the calendar. -/
def Date.next (d : Date) : Date :=
  if d.day < daysOfMonth d.year d.month then ⟨d.year, d.month, d.day + 1⟩
  else if d.month < 12 then ⟨d.year, d.month + 1, 1⟩
  else ⟨d.year + 1, 1, 1⟩

theorem Day.ofMarch_shift_one (started : Int) (days : Nat) :
    (ofMarch started days).shift 1 = ofMarch started (days + 1) := by
  simp only [ofMarch, shift, Day.mk.injEq]
  omega

/-- After the last day of a year comes the first of the next one. -/
theorem Day.ofMarch_daysFromMarch (started : Int) :
    ofMarch started (daysFromMarch started) = ofMarch (started + 1) 0 := by
  have hlength := daysFromMarch_emod started
  simp only [ofMarch, Day.mk.injEq, ← hlength]
  rcases Nat.lt_or_ge (started % 400).toNat 399 with h | h
  · have hcycle : (started + 1) / 400 = started / 400 := by omega
    have hyear : ((started + 1) % 400).toNat = (started % 400).toNat + 1 := by omega
    rw [hcycle, hyear, daysBeforeYear_succ h]
    omega
  · have hcycle : (started + 1) / 400 = started / 400 + 1 := by omega
    have hyear : ((started + 1) % 400).toNat = 0 := by omega
    have hlast : (started % 400).toNat = 399 := by omega
    have hwhole := daysBeforeYear_last
    have hnone : daysBeforeYear 0 = 0 := rfl
    rw [hcycle, hyear, hlast, hnone]
    simp only [daysPerCycle, Nat.cast_ofNat] at *
    omega

/-- A month lasts until the next one begins, or until the end of the year. -/
theorem daysOfMonth_ofMarch {started : Int} {days month : Nat}
    (hmonth : (5 * days + 2) / 153 = month) (h : days < daysFromMarch started) :
    daysOfMonth (Date.ofMarch started days).year (Date.ofMarch started days).month =
      min (daysBeforeMonth (month + 1)) (daysFromMarch started) - daysBeforeMonth month := by
  have hlength := daysFromMarch_cases started
  simp only [Date.ofMarch, hmonth]
  rcases Nat.lt_or_ge month 11 with hlt | hge
  · have hmin : min (daysBeforeMonth (month + 1)) (daysFromMarch started) =
        daysBeforeMonth (month + 1) := by
      simp only [daysBeforeMonth]
      omega
    rw [hmin]
    interval_cases month <;> rfl
  · obtain rfl : month = 11 := by omega
    rcases hlength with ⟨hdays, hleap⟩ | ⟨hdays, hleap⟩ <;>
      simp [daysOfMonth, daysBeforeMonth, hdays, hleap]

theorem Date.next_ofMarch {started : Int} {days : Nat} (h : days + 1 < daysFromMarch started) :
    (ofMarch started days).next = ofMarch started (days + 1) := by
  generalize hmonth : (5 * days + 2) / 153 = month
  have hlength := daysFromMarch_cases started
  rw [next, daysOfMonth_ofMarch hmonth (Nat.lt_of_succ_lt h)]
  simp only [ofMarch, hmonth, daysBeforeMonth]
  rcases Nat.lt_or_ge (days + 1) ((153 * (month + 1) + 2) / 5) with hlt | hge
  · -- the month goes on
    have hsame : (5 * (days + 1) + 2) / 153 = month := by omega
    rw [if_pos (by omega), hsame]
    congr 1
    omega
  · -- the next month begins
    have hnext : (5 * (days + 1) + 2) / 153 = month + 1 := by omega
    have hlast : month < 11 := by omega
    have hfirst : days + 1 = (153 * (month + 1) + 2) / 5 := by omega
    rw [if_neg (by omega), hnext, ← hfirst, Nat.sub_self]
    grind

theorem Date.next_ofMarch_last {started : Int} {days : Nat} (h : days + 1 = daysFromMarch started) :
    (ofMarch started days).next = ofMarch (started + 1) 0 := by
  have hlength := daysFromMarch_cases started
  generalize hmonth : (5 * days + 2) / 153 = month
  rw [next, daysOfMonth_ofMarch hmonth (by omega)]
  simp only [ofMarch, hmonth, daysBeforeMonth]
  obtain rfl : month = 11 := by omega
  rw [if_neg (by omega)]
  rfl

/-- The date of the next day is the next date of the calendar. -/
theorem Day.date_shift_one (d : Day) : (d.shift 1).date = d.date.next := by
  obtain ⟨started, days, h, rfl⟩ := d.exists_ofMarch
  rw [ofMarch_shift_one, date_ofMarch h]
  rcases Nat.lt_or_ge (days + 1) (daysFromMarch started) with hlt | hge
  · rw [date_ofMarch hlt, Date.next_ofMarch hlt]
  · have heq : days + 1 = daysFromMarch started := by omega
    have := daysFromMarch_cases (started + 1)
    rw [heq, ofMarch_daysFromMarch, date_ofMarch (by omega), Date.next_ofMarch_last heq]

/-! ## The years of days -/

theorem Day.ofMarch_number (started : Int) (days : Nat) :
    (ofMarch started days).number = (ofMarch started 0).number + days := by
  simp only [ofMarch]
  omega

theorem Day.ofMarch_le {started later : Int} (h : started ≤ later) :
    (ofMarch started 0).number ≤ (ofMarch later 0).number := by
  induction later, h using Int.leInduction with
  | base => exact Int.le_refl _
  | succ later _ ih =>
    rw [← ofMarch_daysFromMarch, ofMarch_number later (daysFromMarch later)]
    omega

/-- A year has ended when a later one begins. -/
theorem Day.ofMarch_lt {started later : Int} {days : Nat} (h : days < daysFromMarch started)
    (hlater : started < later) : (ofMarch started days).number < (ofMarch later 0).number := by
  have hbegun := ofMarch_le (Int.add_one_le_of_lt hlater)
  rw [← ofMarch_daysFromMarch, ofMarch_number started (daysFromMarch started)] at hbegun
  rw [ofMarch_number]
  omega

/-- The first of January of a year. -/
def Day.newYear (year : Int) : Day := ofMarch (year - 1) 306

theorem Day.newYear_number (year : Int) :
    (newYear year).number = (ofMarch (year - 1) 0).number + 306 := ofMarch_number (year - 1) 306

theorem Day.newYear_le {year later : Int} (h : year ≤ later) :
    (newYear year).number ≤ (newYear later).number := by
  have hbegun := ofMarch_le (Int.sub_le_sub_right h 1)
  rw [newYear_number, newYear_number]
  omega

/-- The first of March comes after the first of January. -/
theorem Day.newYear_lt_ofMarch (year : Int) : (newYear year).number < (ofMarch year 0).number := by
  have hlength := daysFromMarch_cases (year - 1)
  exact ofMarch_lt (by omega) (by omega)

/-- The years begin on their first of January. -/
theorem Day.le_year_date_iff (d : Day) (year : Int) :
    year ≤ d.date.year ↔ (newYear year).number ≤ d.number := by
  obtain ⟨started, days, h, rfl⟩ := d.exists_ofMarch
  have hyear : (Date.ofMarch started days).year = if days < 306 then started else started + 1 := by
    simp only [Date.ofMarch]
    split <;> split <;> omega
  have hlength := daysFromMarch_cases (year - 1)
  have hnew := ofMarch_number (year - 1) 306
  rw [date_ofMarch h, hyear, newYear]
  rcases lt_trichotomy started (year - 1) with hlt | rfl | hgt
  · have := ofMarch_lt h hlt
    split <;> omega
  · have := ofMarch_number (year - 1) days
    split <;> omega
  · have hlong : 306 < daysFromMarch (year - 1) := by omega
    have hpast := ofMarch_lt hlong hgt
    have := ofMarch_number started days
    split <;> omega

/-- The first day that dates are written for. -/
def Day.firstWritten : Day := newYear 1

/-- The last day that dates are written for. -/
def Day.lastWritten : Day := (newYear 10000).shift (-1)

example : Day.firstWritten.date = ⟨1, 1, 1⟩ ∧ Day.lastWritten.date = ⟨9999, 12, 31⟩ := by decide

theorem Day.isWritten_date_iff (d : Day) :
    d.date.IsWritten ↔ firstWritten.number ≤ d.number ∧ d.number ≤ lastWritten.number := by
  have hfirst := d.le_year_date_iff 1
  have hlast := d.le_year_date_iff 10000
  simp only [Date.IsWritten, firstWritten, lastWritten, shift]
  omega

/-! ## The texts of dates -/

theorem Day.month_date_le (d : Day) : d.date.month ≤ 12 := by
  obtain ⟨started, days, h, rfl⟩ := d.exists_ofMarch
  have hlength := daysFromMarch_cases started
  rw [date_ofMarch h]
  simp only [Date.ofMarch]
  split <;> omega

theorem Day.day_date_le (d : Day) : d.date.day ≤ 31 := by
  obtain ⟨started, days, h, rfl⟩ := d.exists_ofMarch
  rw [date_ofMarch h]
  simp only [Date.ofMarch, daysBeforeMonth]
  omega

/-- Days and months are written with two digits. -/
theorem length_twoDigits : ∀ n < 100, (twoDigits n).toList.length = 2 := by decide

theorem twoDigits_inj {m n : Nat} (hm : m < 100) (hn : n < 100) (h : twoDigits m = twoDigits n) :
    m = n := by
  have hvalue : ∀ n < 100, Nat.ofDigitChars 10 (twoDigits n).toList 0 = n := by decide
  rw [← hvalue m hm, h, hvalue n hn]

theorem Date.text_inj {d e : Date} (hd : d.month < 100 ∧ d.day < 100)
    (he : e.month < 100 ∧ e.day < 100) (h : d.text = e.text) : d = e := by
  have hlist := congrArg String.toList h
  simp only [text, String.toList_append] at hlist
  obtain ⟨hfront, hday⟩ := List.append_inj' hlist
    ((length_twoDigits _ hd.2).trans (length_twoDigits _ he.2).symm)
  obtain ⟨hyear, hmonth⟩ := List.append_inj' (List.append_cancel_right hfront)
    ((length_twoDigits _ hd.1).trans (length_twoDigits _ he.1).symm)
  have hfigure := congrArg figureValue (List.append_cancel_right hyear)
  rw [figureValue_toString, figureValue_toString] at hfigure
  obtain ⟨year, month, day⟩ := d
  rw [Date.mk.injEq]
  exact ⟨hfigure, twoDigits_inj hd.1 he.1 (String.toList_inj.1 hmonth),
    twoDigits_inj hd.2 he.2 (String.toList_inj.1 hday)⟩

/-- Different days have different dates in writing. -/
theorem Day.text_date_inj {d e : Day} : d.date.text = e.date.text ↔ d = e := by
  refine ⟨fun h => ?_, fun h => h ▸ rfl⟩
  have hmonth := d.month_date_le
  have hday := d.day_date_le
  have hmonth' := e.month_date_le
  have hday' := e.day_date_le
  rw [← d.toDay_date, ← e.toDay_date, Date.text_inj (by omega) (by omega) h]

end Reckoner.Calendar
