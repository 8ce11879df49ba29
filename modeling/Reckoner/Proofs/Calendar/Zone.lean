import Mathlib.Tactic.SplitIfs
import Reckoner.Calendar.Zone
import Reckoner.Proofs.Calendar.Date

/-!
# Days away in a zone

Days are taken off an instant as if all were equally long, and only then the instant is carried over
to its zone.  Where clocks are set meanwhile, they show another time on the other day than they do
now, and so they may have passed midnight or not reached it: the day that is found *slips*
(`Zone.dayAt_shift`).  It does so exactly where the time shown now and the amount by which the
clocks are set meanwhile run out of the day (`Zone.slip_eq_zero_iff`).

In Universal Time nothing slips.  In Budapest clocks are set by an hour at most, so a day slips by
one at most.  By the rule in force since 1996 the day before slips in two hours of the year
(`Zone.slip_budapest_yesterday`), both from 22 to 23 o'clock in Universal Time.  On the last Sunday
of March this is the first hour of Monday in Budapest, a day after an hour was left out; on the last
Sunday of October it is the last hour of a Sunday in which one came twice.
-/

namespace Reckoner.Calendar

@[simp] theorem Instant.shift_zero (t : Instant) : t.shift 0 = t := by
  simp only [shift, Int.zero_mul, Int.add_zero]

theorem Instant.dayAhead_shift (t : Instant) (days ahead : Int) :
    (t.shift days).dayAhead ahead = (t.dayAhead ahead).shift days := by
  simp only [dayAhead, shift, Day.shift, secondsPerDay, Day.mk.injEq]
  omega

namespace Zone

/-- What clocks show at an instant, in seconds from midnight. -/
def clock (zone : Zone) (t : Instant) : Int := (t.seconds + zone.ahead t) % secondsPerDay

/-- How much farther ahead clocks are some days from an instant. -/
def change (zone : Zone) (t : Instant) (days : Int) : Int :=
  zone.ahead (t.shift days) - zone.ahead t

/-- How many midnights the clocks are set across. -/
def slip (zone : Zone) (t : Instant) (days : Int) : Int :=
  (zone.clock t + zone.change t days) / secondsPerDay

section

variable {zone : Zone} {t : Instant} {days : Int}

/-- The day that is found some days from an instant. -/
theorem dayAt_shift (zone : Zone) (t : Instant) (days : Int) :
    zone.dayAt (t.shift days) = (zone.dayAt t).shift (days + zone.slip t days) := by
  simp only [dayAt, Instant.dayAhead, slip, clock, change, Instant.shift, Day.shift, secondsPerDay,
    Day.mk.injEq]
  omega

theorem clock_nonneg (zone : Zone) (t : Instant) : 0 ≤ zone.clock t := by
  simp only [clock, secondsPerDay]
  omega

theorem clock_lt (zone : Zone) (t : Instant) : zone.clock t < secondsPerDay := by
  simp only [clock, secondsPerDay]
  omega

/-- Nothing slips as long as clocks show a time of the same day after they are set. -/
theorem slip_eq_zero_iff : zone.slip t days = 0 ↔
    0 ≤ zone.clock t + zone.change t days ∧ zone.clock t + zone.change t days < secondsPerDay := by
  simp only [slip, secondsPerDay]
  omega

theorem slip_eq_zero_of_change (h : zone.change t days = 0) : zone.slip t days = 0 := by
  rw [slip_eq_zero_iff, h, Int.add_zero]
  exact ⟨zone.clock_nonneg t, zone.clock_lt t⟩

@[simp] theorem slip_zero (zone : Zone) (t : Instant) : zone.slip t 0 = 0 := by
  refine slip_eq_zero_of_change ?_
  rw [change, Instant.shift_zero, Int.sub_self]

/-- Clocks that are set by less than a day are set across one midnight at most. -/
theorem slip_bounds (h : (zone.change t days).natAbs ≤ 86400) :
    -1 ≤ zone.slip t days ∧ zone.slip t days ≤ 1 := by
  have hnonneg := zone.clock_nonneg t
  have hlt := zone.clock_lt t
  simp only [slip, secondsPerDay] at *
  omega

end

/-! ## The given zones -/

theorem given_eq_some {name : String} {zone : Zone} (h : given name = some zone) :
    zone = universal ∨ zone = budapest := by
  simp only [given] at h
  split at h
  next => exact .inl (Option.some.inj h).symm
  next =>
    split at h
    next => exact .inr (Option.some.inj h).symm
    next => cases h

theorem ahead_budapest_mem (t : Instant) : budapest.ahead t ∈ [3600, 4560, 7200] := by
  simp only [budapest, meanTimeAhead]
  split
  next => simp
  next => split <;> simp

theorem change_universal (t : Instant) (days : Int) : universal.change t days = 0 := rfl

theorem change_budapest (t : Instant) (days : Int) : (budapest.change t days).natAbs ≤ 3600 := by
  have hthen := ahead_budapest_mem (t.shift days)
  have hnow := ahead_budapest_mem t
  simp only [List.mem_cons, List.not_mem_nil, or_false] at hthen hnow
  rw [change]
  omega

/-- In the given zones clocks are never behind Universal Time. -/
theorem ahead_given {name : String} {zone : Zone} (h : given name = some zone) (t : Instant) :
    0 ≤ zone.ahead t := by
  rcases given_eq_some h with rfl | rfl
  · exact Int.le_refl 0
  · have := ahead_budapest_mem t
    simp only [List.mem_cons, List.not_mem_nil, or_false] at this
    omega

/-- In the given zones a day slips by one at most. -/
theorem slip_given {name : String} {zone : Zone} (h : given name = some zone) (t : Instant)
    (days : Int) : -1 ≤ zone.slip t days ∧ zone.slip t days ≤ 1 := by
  refine slip_bounds ?_
  rcases given_eq_some h with rfl | rfl
  · rw [change_universal]
    decide
  · have := change_budapest t days
    omega

/-! ## The dates found -/

theorem dateText_eq {zones : Zones} {name : String} {zone : Zone} (h : zones name = some zone)
    (now : Instant) (days : Int) : dateText zones name now days =
      if ((now.shift days).dayAhead 0).date.IsWritten ∧
          (zone.dayAt (now.shift days)).date.IsWritten then
        .ok (zone.dayAt (now.shift days)).date.text
      else .error .dateOutOfRange := by
  simp only [dateText, h]
  split
  next hutc => simp only [hutc, true_and]
  next hutc => simp only [hutc, false_and, if_false]

/-- In the given zones a date is found unless it lies outside the written years. -/
theorem dateText_given {name : String} {zone : Zone} (h : given name = some zone) (now : Instant)
    (days : Int) : dateText given name now days =
      if Day.firstWritten.number ≤ (now.dayAhead 0).number + days ∧
          (zone.dayAt now).number + (days + zone.slip now days) ≤ Day.lastWritten.number then
        .ok ((zone.dayAt now).shift (days + zone.slip now days)).date.text
      else .error .dateOutOfRange := by
  have hahead := ahead_given h (now.shift days)
  have hlater : ((now.shift days).dayAhead 0).number ≤ (zone.dayAt (now.shift days)).number := by
    simp only [dayAt, Instant.dayAhead, secondsPerDay]
    omega
  rw [dayAt_shift, Instant.dayAhead_shift] at hlater
  rw [dateText_eq h, dayAt_shift, Instant.dayAhead_shift]
  refine if_congr ?_ rfl rfl
  rw [Day.isWritten_date_iff, Day.isWritten_date_iff]
  simp only [Day.shift] at *
  omega

/-! ## The rule of Budapest -/

/-- The last Sunday of a month of 31 days. -/
def lastSunday (year : Int) (month : Nat) : Day := sundayUntil (Date.toDay ⟨year, month, 31⟩)

/-- The last Sunday of a month is one of its last seven days. -/
theorem lastSunday_bounds {year : Int} {month days : Nat} (h : days < 366)
    (hlast : Date.ofMarch year days = ⟨year, month, 31⟩) :
    (Day.ofMarch year 0).number + days - 6 ≤ (lastSunday year month).number ∧
      (lastSunday year month).number ≤ (Day.ofMarch year 0).number + days := by
  rw [lastSunday, ← hlast, Date.toDay_ofMarch year h, ← Day.ofMarch_number]
  simp only [sundayUntil, Day.shift]
  omega

theorem lastSunday_march (year : Int) :
    (Day.ofMarch year 0).number + 24 ≤ (lastSunday year 3).number ∧
      (lastSunday year 3).number ≤ (Day.ofMarch year 0).number + 30 := by
  have hdate : Date.ofMarch year 30 = ⟨year, 3, 31⟩ := rfl
  have := lastSunday_bounds (by decide) hdate
  omega

theorem lastSunday_october (year : Int) :
    (Day.ofMarch year 0).number + 238 ≤ (lastSunday year 10).number ∧
      (lastSunday year 10).number ≤ (Day.ofMarch year 0).number + 244 := by
  have hdate : Date.ofMarch year 244 = ⟨year, 10, 31⟩ := rfl
  have := lastSunday_bounds (by decide) hdate
  omega

/-- It is summer by the rule of a year. -/
def IsSummerOf (year : Int) (t : Instant) : Prop :=
  year ≤ 2037 ∧ (lastSundayAtOne year 3).seconds ≤ t.seconds ∧
    t.seconds < (lastSundayAtOne year 10).seconds

instance (year : Int) (t : Instant) : Decidable (IsSummerOf year t) :=
  inferInstanceAs (Decidable (_ ∧ _))

theorem lastSundayAtOne_seconds (year : Int) (month : Nat) :
    (lastSundayAtOne year month).seconds = (lastSunday year month).number * 86400 + 3600 := rfl

/-- Summer lasts from the end of March to the end of October. -/
theorem IsSummerOf.bounds {year : Int} {t : Instant} (h : IsSummerOf year t) :
    (Day.ofMarch year 0).number + 24 ≤ (t.dayAhead 0).number ∧
      (t.dayAhead 0).number ≤ (Day.ofMarch year 0).number + 244 := by
  have hmarch := lastSunday_march year
  have hoctober := lastSunday_october year
  have hstart := h.2.1
  have hstop := h.2.2
  rw [lastSundayAtOne_seconds] at hstart hstop
  simp only [Instant.dayAhead, secondsPerDay]
  omega

theorem isListedSummer_eq_false {t : Instant} (h : 811904400 ≤ t.seconds) :
    isListedSummer t = false := by
  have hstop : ∀ summer ∈ listedSummers, summer.2 ≤ 811904400 := by decide
  rw [isListedSummer, List.any_eq_false]
  intro summer hsummer
  have := hstop summer hsummer
  simp only [Bool.and_eq_true, decide_eq_true_eq]
  omega

theorem isSummerByRule_iff {t : Instant} {year : Int} (h : (t.dayAhead 0).date.year = year) :
    isSummerByRule t = true ↔ 1996 ≤ year ∧ IsSummerOf year t := by
  simp only [isSummerByRule, h, IsSummerOf, Bool.and_eq_true, decide_eq_true_eq]
  omega

/-- In a year and on the day before it, it is summer as the rule of the year says. -/
theorem isSummerByRule_of_year {t : Instant} {year : Int} (hyear : 1996 ≤ year)
    (hfirst : (Day.newYear year).number ≤ (t.dayAhead 0).number + 1)
    (hlast : (t.dayAhead 0).number < (Day.newYear (year + 1)).number) :
    isSummerByRule t = true ↔ IsSummerOf year t := by
  have hthis := (t.dayAhead 0).le_year_date_iff year
  have hnext := (t.dayAhead 0).le_year_date_iff (year + 1)
  by_cases hin : (Day.newYear year).number ≤ (t.dayAhead 0).number
  · have hown : (t.dayAhead 0).date.year = year := by omega
    rw [isSummerByRule_iff hown]
    exact and_iff_right hyear
  · -- the last day of December is no summer, neither by its own rule nor by that of the next year
    have hpast := (t.dayAhead 0).le_year_date_iff (year - 1)
    have hnew := Day.newYear_number year
    have hwinter := Day.newYear_lt_ofMarch (year - 1)
    have hmarch := Day.newYear_lt_ofMarch year
    have hown : (t.dayAhead 0).date.year = year - 1 := by omega
    rw [isSummerByRule_iff hown]
    refine iff_of_false (fun h => ?_) fun h => ?_
    · have hautumn := h.2.bounds.2
      omega
    · have hspring := h.bounds.1
      omega

theorem ahead_budapest_of_year {t : Instant} {year : Int} (hyear : 1996 ≤ year)
    (hfirst : (Day.newYear year).number ≤ (t.dayAhead 0).number + 1)
    (hlast : (t.dayAhead 0).number < (Day.newYear (year + 1)).number) :
    budapest.ahead t = if IsSummerOf year t then 7200 else 3600 := by
  have hbegun := Day.newYear_le hyear
  have hnumber : (Day.newYear 1996).number = 9496 := rfl
  have hlate : 811904400 ≤ t.seconds := by
    simp only [Instant.dayAhead, secondsPerDay] at hfirst
    omega
  have hmean : ¬t.seconds < meanTimeEnd.seconds := by
    simp only [meanTimeEnd]
    omega
  simp only [budapest, hmean, if_false, isListedSummer_eq_false hlate, Bool.false_or,
    isSummerByRule_of_year hyear hfirst hlast]

/-- It is the hour from 22 to 23 o'clock in Universal Time. -/
def IsLateOn (d : Day) (t : Instant) : Prop :=
  (d.after 79200).seconds ≤ t.seconds ∧ t.seconds < (d.after 82800).seconds

instance (d : Day) (t : Instant) : Decidable (IsLateOn d t) := inferInstanceAs (Decidable (_ ∧ _))

/-- By the rule, the day before slips in two hours of a year. -/
theorem slip_budapest_yesterday {t : Instant} {year : Int} (h : (t.dayAhead 0).date.year = year)
    (hyear : 1996 ≤ year) : budapest.slip t (-1) =
      if year ≤ 2037 ∧ IsLateOn (lastSunday year 3) t then -1
      else if year ≤ 2037 ∧ IsLateOn (lastSunday year 10) t then 1
      else 0 := by
  have hthis := (t.dayAhead 0).le_year_date_iff year
  have hnext := (t.dayAhead 0).le_year_date_iff (year + 1)
  have hnow : budapest.ahead t = if IsSummerOf year t then 7200 else 3600 :=
    ahead_budapest_of_year hyear (by omega) (by omega)
  have hthen : budapest.ahead (t.shift (-1)) =
      if IsSummerOf year (t.shift (-1)) then 7200 else 3600 := by
    have hday := congrArg Day.number (t.dayAhead_shift (-1) 0)
    simp only [Day.shift] at hday
    exact ahead_budapest_of_year hyear (by omega) (by omega)
  have hmarch := (lastSunday_march year).2
  have hoctober := (lastSunday_october year).1
  simp only [slip, clock, change, hnow, hthen, secondsPerDay]
  -- whether it is summer now and on the day before, and whether it is one of the hours
  split_ifs <;>
    simp only [IsSummerOf, IsLateOn, lastSundayAtOne_seconds, Day.after, Instant.shift,
      secondsPerDay] at * <;>
    omega

end Zone

end Reckoner.Calendar
