import Reckoner.Proofs.Calendar.Zone
import Reckoner.Rates.Service

/-!
# The dates at which a kept bulletin serves

A kept bulletin is meant to serve on its day and on the next.  The service looks up two dates, that
of today and that of an instant one day of 24 hours back.  In Universal Time these are the dates of
two days that follow each other.  In Budapest the second one slips where the clocks have been set
within the last 24 hours and midnight is near: after an hour was left out it may be the date of the
day before yesterday, after an hour came twice it may be the date of today again.  Then a bulletin
of yesterday does not serve.  That is all that can go wrong (`Service.freshness_of_given`).
-/

namespace Reckoner.Service

open Calendar

/-- What is found of the days around an instant, and which dates are fresh. -/
structure Freshness (service : Service) (host : Host) (zone : Zone) : Prop where
  /-- The days around the instant are those of the calendar, one after the other. -/
  calendar : ∀ days, ((zone.dayAt host.now).shift (days + 1)).date =
    ((zone.dayAt host.now).shift days).date.next
  /-- The date some days away is that of the day so far away, but for what it slips by. -/
  date_away : ∀ days, dateText host.zones service.zone host.now days =
    if Day.firstWritten.number ≤ (host.now.dayAhead 0).number + days ∧
        (zone.dayAt host.now).number + (days + zone.slip host.now days) ≤
          Day.lastWritten.number then
      .ok ((zone.dayAt host.now).shift (days + zone.slip host.now days)).date.text
    else .error .dateOutOfRange
  /-- It is exact where nothing slips, and nowhere else. -/
  exact_iff : ∀ days text, dateText host.zones service.zone host.now days = .ok text →
    (text = ((zone.dayAt host.now).shift days).date.text ↔ zone.slip host.now days = 0)
  /-- A day slips by one at most. -/
  slip_bounds : ∀ days, -1 ≤ zone.slip host.now days ∧ zone.slip host.now days ≤ 1
  /-- Nothing slips as long as clocks show a time of the same day after they are set. -/
  steady_iff : ∀ days, zone.slip host.now days = 0 ↔
    0 ≤ zone.clock host.now + zone.change host.now days ∧
      zone.clock host.now + zone.change host.now days < secondsPerDay
  /-- Nothing slips in Universal Time. -/
  universal : zone = .universal → ∀ days, zone.slip host.now days = 0
  /-- By the rule of Budapest, the day before slips in two hours of a year. -/
  budapest : zone = .budapest → ∀ year, (host.now.dayAhead 0).date.year = year → 1996 ≤ year →
    zone.slip host.now (-1) =
      if year ≤ 2037 ∧ Zone.IsLateOn (Zone.lastSunday year 3) host.now then -1
      else if year ≤ 2037 ∧ Zone.IsLateOn (Zone.lastSunday year 10) host.now then 1
      else 0
  /-- Fresh are the date of today and that of the day before, but for what it slips by. -/
  fresh : ∀ date, service.isFresh host date =
    if Day.firstWritten.number < (host.now.dayAhead 0).number ∧
        (zone.dayAt host.now).number ≤ Day.lastWritten.number then
      .ok (date = (zone.dayAt host.now).date.text ||
        date = ((zone.dayAt host.now).shift (-1 + zone.slip host.now (-1))).date.text)
    else .error .dateOutOfRange
  /-- They are the dates of today and yesterday where nothing slips, and nowhere else. -/
  fresh_exact_iff : Day.firstWritten.number < (host.now.dayAhead 0).number →
    (zone.dayAt host.now).number ≤ Day.lastWritten.number →
      ((∀ date, service.isFresh host date = .ok true ↔ date = (zone.dayAt host.now).date.text ∨
          date = ((zone.dayAt host.now).shift (-1)).date.text) ↔
        zone.slip host.now (-1) = 0)

section

variable {service : Service} {host : Host} {zone : Zone}

theorem isFresh_given (hzones : host.zones = Zone.given)
    (hzone : Zone.given service.zone = some zone) (date : String) :
    service.isFresh host date =
      if Day.firstWritten.number < (host.now.dayAhead 0).number ∧
          (zone.dayAt host.now).number ≤ Day.lastWritten.number then
        .ok (date = (zone.dayAt host.now).date.text ||
          date = ((zone.dayAt host.now).shift (-1 + zone.slip host.now (-1))).date.text)
      else .error .dateOutOfRange := by
  have hslip := Zone.slip_given hzone host.now (-1)
  rw [isFresh, hzones, Zone.dateText_given hzone, Zone.dateText_given hzone, Zone.slip_zero,
    Int.add_zero, Int.add_zero, Int.add_zero, Day.shift_zero]
  by_cases hrange : Day.firstWritten.number < (host.now.dayAhead 0).number ∧
      (zone.dayAt host.now).number ≤ Day.lastWritten.number
  · rw [if_pos (by omega), if_pos (by omega), if_pos hrange]
    rfl
  · rw [if_neg hrange]
    by_cases htoday : Day.firstWritten.number ≤ (host.now.dayAhead 0).number ∧
        (zone.dayAt host.now).number ≤ Day.lastWritten.number
    · rw [if_pos htoday, if_neg (by omega)]
      rfl
    · rw [if_neg htoday]
      rfl

/-- In the given zones, what is found of days and dates goes wrong only where a day slips. -/
theorem freshness_of_given (hzones : host.zones = Zone.given)
    (hzone : Zone.given service.zone = some zone) : Freshness service host zone where
  calendar days := by
    rw [← Day.shift_shift, Day.date_shift_one]
  date_away days := by
    rw [hzones, Zone.dateText_given hzone]
  exact_iff days text htext := by
    rw [hzones, Zone.dateText_given hzone] at htext
    split at htext
    next =>
      rw [← Except.ok.inj htext, Day.text_date_inj, Day.shift_inj]
      omega
    next => cases htext
  slip_bounds := Zone.slip_given hzone host.now
  steady_iff days := Zone.slip_eq_zero_iff
  universal h days := by
    subst h
    exact Zone.slip_eq_zero_of_change (Zone.change_universal _ _)
  budapest h year hyear hrule := by
    subst h
    exact Zone.slip_budapest_yesterday hyear hrule
  fresh := isFresh_given hzones hzone
  fresh_exact_iff hfirst hlast := by
    simp only [isFresh_given hzones hzone, hfirst, hlast, and_self, if_true, Except.ok.injEq,
      Bool.or_eq_true, decide_eq_true_eq]
    refine ⟨fun h => ?_, fun h date => by rw [h, Int.add_zero]⟩
    -- the date of yesterday is not that of today, so it must be the other one
    rcases (h ((zone.dayAt host.now).shift (-1)).date.text).2 (.inr rfl) with htoday | hother
    · have hnumber := congrArg Day.number (Day.text_date_inj.1 htoday)
      simp only [Day.shift] at hnumber
      omega
    · rw [Day.text_date_inj, Day.shift_inj] at hother
      omega

end

/-- A host with nothing but a clock and the given zones. -/
def hostAt (now : Instant) : Host := ⟨⟨[], []⟩, "", [], now, Zone.given, [], [], .fresh, ""⟩

/-- Half an hour past midnight of 1 April 2024 in Budapest, the day before yesterday is taken for
yesterday; half an hour before the end of 27 October 2024, today is.  Yesterday is not fresh. -/
theorem yesterday_missed :
    let service := bank none
    let spring := hostAt ⟨1711924200⟩
    let autumn := hostAt ⟨1730068200⟩
    (dateText Zone.given usualZone spring.now 0 = .ok "2024-04-01" ∧
      dateText Zone.given usualZone spring.now (-1) = .ok "2024-03-30" ∧
      service.isFresh spring "2024-03-31" = .ok false) ∧
    (dateText Zone.given usualZone autumn.now 0 = .ok "2024-10-27" ∧
      dateText Zone.given usualZone autumn.now (-1) = .ok "2024-10-27" ∧
      service.isFresh autumn "2024-10-26" = .ok false) := by
  intro service spring autumn
  have hzone : Zone.given service.zone = some .budapest := by
    have hkey : Text.upper service.zone = "EUROPE/BUDAPEST" := by decide
    simp [Zone.given, hkey]
  have hspring : Freshness service spring .budapest := freshness_of_given rfl hzone
  have hautumn : Freshness service autumn .budapest := freshness_of_given rfl hzone
  have hok {α : Type} {p : Prop} [Decidable p] {a b : α} {e : Fault} (hp : p) (h : a = b) :
      (if p then Except.ok a else .error e) = .ok b := (if_pos hp).trans (congrArg _ h)
  refine ⟨⟨?_, ?_, ?_⟩, ?_, ?_, ?_⟩
  · exact (hspring.date_away 0).trans (hok (by decide) (by decide))
  · exact (hspring.date_away (-1)).trans (hok (by decide) (by decide))
  · exact (hspring.fresh _).trans (hok (by decide) (by decide))
  · exact (hautumn.date_away 0).trans (hok (by decide) (by decide))
  · exact (hautumn.date_away (-1)).trans (hok (by decide) (by decide))
  · exact (hautumn.fresh _).trans (hok (by decide) (by decide))

end Reckoner.Service
