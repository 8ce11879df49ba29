import Reckoner.Proofs.Document.Read
import Reckoner.Proofs.Rates.Keeping

/-!
# Taking up a kept bulletin

A kept document comes back with its line ends unified.  That makes no difference: what was read as a
bulletin before is read as the same bulletin then (`Bulletin.read_unifyLineEnds`).  So a later
service that finds the document under its path, and to which its date is fresh, loads the rates of
the bulletin without touching anything (`Service.load_of_stored`).  It answers every question as the
service that received the bulletin does (`Service.later_service_answers_alike`).
-/

namespace Reckoner

open Calculation Text

/-- A bulletin is read the same whatever its line ends are. -/
theorem Bulletin.read_unifyLineEnds {document : String} {b : Bulletin}
    (h : Bulletin.read document = .ok b) :
    Bulletin.read (String.ofList (unifyLineEnds document.toList)) = .ok b := by
  obtain ⟨data, hdata, hcheck⟩ := bind_eq_ok_iff.1 h
  have hvalue : check (data.body "MNBCurrentExchangeRates") = .ok b := by
    have hfault := mapError_eq_ok_iff.1 hcheck
    rw [Checked.orFault] at hfault
    exact mapError_eq_ok_iff.1 hfault
  rw [Bulletin.read, Document.read_unifyLineEnds hdata]
  simp only [bind, Except.bind, hvalue]
  rfl

namespace Service

section

variable {service : Service} {host : Host} {document : String} {b : Bulletin}

/-- A stored bulletin of a fresh date serves. -/
theorem kept?_of_stored (hstored : service.stored? host = some document)
    (hread : Bulletin.read document = .ok b) (hfresh : service.isFresh host b.date = .ok true) :
    service.kept? host = .ok (some b) := by
  obtain ⟨path, hpath, htext⟩ := Option.bind_eq_some_iff.1 hstored
  have hfile := FileTree.read?_of_text? htext
  have hbulletin : bulletin? (String.ofList (unifyLineEnds document.toList)) = .ok (some b) := by
    rw [bulletin?, Bulletin.read_unifyLineEnds hread]
  rw [kept?, toOption_eq_some_iff.1 hpath]
  simp only [bind, Except.bind, hfile, hbulletin, hfresh]
  rfl

/-- From a stored bulletin of a fresh date, rates are loaded without touching anything. -/
theorem load_of_stored (hstored : service.stored? host = some document)
    (hread : Bulletin.read document = .ok b) (hfresh : service.isFresh host b.date = .ok true) :
    service.load host = (ratesOf b, host) := by
  obtain ⟨path, hpath, -⟩ := Option.bind_eq_some_iff.1 hstored
  rw [load, toOption_eq_some_iff.1 hpath, kept?_of_stored hstored hread hfresh]

theorem Receives.read (h : service.Receives host document b) : Bulletin.read document = .ok b := by
  obtain ⟨text, -, hanswer⟩ := h.answered
  obtain ⟨document', -, hanswer⟩ := bind_eq_ok_iff.1 hanswer
  obtain ⟨b', hread, hanswer⟩ := bind_eq_ok_iff.1 hanswer
  cases hanswer
  exact hread

theorem ratesOf_eq {table : RateTable} (h : b.table = .ok table) : ratesOf b = .ok (.ok table) := by
  rw [ratesOf, h]
  rfl

end

/-! ## Answers from an outcome -/

section

variable {service : Service} {host last : Host} {result : Except LoadFailure RateTable}

theorem start_rate_memory (service : Service) (result : Except LoadFailure RateTable)
    (host : Host) (a b : String) :
    (service.rate a b).start ⟨host, Outcome.memory (.ok result)⟩ =
      (service.answerFrom a b result, ⟨host, Outcome.memory (.ok result)⟩) := by
  cases result with
  | ok table => exact start_bind ..
  | error why => exact start_bind ..

/-- All questions are answered from what is remembered, which stays, and so does the host. -/
theorem answers_memory (service : Service) (result : Except LoadFailure RateTable) (host : Host)
    (calls : List (String × String)) :
    service.answers calls ⟨host, Outcome.memory (.ok result)⟩ =
      (calls.map fun call => service.answerFrom call.1 call.2 result,
        ⟨host, Outcome.memory (.ok result)⟩) := by
  induction calls with
  | nil => rfl
  | cons call calls ih =>
    rw [answers_cons (service.start_rate_memory result host call.1 call.2), ih, List.map_cons]

/-- All questions are answered from what the first of them loads. -/
theorem answers_of_load (h : service.load host = (.ok result, last))
    (calls : List (String × String)) :
    (service.answers calls ⟨host, .untried⟩).1 =
        calls.map (fun call => service.answerFrom call.1 call.2 result) ∧
      ((service.answers calls ⟨host, .untried⟩).2.host = host ∨
        (service.answers calls ⟨host, .untried⟩).2.host = last) := by
  cases calls with
  | nil => exact ⟨rfl, .inl rfl⟩
  | cons call calls =>
    have hfirst := start_rate_loaded (congrArg Prod.fst h) call.1 call.2
    rw [h] at hfirst
    rw [answers_cons hfirst, answers_memory]
    exact ⟨rfl, .inr rfl⟩

end

/-! ## A later service -/

/-- A second service takes up what a first one has kept: both have the same path and the same base,
and under the path the later host holds what it held after the first service had loaded. -/
structure TakesUp (first second : Service) (after later : Host) : Prop where
  path : second.path = first.path
  base : second.base = first.base
  file : ∀ path, first.path = .ok path → later.files.text? path = after.files.text? path

/-- A service that takes up a kept bulletin agrees with the service that received it.  When the
first service has loaded rates from a received bulletin and has kept its document, a second one that
takes this up, on any later host to whose clock the bulletin's date is fresh, loads the same rates.
It answers any questions as the first service does, and its host stays as it is: nothing is
requested, printed or written. -/
theorem later_service_answers_alike {first second : Service} {host later : Host} {after : Desk}
    {document : String} {b : Bulletin} {table : RateTable}
    (hload : start first.rates ⟨host, .untried⟩ = (.ok table, after))
    (hreceives : first.Receives host document b)
    (hkept : first.stored? after.host = some document)
    (takes : TakesUp first second after.host later)
    (hfresh : second.isFresh later b.date = .ok true) :
    start second.rates ⟨later, .untried⟩ = (.ok table, ⟨later, .loaded table⟩) ∧
      ∀ calls, (second.answers calls ⟨later, .untried⟩).1 =
          (first.answers calls ⟨host, .untried⟩).1 ∧
        (second.answers calls ⟨later, .untried⟩).2.host = later := by
  obtain ⟨path, hpath, htext⟩ := Option.bind_eq_some_iff.1 hkept
  have hpath := toOption_eq_some_iff.1 hpath
  have hstored : second.stored? later = some document := by
    rw [stored?, takes.path, hpath]
    exact (takes.file path hpath).trans htext
  have htable : b.table = .ok table := by
    rw [start_rates, hreceives.load_eq hpath] at hload
    have hrates := (Prod.mk.inj hload).1
    rw [rates_ratesOf] at hrates
    exact mapError_eq_ok_iff.1 hrates
  have hfirst := hreceives.load_eq hpath
  have hsecond := load_of_stored hstored hreceives.read hfresh
  rw [ratesOf_eq htable] at hfirst hsecond
  have halike : ∀ a b, second.answerFrom a b (.ok table) = first.answerFrom a b (.ok table) := by
    intro a b
    rw [answerFrom, answerFrom, takes.base]
  refine ⟨by rw [start_rates, hsecond]; rfl, fun calls => ?_⟩
  obtain ⟨hanswers, hhost⟩ := answers_of_load hsecond calls
  refine ⟨?_, hhost.elim id id⟩
  simp only [hanswers, (answers_of_load hfirst calls).1, halike]

/-- The sample is received in one world and taken up in another one, where no request would be
answered. -/
theorem sample_taken_up :
    let service := bank (some "cache")
    let world (files : FileTree) : Host := { (Desk.bare []).host with files }
    ∃ table after, start service.rates ⟨answered .sample, .untried⟩ = (.ok table, after) ∧
      start service.rates ⟨world after.host.files, .untried⟩ =
        (.ok table, ⟨world after.host.files, .loaded table⟩) ∧
      ∀ calls, (service.answers calls ⟨world after.host.files, .untried⟩).1 =
          (service.answers calls ⟨answered .sample, .untried⟩).1 ∧
        (service.answers calls ⟨world after.host.files, .untried⟩).2.host.requests = [] := by
  intro service world
  have htable : Publication.sample.bulletin.table.toOption.isSome = true := by decide +kernel
  obtain ⟨table, htable⟩ := Option.isSome_iff_exists.1 htable
  obtain ⟨after, hload, hkept⟩ := exists_start_answered .sample
  rw [toOption_eq_some_iff.1 htable] at hload
  have hfresh : service.isFresh (world after.host.files) Publication.sample.bulletin.date =
      .ok true := by
    have hbare : ((bank (some "cache")).isFresh (Desk.bare []).host "1970-01-01").toOption =
        some true := by decide
    exact toOption_eq_some_iff.1 hbare
  have htakes : TakesUp service service after.host (world after.host.files) :=
    ⟨rfl, rfl, fun _ _ => rfl⟩
  obtain ⟨hrates, hanswers⟩ :=
    later_service_answers_alike hload (receives_answered .sample) hkept htakes hfresh
  refine ⟨table, after, hload, hrates, fun calls => ⟨(hanswers calls).1, ?_⟩⟩
  rw [(hanswers calls).2]
  rfl

end Service

end Reckoner
