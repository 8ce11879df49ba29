import Reckoner.Proofs.Rates.Service

/-!
# What loading came to is final

A service answers from one outcome: the one that it remembers, or else what loading comes to at this
very question (`start_ask_of_ok`).  An outcome is rates or a failure to load, and it is remembered.
From then on the answers are read off from it, and the world in which a question is asked has no
part in them: it is the same after the question as before (`start_ask_remembered`).

A question that ends in a value or in a failed conversion was answered from an outcome, because
no station of loading is left by a failed conversion (`loadsWithin_not_failedConversion`).  So
whatever a single such answer came from is what all later ones come from (`outcome_final`).  Rates
of no currency at all, a code that is missing from them, and a failure to load are alike in this:
none of them is a reason to load again.
-/

namespace Reckoner

open Calculation

/-- The fault is a failed conversion. -/
def FailedConversion (fault : Fault) : Prop := ∃ why, fault = .calculation (.conversion why)

namespace Service

/-! ## Questions -/

/-- A question that a service answers: for all its rates or for one between two currencies. -/
inductive Question where
  | table
  | rate (source target : String)

/-- What a question is answered by. -/
inductive Answer where
  | table (table : RateTable)
  | rate (rate : Ratio)
  deriving DecidableEq

/-- Asks the service. -/
def ask (service : Service) : Question → Calculation Desk Answer
  | .table => do
    let table ← service.rates
    pure (.table table)
  | .rate source target => do
    let rate ← service.rate source target
    pure (.rate rate)

/-- The answer that belongs to an outcome of loading. -/
def respond (service : Service) (result : Except LoadFailure RateTable) :
    Question → Except Fault Answer
  | .table => (Outcome.rates (.ok result)).map .table
  | .rate source target => (service.answerFrom source target result).map .rate

/-- What a question at the desk is answered from, and the host after it: the outcome that is
remembered, or else what loading comes to. -/
def outcomeAt (service : Service) (desk : Desk) : Outcome × Host :=
  match desk.memory with
  | .loaded table => (.ok (.ok table), desk.host)
  | .failed why => (.ok (.error why), desk.host)
  | .untried => service.load desk.host

section

variable {service : Service} {desk : Desk}

/-! ## One question -/

theorem start_rates_outcome (service : Service) (desk : Desk) :
    start service.rates desk = (Outcome.rates (service.outcomeAt desk).1,
      ⟨(service.outcomeAt desk).2, Outcome.memory (service.outcomeAt desk).1⟩) := by
  obtain ⟨host, memory⟩ := desk
  cases memory with
  | untried => exact service.start_rates host
  | loaded table => rfl
  | failed why => rfl

/-- An outcome answers the question and is remembered. -/
theorem start_ask_of_ok {result : Except LoadFailure RateTable} {host : Host}
    (h : service.outcomeAt desk = (.ok result, host)) (question : Question) :
    (service.ask question).start desk =
      (service.respond result question, ⟨host, Outcome.memory (.ok result)⟩) := by
  have hrates := service.start_rates_outcome desk
  rw [h] at hrates
  cases question with
  | table =>
    rw [ask, start_bind, hrates]
    cases result <;> rfl
  | rate source target =>
    rw [ask, rate, start_bind, start_bind, hrates]
    cases result with
    | error why => rfl
    | ok table =>
      show andThen (service.answerFrom source target (.ok table), _) _ = _
      rw [respond]
      cases service.answerFrom source target (.ok table) <;> rfl

/-- A fault beside the outcomes is the answer and is not remembered. -/
theorem start_ask_of_error {fault : Fault} {host : Host}
    (h : service.outcomeAt desk = (.error fault, host)) (question : Question) :
    (service.ask question).start desk = (.error fault, ⟨host, .untried⟩) := by
  have hrates := service.start_rates_outcome desk
  rw [h] at hrates
  cases question with
  | table =>
    rw [ask, start_bind, hrates]
    rfl
  | rate source target =>
    rw [ask, rate, start_bind, start_bind, hrates]
    rfl

theorem outcomeAt_memory (service : Service) (result : Except LoadFailure RateTable)
    (host : Host) : service.outcomeAt ⟨host, Outcome.memory (.ok result)⟩ = (.ok result, host) := by
  cases result <;> rfl

/-- A remembered outcome answers by itself. -/
theorem start_ask_remembered (service : Service) (result : Except LoadFailure RateTable)
    (question : Question) (host : Host) :
    (service.ask question).start ⟨host, Outcome.memory (.ok result)⟩ =
      (service.respond result question, ⟨host, Outcome.memory (.ok result)⟩) :=
  start_ask_of_ok (service.outcomeAt_memory result host) question

/-- What an outcome is answered by is a value or a failed conversion. -/
theorem respond_fails (service : Service) (result : Except LoadFailure RateTable)
    (question : Question) : FailsBy FailedConversion (service.respond result question) := by
  cases question with
  | table =>
    cases result with
    | ok table => exact .ok _
    | error why => exact .error ⟨_, rfl⟩
  | rate source target => exact (service.answerFrom_settled source target result).map _

/-! ## Faults of loading -/

theorem Escapes.not_failedConversion {fault : Fault} (h : Escapes fault) :
    ¬FailedConversion fault := by
  rintro ⟨why, rfl⟩
  cases h

/-- No station of loading is left by a failed conversion. -/
theorem loadsWithin_not_failedConversion (service : Service) (host : Host) :
    LoadsWithin (fun fault => ¬FailedConversion fault) service host := by
  have hdeclared := Escapes.entityDeclared.not_failedConversion
  have hrates {b : Bulletin} (positive : b.Positive) :
      FailsBy (fun fault => ¬FailedConversion fault) (ratesOf b) := by
    intro fault hfault
    exact (ratesOf_fails positive fault hfault).not_failedConversion
  exact {
    path := by
      unfold path
      split
      next => exact .ok _
      next => exact .error nofun
    decoded := fun _ _ => Escapes.undecodable.not_failedConversion
    declared := fun _ _ _ => hdeclared
    dated := by
      intro text b _ _ days _ fault hfault
      rcases dateText_fails _ _ _ _ fault hfault with ⟨rfl, -⟩ | rfl <;> exact nofun
    rates := fun b hkept => hrates (positive_of_kept hkept)
    encoded := fun _ _ => Escapes.unencodable.not_failedConversion
    answered := by
      intro _ text _
      refine ⟨fun _ => hdeclared, fun document _ => ⟨fun _ => hdeclared, fun b hread => ?_⟩⟩
      exact hrates (Bulletin.read_positive document b hread) }

/-- An answer that is a value or a failed conversion comes from an outcome. -/
theorem exists_outcome {question : Question} {answer : Except Fault Answer} {after : Desk}
    (h : (service.ask question).start desk = (answer, after))
    (hanswer : FailsBy FailedConversion answer) :
    ∃ result, service.outcomeAt desk = (.ok result, after.host) ∧
      answer = service.respond result question ∧ after.memory = Outcome.memory (.ok result) := by
  match houtcome : service.outcomeAt desk with
  | (.ok result, host) =>
    rw [start_ask_of_ok houtcome] at h
    cases h
    exact ⟨result, rfl, rfl, rfl⟩
  | (.error fault, host) =>
    -- nothing is remembered as a fault, so this one comes from loading
    rw [start_ask_of_error houtcome] at h
    cases h
    obtain ⟨host', memory⟩ := desk
    cases memory with
    | untried =>
      have hload : (service.load host').1 = .error fault := congrArg Prod.fst houtcome
      exact absurd (hanswer fault rfl)
        ((service.loadsWithin_not_failedConversion host').load_fails fault hload)
    | loaded table => cases houtcome
    | failed why => cases houtcome

end

/-! ## Questions in a changing world -/

/-- A question and the world that it is asked in. -/
structure Visit where
  world : Host
  question : Question

/-- The answers to questions that are asked one after the other, each in a world of its own, the
worlds after them, and what is remembered in the end. -/
def course (service : Service) : List Visit → Memory → List (Except Fault Answer × Host) × Memory
  | [], memory => ([], memory)
  | visit :: rest, memory =>
    let (answer, desk) := (service.ask visit.question).start ⟨visit.world, memory⟩
    let (more, last) := service.course rest desk.memory
    ((answer, desk.host) :: more, last)

/-- Once an outcome is remembered, all visits are answered from it, and no world is changed. -/
theorem course_remembered (service : Service) (result : Except LoadFailure RateTable)
    (visits : List Visit) :
    service.course visits (Outcome.memory (.ok result)) =
      (visits.map fun visit => (service.respond result visit.question, visit.world),
        Outcome.memory (.ok result)) := by
  induction visits with
  | nil => rfl
  | cons visit rest ih =>
    simp only [course, start_ask_remembered, ih, List.map_cons]

/-- The outcome of loading is final.  A question that ends in a value or in a failed conversion was
answered from an outcome, rates or a failure to load.  Whatever is asked from then on, in whatever
worlds, has the answer that belongs to this outcome, which is again a value or a failed conversion.
The worlds have no part in the answers and stay as they are: nothing is requested, and no file
matters or is changed. -/
theorem outcome_final {service : Service} {desk after : Desk} {question : Question}
    {answer : Except Fault Answer} (h : (service.ask question).start desk = (answer, after))
    (hanswer : FailsBy FailedConversion answer) :
    ∃ result : Except LoadFailure RateTable,
      service.outcomeAt desk = (.ok result, after.host) ∧
      answer = service.respond result question ∧
      (∀ visits, service.course visits after.memory =
        (visits.map fun visit => (service.respond result visit.question, visit.world),
          after.memory)) ∧
      ∀ later, FailsBy FailedConversion (service.respond result later) := by
  obtain ⟨result, houtcome, hrespond, hmemory⟩ := exists_outcome h hanswer
  refine ⟨result, houtcome, hrespond, ?_, service.respond_fails result⟩
  intro visits
  rw [hmemory]
  exact service.course_remembered result visits

/-! ## Two worlds -/

/-- A host that keeps a bulletin of its day, in which nothing is quoted. -/
def keeping : Host :=
  { (Desk.bare []).host with
    files := ⟨[], [(["cache", "rates.xml"], .file (.text
      "<MNBCurrentExchangeRates><Day date=\"1970-01-01\"/></MNBCurrentExchangeRates>"))]⟩ }

theorem load_keeping : (bank (some "cache")).load keeping = (.ok (.ok []), keeping) := by
  have hread : ((bank (some "cache")).kept? keeping).toOption = some (some ⟨"1970-01-01", []⟩) := by
    decide +kernel
  have hpath : (bank (some "cache")).path = .ok (Path.join "cache" usualFile) := rfl
  cases hkept : (bank (some "cache")).kept? keeping with
  | error fault =>
    rw [hkept] at hread
    cases hread
  | ok found =>
    rw [hkept] at hread
    cases hread
    rw [load, hpath, hkept]
    rfl

theorem load_bare :
    (bank (some "cache")).load (Desk.bare []).host =
      (.ok (.error (.request .connection)), (bank (some "cache")).asked (Desk.bare []).host) := by
  have hpath : (bank (some "cache")).path = .ok (Path.join "cache" usualFile) := rfl
  rw [load_of_no_file hpath (FileTree.read?_of_no_entries rfl _)]
  exact fetch_lost _ _ rfl

/-- The world of the first question decides.  Where no request gets through, the failure stays even
in a world that keeps a bulletin; where the kept bulletin quotes nothing, the empty rates stay even
in a world without any files, and a code that is missing from them is no reason for a request. -/
theorem first_world_decides :
    let service := bank (some "cache")
    let bare := (Desk.bare []).host
    let lost : Except Fault Answer := .error (unavailable (.request .connection))
    let missing : Except Fault Answer := .error (.calculation (.conversion (.unknownCode "EUR")))
    (service.ask (.rate "EUR" "HUF")).start ⟨bare, .untried⟩ =
      (lost, ⟨service.asked bare, .failed (.request .connection)⟩) ∧
    service.course [⟨keeping, .table⟩, ⟨keeping, .rate "EUR" "EUR"⟩]
        (.failed (.request .connection)) =
      ([(lost, keeping), (lost, keeping)], .failed (.request .connection)) ∧
    (service.ask (.rate "EUR" "HUF")).start ⟨keeping, .untried⟩ =
      (missing, ⟨keeping, .loaded []⟩) ∧
    service.course [⟨bare, .table⟩, ⟨bare, .rate "EUR" "HUF"⟩] (.loaded []) =
      ([(.ok (.table []), bare), (missing, bare)], .loaded []) := by
  intro service bare lost missing
  have hlost : (service.ask (.rate "EUR" "HUF")).start ⟨bare, .untried⟩ =
      (lost, ⟨service.asked bare, .failed (.request .connection)⟩) := by
    have hload : service.outcomeAt ⟨bare, .untried⟩ = _ := load_bare
    exact start_ask_of_ok hload _
  have hmissing : (service.ask (.rate "EUR" "HUF")).start ⟨keeping, .untried⟩ =
      (missing, ⟨keeping, .loaded []⟩) := by
    have hload : service.outcomeAt ⟨keeping, .untried⟩ = _ := load_keeping
    have hanswer : (bank (some "cache")).respond (.ok []) (.rate "EUR" "HUF") = missing := by rfl
    rw [start_ask_of_ok hload, hanswer]
    rfl
  refine ⟨hlost, ?_, hmissing, ?_⟩
  · obtain ⟨result, houtcome, -, hlater, -⟩ := outcome_final hlost (.error ⟨_, rfl⟩)
    cases (congrArg Prod.fst houtcome).symm.trans (congrArg Prod.fst load_bare)
    exact hlater _
  · obtain ⟨result, houtcome, hfirst, hlater, -⟩ := outcome_final hmissing (.error ⟨_, rfl⟩)
    cases (congrArg Prod.fst houtcome).symm.trans (congrArg Prod.fst load_keeping)
    rw [hlater]
    simp only [List.map_cons, List.map_nil, ← hfirst]
    rfl

end Service

end Reckoner
