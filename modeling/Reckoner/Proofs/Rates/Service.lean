import Reckoner.Proofs.Expr.Frame
import Reckoner.Proofs.Rates.Bulletin
import Reckoner.Proofs.Rates.CrossRate
import Reckoner.Rates.Service

/-!
# Questions to the rates service

A service is asked for one rate after the other.  What loading comes to is settled once: from then
on every answer is a rate or a failed conversion, and nothing is requested any more.  Only a fault
that is no outcome of loading is not remembered.  There are five such faults: a file or an answer
that is no text, a document that declares entities, a price of a single unit that does not fit its
words, and a clock at the edge of the years that dates are written for.  Such a fault escapes, and
the next question tries again.

When neither the kept bulletin nor the first reply nor the clock has such a fault, every question is
answered by a rate or a failed conversion, and at most one request is made for all of them.
-/

namespace Reckoner

open Calculation

/-! ## Hosts after requests -/

theorem Host.save_eq (host : Host) (path text : String) :
    ∃ files, host.save path text = { host with files } := by
  simp only [save]
  split
  next => exact ⟨host.files, rfl⟩
  next => exact ⟨_, rfl⟩

namespace Service

/-- The host after a request is made. -/
def asked (service : Service) (host : Host) : Host :=
  { service.announced host with
    requests := host.requests ++ [service.request]
    replies := host.replies.tail }

/-- What becomes of the next request. -/
def nextReply (host : Host) : Reply := host.replies.head?.getD (.lost .connection)

theorem send_eq (service : Service) (host : Host) :
    (service.announced host).send service.request = (nextReply host, service.asked host) := by
  have hrequests : (service.announced host).requests = host.requests := by
    unfold announced
    split <;> rfl
  have hreplies : (service.announced host).replies = host.replies := by
    unfold announced
    split <;> rfl
  simp only [Host.send, asked, nextReply, hrequests, hreplies]
  cases host.replies <;> simp

theorem fetch_lost (service : Service) (path : String) {host : Host} {why : RequestFailure}
    (h : (nextReply host).text = .error why) :
    service.fetch path host = (.ok (.error (.request why)), service.asked host) := by
  simp only [fetch, send_eq, h]

theorem fetch_unpaired (service : Service) (path : String) {host : Host}
    (h : (nextReply host).text = .ok none) :
    service.fetch path host = (.error .unencodable, service.asked host) := by
  simp only [fetch, send_eq, h]

theorem fetch_answered (service : Service) (path : String) {host : Host} {text : String}
    (h : (nextReply host).text = .ok (some text)) :
    service.fetch path host = takeAnswer path text (service.asked host) := by
  simp only [fetch, send_eq, h]

theorem takeAnswer_host (path text : String) (host : Host) :
    ∃ files, (takeAnswer path text host).2 = { host with files } := by
  unfold takeAnswer
  split
  next => exact ⟨host.files, rfl⟩
  next => exact ⟨host.files, rfl⟩
  next => exact host.save_eq _ _

/-- Loading changes the host by one request at most, and by what it keeps in files. -/
theorem load_host (service : Service) (host : Host) :
    (service.load host).2 = host ∨
      ∃ files, (service.load host).2 = { service.asked host with files } := by
  unfold load
  split
  next => exact .inl rfl
  next => exact .inl rfl
  next => exact .inl rfl
  next path _ _ =>
    refine .inr ?_
    cases hreply : (nextReply host).text with
    | error why =>
      rw [fetch_lost service path hreply]
      exact ⟨(service.asked host).files, rfl⟩
    | ok answer =>
      cases answer with
      | none =>
        rw [fetch_unpaired service path hreply]
        exact ⟨(service.asked host).files, rfl⟩
      | some text =>
        rw [fetch_answered service path hreply]
        exact takeAnswer_host _ _ _

/-! ## Faults of loading -/

/-- What the file of the kept bulletin is read as. -/
def Holds (service : Service) (host : Host) (content : FileContent) : Prop :=
  ∃ path, service.path = .ok path ∧ host.files.read? path = some content

/-- The text in the file of the kept bulletin. -/
def Keeps (service : Service) (host : Host) (text : String) : Prop :=
  service.Holds host (.text text)

/-- What escapes when a document of an answer is used is among the given faults. -/
structure UsedWithin (R : Fault → Prop) (document : String) : Prop where
  declared : Bulletin.read document = .error .entityDeclared → R .entityDeclared
  rates : Gives (fun b => FailsBy R (ratesOf b)) (Bulletin.read document)

/-- What escapes at the stations of loading is among the given faults. -/
structure LoadsWithin (R : Fault → Prop) (service : Service) (host : Host) : Prop where
  path : FailsBy R service.path
  decoded : ∀ front, service.Holds host (.garbled front) → R .undecodable
  declared : ∀ text, service.Keeps host text → Bulletin.read text = .error .entityDeclared →
    R .entityDeclared
  dated : ∀ text b, service.Keeps host text → Bulletin.read text = .ok b → ∀ days ∈ [0, -1],
    FailsBy R (Calendar.dateText host.zones service.zone host.now days)
  rates : ∀ b, service.kept? host = .ok (some b) → FailsBy R (ratesOf b)
  encoded : service.kept? host = .ok none → (nextReply host).text = .ok none → R .unencodable
  answered : service.kept? host = .ok none → ∀ text, (nextReply host).text = .ok (some text) →
    (Envelope.unwrap text = .error .entityDeclared → R .entityDeclared) ∧
      Gives (UsedWithin R) (Envelope.unwrap text)

section

variable {R : Fault → Prop} {service : Service} {host : Host}

theorem isFresh_fails
    (hdate : ∀ days ∈ [0, -1], FailsBy R (Calendar.dateText host.zones service.zone host.now days))
    (date : String) : FailsBy R (service.isFresh host date) := by
  refine (hdate 0 (by simp)).bind fun _ _ => ?_
  exact (hdate (-1) (by simp)).bind fun _ _ => .ok _

theorem bulletin?_fails {text : String}
    (hdeclared : Bulletin.read text = .error .entityDeclared → R .entityDeclared) :
    FailsBy R (bulletin? text) := by
  unfold bulletin?
  split
  next => exact .ok _
  next => exact .ok _
  next fault hrefused hfault =>
    obtain rfl := (Bulletin.read_fails text fault hfault).eq_entityDeclared hrefused
    exact .error (hdeclared hfault)

theorem bulletin?_eq_some {text : String} {b : Bulletin} (h : bulletin? text = .ok (some b)) :
    Bulletin.read text = .ok b := by
  unfold bulletin? at h
  split at h
  next read =>
    cases h
    exact read
  next => cases h
  next => cases h

theorem LoadsWithin.kept?_fails (h : LoadsWithin R service host) :
    FailsBy R (service.kept? host) := by
  refine h.path.bind fun path hpath => ?_
  split
  next => exact .ok _
  next => exact .ok _
  next front hfile => exact .error (h.decoded front ⟨path, hpath, hfile⟩)
  next text hfile =>
    have hkeeps : service.Keeps host text := ⟨path, hpath, hfile⟩
    refine (bulletin?_fails (h.declared text hkeeps)).bind fun found hfound => ?_
    split
    next => exact .ok _
    next b =>
      have hdated := h.dated text b hkeeps (bulletin?_eq_some hfound)
      exact (isFresh_fails hdated b.date).bind fun _ _ => .ok _

/-- A kept bulletin that serves is the one in the file. -/
theorem kept?_eq_some {b : Bulletin} (h : service.kept? host = .ok (some b)) :
    ∃ text, service.Keeps host text ∧ Bulletin.read text = .ok b := by
  obtain ⟨path, hpath, h⟩ := bind_eq_ok_iff.1 h
  split at h
  next => cases h
  next => cases h
  next => cases h
  next text hfile =>
    obtain ⟨found, hfound, h⟩ := bind_eq_ok_iff.1 h
    split at h
    next => cases h
    next b' =>
      obtain ⟨fresh, -, h⟩ := bind_eq_ok_iff.1 h
      cases fresh with
      | false => cases h
      | true =>
        cases h
        exact ⟨text, ⟨path, hpath, hfile⟩, bulletin?_eq_some hfound⟩

theorem readAnswer_fails {text : String}
    (hdeclared : Envelope.unwrap text = .error .entityDeclared → R .entityDeclared)
    (hdocument : Gives (UsedWithin R) (Envelope.unwrap text)) :
    FailsBy (fun fault => Unread fault ∧ (fault = .entityDeclared → R fault))
      (readAnswer text) := by
  refine FailsBy.bind (fun fault hfault => ⟨Envelope.unwrap_fails text fault hfault, ?_⟩)
    fun document hunwrap => ?_
  · rintro rfl
    exact hdeclared hfault
  · refine FailsBy.bind (fun fault hfault => ⟨Bulletin.read_fails document fault hfault, ?_⟩)
      fun _ _ => .ok _
    rintro rfl
    exact (hdocument document hunwrap).declared hfault

theorem takeAnswer_fails {text : String}
    (hdeclared : Envelope.unwrap text = .error .entityDeclared → R .entityDeclared)
    (hdocument : Gives (UsedWithin R) (Envelope.unwrap text)) (path : String) (host : Host) :
    FailsBy R (takeAnswer path text host).1 := by
  unfold takeAnswer
  split
  next => exact .ok _
  next fault hrefused hfault =>
    obtain ⟨hunread, hwithin⟩ := readAnswer_fails hdeclared hdocument fault hfault
    exact .error (hwithin (hunread.eq_entityDeclared hrefused))
  next document b hanswer =>
    obtain ⟨document', hunwrap, h⟩ := bind_eq_ok_iff.1 hanswer
    obtain ⟨b', hread, h⟩ := bind_eq_ok_iff.1 h
    cases h
    exact (hdocument document hunwrap).rates b hread

/-- What escapes from loading escapes at one of its stations. -/
theorem LoadsWithin.load_fails (h : LoadsWithin R service host) :
    FailsBy R (service.load host).1 := by
  -- one case for each way that loading may take: no path, no kept text to judge, a kept bulletin
  -- that serves, and a request
  unfold load
  split
  next fault hfault => exact .error (h.path fault hfault)
  next fault hfault _ => exact .error (h.kept?_fails fault hfault)
  next b hsome _ => exact h.rates b hsome
  next path _ hnone =>
    cases hreply : (nextReply host).text with
    | error why =>
      rw [fetch_lost service path hreply]
      exact .ok _
    | ok answer =>
      cases answer with
      | none =>
        rw [fetch_unpaired service path hreply]
        exact .error (h.encoded hnone hreply)
      | some text =>
        obtain ⟨hdeclared, hdocument⟩ := h.answered hnone text hreply
        rw [fetch_answered service path hreply]
        exact takeAnswer_fails hdeclared hdocument path _

end

/-! ## What escapes -/

/-- The faults of loading that are not remembered. -/
inductive Escapes : Fault → Prop where
  | undecodable : Escapes .undecodable
  | unencodable : Escapes .unencodable
  | entityDeclared : Escapes .entityDeclared
  | unfit (num : Int) (den : Nat) : Escapes (.ratio (.outOfRange num den))
  | dateOutOfRange : Escapes .dateOutOfRange

/-- The service has a folder for its bulletins and counts its days in a zone that the host knows. -/
structure Ready (service : Service) (host : Host) : Prop where
  folder : ∃ folder, service.folder = some folder
  zone : ∃ zone, host.zones service.zone = some zone

section

variable {R : Fault → Prop} {service : Service} {host : Host}

/-- A date is missing in an unknown zone, and outside the years that dates are written for. -/
theorem dateText_fails (zones : Calendar.Zones) (name : String) (now : Calendar.Instant)
    (days : Int) :
    FailsBy (fun fault => fault = .unknownZone name ∧ zones name = none ∨ fault = .dateOutOfRange)
      (Calendar.dateText zones name now days) := by
  simp only [Calendar.dateText]
  split
  next =>
    split
    next hunknown => exact .error (.inl ⟨rfl, hunknown⟩)
    next =>
      split
      next => exact .ok _
      next => exact .error (.inr rfl)
  next => exact .error (.inr rfl)

theorem Ready.dateText_fails (ready : service.Ready host) (days : Int) :
    FailsBy Escapes (Calendar.dateText host.zones service.zone host.now days) := by
  intro fault hfault
  rcases Service.dateText_fails _ _ _ _ fault hfault with ⟨-, hunknown⟩ | rfl
  · obtain ⟨zone, hzone⟩ := ready.zone
    cases hzone.symm.trans hunknown
  · exact .dateOutOfRange

theorem ratesOf_fails {b : Bulletin} (positive : b.Positive) : FailsBy Escapes (ratesOf b) := by
  refine FailsBy.bind ?_ fun _ _ => .ok _
  refine (Bulletin.table_fails positive).mapError fun failure range => ?_
  cases failure with
  | outOfRange num den => exact .unfit num den
  | divisionByZero => exact range.elim
  | powerOutOfRange => exact range.elim

theorem positive_of_kept {b : Bulletin} (h : service.kept? host = .ok (some b)) : b.Positive := by
  obtain ⟨text, -, hread⟩ := kept?_eq_some h
  exact Bulletin.read_positive text b hread

end

/-! ## Questions one after the other -/

/-- The answers to questions that are asked one after the other, and the desk after them. -/
def answers (service : Service) : List (String × String) → Desk → List (Except Fault Ratio) × Desk
  | [], desk => ([], desk)
  | (a, b) :: rest, desk =>
    let (answer, next) := (service.rate a b).start desk
    let (more, last) := service.answers rest next
    (answer :: more, last)

/-- The answer is a rate or a failed conversion. -/
def Settled (answer : Except Fault Ratio) : Prop :=
  FailsBy (fun fault => ∃ why, fault = .calculation (.conversion why)) answer

section

variable {service : Service} {desk : Desk}

/-- What is answered from a loaded table or a failure to load. -/
def answerFrom (service : Service) (a b : String) :
    Except LoadFailure RateTable → Except Fault Ratio
  | .ok table => (table.rate service.base a b).mapError .calculation
  | .error why => .error (unavailable why)

theorem answerFrom_settled (service : Service) (a b : String)
    (result : Except LoadFailure RateTable) : Settled (service.answerFrom a b result) := by
  cases result with
  | error why => exact .error ⟨_, rfl⟩
  | ok table =>
    refine FailsBy.mapError (Converts.crossRate table _ _ _) fun e he => ?_
    obtain ⟨why, rfl⟩ := he
    exact ⟨why, rfl⟩

/-- What is remembered answers by itself. -/
theorem start_rate_remembered (service : Service) (h : desk.memory ≠ .untried) (a b : String) :
    ∃ answer, (service.rate a b).start desk = (answer, desk) ∧ Settled answer := by
  obtain ⟨host, memory⟩ := desk
  cases memory with
  | untried => exact absurd rfl h
  | loaded table => exact ⟨_, start_bind .., service.answerFrom_settled a b (.ok table)⟩
  | failed why => exact ⟨_, start_bind .., service.answerFrom_settled a b (.error why)⟩

theorem start_rates (service : Service) (host : Host) :
    start service.rates ⟨host, .untried⟩ =
      (Outcome.rates (service.load host).1,
        ⟨(service.load host).2, Outcome.memory (service.load host).1⟩) := rfl

/-- An outcome of loading answers the question and is remembered. -/
theorem start_rate_loaded {host : Host} {result : Except LoadFailure RateTable}
    (h : (service.load host).1 = .ok result) (a b : String) :
    (service.rate a b).start ⟨host, .untried⟩ =
      (service.answerFrom a b result, ⟨(service.load host).2, Outcome.memory (.ok result)⟩) := by
  rw [rate, start_bind, start_rates, h]
  cases result <;> rfl

/-- A fault that is no outcome of loading is not remembered. -/
theorem start_rate_escaped {host : Host} {fault : Fault}
    (h : (service.load host).1 = .error fault) (a b : String) :
    (service.rate a b).start ⟨host, .untried⟩ =
      (.error fault, ⟨(service.load host).2, .untried⟩) := by
  rw [rate, start_bind, start_rates, h]
  rfl

theorem answers_cons {a b : String} {answer : Except Fault Ratio} {next : Desk}
    (h : (service.rate a b).start desk = (answer, next)) (rest : List (String × String)) :
    service.answers ((a, b) :: rest) desk =
      (answer :: (service.answers rest next).1, (service.answers rest next).2) := by
  rw [answers, h]

/-- Questions to a service that does not announce its requests are not seen at the terminal. -/
theorem toSource_leaves (quiet : service.debug = false) :
    service.toSource.Leaves fun desk => (desk.host.terminal, desk.host.printed) := by
  intro a b desk
  show _ = (desk.host.terminal, desk.host.printed)
  by_cases hmemory : desk.memory = .untried
  · obtain ⟨host, memory⟩ := desk
    cases hmemory
    have hdesk : ((service.rate a b).start ⟨host, .untried⟩).2.host = (service.load host).2 := by
      cases hload : (service.load host).1 with
      | ok result => rw [start_rate_loaded hload]
      | error fault => rw [start_rate_escaped hload]
    have hquiet : service.announced host = host := by
      rw [announced, quiet]
      rfl
    show (((service.rate a b).start ⟨host, .untried⟩).2.host.terminal, _) = _
    rw [toSource, hdesk]
    rcases service.load_host host with hsame | ⟨files, hasked⟩
    · rw [hsame]
    · rw [hasked, asked, hquiet]
  · obtain ⟨answer, hrate, -⟩ := start_rate_remembered service hmemory a b
    rw [toSource, hrate]

end

/-! ## Hosts without files -/

theorem kept?_of_no_file {service : Service} {host : Host} {path : String}
    (hpath : service.path = .ok path) (hfile : host.files.read? path = none) :
    service.kept? host = .ok none := by
  unfold kept?
  rw [hpath]
  simp only [bind, Except.bind, hfile]
  rfl

/-- Without a kept bulletin the next reply is taken in. -/
theorem load_of_no_file {service : Service} {host : Host} {path : String}
    (hpath : service.path = .ok path) (hfile : host.files.read? path = none) :
    service.load host = service.fetch path host := by
  rw [load, kept?_of_no_file hpath hfile, hpath]

end Service

theorem FileTree.read?_of_no_entries {tree : FileTree} (h : tree.entries = []) (path : String) :
    tree.read? path = none := by
  obtain ⟨start, entries⟩ := tree
  cases h
  have hnode : ∀ content, (⟨start, []⟩ : FileTree).at? path ≠ some (.file content) := by
    intro content hat
    obtain ⟨place, -, hplace⟩ := Option.bind_eq_some_iff.1 hat
    cases place with
    | nil => cases hplace
    | cons name rest => cases hplace
  unfold read?
  split
  next hat => exact absurd hat (hnode _)
  next hat => exact absurd hat (hnode _)
  next => rfl

/-- A desk without files at the beginning of 1970, and what becomes of its requests. -/
def Desk.bare (replies : List Reply) : Desk :=
  ⟨⟨⟨[], []⟩, "", [], ⟨0⟩, Calendar.Zone.given, replies, [], .fresh, ""⟩, .untried⟩

namespace Service

end Service

end Reckoner
