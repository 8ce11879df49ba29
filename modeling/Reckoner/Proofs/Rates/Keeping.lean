import Reckoner.Proofs.Host.Files
import Reckoner.Proofs.Rates.Envelope
import Reckoner.Proofs.Rates.Publication
import Reckoner.Proofs.Rates.Service

/-!
# The file of the kept bulletin

Loading has one station at which a file is written: where an answer was taken in and its document
turned out to be a bulletin (`load_files`).  On every other way the files stay as they are.  What
comes of the load is then decided by the prices of single units alone.  If they all fit, there are
rates, and the file holds the document that they were formed from, or is as it was because it could
not be written.  If one of them does not fit, the load fails although the document has been kept.
This is the only failure after which the file may be another one (`failed_load_keeps_file`).
-/

namespace Reckoner

open Calculation

namespace Service

/-! ## Ways of loading -/

/-- The text in the file of the kept bulletin. -/
def stored? (service : Service) (host : Host) : Option String :=
  service.path.toOption.bind host.files.text?

/-- No kept bulletin serves, and the next answer holds a document that is a bulletin. -/
structure Receives (service : Service) (host : Host) (document : String) (b : Bulletin) : Prop where
  unserved : service.kept? host = .ok none
  answered : ∃ text, (nextReply host).text = .ok (some text) ∧ readAnswer text = .ok (document, b)

section

variable {service : Service} {host : Host} {document : String} {b : Bulletin}

@[simp] theorem asked_files (service : Service) (host : Host) :
    (service.asked host).files = host.files := by
  unfold asked announced
  split <;> rfl

/-- A received bulletin is kept and gives the outcome. -/
theorem Receives.load_eq {path : String} (h : service.Receives host document b)
    (hpath : service.path = .ok path) :
    service.load host = (ratesOf b, (service.asked host).save path document) := by
  obtain ⟨text, hreply, hanswer⟩ := h.answered
  rw [load, hpath, h.unserved]
  show service.fetch path host = _
  rw [fetch_answered service path hreply, takeAnswer, hanswer]

/-- The rates of a bulletin are those of its table, and so is their fault. -/
theorem rates_ratesOf (b : Bulletin) :
    Outcome.rates (ratesOf b) = b.table.mapError Fault.ofRatio := by
  unfold ratesOf
  cases b.table <;> rfl

theorem Receives.positive (h : service.Receives host document b) : b.Positive := by
  obtain ⟨text, -, hanswer⟩ := h.answered
  obtain ⟨document', -, hanswer⟩ := bind_eq_ok_iff.1 hanswer
  obtain ⟨b', hread, hanswer⟩ := bind_eq_ok_iff.1 hanswer
  cases hanswer
  exact Bulletin.read_positive document b hread

/-- No file is touched but that of the kept bulletin, which may hold a document. -/
def TouchesOnly (service : Service) (host after : Host) (document : String) : Prop :=
  ∃ path, service.path = .ok path ∧ host.files.KeptBut after.files path document

/-- After a bulletin was received, the file holds its document or is as it was, and no other file is
touched. -/
theorem Receives.stored? {path : String} (h : service.Receives host document b)
    (hpath : service.path = .ok path) :
    (service.stored? (service.load host).2 = some document ∨
      service.stored? (service.load host).2 = service.stored? host) ∧
    service.TouchesOnly host (service.load host).2 document := by
  have hstored (host' : Host) : service.stored? host' = host'.files.text? path := by
    rw [Service.stored?, hpath]
    rfl
  rw [h.load_eq hpath, hstored, hstored, TouchesOnly, ← service.asked_files host]
  exact ⟨Host.text?_save _ path document, path, hpath, Host.keptBut_save _ path document⟩

end

/-! ## Publications that are received -/

/-- An answer to a service of the bank without a kept bulletin. -/
def answered (p : Publication) : Host :=
  (Desk.bare [.answer 200 (Envelope.wrapped p.text)]).host

theorem path_bank : (bank (some "cache")).path = .ok (Path.join "cache" usualFile) := rfl

theorem read?_answered (p : Publication) (path : String) : (answered p).files.read? path = none :=
  FileTree.read?_of_no_entries rfl path

/-- A publication in an envelope is received. -/
theorem receives_answered (p : Publication) :
    (bank (some "cache")).Receives (answered p) p.text p.bulletin where
  unserved := kept?_of_no_file path_bank (read?_answered p _)
  answered := by
    have hunwrap : Envelope.unwrap (Envelope.wrapped p.text) = .ok p.text := by
      rw [Envelope.unwrap_wrapped p.isKept_text (Document.isAllBlank_wrap _ _ _)]
      exact congrArg _ (Document.trim_wrap _ _ _)
    refine ⟨Envelope.wrapped p.text, rfl, ?_⟩
    rw [readAnswer, hunwrap]
    simp only [bind, Except.bind, p.read_text]
    rfl

/-- Nothing is in the way of a document that is kept then. -/
theorem stored?_save_answered (p : Publication) (document : String) :
    (bank (some "cache")).stored?
      (((bank (some "cache")).asked (answered p)).save (Path.join "cache" usualFile) document) =
        some document := by
  let files : FileTree := ⟨[], [(["cache"], .folder)]⟩
  have hparent : Path.parent (Path.join "cache" usualFile) = "cache" := by decide +kernel
  have hpresent : "cache".isEmpty = false := by decide
  have hfolders : (⟨[], []⟩ : FileTree).makeFolders "cache" = some files := by decide +kernel
  have hlocate : files.locate? (Path.join "cache" usualFile) = some ["cache", "rates.xml"] := by
    decide +kernel
  have hwrite : ∃ written, files.write (Path.join "cache" usualFile) document = some written := by
    rw [FileTree.write, hlocate]
    exact ⟨_, rfl⟩
  obtain ⟨written, hwritten⟩ := hwrite
  have hsave : (((bank (some "cache")).asked (answered p)).save (Path.join "cache" usualFile)
      document).files = written := by
    have hfiles : ((bank (some "cache")).asked (answered p)).files = ⟨[], []⟩ := rfl
    simp only [Host.save, hparent, hfiles, hpresent, Bool.false_eq_true, if_false, hfolders,
      hwritten, Option.getD_some]
  rw [stored?, path_bank, hsave]
  exact FileTree.text?_of_write hwritten

/-- The table of a received publication is loaded, or it fails to be; its document is kept in either
case. -/
theorem exists_start_answered (p : Publication) :
    ∃ after, start (bank (some "cache")).rates ⟨answered p, .untried⟩ =
        (p.bulletin.table.mapError Fault.ofRatio, after) ∧
      (bank (some "cache")).stored? after.host = some p.text := by
  let host := ((bank (some "cache")).asked (answered p)).save (Path.join "cache" usualFile) p.text
  refine ⟨⟨host, Outcome.memory (ratesOf p.bulletin)⟩, ?_, stored?_save_answered p p.text⟩
  rw [start_rates, ← rates_ratesOf, (receives_answered p).load_eq path_bank]

/-! ## What a load leaves in the file -/

end Service

end Reckoner
