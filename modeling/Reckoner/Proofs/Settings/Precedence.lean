import Reckoner.Proofs.Settings.Manager
import Reckoner.Settings.Registry

/-!
# Which value of a setting counts

Four layers may give a value for a key: what was set since the file was last loaded, the overrides
of that load, the block that was selected by it, and the home block.  However a manager is used, it
answers with the first layer in this order that has the key.  Loading copies the home block into the
selected one and writes overrides and settings over it, so that the layers are not kept apart in the
store; `Layers` keeps them apart, and every use of a manager carries the agreement on.
-/

namespace Reckoner.Settings

open Text

/-! ## Layers -/

/-- The layers that give a manager its answers: what the file held and the block and overrides with
which it was last loaded, and what was set since, the last value at the end. -/
structure Layers where
  file : FileContent
  block : String
  overrides : Overrides
  changes : Overrides

/-- The text that counts for a key, which is in lower case. -/
def Layers.value? (l : Layers) (key : String) : Option String :=
  (lastText? l.changes key).or <| (lastText? (settable l.overrides) key).or <|
    (written? l.file l.block key).or (written? l.file homeBlock key)

/-! ## Uses -/

/-- A use that is made of a manager. -/
inductive Use where
  /-- The file is loaded, for another block if one is named. -/
  | load (files : FileTree) (block : Option String) (overrides : Overrides)
  | set (key : String) (value : Value)
  | exists? (key : String)
  | get (key : String) (instead : Value) (silent : Bool) (kind : String)

namespace Use

/-- A use as a step of the manager. -/
def step : Use → Step Unit
  | load files block overrides => Manager.load files block overrides
  | set key value => Manager.set key value
  | exists? key => do
    let m ← Step.manager
    let _ ← Step.ofExcept (m.exists? key)
  | get key instead silent kind => do
    let _ ← Manager.get key instead silent kind

/-- The values of a use, and those of the file that it loads from a path, refer to nothing. -/
def Plain (path : String) : Use → Prop
  | load files _ overrides => (∀ content, files.read? path = some content → PlainFile content) ∧
      ∀ entry ∈ overrides, PlainText entry.2.toText
  | set _ value => PlainText value.toText
  | exists? _ => True
  | get .. => True

/-- The layers after a use of a manager whose file is at a path. -/
def layers (path : String) (l : Layers) : Use → Layers
  | load files block overrides =>
    ⟨(files.read? path).getD (.text ""), block.getD l.block, overrides, []⟩
  | set key value => { l with changes := l.changes ++ [(key, value)] }
  | exists? _ => l
  | get .. => l

end Use

/-- The manager answers as the layers say. -/
def Manager.Follows (m : Manager) (path : String) (l : Layers) : Prop :=
  m.Answers path l.block l.value?

/-- Loading sets up the agreement, whatever the manager held before. -/
theorem Use.ensures_load {m : Manager} {l : Layers} (hblock : m.block = l.block) {files : FileTree}
    {block : Option String} {overrides : Overrides}
    (plain : (load files block overrides).Plain m.path) :
    (Manager.load files block overrides).Ensures m fun _ m' =>
      m'.Follows m.path ((load files block overrides).layers m.path l) := by
  refine (Manager.ensures_load plain.1 plain.2).mono ?_
  rintro _ m' ⟨content, found, answers⟩
  obtain rfl : (files.read? m.path).getD (.text "") = content := by rw [found, Option.getD_some]
  rw [hblock] at answers
  exact answers

/-- A use carries the agreement on. -/
theorem Use.ensures_step {m : Manager} {path : String} {l : Layers} (h : m.Follows path l)
    (use : Use) (plain : use.Plain path) :
    use.step.Ensures m fun _ m' => m'.Follows path (use.layers path l) := by
  cases use with
  | load files block overrides =>
    obtain ⟨rfl, hblock, -⟩ := h
    exact ensures_load hblock plain
  | set key value =>
    refine (Manager.ensures_set h plain).mono fun _ m' answers => ?_
    have added : Layers.value? (Use.layers path l (.set key value)) =
        Function.update l.value? (lower key) (some value.toText) := overlay_concat ..
    rw [Manager.Follows, added]
    exact answers
  | exists? key => exact .bind (.manager (.bind (.ofExcept fun _ _ => .pure h)))
  | get key instead silent kind =>
    refine .bind ?_
    intro printed _ m' after run
    obtain ⟨_, eq⟩ := Manager.get_run (h.lookup key) instead silent kind printed
    obtain rfl : m = m' := congrArg (·.2.1) (eq.symm.trans run)
    exact .pure h

/-- The agreement holds after any sequence of uses. -/
theorem Use.ensures_forM {m : Manager} {path : String} {l : Layers} (h : m.Follows path l)
    (uses : List Use) (plain : ∀ use ∈ uses, use.Plain path) :
    (uses.forM Use.step).Ensures m fun _ m' =>
      m'.Follows path (uses.foldl (Use.layers path) l) := by
  induction uses generalizing m l with
  | nil => exact .pure h
  | cons use rest ih =>
    obtain ⟨first, others⟩ := List.forall_mem_cons.1 plain
    exact .bind ((use.ensures_step h first).mono fun _ _ next => ih next others)

/-! ## From the making of a manager on -/

namespace Wish

/-- The use with which the manager of a wish begins. -/
def opening (wish : Wish) (host : Host) : Use := .load host.files none wish.overrides

/-- The manager of a wish is made and used. -/
def run (wish : Wish) (host : Host) (uses : List Use) : Step Unit := do
  wish.load host
  uses.forM Use.step

/-- The layers once the manager of a wish has been made and used. -/
def layers (wish : Wish) (host : Host) (uses : List Use) : Layers :=
  (wish.opening host :: uses).foldl (Use.layers (wish.manager host).path)
    ⟨.text "", wish.block, [], []⟩

variable {wish : Wish} {host : Host} {uses : List Use}

theorem ensures_run
    (plain : ∀ use ∈ wish.opening host :: uses, use.Plain (wish.manager host).path) :
    (wish.run host uses).Ensures (wish.manager host) fun _ m =>
      m.Follows (wish.manager host).path (wish.layers host uses) := by
  obtain ⟨first, others⟩ := List.forall_mem_cons.1 plain
  have block : (wish.manager host).block = (Layers.mk (.text "") wish.block [] []).block := rfl
  refine .bind (.bind (.sayIf ((Use.ensures_load block first).mono fun _ m follows => ?_)))
  exact Use.ensures_forM follows uses others

/-- However a manager is made and used, the first layer that has a key gives its text, a key exists
if some layer has it, and setting a key leaves the answers for all other keys as they are. -/
theorem answers_by_layers {m : Manager} {printed : String}
    (plain : ∀ use ∈ wish.opening host :: uses, use.Plain (wish.manager host).path)
    (success : (wish.run host uses).start (wish.manager host) = (.ok (), m, printed)) :
    (∀ key silent kind, Kind.find? kind = .ok .string → ∃ said,
      (Manager.get key Manager.noDefault silent kind).start m =
        (.ok (((wish.layers host uses).value? (lower key)).elim .nothing .text), m, said)) ∧
    (∀ key, m.exists? key = .ok ((wish.layers host uses).value? (lower key)).isSome) ∧
    ∀ key value, PlainText value.toText → value.isWritable = true → ∃ m',
      (Manager.set key value).start m = (.ok (), m', "") ∧
        ∀ other, lower other ≠ lower key → m'.exists? other = m.exists? other ∧
          ∀ instead silent kind, ((Manager.get other instead silent kind).start m').1 =
            ((Manager.get other instead silent kind).start m).1 := by
  have follows := ensures_run plain "" () m printed success
  refine ⟨?_, follows.exists?, ?_⟩
  · intro key silent kind string
    obtain ⟨said, get⟩ := Manager.get_run (follows.lookup key) Manager.noDefault silent kind ""
    rw [Manager.reply_string string silent] at get
    exact ⟨said, get⟩
  · intro key value plainValue writable
    obtain ⟨m', set, changed⟩ := follows.set key plainValue writable
    refine ⟨m', set "", fun other different => ?_⟩
    have same := Function.update_of_ne different (some value.toText) (layers wish host uses).value?
    refine ⟨?_, fun instead silent kind => ?_⟩
    · rw [changed.exists?, follows.exists?, same]
    · obtain ⟨_, after⟩ := Manager.get_run (changed.lookup other) instead silent kind ""
      obtain ⟨_, before⟩ := Manager.get_run (follows.lookup other) instead silent kind ""
      rw [same] at after
      exact (congrArg (·.1) after).trans (congrArg (·.1) before).symm

/-- The settings of an office. -/
def officeText : String :=
  "[default]\nColor: red\nshape: round\n[office]\nshape=square\nsize=3\n"

/-- The files that hold them. -/
def officeFiles : FileTree := ⟨[], [(["office.ini"], .file (.text officeText))]⟩

/-- A host with these files and nothing else. -/
def officeHost : Host :=
  ⟨officeFiles, "", [], ⟨0⟩, Calendar.Zone.given, [], [], .fresh, ""⟩

/-- The office is wished for, with overrides of which one is not open to them. -/
def office : Wish :=
  ⟨some "office.ini", "office", pathVariable, ⟨false, false, true⟩,
    [("SIZE", .integer 4), ("config_path", .text "elsewhere.ini")]⟩

/-- The shape is set before the file is loaded once more, and the size after it. -/
def officeUses : List Use :=
  [.set "Shape" (.text "flat"), .get "color" (.flag true) true "boolean",
    .load officeFiles none [("Height", .nothing), ("config_path", .text "elsewhere.ini")],
    .exists? "SHAPE", .set "SIZE" (.integer 5)]

theorem plainFile_officeText : PlainFile (.text officeText) := by
  have read : (Store.ofFile (.text officeText)).1 = ⟨[],
      [("default", [("color", "red"), ("shape", "round")]),
        ("office", [("shape", "square"), ("size", "3")])]⟩ := by decide
  exact .of_store read rfl (by decide)

/-- Every layer gives one of the answers: the size was set, the height was overridden, the shape is
that of the block, and the color that of the home block. -/
theorem office_answers : ∃ m printed,
    (office.run officeHost officeUses).start (office.manager officeHost) = (.ok (), m, printed) ∧
      (∀ entry ∈ [("Size", "5"), ("height", "None"), ("shape", "square"), ("COLOR", "red")],
        ∃ said, (Manager.get entry.1 Manager.noDefault true "string").start m =
          (.ok (.text entry.2), m, said)) ∧
      m.exists? "Config_Path" = .ok false ∧
      ∃ m', (Manager.set "Color" (.text "blue")).start m = (.ok (), m', "") ∧
        m'.exists? "config_path" = m.exists? "config_path" := by
  have loaded (overrides : Overrides) (plain : ∀ entry ∈ overrides, PlainText entry.2.toText) :
      (Use.load officeFiles none overrides).Plain "office.ini" := by
    refine ⟨fun content found => ?_, plain⟩
    have : officeFiles.read? "office.ini" = some (.text officeText) := by decide +kernel
    cases this.symm.trans found
    exact plainFile_officeText
  have path : (office.manager officeHost).path = "office.ini" := by decide +kernel
  have plain : ∀ use ∈ office.opening officeHost :: officeUses,
      use.Plain (office.manager officeHost).path := by
    have shape : PlainText (Value.text "flat").toText := by decide
    have size : PlainText (Value.integer 5).toText := by decide
    rw [path]
    simp only [officeUses, List.forall_mem_cons]
    exact ⟨loaded _ (by decide), shape, trivial, loaded _ (by decide), trivial,
      size, nofun⟩
  have success : ((office.run officeHost officeUses).start (office.manager officeHost)).1 =
      .ok () := by decide +kernel
  obtain ⟨get, exist, set⟩ := answers_by_layers plain (Prod.ext success rfl)
  refine ⟨_, _, Prod.ext success rfl, ?_, ?_, ?_⟩
  · intro entry hentry
    have text : ((office.layers officeHost officeUses).value? (lower entry.1)) = some entry.2 := by
      revert entry
      decide +kernel
    have := get entry.1 true "string" (by decide +kernel)
    rwa [text] at this
  · rw [exist]
    decide +kernel
  · obtain ⟨m', set, others⟩ := set "Color" (.text "blue") (by decide) rfl
    exact ⟨m', set, (others "config_path" (by decide)).1⟩

end Wish

end Reckoner.Settings
