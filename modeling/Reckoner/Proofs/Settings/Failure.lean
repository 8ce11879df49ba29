import Reckoner.Proofs.Settings.Precedence

/-!
# When loading fails

Loading puts the block asked for and the settings of the file in place, as far as these can be read,
before it looks at what is wrong with the file, and it sets the overrides one after the other.
Nothing of this is taken back when a later step fails: only a missing file is noticed before
anything is replaced.

Loading is the reading of the file (`Manager.prepare`) and then the overrides (`load_eq`).  A loop
that fails has done all that comes before the round at which it fails (`forIn_eq_error`).
-/

namespace Reckoner.Settings

open Text

variable {α β : Type}

/-! ## Failing runs -/

namespace Step

variable {step : Step α} {next : α → Step β} {s t : Manager × String} {e : SettingsFault}

theorem bind_run_congr (h : step.run s = step.run t) :
    (step >>= next).run s = (step >>= next).run t := by
  rcases hstep : step.run t with ⟨e | a, u⟩
  · rw [bind_run_error hstep, bind_run_error (h.trans hstep)]
  · rw [bind_run_ok hstep, bind_run_ok (h.trans hstep)]

/-- Two steps that fail do so at the first or at the second. -/
theorem bind_eq_error (h : (step >>= next).run s = (.error e, t)) :
    step.run s = (.error e, t) ∨
      ∃ a u, step.run s = (.ok a, u) ∧ (next a).run u = (.error e, t) := by
  rcases hstep : step.run s with ⟨f | a, u⟩
  · rw [bind_run_error hstep] at h
    cases h
    exact .inl rfl
  · rw [bind_run_ok hstep] at h
    exact .inr ⟨a, u, rfl, h⟩

theorem sayIf_run (condition : Bool) (text : String) (m : Manager) (printed : String) :
    ∃ after, (sayIf condition text).run (m, printed) = (.ok (), m, after) := by
  cases condition with
  | false => exact ⟨printed, rfl⟩
  | true => exact ⟨printed ++ text, rfl⟩

/-- A loop whose rounds have no results. -/
def each (xs : List β) (body : β → Step Unit) : Step PUnit :=
  forIn xs ⟨⟩ fun x _ => do
    body x
    pure (.yield ⟨⟩)

theorem each_cons (x : β) (xs : List β) (body : β → Step Unit) :
    each (x :: xs) body = body x >>= fun _ => each xs body := by
  rw [each, List.forIn_cons, bind_assoc]
  rfl

/-- A loop that fails has gone through what comes before the round at which it fails. -/
theorem each_eq_error {xs : List β} {body : β → Step Unit}
    (h : (each xs body).run s = (.error e, t)) :
    ∃ before x after u, xs = before ++ x :: after ∧ (each before body).run s = (.ok ⟨⟩, u) ∧
      (body x).run u = (.error e, t) := by
  induction xs generalizing s with
  | nil => cases h
  | cons x rest ih =>
    rw [each_cons] at h
    rcases bind_eq_error h with h | ⟨a, u, hx, h⟩
    · exact ⟨[], x, rest, s, rfl, rfl, h⟩
    · obtain ⟨before, y, after, v, rfl, hbefore, hy⟩ := ih h
      refine ⟨x :: before, y, after, v, rfl, ?_, hy⟩
      rw [each_cons, bind_run_ok hx]
      exact hbefore

end Step

/-! ## What is kept -/

/-- A manager that differs from another only in its store, which has all the blocks of the other. -/
structure Manager.Refills (m m' : Manager) : Prop where
  eq : m' = { m with store := m'.store }
  blocks : ∀ name, m.store.blocks.has name = true → m'.store.blocks.has name = true

namespace Manager.Refills

variable {m m' m'' : Manager}

theorem refl (m : Manager) : m.Refills m := ⟨rfl, fun _ h => h⟩

theorem trans (h : m.Refills m') (h' : m'.Refills m'') : m.Refills m'' where
  eq := by rw [h'.eq, h.eq]
  blocks := fun name has => h'.blocks name (h.blocks name has)

end Manager.Refills

/-- However the step ends, it leaves all but the store of a manager, and no block is lost. -/
def Step.Refills (step : Step α) : Prop :=
  ∀ (m : Manager) (printed : String), m.Refills (step.run (m, printed)).2.1

namespace Step.Refills

variable {step : Step α} {next : α → Step β}

theorem of_run {m m' : Manager} {printed after : String} {result : Except SettingsFault α}
    (h : step.Refills) (hrun : step.run (m, printed) = (result, m', after)) : m.Refills m' := by
  have hrefills := h m printed
  rwa [hrun] at hrefills

theorem pure (a : α) : Refills (Pure.pure a : Step α) := fun m _ => .refl m

theorem ofExcept (result : Except SettingsFault α) : Refills (Step.ofExcept result) :=
  fun m _ => .refl m

theorem manager : Refills Step.manager := fun m _ => .refl m

theorem sayIf (condition : Bool) (text : String) : Refills (Step.sayIf condition text) := by
  intro m printed
  obtain ⟨after, hrun⟩ := Step.sayIf_run condition text m printed
  rw [hrun]
  exact .refl m

theorem bind (h : step.Refills) (h' : ∀ a, (next a).Refills) : (step >>= next).Refills := by
  intro m printed
  rcases hstep : step.run (m, printed) with ⟨e | a, m', after⟩
  · rw [Step.bind_run_error hstep]
    exact h.of_run hstep
  · rw [Step.bind_run_ok hstep]
    exact (h.of_run hstep).trans (h' a m' after)

theorem forIn {body : β → PUnit → Step (ForInStep PUnit)} (h : ∀ x, (body x ⟨⟩).Refills)
    (xs : List β) : Step.Refills (ForIn.forIn xs ⟨⟩ body) := by
  induction xs with
  | nil => exact .pure _
  | cons x xs ih =>
    rw [List.forIn_cons]
    refine .bind (h x) fun r => ?_
    cases r with
    | done => exact .pure _
    | yield => exact ih

end Step.Refills

/-- Setting a key keeps every block. -/
theorem Store.has_of_set {store store' : Store} {name key text : String}
    (h : store.set name key text = .ok store') {other : String}
    (has : store.blocks.has other = true) : store'.blocks.has other = true := by
  unfold set at h
  cases hcheck : Reference.check text with
  | error e =>
    rw [hcheck] at h
    cases h
  | ok _ =>
    rw [hcheck] at h
    change store.enter name key text = _ at h
    unfold enter at h
    split at h
    next =>
      cases h
      exact has
    next =>
      cases hblock : store.block name with
      | error e =>
        rw [hblock] at h
        cases h
      | ok own =>
        rw [hblock] at h
        cases h
        simp only [Entries.has, Entries.value?_enter]
        split
        next => rfl
        next => exact has

/-- A text that cannot be set in a block is refused itself, if there is the block. -/
theorem Store.check_of_set {store : Store} {name key text : String} {e : SettingsFault}
    (h : store.set name key text = .error e) (has : store.blocks.has name = true) :
    Reference.check text = .error e := by
  obtain ⟨own, hown⟩ := Option.isSome_iff_exists.1 has
  have block : store.block name = .ok own := by rw [Store.block, hown]
  unfold set enter at h
  rw [block] at h
  cases hcheck : Reference.check text with
  | error f =>
    rw [hcheck] at h
    cases h
    rfl
  | ok u =>
    rw [hcheck] at h
    dsimp only [Bind.bind, Except.bind] at h
    split at h <;> cases h

namespace Manager

theorem set_refills (key : String) (value : Value) : (set key value).Refills := by
  intro m printed
  rw [set_run]
  split
  next store h =>
    obtain ⟨text, -, h⟩ := exists_of_stored h
    exact ⟨rfl, fun _ has => Store.has_of_set h has⟩
  next => exact .refl m

theorem inherit_refills (key : String) : (inherit key).Refills := by
  intro m printed
  have stored (printed : String) : m.Refills ((do
      let text ← Step.ofExcept (m.store.written? homeBlock key)
      let store ← Step.ofExcept (m.store.set m.block key (text.getD ""))
      Step.setStore store : Step Unit).run (m, printed)).2.1 := by
    cases m.store.written? homeBlock key with
    | error e => exact .refl m
    | ok text =>
      cases h : m.store.set m.block key (text.getD "") with
      | error e =>
        rw [Step.ofExcept_ok_bind, h]
        exact .refl m
      | ok store =>
        rw [Step.ofExcept_ok_bind, h]
        exact ⟨rfl, fun _ has => Store.has_of_set h has⟩
  unfold inherit
  rw [Step.manager_bind_run]
  dsimp only
  split
  next =>
    cases m.store.value? homeBlock key with
    | error e => exact .refl m
    | ok shown => exact stored _
  next => exact stored printed

theorem inheritAll_refills : inheritAll.Refills := by
  refine .bind .manager fun m => ?_
  split
  next => exact .pure _
  next =>
    refine .bind (.ofExcept _) fun own => .bind (.ofExcept _) fun keys => ?_
    refine .bind (.forIn (fun key => ?_) keys) fun _ => .pure _
    split
    next => exact .pure _
    next => exact .bind (inherit_refills key) fun _ => .pure _

theorem overrideKey_refills (key : String) (value : Value) : (overrideKey key value).Refills := by
  refine .bind .manager fun m => ?_
  dsimp only
  split
  next => exact Step.Refills.sayIf _ _
  next =>
    exact .bind (.ofExcept _) fun _ => .bind (Step.Refills.sayIf _ _) fun _ => set_refills key value

theorem overrideAll_refills (overrides : Overrides) : (overrideAll overrides).Refills := by
  unfold overrideAll
  split
  next => exact .bind .manager fun m => .sayIf _ _
  next =>
    refine .bind (.forIn (fun entry => ?_) overrides) fun _ => .pure _
    exact .bind (overrideKey_refills entry.1 entry.2) fun _ => .pure _

/-! ## Refused overrides -/

/-- An override fails by the text that is to be set, and leaves the manager as it is. -/
theorem overrideKey_eq_error {key : String} {value : Value} {m m' : Manager}
    {printed after : String} {e : SettingsFault}
    (h : (overrideKey key value).run (m, printed) = (.error e, m', after)) :
    isFixedKey key = false ∧ m' = m ∧ m.stored key value = .error e := by
  rw [overrideKey, Step.manager_bind_run] at h
  dsimp only at h
  split at h
  next =>
    obtain ⟨said, hrun⟩ := Step.sayIf_run (!m.voice.silent) _ m printed
    rw [hrun] at h
    cases h
  next free =>
    refine ⟨Bool.eq_false_iff.2 free, ?_⟩
    cases hwrite : value.write with
    | error f =>
      rw [hwrite] at h
      cases h
      exact ⟨rfl, by rw [stored, hwrite]; rfl⟩
    | ok text =>
      obtain ⟨said, hrun⟩ := Step.sayIf_bind_run m (!m.voice.silent)
        s!"Overriding [{key}] with [{text}]\n" printed
      rw [hwrite, Step.ofExcept_ok_bind, hrun, set_run] at h
      cases hstored : m.stored key value with
      | ok store =>
        rw [hstored] at h
        cases h
      | error f =>
        rw [hstored] at h
        cases h
        exact ⟨rfl, rfl⟩

theorem overrideAll_cons (entry : String × Value) (overrides : Overrides) :
    overrideAll (entry :: overrides) =
      Step.each (entry :: overrides) fun entry => overrideKey entry.1 entry.2 := by
  change (Step.each (entry :: overrides) fun entry => overrideKey entry.1 entry.2) >>=
    (fun _ => pure ()) = _
  exact bind_pure _

/-- Without overrides there is nothing to set. -/
theorem overrideAll_nil_run (m : Manager) (printed : String) :
    ∃ said, (overrideAll []).run (m, printed) = (.ok (), m, said) := by
  change ∃ said, (Step.sayIf m.voice.debug "Skipping cli_args processing\n").run (m, printed) = _
  exact Step.sayIf_run ..

/-- If the overrides fail, those in front of the refused one have been set. -/
theorem overrideAll_eq_error {overrides : Overrides} {m m' : Manager} {printed after : String}
    {e : SettingsFault}
    (h : (overrideAll overrides).run (m, printed) = (.error e, m', after)) :
    ∃ before key value rest, overrides = before ++ (key, value) :: rest ∧
      isFixedKey key = false ∧ m'.stored key value = .error e ∧
      ∃ said, (overrideAll before).run (m, printed) = (.ok (), m', said) := by
  cases overrides with
  | nil =>
    obtain ⟨said, hrun⟩ := overrideAll_nil_run m printed
    rw [hrun] at h
    cases h
  | cons entry overrides =>
    rw [overrideAll_cons] at h
    obtain ⟨before, ⟨key, value⟩, rest, ⟨u, said⟩, hsplit, hbefore, hkey⟩ := Step.each_eq_error h
    obtain ⟨free, rfl, hstored⟩ := overrideKey_eq_error hkey
    refine ⟨before, key, value, rest, hsplit, free, hstored, ?_⟩
    cases before with
    | nil =>
      cases hbefore
      exact overrideAll_nil_run m printed
    | cons first before => exact ⟨said, (overrideAll_cons first before).symm ▸ hbefore⟩

/-! ## Loading -/

/-- Makes sure of the home block and of the block asked for, and takes over from the one to the
other. -/
def adopt (block : String) (notes : Bool) (note : String) : Step Unit := do
  requireBlock homeBlock
  requireBlock block
  Step.sayIf notes note
  inheritAll

/-- Reads the settings file, for another block if one is named, and takes over from the home
block. -/
def prepare (files : FileTree) (block : Option String) : Step Unit := do
  let ⟨path, old, _, voice⟩ ← Step.manager
  match files.read? path with
  | none => throw (.noFile path)
  | some content => do
    let heading := s!"Initializing configuration_manager [{path}]"
    Step.sayIf (!voice.silent) { Banner.plain heading with spaced := true }.text
    let name := block.getD old
    let (store, fault) := Store.ofFile content
    modify fun (m, printed) => ({ m with block := name, store := store }, printed)
    Step.failIf fault
    adopt name (voice.debug && voice.verbose && !voice.silent)
      s!"Path: {path}\nBlock ID: {name}\n\n"

/-- Loading prepares the block and sets the overrides. -/
theorem load_eq (files : FileTree) (block : Option String) (overrides : Overrides) :
    load files block overrides = prepare files block >>= fun _ => overrideAll overrides := by
  unfold load prepare
  rw [bind_assoc]
  refine congrArg _ (funext fun m => ?_)
  cases hread : files.read? m.path with
  | none =>
    simp only [hread]
    rfl
  | some content =>
    simp only [hread, adopt, bind_assoc]

theorem requireBlock_run {m : Manager} {name : String} (h : m.store.blocks.has name = true)
    (printed : String) : (requireBlock name).run (m, printed) = (.ok (), m, printed) := by
  change (if m.store.blocks.has name then pure () else throw (.unknownBlock name) : Step Unit).run
    (m, printed) = _
  rw [if_pos h]
  rfl

theorem requireBlock_run_error {m : Manager} {name : String}
    (h : m.store.blocks.has name = false) (printed : String) :
    (requireBlock name).run (m, printed) = (.error (.unknownBlock name), m, printed) := by
  change (if m.store.blocks.has name then pure () else throw (.unknownBlock name) : Step Unit).run
    (m, printed) = _
  rw [h]
  rfl

theorem adopt_cases (m : Manager) (block : String) (notes : Bool) (note printed : String) :
    ∃ said,
      (∃ name, (name = homeBlock ∨ name = block) ∧ m.store.blocks.has name = false ∧
        (adopt block notes note).run (m, printed) = (.error (.unknownBlock name), m, said)) ∨
      (m.store.blocks.has block = true ∧
        (adopt block notes note).run (m, printed) = inheritAll.run (m, said)) := by
  cases hhome : m.store.blocks.has homeBlock with
  | false =>
    exact ⟨printed, .inl ⟨homeBlock, .inl rfl, hhome,
      Step.bind_run_error (requireBlock_run_error hhome printed)⟩⟩
  | true =>
    rw [adopt, Step.bind_run_ok (requireBlock_run hhome printed)]
    cases hblock : m.store.blocks.has block with
    | false =>
      exact ⟨printed, .inl ⟨block, .inr rfl, hblock,
        Step.bind_run_error (requireBlock_run_error hblock printed)⟩⟩
    | true =>
      rw [Step.bind_run_ok (requireBlock_run hblock printed)]
      obtain ⟨said, hsaid⟩ := Step.sayIf_bind_run (α := Unit) m notes note printed
      exact ⟨said, .inr ⟨rfl, hsaid _⟩⟩

/-- The manager once the block asked for and some settings have taken the place of its own. -/
def replaced (m : Manager) (block : Option String) (store : Store) : Manager :=
  { m with block := block.getD m.block, store := store }

/-- A file that is there is read into a manager whose block and settings are replaced. -/
theorem prepare_run {files : FileTree} {content : FileContent} {m : Manager}
    (found : files.read? m.path = some content) (block : Option String) (printed : String) :
    ∃ said notes note, ∀ former : Store,
      (prepare files block).run ({ m with store := former }, printed) =
        match Store.ofFile content with
        | (store, some e) => (.error e, m.replaced block store, said)
        | (store, none) =>
          (adopt (block.getD m.block) notes note).run (m.replaced block store, said) := by
  obtain ⟨path, old, store, voice⟩ := m
  have found : files.read? path = some content := found
  let heading := s!"Initializing configuration_manager [{path}]"
  let banner := { Banner.plain heading with spaced := true }.text
  refine ⟨if voice.silent then printed else printed ++ banner,
    voice.debug && voice.verbose && !voice.silent,
    s!"Path: {path}\nBlock ID: {block.getD old}\n\n", fun former => ?_⟩
  rw [prepare, Step.manager_bind_run]
  simp only [found]
  rcases Store.ofFile content with ⟨store, _ | e⟩ <;> cases voice.silent <;> rfl

/-- What becomes of a manager whose file is read: there is no file, it is refused, a block is not in
it, or the block takes over from the home block. -/
theorem prepare_cases {files : FileTree} {block : Option String} {m m' : Manager}
    {printed after : String} {result : Except SettingsFault Unit}
    (h : (prepare files block).run (m, printed) = (result, m', after)) :
    (files.read? m.path = none ∧ result = .error (.noFile m.path) ∧ m' = m) ∨
    ∃ content store fault, files.read? m.path = some content ∧
      Store.ofFile content = (store, fault) ∧
      ((∃ e, fault = some e ∧ result = .error e ∧ m' = m.replaced block store) ∨
      (fault = none ∧
        ((∃ name, (name = homeBlock ∨ name = block.getD m.block) ∧ store.blocks.has name = false ∧
          result = .error (.unknownBlock name) ∧ m' = m.replaced block store) ∨
        (store.blocks.has (block.getD m.block) = true ∧
          ∃ said, inheritAll.run (m.replaced block store, said) = (result, m', after))))) := by
  cases found : files.read? m.path with
  | none =>
    rw [prepare, Step.manager_bind_run] at h
    simp only [found] at h
    cases h
    exact .inl ⟨rfl, rfl, rfl⟩
  | some content =>
    obtain ⟨said, notes, note, hrun⟩ := prepare_run found block printed
    rw [hrun m.store] at h
    rcases hread : Store.ofFile content with ⟨store, _ | e⟩
    · refine .inr ⟨content, store, none, rfl, hread, .inr ⟨rfl, ?_⟩⟩
      rw [hread] at h
      obtain ⟨said', ⟨name, hname, hhas, hadopt⟩ | ⟨hhas, hadopt⟩⟩ :=
        adopt_cases (m.replaced block store) (block.getD m.block) notes note said
      · cases hadopt.symm.trans h
        exact .inl ⟨name, hname, hhas, rfl, rfl⟩
      · exact .inr ⟨hhas, said', hadopt.symm.trans h⟩
    · rw [hread] at h
      cases h
      exact .inr ⟨content, store, some e, rfl, hread, .inl ⟨e, rfl, rfl, rfl⟩⟩

/-! ## Failed loads -/

/-- How loading fails, and which manager it leaves. -/
inductive LoadFails (files : FileTree) (block : Option String) (overrides : Overrides)
    (m : Manager) : SettingsFault → Manager → Prop where
  /-- There is no file.  Nothing has been replaced yet. -/
  | noFile : files.read? m.path = none → LoadFails files block overrides m (.noFile m.path) m
  /-- The file is refused.  What has been read of it is left. -/
  | malformed {content : FileContent} {store : Store} {e : SettingsFault} :
    files.read? m.path = some content → store.Refused content e →
    LoadFails files block overrides m e (m.replaced block store)
  /-- The home block or the block asked for is not in the file, whose settings are left. -/
  | unknownBlock {content : FileContent} {name : String} {store : Store} :
    files.read? m.path = some content → Store.ofFile content = (store, none) →
    name = homeBlock ∨ name = block.getD m.block → store.blocks.has name = false →
    LoadFails files block overrides m (.unknownBlock name) (m.replaced block store)
  /-- What the home block sets cannot be taken over. -/
  | inheritance {content : FileContent} {said after : String} {store : Store} {e : SettingsFault}
      {m' : Manager} :
    files.read? m.path = some content → Store.ofFile content = (store, none) →
    inheritAll.run (m.replaced block store, said) = (.error e, m', after) →
    m' = m.replaced block m'.store → LoadFails files block overrides m e m'
  /-- The text of an override is refused.  What is left is what the overrides in front of it make
  of the manager. -/
  | override {before rest : Overrides} {key said : String} {value : Value} {e : SettingsFault}
      {m' : Manager} :
    overrides = before ++ (key, value) :: rest → isFixedKey key = false →
    (do Reference.check (← value.write)) = .error e →
    (load files block before).start m = (.ok (), m', said) →
    m' = m.replaced block m'.store → LoadFails files block overrides m e m'

section

variable {files : FileTree} {block : Option String} {overrides : Overrides} {m m' : Manager}
  {e : SettingsFault} {printed after : String}

/-- Where the file has been read without a failure, the block asked for is there. -/
theorem prepare_ok (h : (prepare files block).run (m, printed) = (.ok (), m', after)) :
    m' = m.replaced block m'.store ∧ m'.store.blocks.has (block.getD m.block) = true := by
  obtain ⟨-, hresult, -⟩ | ⟨content, store, fault, -, -, ⟨e, -, hresult, -⟩ |
    ⟨-, ⟨name, -, -, hresult, -⟩ | ⟨hhas, said, hrun⟩⟩⟩ := prepare_cases h
  · cases hresult
  · cases hresult
  · cases hresult
  · have hrefills := inheritAll_refills.of_run hrun
    exact ⟨hrefills.eq, hrefills.blocks _ hhas⟩

/-- Where the file cannot be read, or the block cannot be set up, no override counts. -/
theorem prepare_fails (h : (prepare files block).run (m, printed) = (.error e, m', after)) :
    LoadFails files block overrides m e m' := by
  obtain ⟨hnone, hresult, rfl⟩ | ⟨content, store, fault, found, hread, ⟨f, rfl, hresult, rfl⟩ |
    ⟨rfl, ⟨name, hname, hhas, hresult, rfl⟩ | ⟨-, said, hrun⟩⟩⟩ := prepare_cases h
  · cases hresult
    exact .noFile hnone
  · cases hresult
    exact .malformed found (Store.ofFile_eq_some_iff.1 hread)
  · cases hresult
    exact .unknownBlock found hread hname hhas
  · exact .inheritance found hread hrun (inheritAll_refills.of_run hrun).eq

/-- A value that cannot be set in a block that is there is refused itself. -/
theorem check_of_stored {key : String} {value : Value} (h : m.stored key value = .error e)
    (has : m.store.blocks.has m.block = true) :
    (do Reference.check (← value.write)) = .error e := by
  unfold stored at h
  cases hwrite : value.write with
  | error f =>
    rw [hwrite] at h
    cases h
    rfl
  | ok text =>
    rw [hwrite] at h
    exact Store.check_of_set h has

/-- A failed load fails in one of the ways. -/
theorem load_fails (h : (load files block overrides).start m = (.error e, m', after)) :
    LoadFails files block overrides m e m' := by
  rw [Step.start, load_eq] at h
  rcases Step.bind_eq_error h with h | ⟨_, ⟨u, said⟩, hprepare, h⟩
  · exact prepare_fails h
  · obtain ⟨hu, hhas⟩ := prepare_ok hprepare
    obtain ⟨before, key, value, rest, rfl, free, hstored, said', hbefore⟩ := overrideAll_eq_error h
    have hrefills := (overrideAll_refills before).of_run hbefore
    have hm' : m' = m.replaced block m'.store := hrefills.eq.trans (by rw [hu]; rfl)
    have hload : (load files block before).start m = (.ok (), m', said') := by
      rw [Step.start, load_eq, Step.bind_run_ok hprepare]
      exact hbefore
    have hthere : m'.store.blocks.has m'.block = true := by
      rw [hm']
      exact hrefills.blocks _ hhas
    exact .override rfl free (check_of_stored hstored hthere) hload hm'

/-- A missing file is noticed before anything is replaced. -/
theorem load_noFile (hnone : files.read? m.path = none) :
    (load files block overrides).start m = (.error (.noFile m.path), m, "") := by
  rw [Step.start, load, Step.manager_bind_run]
  simp only [hnone]
  rfl

/-- Unless the file is missing, the settings that a manager had do not matter. -/
theorem load_forgets {content : FileContent} (found : files.read? m.path = some content)
    (former : Store) :
    (load files block overrides).start { m with store := former } =
      (load files block overrides).start m := by
  obtain ⟨said, notes, note, hrun⟩ := prepare_run found block ""
  have same : (prepare files block).run ({ m with store := former }, "") =
      (prepare files block).run (m, "") := (hrun former).trans (hrun m.store).symm
  rw [Step.start, load_eq, Step.start]
  exact Step.bind_run_congr same

/-- A file that is refused has taken the place of the former settings, as far as it was read. -/
theorem load_malformed {content : FileContent} {store : Store} {fault : SettingsFault}
    (found : files.read? m.path = some content)
    (hread : Store.ofFile content = (store, some fault)) :
    ∃ said,
      (load files block overrides).start m = (.error fault, m.replaced block store, said) := by
  obtain ⟨said, notes, note, hrun⟩ := prepare_run found block ""
  have hfails := hrun m.store
  rw [hread] at hfails
  refine ⟨said, ?_⟩
  rw [Step.start, load_eq]
  exact Step.bind_run_error hfails

/-- A manager with the settings of a plain file answers for a block of it with what the block sets
itself. -/
theorem replaced_answers {content : FileContent} (plain : PlainFile content)
    (has : (Store.ofFile content).1.blocks.has (block.getD m.block) = true) :
    (m.replaced block (Store.ofFile content).1).Answers m.path (block.getD m.block)
      (written? content (block.getD m.block)) :=
  ⟨rfl, rfl, plain.answers has⟩

/-- A block that is not there has no answers. -/
theorem answers_of_noBlock (h : m.store.blocks.has m.block = false) (key : String) :
    m.exists? key = .error (.noBlock m.block) ∧ ∀ instead silent kind,
      ((get key instead silent kind).start m).1 = .error (.noBlock m.block) := by
  have hkeys : m.store.keys m.block = .error (.noBlock m.block) := by
    have hnone := Option.isSome_eq_false_iff.1 h
    rw [Store.keys, Store.block, Option.isNone_iff_eq_none.1 hnone]
    rfl
  refine ⟨?_, fun instead silent kind => ?_⟩
  · rw [exists?, hkeys]
    rfl
  · have hlookup : m.lookup key = .error (.noBlock m.block) := by
      rw [lookup, hkeys]
      rfl
    rw [Step.start, get, Step.manager_bind_run, hlookup]
    rfl

/-- A failed load is harmless only if the file is missing.  Otherwise the block asked for has taken
the place of the former one, whose settings no longer matter: left are the settings of the file, as
far as they could be read and taken over, with the overrides in front of a refused one.  After a
file that is refused, a block answers with what it sets in the part that was read, and with nothing
of the home block.  If the block is not there, no key has an answer any more. -/
theorem failed_load_replaces (h : (load files block overrides).start m = (.error e, m', after)) :
    LoadFails files block overrides m e m' ∧
    (files.read? m.path = none → e = .noFile m.path ∧ m' = m) ∧
    (∀ content, files.read? m.path = some content → ∀ former : Store,
      (load files block overrides).start { m with store := former } = (.error e, m', after)) ∧
    (∀ content store fault, files.read? m.path = some content →
      Store.ofFile content = (store, some fault) →
      e = fault ∧ m' = m.replaced block store ∧
        (PlainFile content → store.blocks.has m'.block = true → ∀ key,
          m'.exists? key = .ok (written? content m'.block (lower key)).isSome ∧
          ∀ instead silent kind, ((get key instead silent kind).start m').1 =
            reply (written? content m'.block (lower key)) instead silent kind)) ∧
    (m'.store.blocks.has m'.block = false → ∀ key,
      m'.exists? key = .error (.noBlock m'.block) ∧ ∀ instead silent kind,
        ((get key instead silent kind).start m').1 = .error (.noBlock m'.block)) := by
  refine ⟨load_fails h, fun hnone => ?_, fun _ found former => (load_forgets found former).trans h,
    fun content store fault found hread => ?_, answers_of_noBlock⟩
  · cases h.symm.trans (load_noFile hnone)
    exact ⟨rfl, rfl⟩
  · obtain ⟨said, hload⟩ : ∃ said, (load files block overrides).start m = _ :=
      load_malformed found hread
    cases h.symm.trans hload
    refine ⟨rfl, rfl, fun plain has key => ?_⟩
    obtain rfl : (Store.ofFile content).1 = store := congrArg Prod.fst hread
    have answers := replaced_answers (m := m) plain has
    refine ⟨answers.exists? key, fun instead silent kind => ?_⟩
    obtain ⟨_, hget⟩ := get_run (answers.lookup key) instead silent kind ""
    exact congrArg (·.1) hget

end

end Manager

/-! ## The settings of an office, loaded once more -/

namespace Wish

/-- The office's manager once it has been made. -/
def officeManager : Manager := ((office.load officeHost).start (office.manager officeHost)).2.1

/-- Two overrides for the office, the second of which is refused. -/
def officeOverrides : Overrides := [("Color", .text "blue"), ("shape", .text "50%")]

/-- The office's manager after it was sent to the attic. -/
def atticManager : Manager :=
  ((Manager.load officeFiles (some "attic") []).start officeManager).2.1

/-- The attic is not in the office's file. -/
theorem attic_unknown :
    ((Manager.load officeFiles (some "attic") []).start officeManager).1 =
        .error (.unknownBlock "attic") ∧
      atticManager.block = "attic" ∧ atticManager.store.blocks.has atticManager.block = false := by
  decide +kernel

/-- Settings of the office in which the size stands twice. -/
def spoiltText : String := "[office]\nsize=9\nSize=8\n[default]\ncolor=red\n"

/-- The files that hold them. -/
def spoiltFiles : FileTree := ⟨[], [(["office.ini"], .file (.text spoiltText))]⟩

theorem spoiltText_refused : Store.ofFile (.text spoiltText) =
    (⟨[], [("office", [("size", "9")])]⟩, some .repeatedKey) := by
  decide +kernel

/-- In the attic, of which the file knows nothing, no key has an answer.  Of two overrides the
second one is refused, while the first one stays.  In a spoilt file the first size counts, and the
color behind the second one does not. -/
theorem office_refused :
    (∃ m' after, (Manager.load officeFiles (some "attic") []).start officeManager =
        (.error (.unknownBlock "attic"), m', after) ∧
      m'.exists? "Shape" = .error (.noBlock "attic")) ∧
    (∃ m' after, (Manager.load officeFiles none officeOverrides).start officeManager =
        (.error (.badPercent "50%" 2), m', after) ∧
      Manager.LoadFails officeFiles none officeOverrides officeManager (.badPercent "50%" 2) m' ∧
      ((Manager.get "color" Manager.noDefault true "string").start m').1 = .ok (.text "blue")) ∧
    ∃ m' after, (Manager.load spoiltFiles none []).start officeManager =
        (.error .repeatedKey, m', after) ∧
      ((Manager.get "Size" Manager.noDefault true "string").start m').1 = .ok (.text "9") ∧
      m'.exists? "Color" = .ok false := by
  obtain ⟨attic, block, gone⟩ := attic_unknown
  obtain ⟨refused, color⟩ :
      ((Manager.load officeFiles none officeOverrides).start officeManager).1 =
        .error (.badPercent "50%" 2) ∧
      ((Manager.get "color" Manager.noDefault true "string").start
        ((Manager.load officeFiles none officeOverrides).start officeManager).2.1).1 =
          .ok (.text "blue") := by
    decide +kernel
  have spoilt : ((Manager.load spoiltFiles none []).start officeManager).1 =
      .error .repeatedKey := by
    decide +kernel
  obtain ⟨-, -, -, -, lost⟩ := Manager.failed_load_replaces (Prod.ext attic rfl)
  obtain ⟨fails, -⟩ := Manager.failed_load_replaces (Prod.ext refused rfl)
  obtain ⟨-, -, -, left, -⟩ := Manager.failed_load_replaces (Prod.ext spoilt rfl)
  have unanswered : atticManager.exists? "Shape" = .error (.noBlock atticManager.block) :=
    (lost gone "Shape").1
  rw [block] at unanswered
  have plain : PlainFile (.text spoiltText) :=
    .of_store (congrArg Prod.fst spoiltText_refused) rfl (by decide +kernel)
  have office : ((Manager.load spoiltFiles none []).start officeManager).2.1.block = "office" := by
    decide +kernel
  obtain ⟨-, -, answers⟩ := left _ _ _ (by decide +kernel) spoiltText_refused
  rw [office] at answers
  have answers := answers plain (by decide +kernel)
  refine ⟨⟨atticManager, _, Prod.ext attic rfl, unanswered⟩,
    ⟨_, _, Prod.ext refused rfl, fails, color⟩, _, _, Prod.ext spoilt rfl, ?_, ?_⟩
  · rw [(answers "Size").2]
    decide +kernel
  · rw [(answers "Color").1]
    decide +kernel

/-- A load that fails is not harmless: the shape of the office is lost with a block that is not in
the file. -/
theorem failed_load_not_harmless :
    ¬∀ (wish : Wish) (host : Host) (m : Manager) (printed : String),
      (wish.load host).start (wish.manager host) = (.ok (), m, printed) →
      ∀ (files : FileTree) (block : Option String) (overrides : Overrides) (e : SettingsFault)
        (m' : Manager) (after : String),
        (Manager.load files block overrides).start m = (.error e, m', after) →
        ∀ key, m'.exists? key = m.exists? key ∧ ∀ instead silent kind,
          ((Manager.get key instead silent kind).start m').1 =
            ((Manager.get key instead silent kind).start m).1 := by
  intro harmless
  obtain ⟨attic, -, gone⟩ := attic_unknown
  obtain ⟨made, present⟩ : ((office.load officeHost).start (office.manager officeHost)).1 = .ok () ∧
      officeManager.exists? "shape" = .ok true := by
    decide +kernel
  have same : atticManager.exists? "shape" = officeManager.exists? "shape" :=
    (harmless office officeHost officeManager _ (Prod.ext made rfl) officeFiles
      (some "attic") [] _ _ _ (Prod.ext attic rfl) "shape").1
  rw [present, (Manager.answers_of_noBlock gone "shape").1] at same
  cases same

end Wish

end Reckoner.Settings
