import Reckoner.Proofs.Settings.Layout
import Reckoner.Settings.Manager

/-!
# What the steps of a manager do

`Step.Ensures` says what holds of a result and of the manager after it, should a step succeed; it
goes through the steps of a program one by one, and through a loop by what every round keeps.  Each
step of a manager is described by what it does to the answers of its block: setting a key changes
one of them, loading puts the overrides before what the file sets, and a lookup changes none.
-/

namespace Reckoner.Settings

open Text

variable {α β : Type}

/-! ## Runs of single steps -/

namespace Step

theorem ofExcept_run (result : Except SettingsFault α) (m : Manager) (printed : String) :
    (Step.ofExcept result).run (m, printed) = (result, m, printed) := rfl

theorem ofExcept_ok_bind (a : α) (next : α → Step β) :
    Step.ofExcept (.ok a) >>= next = next a := rfl

section

variable {step : Step α} {next : α → Step β} {s t : Manager × String}

theorem bind_run_ok {a : α} (h : step.run s = (.ok a, t)) :
    (step >>= next).run s = (next a).run t := by
  rw [ExceptT.run_bind]
  simp only [Bind.bind, StateT.bind, h]

theorem bind_run_error {e : SettingsFault} (h : step.run s = (.error e, t)) :
    (step >>= next).run s = (.error e, t) := by
  rw [ExceptT.run_bind]
  simp only [Bind.bind, StateT.bind, h]
  rfl

end

theorem manager_bind_run (next : Manager → Step α) (m : Manager) (printed : String) :
    (Step.manager >>= next).run (m, printed) = (next m).run (m, printed) := rfl

theorem sayIf_bind_run (m : Manager) (condition : Bool) (text printed : String) :
    ∃ after, ∀ next : Unit → Step α,
      (Step.sayIf condition text >>= next).run (m, printed) = (next ()).run (m, after) := by
  cases condition with
  | false => exact ⟨printed, fun _ => rfl⟩
  | true => exact ⟨printed ++ text, fun _ => rfl⟩

/-! ## What a step ensures -/

/-- If a step succeeds on a manager, its result and the manager after it are as said. -/
def Ensures (step : Step α) (m : Manager) (Q : α → Manager → Prop) : Prop :=
  ∀ printed a m' after, step.run (m, printed) = (.ok a, (m', after)) → Q a m'

namespace Ensures

variable {m m' : Manager} {Q R : α → Manager → Prop}

theorem mono {step : Step α} (h : Ensures step m Q) (weaker : ∀ a m', Q a m' → R a m') :
    Ensures step m R :=
  fun printed a m' after run => weaker a m' (h printed a m' after run)

theorem pure {a : α} (h : Q a m) : Ensures (Pure.pure a) m Q := by
  intro printed b m' after run
  cases run
  exact h

theorem bind {step : Step α} {next : α → Step β} {Q : β → Manager → Prop}
    (h : Ensures step m fun a m' => Ensures (next a) m' Q) : Ensures (step >>= next) m Q := by
  intro printed b m' after run
  rw [ExceptT.run_bind] at run
  rcases eq : step.run (m, printed) with ⟨result, mid, said⟩
  simp only [Bind.bind, StateT.bind, eq] at run
  cases result with
  | error e => cases run
  | ok a => exact h printed a mid said eq said b m' after run

theorem throw {e : SettingsFault} : Ensures (MonadExcept.throw e : Step α) m Q := by
  intro printed a m' after run
  cases run

theorem ofExcept {result : Except SettingsFault α} (h : ∀ a, result = .ok a → Q a m) :
    Ensures (Step.ofExcept result) m Q := by
  intro printed a m' after run
  cases result with
  | error e => cases run
  | ok _ =>
    cases run
    exact h a rfl

theorem manager {Q : Manager → Manager → Prop} (h : Q m m) : Ensures Step.manager m Q := by
  intro printed a m' after run
  cases run
  exact h

theorem store {Q : Store → Manager → Prop} (h : Q m.store m) : Ensures Step.store m Q := by
  intro printed a m' after run
  cases run
  exact h

theorem setStore {store : Store} {Q : Unit → Manager → Prop} (h : Q () { m with store := store }) :
    Ensures (Step.setStore store) m Q := by
  intro printed a m' after run
  cases run
  exact h

theorem say {text : String} {Q : Unit → Manager → Prop} (h : Q () m) :
    Ensures (Step.say text) m Q := by
  intro printed a m' after run
  cases run
  exact h

theorem sayIf {condition : Bool} {text : String} {Q : Unit → Manager → Prop} (h : Q () m) :
    Ensures (Step.sayIf condition text) m Q := by
  unfold Step.sayIf
  split
  next => exact .say h
  next => exact .pure h

theorem failIf {fault : Option SettingsFault} {Q : Unit → Manager → Prop}
    (h : fault = none → Q () m) : Ensures (Step.failIf fault) m Q := by
  cases fault with
  | none => exact .pure (h rfl)
  | some e => exact .throw

/-- A loop keeps what every round keeps; `I` speaks of the elements that are left. -/
theorem forIn {xs : List β} {body : β → PUnit → Step (ForInStep PUnit)}
    (I : List β → Manager → Prop)
    (keep : ∀ x rest m, I (x :: rest) m →
      Ensures (body x ⟨⟩) m fun r m' => r = .yield ⟨⟩ ∧ I rest m')
    (start : I xs m) : Ensures (ForIn.forIn xs ⟨⟩ body) m fun _ m' => I [] m' := by
  induction xs generalizing m with
  | nil =>
    rw [List.forIn_nil]
    exact .pure start
  | cons x rest ih =>
    rw [List.forIn_cons]
    refine .bind ((keep x rest m start).mono ?_)
    rintro _ m' ⟨rfl, left⟩
    exact ih left

end Ensures

end Step

/-! ## Values by their keys -/

theorem Value.isWritable_of_write {value : Value} {text : String} (h : value.write = .ok text) :
    value.isWritable = true := by
  unfold write at h
  split at h
  next writable => exact writable
  next => cases h

/-- The last of the values for a key, as a text; the key is in lower case. -/
def lastText? (values : Overrides) (key : String) : Option String :=
  values.reverse.findSome? fun (name, value) =>
    if key = lower name then some value.toText else none

/-- What a block answers once values have been set in it. -/
def overlay (values : Overrides) (answer : String → Option String) (key : String) :
    Option String :=
  (lastText? values key).or (answer key)

/-- The overrides that are set. -/
def settable (overrides : Overrides) : Overrides :=
  overrides.filter fun (key, _) => !Manager.isFixedKey key

theorem lastText?_concat (values : Overrides) (name : String) (value : Value) (key : String) :
    lastText? (values ++ [(name, value)]) key =
      if key = lower name then some value.toText else lastText? values key := by
  rw [lastText?, List.reverse_concat, List.findSome?_cons]
  split <;> split <;> simp_all [lastText?]

theorem overlay_concat (values : Overrides) (name : String) (value : Value)
    (answer : String → Option String) :
    overlay (values ++ [(name, value)]) answer =
      Function.update (overlay values answer) (lower name) (some value.toText) := by
  funext key
  rw [overlay, lastText?_concat, Function.update_apply]
  split <;> rfl

namespace Manager

/-- A manager reads the file at a path and answers for a block. -/
structure Answers (m : Manager) (path block : String) (answer : String → Option String) :
    Prop where
  path_eq : m.path = path
  block_eq : m.block = block
  store : m.store.Answers block answer

variable {m : Manager} {path block key : String} {value : Value}
  {answer given : String → Option String}

/-! ## Setting -/

/-- The store in which a key of the block has the text of a value. -/
def stored (m : Manager) (key : String) (value : Value) : Except SettingsFault Store := do
  m.store.set m.block key (← value.write)

/-- Setting a key gives the manager another store or fails, and prints nothing. -/
theorem set_run (key : String) (value : Value) (m : Manager) (printed : String) :
    (set key value).run (m, printed) =
      match m.stored key value with
      | .ok store => (.ok (), { m with store := store }, printed)
      | .error e => (.error e, m, printed) := by
  rw [set, Step.manager_bind_run, stored]
  cases value.write with
  | error e => rfl
  | ok text =>
    have bound : (do m.store.set m.block key (← .ok text)) = m.store.set m.block key text := rfl
    rw [bound, Step.ofExcept_ok_bind]
    cases m.store.set m.block key text <;> rfl

/-- A key can be set to a plain text, which is then the answer for it and for no other. -/
theorem Answers.set (h : m.Answers path block answer) (key : String)
    (plain : PlainText value.toText) (writable : value.isWritable = true) :
    ∃ m', (∀ printed, (Manager.set key value).run (m, printed) = (.ok (), m', printed)) ∧
      m'.Answers path block (Function.update answer (lower key) (some value.toText)) := by
  obtain ⟨store, eq, changed, -⟩ := h.store.set key plain
  have made : m.stored key value = .ok store := by
    rw [stored, Value.write, if_pos writable, h.block_eq]
    exact eq
  refine ⟨{ m with store := store }, fun printed => ?_, h.path_eq, h.block_eq, changed⟩
  rw [set_run, made]

/-- A value that has been set has been written. -/
theorem exists_of_stored {store : Store} (h : m.stored key value = .ok store) :
    ∃ text, value.write = .ok text ∧ m.store.set m.block key text = .ok store := by
  unfold stored at h
  cases eq : value.write with
  | error e =>
    rw [eq] at h
    cases h
  | ok text =>
    rw [eq] at h
    exact ⟨text, rfl, h⟩

theorem ensures_set (h : m.Answers path block answer) (plain : PlainText value.toText) :
    (set key value).Ensures m fun _ m' =>
      m'.Answers path block (Function.update answer (lower key) (some value.toText)) := by
  intro printed _ m' after run
  cases made : m.stored key value with
  | error e =>
    rw [set_run, made] at run
    cases run
  | ok store =>
    obtain ⟨_, written, -⟩ := exists_of_stored made
    obtain ⟨_, eq, changed⟩ := h.set key plain (Value.isWritable_of_write written)
    cases (eq printed).symm.trans run
    exact changed

/-! ## Taking over from the home block -/

/-- Taking over a key that the home block sets. -/
theorem ensures_inherit {text : String} (h : m.Answers path block answer)
    (home : m.store.Answers homeBlock given) (other : homeBlock ≠ block)
    (hkey : given key = some text) :
    (inherit key).Ensures m fun _ m' =>
      m'.Answers path block (Function.update answer key (some text)) ∧
        m'.store.Answers homeBlock given := by
  obtain ⟨store, eq, changed, kept⟩ := h.store.set key (home.plain key text hkey)
  -- the key is in lower case already, so that it is stored under itself
  rw [home.lowered key text hkey] at changed
  have stored : (do
      let text ← Step.ofExcept (m.store.written? homeBlock key)
      let store ← Step.ofExcept (m.store.set m.block key (text.getD ""))
      Step.setStore store : Step Unit).Ensures m fun _ m' =>
        m'.Answers path block (Function.update answer key (some text)) ∧
          m'.store.Answers homeBlock given := by
    rw [home.written?, hkey, h.block_eq]
    refine .bind (.ofExcept fun _ found => .bind (.ofExcept fun _ set => .setStore ?_))
    cases found
    rw [Option.getD_some, eq] at set
    cases set
    exact ⟨⟨h.path_eq, h.block_eq, changed⟩, kept _ _ other home⟩
  unfold inherit
  refine .bind (.manager ?_)
  dsimp only
  split
  next => exact .bind (.ofExcept fun _ _ => .bind (.say stored))
  next => exact stored

/-- Of the keys that the home block sets, those that are no longer left are answered as after
loading; the others still may be answered by the block alone. -/
structure Inheriting (path block : String) (own given : String → Option String)
    (left : List String) (m : Manager) (answer : String → Option String) : Prop where
  answers : m.Answers path block answer
  home : m.store.Answers homeBlock given
  listed : ∀ key ∈ left, ∃ text, given key = some text
  or_own : ∀ key, answer key = own key ∨ answer key = (own key).or (given key)
  done : ∀ key, key ∉ left → answer key = (own key).or (given key)

namespace Inheriting

variable {own : String → Option String} {left : List String}

/-- Passing over a key that the block sets itself. -/
theorem skip (h : Inheriting path block own given (key :: left) m answer)
    (set : (own key).isSome = true) : Inheriting path block own given left m answer where
  answers := h.answers
  home := h.home
  listed := fun other mem => h.listed other (.tail _ mem)
  or_own := h.or_own
  done := by
    intro other absent
    by_cases same : other = key
    · subst same
      obtain ⟨text, eq⟩ := Option.isSome_iff_exists.1 set
      rcases h.or_own other with agree | agree
      · rw [agree, eq, Option.some_or]
      · exact agree
    · exact h.done other (List.not_mem_cons_of_ne_of_not_mem same absent)

/-- Taking over a key that it does not set. -/
theorem take {m' : Manager} {text : String}
    (h : Inheriting path block own given (key :: left) m answer) (absent : own key = none)
    (hkey : given key = some text)
    (answers : m'.Answers path block (Function.update answer key (some text)))
    (home : m'.store.Answers homeBlock given) :
    Inheriting path block own given left m' (Function.update answer key (some text)) where
  answers := answers
  home := home
  listed := fun other mem => h.listed other (.tail _ mem)
  or_own := by
    intro other
    rw [Function.update_apply]
    split
    next same =>
      subst same
      exact .inr (by rw [absent, Option.none_or, hkey])
    next => exact h.or_own other
  done := by
    intro other missing
    rw [Function.update_apply]
    split
    next same =>
      subst same
      rw [absent, Option.none_or, hkey]
    next different => exact h.done other (List.not_mem_cons_of_ne_of_not_mem different missing)

end Inheriting

/-- After loading, what the block does not set is answered by the home block. -/
theorem ensures_inheritAll {own : String → Option String} (h : m.Answers path block own)
    (home : m.store.Answers homeBlock given) :
    inheritAll.Ensures m fun _ m' =>
      m'.Answers path block fun key => (own key).or (given key) := by
  unfold inheritAll
  refine .bind (.manager ?_)
  rw [h.block_eq]
  split
  next same =>
    -- the home block takes nothing over, and what it inherits is its own
    subst same
    obtain rfl := h.store.unique home
    refine .pure ?_
    simpa only [Option.or_self] using h
  next other =>
    obtain ⟨keys, hkeys, mem⟩ := h.store.keys
    obtain ⟨homeKeys, hhome, homeMem⟩ := home.keys
    refine .bind (.ofExcept fun _ eq => .bind (.ofExcept fun _ eq' => .bind ?_))
    rw [hkeys] at eq
    rw [hhome] at eq'
    cases eq
    cases eq'
    refine (Step.Ensures.forIn
      (fun left m' => ∃ answer, Inheriting path block own given left m' answer) ?_ ?_).mono ?_
    · rintro key left m' ⟨answer, inheriting⟩
      split
      next set => exact .pure ⟨rfl, answer, inheriting.skip (by rwa [mem] at set)⟩
      next unset =>
        rw [mem, Bool.not_eq_true, Option.isSome_eq_false_iff, Option.isNone_iff_eq_none] at unset
        obtain ⟨text, hkey⟩ := inheriting.listed key (.head _)
        refine .bind ((ensures_inherit inheriting.answers inheriting.home (Ne.symm other)
          hkey).mono ?_)
        rintro _ m' ⟨answers, home⟩
        exact .pure ⟨rfl, _, inheriting.take unset hkey answers home⟩
    · refine ⟨own, h, home, fun key mem => ?_, fun key => .inl rfl, fun key absent => ?_⟩
      · exact Option.isSome_iff_exists.1 (homeMem key ▸ List.contains_iff_mem.2 mem)
      · rw [← List.contains_iff_mem, homeMem, Option.not_isSome_iff_eq_none] at absent
        rw [absent, Option.or_none]
    · rintro _ m' ⟨answer, inheriting⟩
      refine .pure ?_
      have : answer = fun key => (own key).or (given key) :=
        funext fun key => inheriting.done key List.not_mem_nil
      exact this ▸ inheriting.answers

/-! ## Overrides -/

theorem ensures_overrideKey {values : Overrides} (h : m.Answers path block (overlay values answer))
    (plain : PlainText value.toText) :
    (overrideKey key value).Ensures m fun _ m' =>
      m'.Answers path block (overlay (values ++ settable [(key, value)]) answer) := by
  unfold overrideKey settable
  refine .bind (.manager ?_)
  dsimp only
  split
  next fixed => exact .sayIf (by simpa [fixed] using h)
  next free =>
    refine .bind (.ofExcept fun _ _ => .bind (.sayIf ?_))
    refine (ensures_set h plain).mono fun _ m' changed => ?_
    rw [← overlay_concat] at changed
    simpa [free] using changed

/-- Overrides are set one after the other, but for those of fixed keys. -/
theorem ensures_overrideAll {overrides : Overrides} (h : m.Answers path block answer)
    (plain : ∀ entry ∈ overrides, PlainText entry.2.toText) :
    (overrideAll overrides).Ensures m fun _ m' =>
      m'.Answers path block (overlay (settable overrides) answer) := by
  unfold overrideAll
  split
  next none =>
    rw [List.isEmpty_iff.1 none]
    exact .bind (.manager (.sayIf h))
  next =>
    refine .bind ((Step.Ensures.forIn (fun left m' => ∃ done, overrides = done ++ left ∧
      m'.Answers path block (overlay (settable done) answer)) ?_ ⟨[], rfl, h⟩).mono ?_)
    · rintro ⟨key, value⟩ left m' ⟨done, rfl, answers⟩
      refine .bind ((ensures_overrideKey answers (plain (key, value) (by simp))).mono ?_)
      intro _ m' answers
      refine .pure ⟨rfl, done ++ [(key, value)], by simp, ?_⟩
      rwa [settable, List.filter_append]
    · rintro _ m' ⟨done, rfl, answers⟩
      rw [List.append_nil]
      exact .pure answers

/-! ## Loading -/

theorem ensures_requireBlock {name : String} {Q : Unit → Manager → Prop}
    (h : m.store.blocks.has name = true → Q () m) : (requireBlock name).Ensures m Q := by
  unfold requireBlock
  refine .bind (.store ?_)
  split
  next has => exact .pure (h has)
  next => exact .throw

/-- After a plain file has been loaded, its block is answered for by the overrides, by what the
block sets and by what the home block sets, in this order. -/
theorem ensures_load {files : FileTree} {next : Option String} {overrides : Overrides}
    (file : ∀ content, files.read? m.path = some content → PlainFile content)
    (plain : ∀ entry ∈ overrides, PlainText entry.2.toText) :
    (load files next overrides).Ensures m fun _ m' =>
      ∃ content, files.read? m.path = some content ∧
        m'.Answers m.path (next.getD m.block) (overlay (settable overrides) fun key =>
          (written? content (next.getD m.block) key).or (written? content homeBlock key)) := by
  obtain ⟨path, old, store, voice⟩ := m
  unfold load
  refine .bind (.manager ?_)
  dsimp only
  split
  next => exact .throw
  next content found =>
    refine .bind (.sayIf (.bind ?_))
    -- from here on the manager has the block asked for and the settings of the file
    intro printed _ m' after run
    cases run
    have file := file content found
    refine .bind (.failIf fun _ => .bind (ensures_requireBlock fun home => .bind
      (ensures_requireBlock fun block => ?_)))
    refine .bind (.sayIf (.bind ((ensures_inheritAll ⟨rfl, rfl, file.answers block⟩
      (file.answers home)).mono fun _ m' answers => ?_)))
    exact (ensures_overrideAll answers plain).mono fun _ m' answers => ⟨content, found, answers⟩

/-! ## Looking up -/

theorem Answers.lookup (h : m.Answers path block answer) (key : String) :
    m.lookup key = .ok (answer (lower key)) := by
  obtain ⟨keys, hkeys, mem⟩ := h.store.keys
  unfold Manager.lookup
  rw [h.block_eq, hkeys]
  change (if keys.contains (lower key) then m.store.value? block (lower key) else .ok none) = _
  rw [h.store.value?, mem]
  cases answer (lower key) <;> rfl

theorem Answers.exists? (h : m.Answers path block answer) (key : String) :
    m.exists? key = .ok (answer (lower key)).isSome := by
  obtain ⟨keys, hkeys, mem⟩ := h.store.keys
  rw [Manager.exists?, h.block_eq, hkeys]
  exact congrArg Except.ok (mem (lower key))

/-- What is answered for a key, once its text has been looked up.  A value given instead is written
into the notice that the key is not set, unless the manager is to be silent. -/
def reply (found : Option String) (instead : Value) (silent : Bool) (kind : String) :
    Except SettingsFault Value :=
  match found with
  | some text => do (Value.text text).as (← Kind.find? kind)
  | none =>
    if instead = noDefault then .ok .nothing
    else if !silent && !instead.isWritable then .error .unwritable
    else do instead.as (← Kind.find? kind)

theorem noteAbsent_run (key : String) (value : Value) (m : Manager) (printed : String) :
    ∃ after, (noteAbsent key (some value)).run (m, printed) =
      (if value.isWritable then .ok () else .error .unwritable, m, after) := by
  rw [noteAbsent, Value.write]
  split
  next =>
    exact ⟨_, rfl⟩
  next => exact ⟨printed, rfl⟩

/-- A lookup leaves the manager as it is. -/
theorem get_run {found : Option String} (h : m.lookup key = .ok found) (instead : Value)
    (silent : Bool) (kind printed : String) :
    ∃ after, (get key instead silent kind).run (m, printed) =
      (reply found instead silent kind, m, after) := by
  rw [get, Step.manager_bind_run, h, Step.ofExcept_ok_bind]
  cases found with
  | some text => exact ⟨printed, Step.ofExcept_run ..⟩
  | none =>
    dsimp only [reply]
    split
    next =>
      cases silent <;> exact ⟨_, rfl⟩
    next =>
      cases silent with
      | true => exact ⟨printed, Step.ofExcept_run ..⟩
      | false =>
        obtain ⟨after, noted⟩ := noteAbsent_run key instead m printed
        cases writable : instead.isWritable with
        | true =>
          rw [if_pos writable] at noted
          exact ⟨after, Step.bind_run_ok noted⟩
        | false =>
          rw [writable] at noted
          exact ⟨after, Step.bind_run_error noted⟩

theorem reply_string {kind : String} (h : Kind.find? kind = .ok .string) (silent : Bool)
    (found : Option String) :
    reply found noDefault silent kind = .ok (found.elim .nothing .text) := by
  cases found with
  | some text =>
    rw [reply, h]
    rfl
  | none => rfl

end Manager

end Reckoner.Settings
