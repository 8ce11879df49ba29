import Mathlib.Data.List.Basic
import Reckoner.Proofs.Xml.Markup

/-!
# Escaped text

Any text may stand between tags when its marks are written as references.  It is read in pieces: a
reference is a piece of its own, and so is what lies between two references.  Put together the
pieces are the text (`Reads.escaped`).
-/

namespace Reckoner.Xml

/-- The name that stands for a mark in written text. -/
def entity? : Char → Option String
  | '<' => some "lt"
  | '>' => some "gt"
  | '&' => some "amp"
  | _ => none

/-- A character as it is written in text. -/
def escapeChar (c : Char) : List Char :=
  match entity? c with
  | some entity => '&' :: (entity.toList ++ [';'])
  | none => [c]

/-- A text as it is written between tags. -/
def escape (cs : List Char) : List Char := cs.flatMap escapeChar

theorem escape_append (cs ds : List Char) : escape (cs ++ ds) = escape cs ++ escape ds :=
  List.flatMap_append

/-- A text without marks is written as it is. -/
theorem escape_of_plain {cs : List Char} (h : ∀ c ∈ cs, entity? c = none) : escape cs = cs := by
  have hsingle : ∀ c ∈ cs, escapeChar c = [c] := fun c hc => by rw [escapeChar, h c hc]
  rw [escape, List.flatMap_congr hsingle, List.flatMap_singleton']

/-- Pieces of text. -/
def textNodes (texts : List (List Char)) : List Node :=
  texts.map fun text => .text (String.ofList text)

/-! ## References -/

/-- A name that stands for a character is read as this character. -/
theorem reference_predefined (refs : References) {entity : String} {c : Char}
    (h : isLocalName entity.toList = true) (hc : predefined.lookup entity = some c)
    (rest : List Char) : reference refs (entity.toList ++ ';' :: rest) = some ([c], rest) := by
  have hread := simpleName_append refs.style h (show ';' ∈ marks by decide) rest
  have hsemicolon : after? ";" (';' :: rest) = some rest := rfl
  have hname : IsName refs.style entity := .bare h
  rw [reference]
  · simp only [hread, Option.bind_eq_bind, Option.bind_some, hsemicolon, hc]
  · exact fun _ => append_ne_mark hname (by decide) _ _
  · exact append_ne_mark hname (by decide) _

/-- A mark is written as a reference that is read as this mark. -/
theorem piece_reference (setting : Setting) {c : Char} {entity : String}
    (h : entity? c = some entity) (rest : List Char) :
    piece setting (escapeChar c ++ rest) = some (.chars [c], rest) := by
  have hentity : isLocalName entity.toList = true ∧ predefined.lookup entity = some c := by
    unfold entity? at h
    split at h <;> cases h <;> decide
  have hwritten : escapeChar c ++ rest = '&' :: (entity.toList ++ ';' :: rest) := by
    simp [escapeChar, h]
  rw [hwritten, piece, reference_predefined setting.refs hentity.1 hentity.2]
  rfl

section

variable {setting : Setting}

theorem Reads.reference {c : Char} {entity : String} (h : entity? c = some entity)
    (rest : List Char) :
    Reads setting (escapeChar c ++ rest) [.text (String.ofList [c])] rest where
  steps := by
    refine ⟨1, ?_, fun fuel top below => ?_⟩
    · simp [escapeChar, h]
      omega
    · rw [fill, piece_reference setting h]
      rfl
  kept := by
    intro d hd
    refine (List.mem_append.1 hd).imp_left fun hd => ?_
    have hall : ['<', '>', '&'].all (fun c => (escapeChar c).all isKept) = true := by decide
    have hmarks := fun c hc => List.all_eq_true.1 (List.all_eq_true.1 hall c hc)
    unfold entity? at h
    split at h <;> cases h <;> exact hmarks _ (by decide) d hd

/-! ## Texts -/

theorem isTextChar_of_entity?_eq_none {c : Char} (hkept : isKept c = true)
    (h : entity? c = none) : isTextChar c = true := by
  unfold entity? at h
  split at h
  next => cases h
  next => cases h
  next => cases h
  next hless hmore hamp => simp_all [isTextChar]

/-- Up to the first mark of a text, if there is one, all characters stand for themselves. -/
theorem exists_plain_run {c : Char} (hc : entity? c = none) (cs : List Char) :
    ∃ run tail, run ++ tail = c :: cs ∧ run ≠ [] ∧ (∀ d ∈ run, entity? d = none) ∧
      ∀ d ∈ tail.head?, ∃ entity, entity? d = some entity := by
  refine ⟨_, _, List.takeWhile_append_dropWhile (p := fun d => (entity? d).isNone), ?_, ?_, ?_⟩
  · rw [List.takeWhile_cons_of_pos (by simp [hc])]
    exact List.cons_ne_nil _ _
  · intro d hd
    exact Option.isNone_iff_eq_none.1 (List.mem_takeWhile_imp (p := fun d => (entity? d).isNone) hd)
  · intro d hd
    have hmark := List.head?_dropWhile_not (fun d => (entity? d).isNone) (c :: cs)
    rw [Option.mem_def.1 hd] at hmark
    exact Option.isSome_iff_exists.1 (Option.isNone_eq_false_iff.1 hmark)

/-- Escaped text begins with a reference if the text begins with a mark. -/
theorem head_escape_append {cs rest : List Char}
    (hcs : ∀ d ∈ cs.head?, ∃ entity, entity? d = some entity)
    (hrest : ∃ c ∈ rest.head?, c = '<' ∨ c = '&') :
    ∃ c ∈ (escape cs ++ rest).head?, c = '<' ∨ c = '&' := by
  cases cs with
  | nil => exact hrest
  | cons d cs =>
    obtain ⟨entity, hentity⟩ := hcs d rfl
    exact ⟨'&', by simp [escape, escapeChar, hentity], .inr rfl⟩

/-- Escaped text is read in pieces that make up the text. -/
theorem Reads.escaped {cs : List Char} (h : ∀ c ∈ cs, isKept c = true) (rest : List Char)
    (hrest : ∃ c ∈ rest.head?, c = '<' ∨ c = '&') :
    ∃ texts : List (List Char), texts.flatten = cs ∧
      Reads setting (escape cs ++ rest) (textNodes texts) rest := by
  induction hlength : cs.length using Nat.strong_induction_on generalizing cs with
  | _ n ih =>
    subst hlength
    cases cs with
    | nil => exact ⟨[], rfl, .refl setting rest⟩
    | cons c cs =>
      cases hc : entity? c with
      | some entity =>
        obtain ⟨texts, htexts, hreads⟩ :=
          ih cs.length (Nat.lt_succ_self _) (fun d hd => h d (List.mem_cons_of_mem _ hd)) rfl
        refine ⟨[c] :: texts, by rw [List.flatten_cons, htexts, List.singleton_append], ?_⟩
        rw [escape, List.flatMap_cons, List.append_assoc]
        exact (Reads.reference hc _).trans hreads
      | none =>
        -- what stands before the first mark is one piece
        obtain ⟨run, tail, hsplit, hne, hplain, hmark⟩ := exists_plain_run hc cs
        have hshorter : tail.length < (c :: cs).length := by
          rw [← hsplit, List.length_append]
          exact Nat.lt_add_of_pos_left (List.length_pos_iff.2 hne)
        obtain ⟨texts, htexts, hreads⟩ := ih tail.length hshorter
          (fun d hd => h d (hsplit ▸ List.mem_append_right _ hd)) rfl
        refine ⟨run :: texts, by rw [List.flatten_cons, htexts, hsplit], ?_⟩
        rw [← hsplit, escape_append, escape_of_plain hplain, List.append_assoc]
        have htext : ∀ d ∈ run, isTextChar d = true := fun d hd =>
          isTextChar_of_entity?_eq_none (h d (hsplit ▸ List.mem_append_left _ hd)) (hplain d hd)
        exact (Reads.chars hne htext (head_escape_append hmark hrest)).trans hreads

end

end Reckoner.Xml
