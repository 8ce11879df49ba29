import Mathlib.Data.List.Induction
import Reckoner.Grammar.Buffer

/-!
# Histories of a buffer

Tokens arrive, are dropped and are parsed in any order.  Whatever memo the buffer starts with and
whatever was parsed before, also in vain, a parse depends only on the tokens that have arrived since
the last reset (`outcomes_eq_fresh`): it begins by dropping the memo, which may still hold that a
rule fails at the end of a shorter text.  So it does not matter either what a parse that gives up
leaves in the memo; `step` leaves that open.
-/

namespace Reckoner.Grammar.Buffer

/-! ## One parse -/

/-- A parse starts from an empty memo. -/
theorem run_eq (b : Buffer) :
    b.run = match (parseRule b.tokens nestingLimit .expression 0).run {} with
      | none => (.tooDeep, ⟨b.tokens, {}⟩)
      | some (found, memo) => (outcomeOf b.tokens found, ⟨b.tokens, memo⟩) := rfl

/-- The outcome of a parse depends on the tokens alone. -/
theorem run_fst (b : Buffer) : b.run.1 = Grammar.parse b.tokens := by
  rw [run_eq, Grammar.parse, parseWithin]
  cases (parseRule b.tokens nestingLimit .expression 0).run {} with
  | none => rfl
  | some out => rfl

/-- A parse leaves the tokens as they are. -/
theorem run_snd_tokens (b : Buffer) : b.run.2.tokens = b.tokens := by
  rw [run_eq]
  cases (parseRule b.tokens nestingLimit .expression 0).run {} with
  | none => rfl
  | some out => rfl

theorem parse_ofTokens (tokens : List Token) :
    (ofTokens tokens).parse = Grammar.parse tokens.toArray := run_fst _

@[simp] theorem toList_extend (b : Buffer) (more : List Token) :
    (b.extend more).tokens.toList = b.tokens.toList ++ more := by
  simp [extend]

@[simp] theorem tokens_reset (b : Buffer) : b.reset.tokens = #[] := rfl

theorem isEmpty_iff (b : Buffer) : b.isEmpty = true ↔ b.tokens.toList = [] := by
  simp [isEmpty]

/-! ## Histories -/

/-- What is done with a buffer. -/
inductive Step where
  | extend (more : List Token)
  | reset
  | parse
  deriving DecidableEq

/-- The tokens that a step brings. -/
def Step.tokens : Step → List Token
  | .extend more => more
  | .reset | .parse => []

/-- The outcome of a parse and the buffer after it, with what the parse leaves in the memo of a
buffer when it gives up. -/
def tried (left : Buffer → Memo) (b : Buffer) : Outcome × Buffer :=
  match b.run with
  | (.tooDeep, parsed) => (.tooDeep, { parsed with memo := left b })
  | (outcome, parsed) => (outcome, parsed)

/-- The outcome of a step, if it is a parse, and the buffer after it. -/
def step (left : Buffer → Memo) (b : Buffer) : Step → Option Outcome × Buffer
  | .extend more => (none, b.extend more)
  | .reset => (none, b.reset)
  | .parse => (some (b.tried left).1, (b.tried left).2)

/-- The buffer after some steps. -/
def after (left : Buffer → Memo) (b : Buffer) (steps : List Step) : Buffer :=
  steps.foldl (fun b s => (b.step left s).2) b

/-- The outcomes of some steps, in order. -/
def outcomes (left : Buffer → Memo) (b : Buffer) : List Step → List (Option Outcome)
  | [] => []
  | s :: rest => (b.step left s).1 :: (b.step left s).2.outcomes left rest

/-- The tokens that have arrived since the last reset, one portion after the other. -/
def sinceReset (steps : List Step) : List Token :=
  (steps.reverse.takeWhile (· ≠ .reset)).reverse.flatMap Step.tokens

theorem sinceReset_concat (steps : List Step) (s : Step) :
    sinceReset (steps ++ [s]) = if s = .reset then [] else sinceReset steps ++ s.tokens := by
  unfold sinceReset
  rw [List.reverse_append, List.reverse_singleton, List.singleton_append, List.takeWhile_cons]
  by_cases h : s = .reset
  · simp [h]
  · simp [h, List.flatMap_append]

/-- With nothing left behind this is the parse of the buffer. -/
theorem tried_empty (b : Buffer) : b.tried (fun _ => {}) = b.run := by
  rw [tried, run_eq]
  cases (parseRule b.tokens nestingLimit .expression 0).run {} with
  | none => rfl
  | some out =>
    obtain ⟨found, memo⟩ := out
    cases found with
    | none => rfl
    | some found =>
      by_cases hall : found.stop = b.tokens.size
      · simp only [outcomeOf, if_pos hall]
      · simp only [outcomeOf, if_neg hall]

section
variable {left : Buffer → Memo}

theorem tried_fst (b : Buffer) : (b.tried left).1 = Grammar.parse b.tokens := by
  rw [← run_fst, tried]
  split
  next heq => rw [heq]
  next heq => rw [heq]

theorem tried_snd_tokens (b : Buffer) : (b.tried left).2.tokens = b.tokens := by
  rw [← run_snd_tokens b, tried]
  split
  next heq => rw [heq]
  next heq => rw [heq]

/-- What a step does to the tokens. -/
theorem step_tokens (b : Buffer) (s : Step) :
    (b.step left s).2.tokens.toList =
      if s = .reset then [] else b.tokens.toList ++ s.tokens := by
  cases s with
  | extend more => simp [step, Step.tokens]
  | reset => simp [step]
  | parse => simp [step, Step.tokens, tried_snd_tokens]

theorem after_concat (b : Buffer) (steps : List Step) (s : Step) :
    b.after left (steps ++ [s]) = ((b.after left steps).step left s).2 := by
  simp [after, List.foldl_append]

/-- The buffer holds the tokens that have arrived since the last reset. -/
theorem tokens_after (memo : Memo) (steps : List Step) :
    (after left ⟨#[], memo⟩ steps).tokens.toList = sinceReset steps := by
  induction steps using List.reverseRecOn with
  | nil => rfl
  | append_singleton steps s ih => rw [after_concat, step_tokens, sinceReset_concat, ih]

/-- The outcome of a step in the middle of a history. -/
theorem outcomes_getElem? (b : Buffer) (before later : List Step) (s : Step) :
    (b.outcomes left (before ++ s :: later))[before.length]? =
      some ((b.after left before).step left s).1 := by
  induction before generalizing b with
  | nil => rfl
  | cons first before ih =>
    rw [List.cons_append, outcomes, List.length_cons, List.getElem?_cons_succ]
    exact ih _

/-- In every history, with any memo at its beginning and whatever a parse that gives up leaves
behind, a buffer holds the tokens that have arrived since the last reset and is empty exactly when
there are none.  A parse leaves them, and its outcome is that of a buffer made of just these
tokens. -/
theorem outcomes_eq_fresh (left : Buffer → Memo) (memo : Memo) (before later : List Step) :
    (after left ⟨#[], memo⟩ before).tokens.toList = sinceReset before ∧
    ((after left ⟨#[], memo⟩ before).isEmpty = true ↔ sinceReset before = []) ∧
    (after left ⟨#[], memo⟩ (before ++ [.parse])).tokens =
      (after left ⟨#[], memo⟩ before).tokens ∧
    (outcomes left ⟨#[], memo⟩ (before ++ .parse :: later))[before.length]? =
      some (some (ofTokens (sinceReset before)).parse) := by
  have htokens : (after left ⟨#[], memo⟩ before).tokens.toList = sinceReset before :=
    tokens_after memo before
  refine ⟨htokens, ?_, ?_, ?_⟩
  · rw [isEmpty_iff, htokens]
  · rw [after_concat]
    exact tried_snd_tokens _
  · rw [outcomes_getElem?, parse_ofTokens, ← htokens]
    exact congrArg (some ∘ some) (tried_fst _)

end

end Reckoner.Grammar.Buffer
