import Reckoner.Proofs.Grammar.Longest

/-!
# Which rules call which

A rule at a position calls other rules at that position or later ones.  Which ones is settled by
the tokens: there is a call for an operand only behind an operator, and an expression calls a term
only if it does not open with a negation.  `Calls` lists them.  Three rules call themselves too, but
only to read what they have noted, and these calls go no deeper.

`Reaches` says that no chain of calls is longer than a given depth.  It holds above the level of a
rule (`reaches_of_level_lt`), since calls go to lower levels, but the level counts tokens and most
texts nest far less.
-/

namespace Reckoner.Grammar

/-- What a rule has noted for itself at some time: its opening, or a match continued from there. -/
inductive Grown (tokens : Array Token) (rule : Rule) (pos : Nat) : Found → Prop where
  | opening {first : Found} : opening? tokens (longest tokens) rule pos = some first →
    Grown tokens rule pos first
  | continued {left next : Found} : Grown tokens rule pos left →
    continuation? tokens (longest tokens) rule left = some next → Grown tokens rule pos next

/-- A rule at a position calls a rule at a position. -/
inductive Calls (tokens : Array Token) : Rule → Nat → Rule → Nat → Prop where
  | sum {pos : Nat} {left : Found} : Grown tokens .expression pos left →
    additive? tokens[left.stop]? ≠ none → Calls tokens .expression pos .term (left.stop + 1)
  | negation {pos : Nat} : tokens[pos]? = some .minus → Calls tokens .expression pos .term (pos + 1)
  | ofTerm {pos : Nat} : negation? tokens (longest tokens) pos = none →
    Calls tokens .expression pos .term pos
  | product {pos : Nat} {left : Found} : Grown tokens .term pos left →
    multiplicative? tokens[left.stop]? ≠ none → Calls tokens .term pos .exponent (left.stop + 1)
  | ofExponent {pos : Nat} : Calls tokens .term pos .exponent pos
  | power {pos : Nat} {base : Found} : longest tokens .atom pos = some base →
    tokens[base.stop]? = some .caret → Calls tokens .exponent pos .exponent (base.stop + 1)
  | ofAtom {pos : Nat} : Calls tokens .exponent pos .atom pos
  | parentheses {pos : Nat} : tokens[pos]? = some .parenOpen →
    Calls tokens .atom pos .expression (pos + 1)
  | ofMerge {pos : Nat} : Calls tokens .atom pos .merge pos

/-- No chain of calls from a rule at a position is longer than the depth.  A call at the end of the
tokens calls nothing. -/
def Reaches (tokens : Array Token) : Nat → Rule → Nat → Prop
  | 0, _, _ => False
  | depth + 1, rule, pos => pos < tokens.size →
    (rule.isLeftRecursive → 0 < depth) ∧ ∀ r p, Calls tokens rule pos r p → Reaches tokens depth r p

section
variable {tokens : Array Token} {rule : Rule} {pos depth : Nat}

theorem Grown.within {left : Found} (h : Grown tokens rule pos left) : left.Within tokens pos := by
  induction h with
  | opening hfirst => exact opening?_within (longest_bounds tokens) hfirst
  | continued _ hnext ih =>
    exact (continuation?_within (longest_bounds tokens) hnext).mono (Nat.le_of_lt ih.1)

/-- A match that is not continued is the last. -/
theorem Grown.eq_of_alone {first left : Found} (h : Grown tokens rule pos left)
    (hfirst : opening? tokens (longest tokens) rule pos = some first)
    (hnone : continuation? tokens (longest tokens) rule first = none) : left = first := by
  induction h with
  | opening h => exact Option.some.inj (h.symm.trans hfirst)
  | continued _ hnext ih =>
    rw [ih, hnone] at hnext
    cases hnext

/-- A match that is continued once is the opening or the last. -/
theorem Grown.eq_of_pair {first last left : Found} (h : Grown tokens rule pos left)
    (hfirst : opening? tokens (longest tokens) rule pos = some first)
    (hlast : continuation? tokens (longest tokens) rule first = some last)
    (hnone : continuation? tokens (longest tokens) rule last = none) :
    left = first ∨ left = last := by
  induction h with
  | opening h => exact .inl (Option.some.inj (h.symm.trans hfirst))
  | continued _ hnext ih =>
    rcases ih with rfl | rfl
    · exact .inr (Option.some.inj (hnext.symm.trans hlast))
    · rw [hnone] at hnext
      cases hnext

/-- Calls go to lower levels. -/
theorem Calls.level_lt {r : Rule} {p : Nat} (h : Calls tokens rule pos r p)
    (hpos : pos < tokens.size) : level tokens r p < level tokens rule pos := by
  cases h with
  | sum hleft _ => exact level_lt_of_lt _ _ (Nat.lt_succ_of_lt hleft.within.1) hpos
  | product hleft _ => exact level_lt_of_lt _ _ (Nat.lt_succ_of_lt hleft.within.1) hpos
  | power hbase _ =>
    exact level_lt_of_lt _ _ (Nat.lt_succ_of_lt (longest_bounds tokens _ _ _ hbase).1) hpos
  | negation _ => exact level_lt_of_lt _ _ (Nat.lt_succ_self pos) hpos
  | parentheses _ => exact level_lt_of_lt _ _ (Nat.lt_succ_self pos) hpos
  | ofTerm _ => exact level_lt_of_tighter pos (by decide)
  | ofExponent => exact level_lt_of_tighter pos (by decide)
  | ofAtom => exact level_lt_of_tighter pos (by decide)
  | ofMerge => exact level_lt_of_tighter pos (by decide)

/-- Chains of calls are no longer than the level of the rule they start with. -/
theorem reaches_of_level_lt (h : level tokens rule pos < depth) :
    Reaches tokens depth rule pos := by
  induction depth generalizing rule pos with
  | zero => exact absurd h (Nat.not_lt_zero _)
  | succ depth ih =>
    intro hpos
    refine ⟨fun _ => ?_, fun r p hcall => ih ?_⟩
    · unfold level at h
      omega
    · have hlt := hcall.level_lt hpos
      omega

theorem Reaches.succ (h : Reaches tokens depth rule pos) : Reaches tokens (depth + 1) rule pos := by
  induction depth generalizing rule pos with
  | zero => exact h.elim
  | succ depth ih =>
    intro hpos
    exact ⟨fun _ => Nat.zero_lt_succ depth, fun r p hcall => ih ((h hpos).2 r p hcall)⟩

theorem Reaches.mono {depth' : Nat} (h : Reaches tokens depth rule pos) (hle : depth ≤ depth') :
    Reaches tokens depth' rule pos := by
  induction hle with
  | refl => exact h
  | step _ ih => exact ih.succ

theorem Reaches.depth_pos (h : Reaches tokens depth rule pos) : 0 < depth := by
  cases depth with
  | zero => exact h.elim
  | succ depth => exact Nat.zero_lt_succ depth

end

end Reckoner.Grammar
