import Reckoner.Proofs.Calculate
import Reckoner.Proofs.Token.Boundary
import Reckoner.Text.Line

/-!
# Texts that differ in their gaps

A text has the tokens of its words, one word after the other, a word being a longest run of
characters that are no gaps (`scan_eq_words`).  No token reaches over a gap, so it does not matter
which gaps stand between two words, nor how many, nor what gaps stand at either end.

A calculation sees only the tokens, and so it does not see the gaps either (`readAlike_of_words`).
The same holds where tokens are made with guards: a numeral that cannot be read is met in the same
place.
-/

namespace Reckoner

namespace Text

/-! ## Words -/

theorem pieces_append {p : Char → Bool} {c : Char} (hc : p c = true) (cs rest : List Char) :
    pieces p (cs ++ c :: rest) = pieces p cs ++ pieces p rest := by
  induction cs with
  | nil => simp [pieces, hc]
  | cons d cs ih =>
    obtain ⟨piece, more, hpieces⟩ := List.exists_cons_of_ne_nil (pieces_ne_nil p cs)
    rw [List.cons_append, pieces, pieces, ih, hpieces]
    split <;> rfl

theorem pieces_of_forall {p : Char → Bool} {cs : List Char} (h : ∀ c ∈ cs, p c = false) :
    pieces p cs = [cs] := by
  induction cs with
  | nil => rfl
  | cons c cs ih =>
    obtain ⟨hc, hcs⟩ := List.forall_mem_cons.1 h
    simp [pieces, hc, ih hcs]

/-- The longest runs of characters that are no gaps. -/
def words (cs : List Char) : List (List Char) := (pieces isGap cs).filter fun word => !word.isEmpty

@[simp] theorem words_nil : words [] = [] := rfl

theorem words_append {g : Char} (hg : isGap g = true) (cs rest : List Char) :
    words (cs ++ g :: rest) = words cs ++ words rest := by
  rw [words, pieces_append hg, List.filter_append, words, words]

theorem words_of_forall {cs : List Char} (hne : cs ≠ []) (h : ∀ c ∈ cs, isGap c = false) :
    words cs = [cs] := by
  simp [words, pieces_of_forall h, hne]

/-- Some gaps, and at least one. -/
structure Gaps (s : String) : Prop where
  nonempty : s.toList ≠ []
  gaps : ∀ c ∈ s.toList, isGap c = true

end Text

open Text

/-! ## Words one after the other -/

namespace Lexeme

/-- What stands on the two sides of gaps is cut into lexemes each for itself. -/
theorem scan_spaced {gaps : List Char} (hne : gaps ≠ []) (hgaps : ∀ c ∈ gaps, isGap c = true)
    (cs rest : List Char) : scan (cs ++ gaps ++ rest) = scan cs ++ scan rest := by
  cases gaps with
  | nil => exact absurd rfl hne
  | cons g gaps =>
    obtain ⟨hg, hmore⟩ := List.forall_mem_cons.1 hgaps
    rw [List.append_assoc, List.cons_append, scan_append hg, scan_gaps_append hmore]

/-- Characters have the lexemes of their words. -/
theorem scan_eq_words (cs : List Char) : scan cs = (words cs).flatMap scan := by
  -- along the characters, with those of an unfinished word in front
  suffices h : ∀ front : List Char, (∀ c ∈ front, isGap c = false) →
      scan (front ++ cs) = (words (front ++ cs)).flatMap scan from h [] (List.forall_mem_nil _)
  have hword : ∀ front : List Char, (∀ c ∈ front, isGap c = false) →
      scan front = (words front).flatMap scan := by
    intro front hfront
    by_cases hne : front = []
    · rw [hne, scan_nil, words_nil, List.flatMap_nil]
    · rw [words_of_forall hne hfront, List.flatMap_singleton]
  induction cs with
  | nil =>
    intro front hfront
    rw [List.append_nil]
    exact hword front hfront
  | cons c cs ih =>
    intro front hfront
    cases hc : isGap c with
    | true =>
      have hrest := ih [] (List.forall_mem_nil _)
      rw [List.nil_append] at hrest
      rw [scan_append hc, words_append hc, List.flatMap_append, ← hword front hfront, ← hrest]
    | false =>
      have hlonger : ∀ d ∈ front ++ [c], isGap d = false :=
        List.forall_mem_append.2 ⟨hfront, List.forall_mem_singleton.2 hc⟩
      rw [List.append_cons]
      exact ih (front ++ [c]) hlonger

end Lexeme

namespace Token

/-- The texts have the same tokens, and they come to the same with any source of rates; both hold
with guards as well. -/
structure ReadAlike (s t : String) : Prop where
  tokens : tokenize s = tokenize t
  guardedTokens : Guarded.tokenize s = Guarded.tokenize t
  calculations : ∀ (σ : Type) (source : Option (RateSource σ)),
    calculate source s = calculate source t
  guardedCalculations : ∀ (σ : Type) (alarm : Crash → Fault)
    (source : Option (RateSource σ)),
    Guarded.calculate alarm source s = Guarded.calculate alarm source t

theorem readAlike_of_scan {s t : String} (h : Lexeme.scan s.toList = Lexeme.scan t.toList) :
    ReadAlike s t := by
  have htokens : tokenize s = tokenize t := by rw [tokenize, tokenize, h]
  have hguarded : Guarded.tokenize s = Guarded.tokenize t := by
    rw [Guarded.tokenize, Guarded.tokenize, h]
  refine ⟨htokens, hguarded, ?_, ?_⟩
  · intro σ source
    rw [calculate, calculate, parseText, parseText, htokens]
  · intro σ alarm source
    rw [Guarded.calculate, Guarded.calculate, hguarded]

theorem readAlike_of_words {s t : String} (h : words s.toList = words t.toList) :
    ReadAlike s t := by
  refine readAlike_of_scan ?_
  rw [Lexeme.scan_eq_words, h, ← Lexeme.scan_eq_words]

/-- The texts on the two sides of gaps are cut into tokens each for itself, with guards too; if both
have too long numerals, the left one is the fault.  Gaps at either end make no difference, nor does
it make one which gaps stand between, and texts of the same words are read alike whatever gaps they
have. -/
theorem tokenize_spaced {w : String} (hw : Gaps w) (a b : String) :
    tokenize (a ++ w ++ b) = (do
      let ts ← tokenize a
      let us ← tokenize b
      pure (ts ++ us)) ∧
    Guarded.tokenize (a ++ w ++ b) = (do
      let ts ← Guarded.tokenize a
      let us ← Guarded.tokenize b
      pure (ts ++ us)) ∧
    ReadAlike (w ++ a) a ∧ ReadAlike (a ++ w) a ∧
    (∀ v, Gaps v → ReadAlike (a ++ v ++ b) (a ++ w ++ b)) ∧
    (∀ s t : String, words s.toList = words t.toList → ReadAlike s t) := by
  have hscan : ∀ v, Gaps v → Lexeme.scan (a ++ v ++ b).toList =
      Lexeme.scan a.toList ++ Lexeme.scan b.toList := by
    intro v hv
    rw [String.toList_append, String.toList_append]
    exact Lexeme.scan_spaced hv.nonempty hv.gaps a.toList b.toList
  refine ⟨?_, ?_, ?_, ?_, ?_, fun s t => readAlike_of_words⟩
  · rw [tokenize, hscan w hw, List.mapM_append, tokenize, tokenize]
  · rw [Guarded.tokenize, hscan w hw, List.mapM_append, Guarded.tokenize, Guarded.tokenize]
  · refine readAlike_of_scan ?_
    rw [String.toList_append, Lexeme.scan_gaps_append hw.gaps]
  · refine readAlike_of_scan ?_
    rw [String.toList_append, Lexeme.scan_append_gaps hw.gaps]
  · intro v hv
    exact readAlike_of_scan ((hscan v hv).trans (hscan w hw).symm)

/-- The exponent of a numeral does not reach over gaps: `1e+3` is one number, and with a tab and an
em space in it four tokens. -/
theorem tokenize_exponent_apart :
    Gaps "\t\u2003" ∧
    tokenize ("1e" ++ "\t\u2003" ++ "+3") = .ok [.integer 1, .word "e", .plus, .integer 3] ∧
    tokenize "1e+3" = .ok [.integer 1000] ∧
    ReadAlike ("1e" ++ " " ++ "+3") ("1e" ++ "\t\u2003" ++ "+3") := by
  have hgaps : Gaps "\t\u2003" := ⟨by simp, forall_mem_of_all (by decide)⟩
  have hblank : Gaps " " := ⟨by simp, forall_mem_of_all (by decide)⟩
  obtain ⟨hjoin, -, -, -, hother, -⟩ := tokenize_spaced hgaps "1e" "+3"
  have hfront : tokenize "1e" = .ok [.integer 1, .word "e"] := by decide +kernel
  have hback : tokenize "+3" = .ok [.plus, .integer 3] := by decide +kernel
  have hnumber : tokenize "1e+3" = .ok [.integer 1000] := by decide +kernel
  refine ⟨hgaps, ?_, hnumber, hother " " hblank⟩
  rw [hjoin, hfront, hback]
  rfl

end Token

end Reckoner
