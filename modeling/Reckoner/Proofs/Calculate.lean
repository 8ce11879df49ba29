import Reckoner.Calculate
import Reckoner.Proofs.Expr.Guarded
import Reckoner.Proofs.Expr.Units
import Reckoner.Proofs.Grammar.Completeness
import Reckoner.Proofs.Number.GuardedText
import Reckoner.Proofs.Token.Guarded

/-!
# Guarded calculation

The calculation of a text with guards at every step that may have no result: numerals are read,
numbers combined and converted, and the result is written, all with guards.  No guard is ever hit
(`calculate_proper`).  The invariant is that numbers are canonical.  It holds of the tokens of a
text, hence of the leaves of a tree that they derive (`Derives.canonical`), and every operator keeps
it.
-/

namespace Reckoner

namespace Grammar

theorem NumberToken.canonical {t : Token} {x : Number} (h : NumberToken t x) (ht : t.Canonical) :
    x.Canonical := by
  cases h with
  | integer n => exact ht
  | float x => exact trivial

/-- A tree that is derived from canonical tokens has canonical numbers. -/
theorem Derives.canonical {rule : Rule} {ts : List Token} {e : Expr} (h : Derives rule ts e)
    (hts : ∀ t ∈ ts, t.Canonical) : e.Canonical := by
  induction h with
  | sum _ _ _ ihl ihr =>
    rw [List.forall_mem_append, List.forall_mem_cons] at hts
    exact ⟨ihl hts.1, ihr hts.2.2⟩
  | negation _ ih => exact ih (List.forall_mem_cons.1 hts).2
  | ofTerm _ ih => exact ih hts
  | product _ _ _ ihl ihr =>
    rw [List.forall_mem_append, List.forall_mem_cons] at hts
    exact ⟨ihl hts.1, ihr hts.2.2⟩
  | conversion _ _ ih => exact ⟨ih (List.forall_mem_append.1 hts).1, Number.one_canonical⟩
  | ofExponent _ ih => exact ih hts
  | power _ _ ihl ihr =>
    rw [List.forall_mem_append, List.forall_mem_cons] at hts
    exact ⟨ihl hts.1, ihr hts.2.2⟩
  | ofAtom _ ih => exact ih hts
  | parentheses _ ih =>
    rw [List.forall_mem_cons, List.forall_mem_append] at hts
    exact ih hts.2.1
  | ofMerge _ ih => exact ih hts
  | quantity hx _ => exact hx.canonical (hts _ List.mem_cons_self)
  | number hx => exact hx.canonical (hts _ List.mem_cons_self)
  | unit _ => exact Number.one_canonical
  | merged _ _ hx _ _ ih =>
    obtain ⟨hchain, hnew⟩ := List.forall_mem_append.1 hts
    exact ⟨ih hchain, hx.canonical (hnew _ List.mem_cons_self)⟩
  | single hx _ => exact hx.canonical (hts _ List.mem_cons_self)

end Grammar

variable {σ : Type}

namespace Guarded

/-- The text of a quantity. -/
def quantityText (q : Quantity) : Except Crash String :=
  (· ++ q.unit.elim "" Measure.symbol) <$> text q.number

/-- The value of a text; none when the text is not one expression. -/
def calculate (alarm : Crash → Fault) (source : Option (RateSource σ)) (text : String) :
    Calculation σ (Option Quantity) := do
  let tokens ← orAlarm alarm (tokenize text)
  match (Grammar.parse tokens.toArray).tree? with
  | none => pure none
  | some e => do
    let q ← value alarm source e
    pure (some q)

theorem quantityText_eq (q : Quantity) : quantityText q = .ok q.text := by
  rw [quantityText, text_eq]
  rfl

end Guarded

/-- What the calculation of a text may come to: nothing, a canonical quantity that has a text, or a
failed calculation. -/
def Proper : Except Fault (Option Quantity) → Prop
  | .ok none => True
  | .ok (some q) => q.number.Canonical ∧ Guarded.quantityText q = .ok q.text
  | .error f => ∃ e, f = .calculation e

theorem parseText_canonical {text : String} {e : Expr} (h : parseText text = .ok (some e)) :
    e.Canonical := by
  cases htokens : Token.tokenize text with
  | error f =>
    rw [parseText, htokens] at h
    cases h
  | ok ts =>
    rw [parseText_of_tokenize htokens] at h
    exact (Grammar.derives_of_parseWithin (Except.ok.inj h)).canonical fun _ ht =>
      Guarded.canonical_of_tokenize htokens ht

/-- With short numerals a calculation raises no alarm. -/
theorem Guarded.calculate_eq {text : String} (short : ShortNumerals text) (alarm : Crash → Fault)
    (source : Option (RateSource σ)) :
    calculate alarm source text = Reckoner.calculate source text := by
  have htokens := tokenize_of_short short
  have hguarded : tokenize text = .ok (Token.ofChars text.toList) := by
    rw [tokenize_eq, htokens]
    rfl
  have hparse := parseText_of_tokenize htokens
  rw [calculate, orAlarm_bind alarm hguarded, Reckoner.calculate, hparse]
  show _ = (match (Grammar.parse (Token.ofChars text.toList).toArray).tree? with
    | none => pure none
    | some e => do
      let q ← e.evaluate source
      pure (some q))
  cases h : (Grammar.parse (Token.ofChars text.toList).toArray).tree? with
  | none => rfl
  | some e =>
    have hcanonical : e.Canonical := parseText_canonical (hparse.trans (congrArg _ h))
    show (value alarm source e >>= _) = (e.evaluate source >>= _)
    rw [value_eq alarm hcanonical, Expr.evaluate_eq_value]

theorem proper_of_calculate (rates : Option FixedRates) {text : String}
    (short : Guarded.ShortNumerals text) (s : σ) :
    Proper ((calculate (rates.map FixedRates.toSource) text).start s).1 := by
  have hparse := parseText_of_tokenize (Guarded.tokenize_of_short short)
  rw [calculate, hparse]
  cases htree : (Grammar.parse (Token.ofChars text.toList).toArray).tree? with
  | none => exact trivial
  | some e =>
    have hcanonical : e.Canonical := parseText_canonical (hparse.trans (congrArg _ htree))
    show Proper (Calculation.start (e.evaluate _ >>= _) s).1
    rw [Calculation.start_bind, Expr.evaluate_eq_value]
    have hagrees := Expr.value_agrees (answers_of_mem rates) e s
    match hv : (e.value (rates.map FixedRates.toSource)).start s with
    | (.ok q, s') => exact ⟨Guarded.value_canonical hcanonical hv, Guarded.quantityText_eq q⟩
    | (.error f, s') =>
      rw [hv] at hagrees
      exact hagrees.1

/-- No step of a calculation lacks a result: with a guard at each of them, and any faults as alarms,
the calculation is the same.  It comes to nothing, to a canonical quantity that has a text, or to a
failed calculation. -/
theorem calculate_proper {text : String} (short : Guarded.ShortNumerals text)
    (rates : Option FixedRates) (s : σ) :
    (∀ alarm, Guarded.calculate alarm (rates.map FixedRates.toSource) text =
      (calculate (rates.map FixedRates.toSource) text : Calculation σ (Option Quantity))) ∧
    Proper ((calculate (rates.map FixedRates.toSource) text).start s).1 :=
  ⟨fun alarm => Guarded.calculate_eq short alarm _, proper_of_calculate rates short s⟩

/-- A third of ten euros, in forints. -/
def thirdOfTenEuros : Expr :=
  .binary .convert
    (.binary .divide (.leaf ⟨.whole 10, some (.currency "EUR")⟩) (.leaf ⟨.whole 3, none⟩))
    (.leaf (.oneOf (.currency "HUF")))

/-- Four thousand thirds of a forint. -/
def fourThousandThirds : Quantity :=
  ⟨.ratio ⟨4000, 3, by decide, by decide, by decide, by decide⟩, some (.currency "HUF")⟩

theorem thirdOfTenEuros_proper :
    Guarded.ShortNumerals "10 eur / 3 to huf" ∧
    ((calculate (some forintPrices.toSource) "10 eur / 3 to huf").start ()).1 =
      .ok (some fourThousandThirds) ∧
    fourThousandThirds.number.Canonical ∧
    Guarded.quantityText fourThousandThirds = .ok fourThousandThirds.text := by
  have short : Guarded.ShortNumerals "10 eur / 3 to huf" :=
    Guarded.shortNumerals_of_length (by decide +kernel)
  have tokens : Token.tokenize "10 eur / 3 to huf" =
      .ok [.integer 10, .currency "EUR", .slash, .integer 3, .to, .currency "HUF"] := by
    decide +kernel
  have tree : parseText "10 eur / 3 to huf" = .ok (some thirdOfTenEuros) := by
    rw [parseText_of_tokenize tokens, Grammar.parse, Grammar.parseWithin_eq_longest (by decide)]
    decide +kernel
  have outcome : ((calculate (some forintPrices.toSource) "10 eur / 3 to huf").start ()).1 =
      .ok (some fourThousandThirds) := by
    rw [calculate, tree]
    show (Calculation.start (thirdOfTenEuros.evaluate _ >>= _) ()).1 = _
    rw [Calculation.start_bind, Expr.evaluate_eq_value]
    rfl
  have proper := (calculate_proper short (some forintPrices) ()).2
  rw [Option.map_some, outcome] at proper
  exact ⟨short, outcome, proper⟩

end Reckoner
