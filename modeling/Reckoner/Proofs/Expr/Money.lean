import Reckoner.Proofs.Expr.Stacks

/-!
# Where money comes in

A source of rates is asked for the exchange of money between two currencies and for nothing else.
Which exchange an operator makes is said by `Operator.Exchanges`, and the questions of an evaluation
are those of the operators that it applies (`mem_questions_iff`).

The unit of a value is the unit of some leaf (`mem_units_of_value`).  So in a tree without a
currency no operator ever gets one: there is nothing to ask for, and all sources lead to the same
outcome.
-/

namespace Reckoner

open Calculation

/-! ## Exchanges of one operator -/

/-- An operator on two units exchanges money, from the first currency into the second: a conversion
from the left unit into the right one, a sum or difference from the right unit into the left one
when they differ. -/
inductive Operator.Exchanges : Operator → Option Measure → Option Measure → String → String → Prop
    where
  | convert (a b : String) : Exchanges .convert (some (.currency a)) (some (.currency b)) a b
  | add {a b : String} (different : a ≠ b) :
    Exchanges .add (some (.currency b)) (some (.currency a)) a b
  | subtract {a b : String} (different : a ≠ b) :
    Exchanges .subtract (some (.currency b)) (some (.currency a)) a b

namespace Operator

variable {op : Operator} {u v w : Option Measure} {a b : String}

theorem sumExchange?_eq_some_iff :
    sumExchange? u v = some (a, b) ↔
      u = some (.currency b) ∧ v = some (.currency a) ∧ a ≠ b := by
  constructor
  · intro h
    unfold sumExchange? at h
    split at h
    next c d =>
      split at h
      next => cases h
      next different =>
        cases h
        exact ⟨rfl, rfl, Ne.symm different⟩
    next => cases h
  · rintro ⟨rfl, rfl, different⟩
    exact if_neg (Ne.symm different)

/-- The exchange that an operator asks for is the one that it makes. -/
theorem exchange?_eq_some_iff : op.exchange? u v = some (a, b) ↔ op.Exchanges u v a b := by
  constructor
  · intro h
    unfold exchange? at h
    split at h
    next =>
      cases h
      exact .convert a b
    next =>
      obtain ⟨rfl, rfl, different⟩ := sumExchange?_eq_some_iff.1 h
      exact .add different
    next =>
      obtain ⟨rfl, rfl, different⟩ := sumExchange?_eq_some_iff.1 h
      exact .subtract different
    next => cases h
  · intro h
    cases h with
    | convert => rfl
    | add different => exact if_neg (Ne.symm different)
    | subtract different => exact if_neg (Ne.symm different)

/-- Only money is exchanged. -/
theorem Exchanges.units (h : op.Exchanges u v a b) :
    (∃ c, u = some (.currency c)) ∧ ∃ d, v = some (.currency d) := by
  cases h <;> exact ⟨⟨_, rfl⟩, ⟨_, rfl⟩⟩

/-! ## Units of one operator -/

/-- The unit of a result is that of one of the operands. -/
theorem unit?_cases (h : op.unit? u v = some w) : w = u ∨ w = v := by
  have sum (h : sumUnit? u v = some w) : w = u := by
    unfold sumUnit? at h
    split at h
    next => exact (Option.some.inj h).symm
    next =>
      split at h
      next => exact (Option.some.inj h).symm
      next => cases h
    next => cases h
  unfold unit? at h
  split at h
  next => exact .inr (Option.some.inj h).symm
  next => exact .inr (Option.some.inj h).symm
  next => exact .inl (Option.some.inj h).symm
  next => exact .inl (Option.some.inj h).symm
  next => cases h
  next => cases h
  next => exact .inl (Option.some.inj h).symm
  next => cases h
  next => exact .inl (sum h)
  next => exact .inl (sum h)
  next =>
    split at h
    next => exact .inr (Option.some.inj h).symm
    next => cases h
  next => cases h

end Operator

section

variable {σ : Type} {source : Option (RateSource σ)}

/-- A value has the unit that is inferred for it, whatever else the source may answer. -/
theorem Operator.unit?_of_apply {op : Operator} {x y q : Quantity} {s s' : σ}
    (h : (op.apply source x y).start s = (.ok q, s')) : op.unit? x.unit y.unit = some q.unit := by
  obtain ⟨need, -, hrun⟩ := op.exists_need x y
  -- the same value is found with a source that answers nothing but the one rate that was used
  obtain ⟨rates, hrates, hq⟩ : ∃ rates : Option (RateSource Unit),
      (∀ r ∈ rates, r.Answers) ∧ (need.run rates).start () = (.ok q, ()) := by
    rw [hrun] at h
    cases need with
    | nothing result =>
      cases h
      exact ⟨none, nofun, rfl⟩
    | answer a b next =>
      rw [Need.run, start_bind] at h
      obtain ⟨rate, t, -, h⟩ := andThen_eq_ok h
      cases h
      refine ⟨some ⟨fun _ _ => pure rate⟩, ?_, rfl⟩
      rintro _ ⟨⟩ a b s f s' hfault
      cases hfault
  have agrees := op.apply_agrees hrates x y ()
  rw [hrun, hq] at agrees
  exact agrees

namespace Expr

/-! ## Units of a tree -/

/-- The units at the leaves of a tree. -/
def units : Expr → List Measure
  | .leaf q => q.unit.toList
  | .negate e => e.units
  | .binary _ l r => l.units ++ r.units

/-- No leaf has a currency. -/
def MoneyFree (e : Expr) : Prop := ∀ code, .currency code ∉ e.units

instance : DecidablePred MoneyFree := fun e =>
  decidable_of_iff (∀ u ∈ e.units, u.category ≠ .currency) <| by
    refine ⟨fun h code hcode => h _ hcode rfl, fun h u hu => ?_⟩
    cases u with
    | fixed u => exact u.category_ne_currency
    | currency code => exact absurd hu (h code)

/-- The unit of a value comes from a leaf. -/
theorem mem_units_of_value {e : Expr} {q : Quantity} {s s' : σ}
    (h : (e.value source).start s = (.ok q, s')) : ∀ u ∈ q.unit, u ∈ e.units := by
  induction e generalizing q s s' with
  | leaf p =>
    cases h
    exact fun u hu => Option.mem_toList.2 hu
  | negate e ih =>
    rw [start_value_negate] at h
    obtain ⟨x, t, hx, h⟩ := andThen_eq_ok h
    cases h
    exact fun u hu => ih hx u hu
  | binary op l r ihl ihr =>
    rw [start_value_binary] at h
    obtain ⟨x, t, hx, h⟩ := andThen_eq_ok h
    obtain ⟨y, t', hy, h⟩ := andThen_eq_ok h
    intro u hu
    rcases Operator.unit?_cases (Operator.unit?_of_apply h) with same | same
    · exact List.mem_append_left _ (ihl hx u (same ▸ hu))
    · exact List.mem_append_right _ (ihr hy u (same ▸ hu))

/-- Without a currency at the leaves, no value has one. -/
theorem MoneyFree.unit_ne {e : Expr} (he : e.MoneyFree) {q : Quantity} {s s' : σ}
    (h : (e.value source).start s = (.ok q, s')) (code : String) :
    q.unit ≠ some (.currency code) := fun hunit => he code (mem_units_of_value h _ hunit)

/-! ## Questions of a tree -/

theorem start_evaluate_leaf (source : Option (RateSource σ)) (q : Quantity) (s : σ) :
    ((Expr.leaf q).evaluate source).start s = (.ok q, s) := by
  rw [evaluate_eq_value]
  rfl

/-- In the evaluation of a tree from a state, an operator is applied to two quantities. -/
inductive Applies (source : Option (RateSource σ)) :
    Expr → σ → Operator → Quantity → Quantity → Prop where
  | here {op : Operator} {l r : Expr} {s t t' : σ} {x y : Quantity} :
    (l.evaluate source).start s = (.ok x, t) → (r.evaluate source).start t = (.ok y, t') →
    Applies source (.binary op l r) s op x y
  | negate {e : Expr} {s : σ} {op : Operator} {x y : Quantity} :
    Applies source e s op x y → Applies source (.negate e) s op x y
  | left {op' : Operator} {l r : Expr} {s : σ} {op : Operator} {x y : Quantity} :
    Applies source l s op x y → Applies source (.binary op' l r) s op x y
  | right {op' : Operator} {l r : Expr} {s t : σ} {z : Quantity} {op : Operator} {x y : Quantity} :
    (l.evaluate source).start s = (.ok z, t) → Applies source r t op x y →
    Applies source (.binary op' l r) s op x y

theorem mem_later_iff {α : Type} {c : Calculation σ α} {questions : α → σ → Questions} {s : σ}
    {p : String × String} :
    p ∈ later c questions s ↔ ∃ a t, c.start s = (.ok a, t) ∧ p ∈ questions a t := by
  match hc : c.start s with
  | (.ok a, t) =>
    rw [later_of_ok hc]
    exact ⟨fun h => ⟨a, t, rfl, h⟩, fun ⟨_, _, heq, h⟩ => by cases heq; exact h⟩
  | (.error f, t) =>
    rw [later_of_error hc]
    exact ⟨fun h => absurd h List.not_mem_nil, fun ⟨_, _, heq, _⟩ => by cases heq⟩

/-- The questions of an evaluation are the exchanges of the operators that it applies. -/
theorem mem_questions_iff {rates : RateSource σ} {e : Expr} {s : σ} {a b : String} :
    (a, b) ∈ e.questions rates s ↔
      ∃ op x y, Applies (some rates) e s op x y ∧ op.Exchanges x.unit y.unit a b := by
  induction e generalizing s with
  | leaf q => exact ⟨fun h => absurd h List.not_mem_nil, fun ⟨_, _, _, h, _⟩ => nomatch h⟩
  | negate e ih =>
    refine ih.trans ⟨?_, ?_⟩
    · rintro ⟨op, x, y, happlies, hmoney⟩
      exact ⟨op, x, y, .negate happlies, hmoney⟩
    · rintro ⟨op, x, y, happlies, hmoney⟩
      cases happlies with
      | negate happlies => exact ⟨op, x, y, happlies, hmoney⟩
  | binary op l r ihl ihr =>
    rw [questions, List.mem_append, mem_later_iff]
    simp only [List.mem_append, mem_later_iff, Option.mem_toList,
      Operator.exchange?_eq_some_iff]
    constructor
    · rintro (h | ⟨x, t, hx, h | ⟨y, t', hy, hmoney⟩⟩)
      · obtain ⟨op', x, y, happlies, hmoney⟩ := ihl.1 h
        exact ⟨op', x, y, .left happlies, hmoney⟩
      · obtain ⟨op', x', y, happlies, hmoney⟩ := ihr.1 h
        exact ⟨op', x', y, .right ((evaluate_eq_value (some rates) l).symm ▸ hx) happlies, hmoney⟩
      · rw [← evaluate_eq_value] at hx hy
        exact ⟨op, x, y, .here hx hy, hmoney⟩
    · rintro ⟨op', x, y, happlies, hmoney⟩
      cases happlies with
      | here hx hy =>
        rw [evaluate_eq_value] at hx hy
        exact .inr ⟨x, _, hx, .inr ⟨y, _, hy, hmoney⟩⟩
      | left happlies => exact .inl (ihl.2 ⟨op', x, y, happlies, hmoney⟩)
      | right hz happlies =>
        rw [evaluate_eq_value] at hz
        exact .inr ⟨_, _, hz, .inl (ihr.2 ⟨op', x, y, happlies, hmoney⟩)⟩

/-! ## Trees without exchanges -/

/-- A tree without a currency comes to the same with every source, which is left alone. -/
theorem MoneyFree.exists_outcome {e : Expr} (he : e.MoneyFree) :
    ∃ outcome, ∀ (σ : Type) (source : Option (RateSource σ)) (s : σ),
      (e.value source).start s = (outcome, s) := by
  induction e with
  | leaf q => exact ⟨.ok q, fun _ _ _ => rfl⟩
  | negate e ih =>
    obtain ⟨outcome, h⟩ := ih he
    refine ⟨outcome.map Quantity.negate, fun σ source s => ?_⟩
    rw [start_value_negate, h]
    cases outcome <;> rfl
  | binary op l r ihl ihr =>
    have hl : l.MoneyFree := fun code hcode => he code (List.mem_append_left _ hcode)
    have hr : r.MoneyFree := fun code hcode => he code (List.mem_append_right _ hcode)
    obtain ⟨left, hleft⟩ := ihl hl
    obtain ⟨right, hright⟩ := ihr hr
    match left, right with
    | .error f, _ => exact ⟨.error f, fun σ source s => by rw [start_value_binary, hleft]; rfl⟩
    | .ok x, .error f =>
      refine ⟨.error f, fun σ source s => ?_⟩
      rw [start_value_binary, hleft, andThen_ok, hright]
      rfl
    | .ok x, .ok y =>
      obtain ⟨need, hquestion, hrun⟩ := op.exists_need x y
      -- a question would be for the currency of an operand, and there is none
      cases need with
      | answer a b next =>
        have hmoney := Operator.exchange?_eq_some_iff.1 hquestion.symm
        obtain ⟨⟨code, hunit⟩, -⟩ := hmoney.units
        exact absurd hunit (hl.unit_ne (hleft Unit none ()) code)
      | nothing result =>
        refine ⟨result, fun σ source s => ?_⟩
        rw [start_value_binary, hleft, andThen_ok, hright, andThen_ok, hrun]
        rfl

/-- A tree of sums, differences and negations whose leaves all have the same unit. -/
inductive SumIn (u : Measure) : Expr → Prop where
  | leaf (x : Number) : SumIn u (.leaf ⟨x, some u⟩)
  | negate {e : Expr} : SumIn u e → SumIn u (.negate e)
  | add {l r : Expr} : SumIn u l → SumIn u r → SumIn u (.binary .add l r)
  | subtract {l r : Expr} : SumIn u l → SumIn u r → SumIn u (.binary .subtract l r)

/-- A sum in one unit has a value in this unit, without any source. -/
theorem SumIn.exists_value {u : Measure} {e : Expr} (h : SumIn u e) :
    ∃ x, ∀ (σ : Type) (source : Option (RateSource σ)) (s : σ),
      (e.value source).start s = (.ok ⟨x, some u⟩, s) := by
  induction h with
  | leaf x => exact ⟨x, fun _ _ _ => rfl⟩
  | negate _ ih =>
    obtain ⟨x, h⟩ := ih
    refine ⟨x.negate, fun σ source s => ?_⟩
    rw [start_value_negate, h]
    rfl
  | add _ _ ihl ihr =>
    obtain ⟨x, hx⟩ := ihl
    obtain ⟨y, hy⟩ := ihr
    refine ⟨x.add y, fun σ source s => ?_⟩
    rw [start_value_binary, hx, andThen_ok, hy, andThen_ok, Operator.apply, Quantity.add,
      Quantity.combine, if_pos rfl, start_pure]
  | subtract _ _ ihl ihr =>
    obtain ⟨x, hx⟩ := ihl
    obtain ⟨y, hy⟩ := ihr
    refine ⟨x.sub y, fun σ source s => ?_⟩
    rw [start_value_binary, hx, andThen_ok, hy, andThen_ok, Operator.apply, Quantity.subtract,
      Quantity.combine, if_pos rfl, start_pure]

/-- Rates are asked for to exchange money and for nothing else.  A tree without a currency comes to
the same with any two sources, or none, and asks no question.  In every tree the questions are the
exchanges of the operators that are applied: a conversion between two currencies, or a sum or
difference of two different ones.  So a sum in one currency has a value without rates. -/
theorem rates_only_for_exchanges :
    (∀ e : Expr, e.MoneyFree → ∀ (σ τ : Type) (source : Option (RateSource σ))
      (source' : Option (RateSource τ)) (s : σ) (t : τ),
      ((e.evaluate source).start s).1 = ((e.evaluate source').start t).1 ∧
        ((e.evaluate source).start s).2 = s ∧
        ∀ rates : RateSource σ, ((e.evaluate (some rates.recorded)).start (s, [])).2 = (s, [])) ∧
    (∀ (e : Expr) (σ : Type) (rates : RateSource σ) (s : σ) (a b : String),
      (a, b) ∈ ((e.evaluate (some rates.recorded)).start (s, [])).2.2 ↔
        ∃ op x y, Applies (some rates) e s op x y ∧ op.Exchanges x.unit y.unit a b) ∧
    ∀ (code : String) (e : Expr), SumIn (.currency code) e → ∃ x, ∀ (σ : Type)
      (source : Option (RateSource σ)) (s : σ),
      (e.evaluate source).start s = (.ok ⟨x, some (.currency code)⟩, s) ∧
        ∀ rates : RateSource σ, ((e.evaluate (some rates.recorded)).start (s, [])).2 = (s, []) := by
  refine ⟨fun e he σ τ source source' s t => ?_, fun e σ rates s a b => ?_, fun code e he => ?_⟩
  · obtain ⟨outcome, h⟩ := he.exists_outcome
    simp only [evaluate_eq_value, h, and_self, implies_true]
  · rw [evaluate_eq_value, value_records rates e s [], List.nil_append]
    exact mem_questions_iff
  · obtain ⟨x, h⟩ := he.exists_value
    refine ⟨x, fun σ source s => ?_⟩
    simp only [evaluate_eq_value, h, and_self, implies_true]

end Expr

end

/-- A metre and two feet, divided by nothing. -/
def lengthsByZero : Expr :=
  .binary .divide
    (.binary .add (.leaf ⟨.whole 1, some (.fixed .metre)⟩)
      (.leaf ⟨.whole 2, some (.fixed .foot)⟩))
    (.leaf ⟨.whole 0, none⟩)

/-- Ten euros less nine. -/
def eurosLeft : Expr :=
  .binary .subtract (.leaf ⟨.whole 10, some (.currency "EUR")⟩)
    (.leaf ⟨.whole 9, some (.currency "EUR")⟩)

/-- Lengths fail alike with and without rates, euros are taken from euros without rates, and the sum
of a forint and a euro is what the price of a euro is asked for. -/
theorem lengths_and_euros_without_rates :
    lengthsByZero.MoneyFree ∧
    ((lengthsByZero.evaluate (none : Option (RateSource Unit))).start ()).1 =
      ((lengthsByZero.evaluate (some (forintPrices.toSource : RateSource Unit))).start ()).1 ∧
    Expr.SumIn (.currency "EUR") eurosLeft ∧
    (∃ x, (eurosLeft.evaluate (none : Option (RateSource Unit))).start () =
      (.ok ⟨x, some (.currency "EUR")⟩, ())) ∧
    ("EUR", "HUF") ∈ ((Expr.sumInEuros.evaluate
      (some (forintPrices.toSource : RateSource Unit).recorded)).start ((), [])).2.2 := by
  obtain ⟨hfree, hasked, hsum⟩ := Expr.rates_only_for_exchanges
  have hlengths : lengthsByZero.MoneyFree := by decide
  have heuros : Expr.SumIn (.currency "EUR") eurosLeft := .subtract (.leaf _) (.leaf _)
  obtain ⟨x, hx⟩ := hsum "EUR" eurosLeft heuros
  refine ⟨hlengths, (hfree _ hlengths Unit Unit _ _ () ()).1, heuros, ⟨x, (hx Unit none ()).1⟩, ?_⟩
  exact (hasked _ Unit _ () "EUR" "HUF").2 ⟨.add, .oneOf (.currency "HUF"),
    .oneOf (.currency "EUR"), .left (.here (Expr.start_evaluate_leaf ..)
      (Expr.start_evaluate_leaf ..)), .add (by decide)⟩

end Reckoner
