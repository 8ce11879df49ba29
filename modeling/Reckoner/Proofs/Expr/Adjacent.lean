import Mathlib.Data.List.Induction
import Reckoner.Proofs.Calculate
import Reckoner.Proofs.Expr.Exact
import Reckoner.Proofs.Expr.Money
import Reckoner.Proofs.Grammar.Nesting
import Reckoner.Proofs.Number.Fits

/-!
# Adjacent quantities

Quantities that are written one after the other, with no operator between them, add up: each next
one is added to the sum so far, which is in the unit of the first.

Tokens that are only numbers and units have no derivation but that of a merge, once there are more
than two of them (`Derives.merge_of_tight`).  A merge compares every category with the first one,
and every conversion goes into the first unit, since the sum keeps it (`Portion.start_add`).  So the
exact value is the sum in the base unit of the category, divided by the factor of the first unit.
-/

namespace Reckoner

open Grammar Calculation

/-! ## Portions -/

/-- The factor of a unit to the base unit of its category.  The scales of temperature have none. -/
def FixedUnit.scale (u : FixedUnit) : ℚ := u.scale?.getD 0

theorem FixedUnit.scale_of_ne {u : FixedUnit} (h : u.category ≠ .temperature) :
    u.scale? = some u.scale ∧ u.scale ≠ 0 := by
  obtain ⟨f, -, hf, hne, -⟩ := exists_scale h
  have hscale : u.scale = f := by rw [scale, hf, Option.getD_some]
  rw [hscale]
  exact ⟨hf, hne⟩

/-- A whole number of a fixed unit. -/
structure Portion where
  count : Int
  unit : FixedUnit

namespace Portion

/-- A portion as a quantity. -/
def quantity (p : Portion) : Quantity := ⟨.whole p.count, some (.fixed p.unit)⟩

/-- A portion in the base unit of its category. -/
def inBase (p : Portion) : ℚ := p.count * p.unit.scale

/-- Portions written one after the other. -/
def tokens (ps : List Portion) : List Token := ps.flatMap fun p => [.integer p.count, .unit p.unit]

/-- Portions added to a first one, from the left. -/
def sum (first : Portion) (rest : List Portion) : Expr :=
  rest.foldl (fun e p => .binary .add e (.leaf p.quantity)) (.leaf first.quantity)

variable {first p : Portion} {rest : List Portion}

theorem tokens_snoc (ps : List Portion) (p : Portion) :
    tokens (ps ++ [p]) = tokens ps ++ [.integer p.count, .unit p.unit] := by
  rw [tokens, List.flatMap_append, List.flatMap_singleton, tokens]

theorem sum_snoc (first : Portion) (rest : List Portion) (p : Portion) :
    sum first (rest ++ [p]) = .binary .add (sum first rest) (.leaf p.quantity) := by
  rw [sum, List.foldl_concat, sum]

theorem length_tokens (ps : List Portion) : (tokens ps).length = 2 * ps.length := by
  induction ps with
  | nil => rfl
  | cons p ps ih =>
    rw [tokens, List.flatMap_cons, List.length_append, ← tokens, ih, List.length_cons]
    exact Nat.add_comm 2 _

end Portion

/-! ## Numbers and units only -/

namespace Grammar

/-- The tokens are numbers and units, none of which ends what stands before it. -/
def Tight (ts : List Token) : Prop := ∀ t ∈ ts, followLooseness (some t) = 0

theorem Tight.left {ts ts' : List Token} (h : Tight (ts ++ ts')) : Tight ts :=
  (List.forall_mem_append.1 h).1

theorem Tight.ne {ts : List Token} {t : Token} (h : Tight ts)
    (hloose : 0 < followLooseness (some t)) : t ∉ ts := fun hmem => Nat.ne_of_gt hloose (h t hmem)

theorem Tight.getElem?_ne {tokens : Array Token} {t : Token} (h : Tight tokens.toList)
    (hloose : 0 < followLooseness (some t)) (pos : Nat) : tokens[pos]? ≠ some t := fun hget =>
  h.ne hloose (Array.mem_toList_iff.2 (Array.mem_of_getElem? hget))

/-- More than two numbers and units are derived as a merge or not at all. -/
theorem Derives.merge_of_tight {rule : Rule} {ts : List Token} {e : Expr} (h : Derives rule ts e)
    (hts : Tight ts) (hlength : 2 < ts.length) : Derives .merge ts e := by
  induction h with
  | sum _ hsign _ _ _ =>
    exact absurd (List.mem_append_right _ List.mem_cons_self)
      (hts.ne (hsign.followLooseness ▸ Nat.succ_pos 3))
  | product _ hsign _ _ _ =>
    exact absurd (List.mem_append_right _ List.mem_cons_self)
      (hts.ne (hsign.followLooseness ▸ Nat.succ_pos 2))
  | negation _ _ | parentheses _ _ => exact absurd List.mem_cons_self (hts.ne (by decide))
  | conversion _ _ _ | power _ _ _ _ =>
    exact absurd (List.mem_append_right _ List.mem_cons_self) (hts.ne (by decide))
  | ofTerm _ ih | ofExponent _ ih | ofAtom _ ih => exact ih hts hlength
  | ofMerge h _ => exact h
  | merged h hu hx hv hcategory _ => exact .merged h hu hx hv hcategory
  | quantity _ _ | single _ _ => exact absurd hlength (Nat.lt_irrefl 2)
  | number _ | unit _ => exact absurd hlength (Nat.not_succ_lt_self)

/-- Through numbers and units, rules call each other where they stand. -/
theorem Tight.reaches {tokens : Array Token} (h : Tight tokens.toList) (pos : Nat) :
    Reaches tokens 6 .expression pos := by
  have hatom : Reaches tokens 3 .atom pos := reaches_atom_of_ne (h.getElem?_ne (by decide) pos)
  have hexponent : Reaches tokens 4 .exponent pos := fun _ => ⟨nofun, fun r p hcall => by
    cases hcall with
    | power _ hcaret => exact absurd hcaret (h.getElem?_ne (by decide) _)
    | ofAtom => exact hatom⟩
  have hterm : Reaches tokens 5 .term pos := fun _ => ⟨fun _ => by decide, fun r p hcall => by
    cases hcall with
    | product _ hop =>
      obtain ⟨op, hop⟩ := Option.ne_none_iff_exists'.1 hop
      obtain ⟨sign, hget, hsign⟩ := multiplicative?_eq_some.1 hop
      exact absurd hget (h.getElem?_ne (hsign.followLooseness ▸ Nat.succ_pos 2) _)
    | ofExponent => exact hexponent⟩
  exact fun _ => ⟨fun _ => by decide, fun r p hcall => by
    cases hcall with
    | sum _ hop =>
      obtain ⟨op, hop⟩ := Option.ne_none_iff_exists'.1 hop
      obtain ⟨sign, hget, hsign⟩ := additive?_eq_some.1 hop
      exact absurd hget (h.getElem?_ne (hsign.followLooseness ▸ Nat.succ_pos 3) _)
    | negation hminus => exact absurd hminus (h.getElem?_ne (by decide) _)
    | ofTerm _ => exact hterm⟩

/-- Numbers and units never nest deep, so their parse is the longest expression. -/
theorem Tight.parseWithin_eq {ts : List Token} (h : Tight ts) {limit : Nat} (hlimit : 6 ≤ limit) :
    parseWithin limit ts.toArray =
      outcomeOf ts.toArray (longest ts.toArray .expression 0) := by
  rcases parseWithin_eq_or limit ts.toArray with ⟨-, hdeep⟩ | heq
  · exact absurd ((Tight.reaches h 0).mono hlimit) hdeep
  · exact heq

end Grammar

namespace Portion

variable {first p : Portion} {rest : List Portion} {e : Expr}

theorem tokens_tight (ps : List Portion) : Tight (tokens ps) := by
  intro t ht
  obtain ⟨p, -, ht⟩ := List.mem_flatMap.1 ht
  rcases List.mem_pair.1 ht with rfl | rfl <;> rfl

/-! ## Parsing -/

/-- Portions of one category are a merge. -/
theorem derives_sum (h : ∀ p ∈ rest, p.unit.category = first.unit.category) :
    Derives .merge (tokens (first :: rest)) (sum first rest) := by
  induction rest using List.reverseRecOn with
  | nil => exact .single (.integer _) (.fixed _)
  | append_singleton rest p ih =>
    rw [List.forall_mem_append, List.forall_mem_singleton] at h
    rw [sum_snoc, ← List.cons_append, tokens_snoc]
    exact .merged (ih h.1) (.fixed first.unit) (.integer p.count) (.fixed p.unit) h.2.symm

/-- Portions that are a merge are of one category. -/
theorem category_eq_of_derives (h : Derives .merge (tokens (first :: rest)) e) :
    ∀ p ∈ rest, p.unit.category = first.unit.category := by
  induction rest using List.reverseRecOn generalizing e with
  | nil => exact fun p hp => absurd hp List.not_mem_nil
  | append_singleton rest p ih =>
    rw [← List.cons_append, tokens_snoc] at h
    generalize hts : tokens (first :: rest) ++ [.integer p.count, .unit p.unit] = ts at h
    cases h with
    | merged hchain hu hx hv hcategory =>
      -- the tokens of the chain are those of the portions before the last one
      obtain ⟨hleft, hright⟩ := List.append_inj' hts rfl
      cases hright
      rw [← hleft] at hchain
      cases hleft
      cases hu.unique (.fixed first.unit)
      cases hv.unique (.fixed p.unit)
      exact List.forall_mem_append.2 ⟨ih hchain, List.forall_mem_singleton.2 hcategory.symm⟩
    | single _ _ =>
      have hlength := congrArg List.length hts
      rw [List.length_append, length_tokens] at hlength
      simp at hlength

/-- Portions are parsed to their sum if they are of one category. -/
theorem parseWithin_tokens (h : ∀ p ∈ rest, p.unit.category = first.unit.category) {limit : Nat}
    (hlimit : 6 ≤ limit) :
    parseWithin limit (tokens (first :: rest)).toArray = .tree (sum first rest) :=
  ((tokens_tight _).parseWithin_eq hlimit).trans <| derives_iff_outcomeOf.1 <|
    .ofTerm (.ofExponent (.ofAtom (.ofMerge (derives_sum h))))

/-- Portions of different categories have no derivation. -/
theorem not_derives (h : ∃ p ∈ rest, p.unit.category ≠ first.unit.category) :
    ¬Derives .expression (tokens (first :: rest)) e := by
  obtain ⟨p, hp, hne⟩ := h
  have hlength : 2 < (tokens (first :: rest)).length := by
    have hrest := List.length_pos_of_mem hp
    rw [length_tokens, List.length_cons]
    omega
  exact fun hderives =>
    hne (category_eq_of_derives (hderives.merge_of_tight (tokens_tight _) hlength) p hp)

/-- Portions of different categories are not parsed. -/
theorem parseWithin_tokens_eq_noParse (h : ∃ p ∈ rest, p.unit.category ≠ first.unit.category)
    {limit : Nat} (hlimit : 6 ≤ limit) :
    parseWithin limit (tokens (first :: rest)).toArray = .noParse :=
  ((tokens_tight _).parseWithin_eq hlimit).trans (outcomeOf_eq_noParse fun _ => not_derives h)

/-! ## Evaluation -/

theorem moneyFree_sum (first : Portion) (rest : List Portion) : (sum first rest).MoneyFree := by
  induction rest using List.reverseRecOn with
  | nil => exact fun code hcode => nomatch List.mem_singleton.1 hcode
  | append_singleton rest p ih =>
    rw [sum_snoc]
    intro code hcode
    rcases List.mem_append.1 hcode with hcode | hcode
    · exact ih code hcode
    · exact nomatch List.mem_singleton.1 hcode

theorem convertsToUnits_sum (first : Portion) (rest : List Portion) :
    (sum first rest).ConvertsToUnits := by
  induction rest using List.reverseRecOn with
  | nil => exact trivial
  | append_singleton rest p ih =>
    rw [sum_snoc]
    exact ⟨ih, trivial⟩

/-- A portion is added to an amount in a unit of its category, which keeps its unit. -/
theorem start_add {σ : Type} (source : Option (RateSource σ)) (s : σ) (x : Number) {u : FixedUnit}
    (h : p.unit.category = u.category) :
    ∃ y, (Operator.add.apply source ⟨x, some (.fixed u)⟩ p.quantity).start s =
      (.ok ⟨y, some (.fixed u)⟩, s) := by
  by_cases hunit : u = p.unit
  · subst hunit
    exact ⟨x.add (.whole p.count), by
      rw [Operator.apply, Quantity.add, Quantity.combine, quantity, if_pos rfl, start_pure]⟩
  · obtain ⟨y, hy⟩ := Measure.exists_convert source (.whole p.count) h fun _ => Ne.symm hunit
    have hne : some (Measure.fixed u) ≠ some (.fixed p.unit) := fun heq => hunit (by
      cases heq
      rfl)
    refine ⟨x.add y, ?_⟩
    simp only [Operator.apply, Quantity.add, Quantity.combine, quantity, if_neg hne, hy, pure_bind,
      start_pure]

/-- A length or the like in another unit, by the factors of the two. -/
theorem express?_eq {u v : FixedUnit} (h : u.category = v.category)
    (hscale : v.category ≠ .temperature) (x : ℚ) :
    u.express? v x = some (u.scale / v.scale * x) := by
  have hu := (FixedUnit.scale_of_ne (h.trans_ne hscale)).1
  have hv := (FixedUnit.scale_of_ne hscale).1
  unfold FixedUnit.express?
  split
  next => exact absurd rfl hscale
  next => exact absurd rfl hscale
  next => rw [if_pos h, hu, hv]; rfl

/-- In exact arithmetic a portion is added by its amount in the base unit. -/
theorem exactly?_add {u : FixedUnit} (h : p.unit.category = u.category)
    (hscale : u.category ≠ .temperature) (z : ℚ) :
    Operator.add.exactly? none ⟨z, some (.fixed u)⟩ ⟨p.count, some (.fixed p.unit)⟩ =
      some ⟨z + p.inBase / u.scale, some (.fixed u)⟩ := by
  obtain ⟨-, hne⟩ := FixedUnit.scale_of_ne hscale
  have hunit : Operator.add.unit? (some (.fixed u)) (some (.fixed p.unit)) =
      some (some (.fixed u)) := if_pos h.symm
  have hnumber : Operator.add.number? none ⟨z, some (.fixed u)⟩ ⟨p.count, some (.fixed p.unit)⟩ =
      some (z + p.inBase / u.scale) := by
    simp only [Operator.number?, ExactQuantity.combine?]
    split
    next same =>
      cases same
      rw [inBase, mul_div_assoc, div_self hne, mul_one]
    next =>
      show ((p.unit.express? u p.count).bind _) = _
      rw [express?_eq h hscale, Option.bind_some, inBase]
      congr 2
      ring
  rw [Operator.exactly?, hunit, hnumber]
  rfl

section

variable (h : ∀ p ∈ rest, p.unit.category = first.unit.category)
include h

/-- Portions of one category have a sum in the unit of the first. -/
theorem start_value_sum {σ : Type} (source : Option (RateSource σ)) (s : σ) :
    ∃ x, ((sum first rest).value source).start s = (.ok ⟨x, some (.fixed first.unit)⟩, s) := by
  induction rest using List.reverseRecOn with
  | nil => exact ⟨.whole first.count, rfl⟩
  | append_singleton rest p ih =>
    rw [List.forall_mem_append, List.forall_mem_singleton] at h
    obtain ⟨x, hx⟩ := ih h.1
    obtain ⟨y, hy⟩ := start_add source s x h.2
    refine ⟨y, ?_⟩
    rw [sum_snoc, Expr.start_value_binary, hx, andThen_ok]
    exact hy

/-- The sum is the same with every source of rates. -/
theorem exists_value_sum : ∃ x, ∀ (σ : Type) (source : Option (RateSource σ)) (s : σ),
    ((sum first rest).value source).start s = (.ok ⟨x, some (.fixed first.unit)⟩, s) := by
  obtain ⟨outcome, houtcome⟩ := (moneyFree_sum first rest).exists_outcome
  obtain ⟨x, hx⟩ := start_value_sum h (none : Option (RateSource Unit)) ()
  rw [houtcome] at hx
  cases hx
  exact ⟨x, houtcome⟩

/-- The exact sum, found in the base unit of the category. -/
theorem exactly?_sum (hscale : first.unit.category ≠ .temperature) :
    (sum first rest).exactly? none =
      some ⟨((first :: rest).map inBase).sum / first.unit.scale, some (.fixed first.unit)⟩ := by
  obtain ⟨hfirst, hne⟩ := FixedUnit.scale_of_ne hscale
  induction rest using List.reverseRecOn with
  | nil =>
    rw [List.map_singleton, List.sum_singleton, inBase, mul_div_assoc, div_self hne, mul_one]
    rfl
  | append_singleton rest p ih =>
    rw [List.forall_mem_append, List.forall_mem_singleton] at h
    rw [sum_snoc, Expr.exactly?, ih h.1]
    refine (exactly?_add h.2 hscale _).trans ?_
    rw [← List.cons_append, List.map_append, List.sum_append, List.map_singleton,
      List.sum_singleton, add_div]

/-- If the sum is held exactly, it is the one found in the base unit. -/
theorem toRat?_sum (hscale : first.unit.category ≠ .temperature) {x : Number} {z : ℚ}
    {σ : Type} {s s' : σ}
    (hx : ((sum first rest).value none).start s = (.ok ⟨x, some (.fixed first.unit)⟩, s'))
    (hz : x.toRat? = some z) : z = ((first :: rest).map inBase).sum / first.unit.scale := by
  let rates : Option FixedRates := none
  have hrun : ((sum first rest).value (rates.map FixedRates.toSource)).start s =
      (.ok ⟨x, some (.fixed first.unit)⟩, s') := hx
  have hexact := Expr.exactly?_of_value (convertsToUnits_sum first rest) hrun hz
  cases hexact.symm.trans (exactly?_sum h hscale)
  rfl

end

/-- The counts of the portions fit their words. -/
def Fit (ps : List Portion) : Prop := ∀ p ∈ ps, FitsInt64 p.count

theorem Fit.canonical_tokens {ps : List Portion} (h : Fit ps) :
    ∀ t ∈ tokens ps, t.Canonical := by
  intro t ht
  obtain ⟨p, hp, ht⟩ := List.mem_flatMap.1 ht
  rcases List.mem_pair.1 ht with rfl | rfl
  · exact h p hp
  · exact trivial

theorem Fit.canonical_sum (hfit : Fit (first :: rest))
    (h : ∀ p ∈ rest, p.unit.category = first.unit.category) : (sum first rest).Canonical :=
  (derives_sum h).canonical hfit.canonical_tokens

/-- Exact sums of the same portions, up to the order behind the first, are the same. -/
theorem Fit.eq_of_perm {rest' : List Portion} (hfit : Fit (first :: rest))
    (h : ∀ p ∈ rest, p.unit.category = first.unit.category)
    (hscale : first.unit.category ≠ .temperature) (hperm : rest.Perm rest') {x y : Number}
    (hx : ((sum first rest).value (none : Option (RateSource Unit))).start () =
      (.ok ⟨x, some (.fixed first.unit)⟩, ()))
    (hy : ((sum first rest').value (none : Option (RateSource Unit))).start () =
      (.ok ⟨y, some (.fixed first.unit)⟩, ()))
    (hexact : x.isFloat = false) (hexact' : y.isFloat = false) : x = y := by
  have h' : ∀ p ∈ rest', p.unit.category = first.unit.category := fun p hp =>
    h p (hperm.mem_iff.2 hp)
  have hfit' : Fit (first :: rest') := fun p hp => hfit p ((hperm.cons first).mem_iff.2 hp)
  obtain ⟨z, hz⟩ := Number.exists_toRat? hexact
  obtain ⟨z', hz'⟩ := Number.exists_toRat? hexact'
  have hsame : z' = z := by
    rw [toRat?_sum h hscale hx hz, toRat?_sum h' hscale hy hz',
      ((hperm.cons first).map inBase).sum_eq]
  exact (Guarded.value_canonical (hfit.canonical_sum h) hx).eq_of_toRat?
    (Guarded.value_canonical (hfit'.canonical_sum h') hy) hz (hsame ▸ hz')

/-- Adjacent quantities add up.  Portions of one category are parsed to their sum from the left,
which has a value in the first unit with every source of rates and raises no alarm.  If it is exact
it is the sum in the base unit, divided by the factor of the first unit, and in another order of the
later portions the sum is the same, if that is exact too.  If one of the portions has another
category than the first, there is no parse. -/
theorem adjacent_quantities_add_up (first : Portion) (rest : List Portion) :
    ((∀ p ∈ rest, p.unit.category = first.unit.category) →
      (∀ limit, 6 ≤ limit →
        parseWithin limit (tokens (first :: rest)).toArray = .tree (sum first rest)) ∧
      parse (tokens (first :: rest)).toArray = .tree (sum first rest) ∧
      (Fit (first :: rest) → ∃ x : Number,
        (∀ (σ : Type) (source : Option (RateSource σ)) (alarm : Crash → Fault) (s : σ),
          ((sum first rest).evaluate source).start s =
            (.ok ⟨x, some (.fixed first.unit)⟩, s) ∧
          (Guarded.value alarm source (sum first rest)).start s =
            (.ok ⟨x, some (.fixed first.unit)⟩, s)) ∧
        (first.unit.category ≠ .temperature →
          (∀ z, x.toRat? = some z →
            z = ((first :: rest).map inBase).sum / first.unit.scale) ∧
          ∀ (rest' : List Portion), rest.Perm rest' → ∀ (σ : Type)
            (source : Option (RateSource σ)) (s s' : σ) (q : Quantity),
            ((sum first rest').evaluate source).start s = (.ok q, s') →
            x.isFloat = false → q.number.isFloat = false →
            q = ⟨x, some (.fixed first.unit)⟩))) ∧
    ((∃ p ∈ rest, p.unit.category ≠ first.unit.category) → ∀ limit,
      (parseWithin limit (tokens (first :: rest)).toArray).tree? = none ∧
      (6 ≤ limit → parseWithin limit (tokens (first :: rest)).toArray = .noParse)) := by
  refine ⟨fun h => ⟨fun limit => parseWithin_tokens h, parseWithin_tokens h (by decide),
    fun hfit => ?_⟩, fun h limit => ⟨?_, parseWithin_tokens_eq_noParse h⟩⟩
  · obtain ⟨x, hx⟩ := exists_value_sum h
    refine ⟨x, fun σ source alarm s => ⟨?_, ?_⟩, fun hscale =>
      ⟨fun z hz => toRat?_sum h hscale (hx Unit none ()) hz, ?_⟩⟩
    · rw [Expr.evaluate_eq_value, hx]
    · rw [Guarded.value_eq alarm (hfit.canonical_sum h), hx]
    · intro rest' hperm σ source s s' q hq hexact hexact'
      obtain ⟨y, hy⟩ := exists_value_sum fun p hp => h p (hperm.mem_iff.2 hp)
      rw [Expr.evaluate_eq_value, hy] at hq
      cases hq
      rw [hfit.eq_of_perm h hscale hperm (hx Unit none ()) (hy Unit none ()) hexact hexact']
  · cases htree : (parseWithin limit (tokens (first :: rest)).toArray).tree? with
    | none => rfl
    | some e => exact absurd (derives_of_parseWithin htree) (not_derives h)

end Portion

/-- A foot, five inches and two yards. -/
def footInchesYards : Expr := Portion.sum ⟨1, .foot⟩ [⟨5, .inch⟩, ⟨2, .yard⟩]

/-- A foot, two yards and five inches. -/
def footYardsInches : Expr := Portion.sum ⟨1, .foot⟩ [⟨2, .yard⟩, ⟨5, .inch⟩]

/-- Seven feet and five twelfths of a foot. -/
def sevenFeetFive : Quantity :=
  ⟨.ratio ⟨89, 12, by decide, by decide, by decide, by decide⟩, some (.fixed .foot)⟩

/-- A foot, five inches and two yards are seven feet and five twelfths, in either order of the
inches and the yards, and a metre and two kilograms are not parsed. -/
theorem foot_inches_yards_add_up :
    (∀ p ∈ [Portion.mk 5 .inch, ⟨2, .yard⟩], p.unit.category = FixedUnit.foot.category) ∧
    parse #[.integer 1, .unit .foot, .integer 5, .unit .inch, .integer 2, .unit .yard] =
      .tree footInchesYards ∧
    (footInchesYards.evaluate (none : Option (RateSource Unit))).start () =
      (.ok sevenFeetFive, ()) ∧
    [Portion.mk 5 .inch, ⟨2, .yard⟩].Perm [⟨2, .yard⟩, ⟨5, .inch⟩] ∧
    (∀ q, (footYardsInches.evaluate (none : Option (RateSource Unit))).start () = (.ok q, ()) →
      q = sevenFeetFive) ∧
    (footYardsInches.evaluate (none : Option (RateSource Unit))).start () =
      (.ok sevenFeetFive, ()) ∧
    parse #[.integer 1, .unit .metre, .integer 2, .unit .kilogram] = .noParse := by
  obtain ⟨hparse, -⟩ := Portion.adjacent_quantities_add_up ⟨1, .foot⟩ [⟨5, .inch⟩, ⟨2, .yard⟩]
  have hcategory : ∀ p ∈ [Portion.mk 5 .inch, ⟨2, .yard⟩],
      p.unit.category = FixedUnit.foot.category := by decide
  have hfit : Portion.Fit [⟨1, .foot⟩, ⟨5, .inch⟩, ⟨2, .yard⟩] := by
    unfold Portion.Fit
    decide
  have hperm : [Portion.mk 5 .inch, ⟨2, .yard⟩].Perm [⟨2, .yard⟩, ⟨5, .inch⟩] := .swap ..
  have hvalue : (footInchesYards.evaluate (none : Option (RateSource Unit))).start () =
      (.ok sevenFeetFive, ()) := by
    rw [Expr.evaluate_eq_value]
    decide
  have hother : (footYardsInches.evaluate (none : Option (RateSource Unit))).start () =
      (.ok sevenFeetFive, ()) := by
    rw [Expr.evaluate_eq_value]
    decide
  obtain ⟨-, htree, hsum⟩ := hparse hcategory
  obtain ⟨x, hx, hexact⟩ := hsum hfit
  obtain ⟨hx, -⟩ := hx Unit none (fun _ => .missingOperand) ()
  have hfoot := (Prod.mk.inj (hvalue.symm.trans hx)).1
  injection hfoot with hfoot
  have hnumber : x = sevenFeetFive.number := (congrArg Quantity.number hfoot).symm
  subst hnumber
  refine ⟨hcategory, htree, hvalue, hperm, fun q hq => ?_, hother,
    ((Portion.adjacent_quantities_add_up ⟨1, .metre⟩ [⟨2, .kilogram⟩]).2
      ⟨⟨2, .kilogram⟩, List.mem_singleton_self _, by decide⟩ nestingLimit).2 (by decide)⟩
  have heq := (Prod.mk.inj (hother.symm.trans hq)).1
  injection heq with heq
  subst heq
  exact (hexact (by decide)).2 _ hperm Unit none () () _ hother rfl rfl

end Reckoner
