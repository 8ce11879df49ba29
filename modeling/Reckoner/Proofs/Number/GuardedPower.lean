import Reckoner.Proofs.Number.Guarded

/-!
# Guarded powers

Powers with guards.  A power of a ratio that fits is made again from its parts, and so is the
reciprocal of a power of a whole number; nothing takes the place of a ratio that cannot be made
there.  Parts that fit can be made (`exists_make`), so on canonical numbers no guard is hit
(`power_eq`).  The steps behind the check of the operands (`raised`) hit none on all numbers that
fit.
-/

namespace Reckoner.Guarded

open Number

/-! ## Powers with guards -/

/-- The double is an odd whole number. -/
def isOddWhole (x : Float) : Except Crash Bool :=
  if Double.isWhole x then (· % 2 == 1) <$> truncate x else pure false

/-- Power of doubles. -/
def floatPower (base exponent : Float) : Except Crash Float :=
  if base == 0 && exponent < 0 then do
    let odd ← isOddWhole exponent
    pure (Double.infinity (odd && Double.isNegative base))
  else pure (base.pow exponent)

/-- A ratio that has to be made. -/
def made (result : Except Ratio.Failure Ratio) : Except Crash Ratio := result.mapError .ratio

/-- An integer power of a ratio when it fits. -/
def checkedPower (r : Ratio) (exponent : Int) : Except Crash (Option Ratio) :=
  let magnitude := exponent.natAbs
  if 64 < magnitude && (1 < r.den || 1 < r.num.natAbs) then pure none
  else
    let num := Ratio.intPower r.num magnitude
    let den := (Ratio.intPower r.den magnitude).toNat
    if !(FitsInt64 num && FitsNat64 den) then pure none
    else if 0 ≤ exponent then some <$> made (Ratio.make num den)
    else if num = 0 || !(FitsInt64 den : Bool) then pure none
    else some <$> made (Ratio.make den num)

/-- A whole power of a whole number when it is exact. -/
def wholePower (base exponent : Int) : Except Crash (Option Number) :=
  if FitsNat32 exponent.natAbs then
    match checkedIntPower base exponent.natAbs with
    | none => pure none
    | some result =>
      if 0 ≤ exponent then pure (some (.whole result))
      else (fun r => some (collapse r)) <$> made (Ratio.inverseOf result)
  else pure none

/-- A whole power of a ratio when it is exact. -/
def ratioPower (base : Ratio) (exponent : Int) : Except Crash (Option Number) :=
  if FitsInt32 exponent then Option.map collapse <$> checkedPower base exponent else pure none

/-- Power of the nearest doubles. -/
def powerOnFloats (base exponent : Number) : Except Crash Number := do
  let x ← toFloat base
  let y ← toFloat exponent
  Number.float <$> floatPower x y

/-- An exact power, or the power of the nearest doubles when there is none. -/
def exactOr (exact : Except Crash (Option Number)) (base exponent : Number) :
    Except Crash (Option Number) := do
  match ← exact with
  | some x => pure (some x)
  | none => some <$> powerOnFloats base exponent

/-- The steps of a power. -/
def raised (base exponent : Number) : Except Crash (Option Number) :=
  match base, exponent with
  | .whole b, .whole e =>
    if b = 0 ∧ e < 0 then pure none else exactOr (wholePower b e) base exponent
  | .ratio r, .whole e =>
    if r.num = 0 ∧ e < 0 then pure none else exactOr (ratioPower r e) base exponent
  | _, _ => some <$> powerOnFloats base exponent

/-- The first number to the power of the second. -/
def power (base exponent : Number) : Except Crash (Option Number) := do
  let base ← canonical base
  let exponent ← canonical exponent
  raised base exponent

/-! ## Powers without guards -/

theorem fitsInt64_tdiv {n : Int} (h : FitsInt64 n) (g : Nat) : FitsInt64 (n.tdiv g) := by
  have habs := Int.natAbs_tdiv_le_natAbs n g
  have hsign : n ≤ 0 → n.tdiv g ≤ 0 := by
    intro hn
    have hneg : 0 ≤ (-n).tdiv g := Int.tdiv_nonneg (by omega) (Int.natCast_nonneg g)
    rw [Int.neg_tdiv] at hneg
    omega
  obtain ⟨hlow, hhigh⟩ := h
  constructor <;> omega

/-- Reducing a fraction keeps it in range. -/
theorem exists_make {num den : Int} (hne : den ≠ 0)
    (hnum : FitsInt64 (if den < 0 then -num else num)) (hden : FitsNat64 den.natAbs) :
    ∃ r, Ratio.make num den = .ok r := by
  have fits : FitsNat64 (den.natAbs / (if den < 0 then -num else num).natAbs.gcd den.natAbs) :=
    (Nat.div_le_self ..).trans hden
  rw [Ratio.make, dif_neg hne, Ratio.ofFraction]
  exact ⟨_, dif_pos ⟨fitsInt64_tdiv hnum _, fits⟩⟩

theorem made_eq {result : Except Ratio.Failure Ratio} (h : ∃ r, result = .ok r) :
    some <$> made result = .ok result.toOption := by
  obtain ⟨r, rfl⟩ := h
  rfl

theorem checkedPower_eq (r : Ratio) (e : Int) : checkedPower r e = .ok (r.checkedPower e) := by
  have positive : 0 < (Ratio.intPower r.den e.natAbs).toNat := by
    rw [Ratio.intPower_eq, ← Int.natCast_pow, Int.toNat_natCast]
    exact Nat.pow_pos r.den_pos
  simp only [checkedPower, Ratio.checkedPower]
  generalize Ratio.intPower r.num e.natAbs = num
  generalize (Ratio.intPower r.den e.natAbs).toNat = den at positive
  split
  next => rfl
  split
  next => rfl
  next fits =>
    simp only [Bool.not_eq_true', Bool.not_eq_false, Bool.and_eq_true, decide_eq_true_eq] at fits
    obtain ⟨hnum, hden⟩ := fits
    split
    next =>
      refine made_eq (exists_make (by omega) ?_ hden)
      rwa [if_neg (by omega)]
    next =>
      split
      next => rfl
      next proper =>
        simp only [Bool.or_eq_true, decide_eq_true_eq, Bool.not_eq_true', decide_eq_false_iff_not,
          not_or, not_not] at proper
        obtain ⟨nonzero, hden'⟩ := proper
        refine made_eq (exists_make nonzero ?_ ?_)
        · obtain ⟨hlow, hhigh⟩ := hden'
          split
          · constructor <;> omega
          · exact ⟨hlow, hhigh⟩
        · have habs := natAbs_le hnum
          show num.natAbs ≤ 18446744073709551615
          omega

theorem wholePower_eq {b e : Int} (h : b ≠ 0 ∨ 0 ≤ e) :
    wholePower b e = .ok (wholePower? b e) := by
  unfold wholePower wholePower?
  split
  next =>
    cases hk : checkedIntPower b e.natAbs with
    | none => rfl
    | some k =>
      obtain ⟨fits, hpow⟩ := checkedIntPower_eq_some hk
      show (if 0 ≤ e then _ else _) = Except.ok (if 0 ≤ e then _ else _)
      split
      next => rfl
      next negative =>
        have nonzero : k ≠ 0 := by
          rw [hpow]
          exact pow_ne_zero _ (h.resolve_right negative)
        have hmake : ∃ r, Ratio.inverseOf k = .ok r := by
          refine exists_make nonzero ?_ ?_
          · split <;> decide
          · have habs := natAbs_le fits
            show k.natAbs ≤ 18446744073709551615
            omega
        obtain ⟨r, hr⟩ := hmake
        rw [hr]
        rfl
  next => rfl

theorem ratioPower_eq (r : Ratio) (e : Int) : ratioPower r e = .ok (ratioPower? r e) := by
  unfold ratioPower ratioPower?
  split
  next =>
    rw [checkedPower_eq]
    rfl
  next => rfl

theorem isOddWhole_eq (x : Float) : isOddWhole x = .ok (Double.isOddWhole x) := by
  unfold isOddWhole Double.isOddWhole
  split
  next whole =>
    obtain ⟨t, ht⟩ := exists_truncate? whole
    rw [truncate_eq ht, ht, whole]
    rfl
  next fraction =>
    rw [Bool.eq_false_iff.2 fraction]
    rfl

theorem floatPower_eq (x y : Float) : floatPower x y = .ok (Number.floatPower x y) := by
  unfold floatPower Number.floatPower
  split
  next =>
    rw [isOddWhole_eq]
    rfl
  next => rfl

section

variable {a b : Number}

theorem powerOnFloats_eq (ha : a.Valid) (hb : b.Valid) :
    powerOnFloats a b = .ok (.float (Number.floatPower a.toFloat b.toFloat)) := by
  rw [powerOnFloats, toFloat_eq ha, toFloat_eq hb]
  show Number.float <$> floatPower a.toFloat b.toFloat = _
  rw [floatPower_eq]
  rfl

theorem exactOr_eq (ha : a.Valid) (hb : b.Valid) {exact : Except Crash (Option Number)}
    {result : Option Number} (h : exact = .ok result) :
    exactOr exact a b =
      .ok (some (result.getD (.float (Number.floatPower a.toFloat b.toFloat)))) := by
  rw [exactOr, h]
  cases result with
  | none =>
    show some <$> powerOnFloats a b = _
    rw [powerOnFloats_eq ha hb]
    rfl
  | some x => rfl

/-- On numbers that fit no guard is hit. -/
theorem raised_eq (ha : a.Valid) (hb : b.Valid) : raised a b = .ok (a.power? b) := by
  have approximate : some <$> powerOnFloats a b =
      .ok (some (Number.float (Number.floatPower a.toFloat b.toFloat))) := by
    rw [powerOnFloats_eq ha hb]
    rfl
  cases b with
  | ratio s => cases a <;> exact approximate
  | float y => cases a <;> exact approximate
  | whole e =>
    cases a with
    | float x => exact approximate
    | whole b =>
      show (if b = 0 ∧ e < 0 then _ else _) = Except.ok (if b = 0 ∧ e < 0 then _ else _)
      split
      next => rfl
      next proper => exact exactOr_eq ha hb (wholePower_eq (by omega))
    | ratio r =>
      show (if r.num = 0 ∧ e < 0 then _ else _) = Except.ok (if r.num = 0 ∧ e < 0 then _ else _)
      split
      next => rfl
      next => exact exactOr_eq ha hb (ratioPower_eq r e)

theorem power_eq (ha : a.Canonical) (hb : b.Canonical) : power a b = .ok (a.power? b) := by
  rw [← raised_eq ha.valid hb.valid, power, canonical_eq ha, canonical_eq hb]
  rfl

end

end Reckoner.Guarded
