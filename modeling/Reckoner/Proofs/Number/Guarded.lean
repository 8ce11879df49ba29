import Reckoner.Proofs.Number.Canonical
import Reckoner.Proofs.Number.Moderate

/-!
# Guarded arithmetic

The arithmetic of numbers once more, with a guard at every step that may have no result.  An operand
has to be canonical, a double near an exact number finite, a divisor among doubles not zero.  An
exact operation is replaced by one on doubles only when its result does not fit; any other failure
is a *crash*, and so is a ratio that cannot be made where nothing takes its place.

On canonical numbers no guard is hit: each guarded operation gives what the operation without guards
gives (`add_eq` and the others at the end).  The steps behind the check of the operands (`compute`,
`quotient`, `opposite`) do so on all numbers that fit.
-/

namespace Reckoner

/-- What is wrong with a step that has no result, when that is not a failed calculation. -/
inductive Crash where
  /-- An operation is given a number that is not canonical. -/
  | notCanonical (x : Number)
  /-- An exact number is larger than all doubles. -/
  | tooLarge
  /-- The exact value of a double is asked for. -/
  | inexact (x : Float)
  /-- A ratio cannot be made, and nothing takes its place. -/
  | ratio (e : Ratio.Failure)
  /-- A double is divided by zero. -/
  | zeroDivisor
  /-- The whole part of a NaN or of an infinity is asked for. -/
  | notFinite (x : Float)
  /-- An integer is to be read from too many digits. -/
  | tooManyDigits
  /-- The characters of a numeral denote no number. -/
  | unreadable (chars : List Char)

namespace Guarded

open Number

/-! ## Guards -/

/-- A number that has to be canonical. -/
def canonical (x : Number) : Except Crash Number :=
  if x.Canonical then .ok x else .error (.notCanonical x)

/-- A double near an exact number, which has to be finite. -/
def finite (x : Float) : Except Crash Float := if x.isFinite then .ok x else .error .tooLarge

/-- The whole part of a double. -/
def truncate (x : Float) : Except Crash Int :=
  match Double.truncate? x with
  | some t => .ok t
  | none => .error (.notFinite x)

/-- The nearest double to a number. -/
def toFloat : Number → Except Crash Float
  | .whole n => finite (Double.ofInt n)
  | .ratio r => finite (ratioToFloat r)
  | .float x => .ok x

/-- A result that does not fit is none; any other failure is a crash. -/
def inRange : Except Inexact Ratio → Except Crash (Option Ratio)
  | .ok r => .ok (some r)
  | .error (.ratio (.outOfRange ..)) => .ok none
  | .error (.ratio e) => .error (.ratio e)
  | .error (.float x) => .error (.inexact x)

/-! ## Arithmetic -/

/-- An operation on the nearest doubles; `accepts` tells which right operands it takes. -/
def onFloats (op : Operation) (accepts : Float → Bool) (a b : Number) : Except Crash Number := do
  let x ← toFloat a
  let y ← toFloat b
  if accepts y then pure (.float (op.onFloat x y)) else throw .zeroDivisor

/-- An operation on ratios, or on the nearest doubles when the result does not fit. -/
def onRatios (op : Operation) (accepts : Float → Bool) (a b : Number) : Except Crash Number := do
  let result := do
    let x ← a.toRatio
    let y ← b.toRatio
    (op.onRatio x y).mapError .ratio
  match ← inRange result with
  | some r => pure (collapse r)
  | none => onFloats op accepts a b

/-- The steps of an operation on two numbers, behind the check of the operands. -/
def compute (op : Operation) (accepts : Float → Bool) (a b : Number) : Except Crash Number :=
  if a.isFloat || b.isFloat then onFloats op accepts a b
  else
    match a, b with
    | .whole m, .whole n =>
      match op.onWhole? m n with
      | some k => if FitsInt64 k then pure (.whole k) else Number.float <$> finite (Double.ofInt k)
      | none => onRatios op accepts a b
    | _, _ => onRatios op accepts a b

/-- The steps of a division. -/
def quotient (a b : Number) : Except Crash (Option Number) :=
  if b.isZero then pure none else some <$> compute division (fun y => !(y == 0)) a b

/-- The steps of a change of sign. -/
def opposite : Number → Except Crash Number
  | .whole n =>
    if FitsInt64 (-n) then pure (.whole (-n))
    else do
      let y ← finite (Double.ofInt n)
      pure (.float (-y))
  | .ratio r => do
    match ← inRange (r.neg.mapError .ratio) with
    | some s => pure (.ratio s)
    | none =>
      let y ← finite (ratioToFloat r)
      pure (.float (-y))
  | .float x => pure (.float (-x))

/-- Applies an operation to two numbers. -/
def apply (op : Operation) (accepts : Float → Bool) (a b : Number) : Except Crash Number := do
  let a ← canonical a
  let b ← canonical b
  compute op accepts a b

/-- Sum. -/
def add : Number → Number → Except Crash Number := apply addition fun _ => true

/-- Difference. -/
def sub : Number → Number → Except Crash Number := apply subtraction fun _ => true

/-- Product. -/
def mul : Number → Number → Except Crash Number := apply multiplication fun _ => true

/-- Quotient; none for a zero divisor. -/
def div (a b : Number) : Except Crash (Option Number) := do
  let a ← canonical a
  let b ← canonical b
  quotient a b

/-- The number with the opposite sign. -/
def negate (x : Number) : Except Crash Number := do opposite (← canonical x)

/-! ## Whole parts -/

theorem truncate_eq {x : Float} {t : Int} (h : Double.truncate? x = some t) :
    truncate x = .ok t := by
  rw [truncate, h]

theorem exists_truncate? {x : Float} (h : Double.isWhole x = true) :
    ∃ t, Double.truncate? x = some t := by
  unfold Double.isWhole at h
  split at h
  next hshape => exact ⟨_, Double.truncate?_of_shape hshape⟩
  next => cases h

/-! ## Doubles near exact numbers -/

theorem canonical_eq {x : Number} (h : x.Canonical) : canonical x = .ok x := if_pos h

theorem finite_eq {x : Float} (h : x.isFinite) : finite x = .ok x := if_pos h

theorem log2_natAbs_le {n : Int} (h : FitsInt64 n) : n.natAbs.log2 ≤ 63 := by
  refine Double.log2_le_of_lt ?_
  have hlow := h.1
  have hhigh := h.2
  omega

theorem log2_den_le (r : Ratio) : r.den.log2 ≤ 64 := by
  refine (Double.log2_le_of_lt (k := 63) ?_).trans (by decide)
  have hfits : r.den ≤ 18446744073709551615 := r.den_fits
  omega

theorem finite_ofInt {n : Int} (h : n.natAbs.log2 ≤ 800) :
    finite (Double.ofInt n) = .ok (Double.ofInt n) :=
  finite_eq (Double.isFinite_nearest _ Nat.one_pos h (by decide))

theorem finite_ratioToFloat (r : Ratio) : finite (ratioToFloat r) = .ok (ratioToFloat r) := by
  have hnum := log2_natAbs_le r.num_fits
  exact finite_eq (Double.isFinite_nearest _ r.den_pos (by omega) (log2_den_le r))

theorem toFloat_eq {x : Number} (h : x.Valid) : toFloat x = .ok x.toFloat := by
  cases x with
  | whole n =>
    have hn := log2_natAbs_le h
    exact finite_ofInt (by omega)
  | ratio r => exact finite_ratioToFloat r
  | float x => rfl

/-- The nearest double to a number other than zero is not zero. -/
theorem toFloat_ne_zero {x : Number} (h : x.Valid) (nonzero : x.isZero = false) :
    (x.toFloat == 0) = false := by
  cases x with
  | whole n =>
    have hn := log2_natAbs_le h
    have hne : n.natAbs ≠ 0 := Int.natAbs_ne_zero.2 (beq_eq_false_iff_ne.1 nonzero)
    exact Double.nearest_ne_zero _ hne Nat.one_pos (by omega) (by decide)
  | ratio r =>
    have hnum := log2_natAbs_le r.num_fits
    have hne : r.num.natAbs ≠ 0 := Int.natAbs_ne_zero.2 (beq_eq_false_iff_ne.1 nonzero)
    exact Double.nearest_ne_zero _ hne r.den_pos (by omega) (log2_den_le r)
  | float x => exact nonzero

/-! ## Results that do not fit -/

/-- The result is a ratio or does not fit. -/
def Representable (result : Except Ratio.Failure Ratio) : Prop :=
  ∀ e, result = .error e → ∃ num den, e = .outOfRange num den

theorem representable_ofRat (q : ℚ) : Representable (Ratio.ofRat q) := by
  intro e h
  unfold Ratio.ofRat at h
  split at h
  next => cases h
  next =>
    cases h
    exact ⟨_, _, rfl⟩

theorem inRange_eq {result : Except Ratio.Failure Ratio} (h : Representable result) :
    inRange (result.mapError .ratio) = .ok result.toOption := by
  cases result with
  | ok r => rfl
  | error e =>
    obtain ⟨num, den, rfl⟩ := h e rfl
    rfl

theorem exists_toRatio {x : Number} (h : x.Valid) (exact : x.isFloat = false) :
    ∃ r, x.toRatio = .ok r := by
  cases x with
  | whole n =>
    have fits : FitsInt64 (n : ℚ).num ∧ FitsNat64 (n : ℚ).den := ⟨h, Nat.one_le_ofNat⟩
    exact ⟨_, by rw [toRatio, Ratio.ofInt_eq, Ratio.ofRat, dif_pos fits]; rfl⟩
  | ratio r => exact ⟨r, rfl⟩
  | float x => cases exact

/-! ## Arithmetic without guards -/

/-- The operands leave nothing but the range in the way of an operation. -/
structure Suits (op : Operation) (accepts : Float → Bool) (a b : Number) : Prop where
  whole : ∀ {m n k : Int}, a = .whole m → b = .whole n → op.onWhole? m n = some k →
    k.natAbs.log2 ≤ 800
  ratio : ∀ {x y : Ratio}, a.toRatio = .ok x → b.toRatio = .ok y →
    Representable (op.onRatio x y)
  float : accepts b.toFloat = true

section

variable {op : Operation} {accepts : Float → Bool} {a b : Number}

theorem onFloats_eq (ha : a.Valid) (hb : b.Valid) (h : accepts b.toFloat = true) :
    onFloats op accepts a b = .ok (.float (op.onFloat a.toFloat b.toFloat)) := by
  rw [onFloats, toFloat_eq ha, toFloat_eq hb]
  exact if_pos h

theorem onRatios_eq (ha : a.Valid) (hb : b.Valid) (exactA : a.isFloat = false)
    (exactB : b.isFloat = false) (h : Suits op accepts a b) :
    onRatios op accepts a b =
      .ok ((op.ratioResult? a b).elim (.float (op.onFloat a.toFloat b.toFloat)) collapse) := by
  obtain ⟨x, hx⟩ := exists_toRatio ha exactA
  obtain ⟨y, hy⟩ := exists_toRatio hb exactB
  have hresult : op.ratioResult? a b = (op.onRatio x y).toOption := by
    rw [Operation.ratioResult?, hx, hy]
    rfl
  have hrange := inRange_eq (h.ratio hx hy)
  rw [hresult, onRatios, hx, hy]
  show (inRange ((op.onRatio x y).mapError .ratio) >>= _) = _
  rw [hrange]
  cases (op.onRatio x y).toOption with
  | none => exact onFloats_eq ha hb h.float
  | some r => rfl

theorem wholeOrFloat_eq {k : Int} (h : k.natAbs.log2 ≤ 800) :
    (if FitsInt64 k then pure (.whole k) else Number.float <$> finite (Double.ofInt k)) =
      (Except.ok (ofInt k) : Except Crash Number) := by
  unfold ofInt
  split
  next => rfl
  next =>
    rw [finite_ofInt h]
    rfl

/-- On numbers that fit and suit the operation no guard is hit. -/
theorem compute_eq (ha : a.Valid) (hb : b.Valid) (h : Suits op accepts a b) :
    compute op accepts a b = .ok (op.apply a b) := by
  simp only [compute, Operation.apply]
  split
  next => exact onFloats_eq ha hb h.float
  next exact =>
    obtain ⟨exactA, exactB⟩ := Bool.or_eq_false_iff.1 (Bool.eq_false_iff.2 exact)
    have viaRatios := onRatios_eq ha hb exactA exactB h
    cases a with
    | float x => cases exactA
    | ratio r => exact viaRatios
    | whole m =>
      cases b with
      | float y => cases exactB
      | ratio s => exact viaRatios
      | whole n =>
        show (match op.onWhole? m n with | some k => _ | none => _) =
          Except.ok ((op.onWhole? m n).elim _ ofInt)
        cases hk : op.onWhole? m n with
        | none => exact viaRatios
        | some k => exact wholeOrFloat_eq (h.whole rfl rfl hk)

/-- Canonical operands pass the check. -/
theorem apply_eq_compute (ha : a.Canonical) (hb : b.Canonical) :
    apply op accepts a b = compute op accepts a b := by
  rw [apply, canonical_eq ha, canonical_eq hb]
  rfl

end

theorem natAbs_le {n : Int} (h : FitsInt64 n) : n.natAbs ≤ 2 ^ 63 := by
  have hlow := h.1
  have hhigh := h.2
  omega

theorem log2_natAbs_le_of_lt {k : Int} (h : k.natAbs < 2 ^ 128) : k.natAbs.log2 ≤ 800 :=
  (Double.log2_le_of_lt (k := 127) h).trans (by decide)

section

variable {a b : Number}

/-- An operation that takes every right operand, is exact on ratios and at most doubles the width of
whole numbers. -/
theorem compute_eq_of_exact {op : Operation} {f : ℚ → ℚ → ℚ} (ha : a.Valid) (hb : b.Valid)
    (whole : ∀ {m n k : Int}, m.natAbs ≤ 2 ^ 63 → n.natAbs ≤ 2 ^ 63 → op.onWhole? m n = some k →
      k.natAbs < 2 ^ 128)
    (ratio : ∀ x y, op.onRatio x y = Ratio.ofRat (f x.toRat y.toRat)) :
    compute op (fun _ => true) a b = .ok (op.apply a b) := by
  refine compute_eq ha hb ⟨?_, ?_, rfl⟩
  · rintro m n k rfl rfl hk
    exact log2_natAbs_le_of_lt (whole (natAbs_le ha) (natAbs_le hb) hk)
  · intro x y _ _
    rw [ratio]
    exact representable_ofRat _

theorem sum_eq (ha : a.Valid) (hb : b.Valid) :
    compute addition (fun _ => true) a b = .ok (a.add b) := by
  refine compute_eq_of_exact ha hb ?_ Ratio.add_eq
  intro m n k hm hn hk
  cases hk
  omega

theorem difference_eq (ha : a.Valid) (hb : b.Valid) :
    compute subtraction (fun _ => true) a b = .ok (a.sub b) := by
  refine compute_eq_of_exact ha hb ?_ Ratio.sub_eq
  intro m n k hm hn hk
  cases hk
  omega

theorem product_eq (ha : a.Valid) (hb : b.Valid) :
    compute multiplication (fun _ => true) a b = .ok (a.mul b) := by
  refine compute_eq_of_exact ha hb ?_ Ratio.mul_eq
  intro m n k hm hn hk
  cases hk
  calc (m * n).natAbs = m.natAbs * n.natAbs := Int.natAbs_mul m n
    _ ≤ 2 ^ 63 * 2 ^ 63 := Nat.mul_le_mul hm hn
    _ < 2 ^ 128 := by decide

theorem quotient_eq (ha : a.Valid) (hb : b.Valid) : quotient a b = .ok (a.div? b) := by
  rw [quotient, div?]
  split
  next => rfl
  next nonzero =>
    have nonzero : b.isZero = false := Bool.eq_false_iff.2 nonzero
    have suits : Suits division (fun y => !(y == 0)) a b := by
      refine ⟨nofun, ?_, ?_⟩
      · intro x y _ hy
        show Representable (x.div y)
        have hne : y.toRat ≠ 0 := fun zero =>
          Bool.eq_false_iff.1 nonzero ((isZero_iff (toRat?_of_toRatio hy)).2 zero)
        rw [Ratio.div_eq, if_neg hne]
        exact representable_ofRat _
      · show (!(b.toFloat == 0)) = true
        rw [toFloat_ne_zero hb nonzero]
        rfl
    rw [compute_eq ha hb suits]
    rfl

theorem opposite_eq (ha : a.Valid) : opposite a = .ok a.negate := by
  cases a with
  | whole n =>
    simp only [opposite, Number.negate]
    split
    next => rfl
    next =>
      have hn := log2_natAbs_le ha
      rw [finite_ofInt (by omega)]
      rfl
  | ratio r =>
    have hrange := inRange_eq (r.neg_eq ▸ representable_ofRat (-r.toRat) : Representable r.neg)
    simp only [opposite, Number.negate, hrange]
    cases r.neg with
    | ok s => rfl
    | error e =>
      show (finite (ratioToFloat r) >>= _) = _
      rw [finite_ratioToFloat]
      rfl
  | float x => rfl

/-! ### Canonical operands -/

theorem add_eq (ha : a.Canonical) (hb : b.Canonical) : add a b = .ok (a.add b) :=
  (apply_eq_compute ha hb).trans (sum_eq ha.valid hb.valid)

theorem sub_eq (ha : a.Canonical) (hb : b.Canonical) : sub a b = .ok (a.sub b) :=
  (apply_eq_compute ha hb).trans (difference_eq ha.valid hb.valid)

theorem mul_eq (ha : a.Canonical) (hb : b.Canonical) : mul a b = .ok (a.mul b) :=
  (apply_eq_compute ha hb).trans (product_eq ha.valid hb.valid)

theorem div_eq (ha : a.Canonical) (hb : b.Canonical) : div a b = .ok (a.div? b) := by
  rw [← quotient_eq ha.valid hb.valid, div, canonical_eq ha, canonical_eq hb]
  rfl

theorem negate_eq (ha : a.Canonical) : negate a = .ok a.negate := by
  rw [← opposite_eq ha.valid, negate, canonical_eq ha]
  rfl

end

end Guarded

end Reckoner
