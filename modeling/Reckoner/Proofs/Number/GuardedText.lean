import Reckoner.Proofs.Number.Guarded

/-!
# Guarded texts

The text of a number with guards: a double that is cut has to have a whole part, and the double near
that whole part has to be finite.  Cutting is only tried on doubles below `10 ^ 9`, so every number
has a text (`text_eq`).
-/

namespace Reckoner.Guarded

open Number

/-! ## Texts with guards -/

/-- The shortest text of a double, without point and zero when it is whole. -/
def plainText (x : Float) : Except Crash String :=
  if Double.isWhole x then toString <$> truncate x else pure (Double.text x)

/-- The whole part of a double, divided by a double. -/
def cut (x places : Float) : Except Crash Float := do
  let t ← truncate x
  let y ← finite (Double.ofInt t)
  pure (y / places)

/-- The text of a double by the size of its magnitude. -/
def floatText (x : Float) : Except Crash String :=
  let size := x.abs
  match Double.shape x with
  | .finite .. =>
    if 1e9 ≤ size || size < 1e-3 then pure (Double.fourDigits x)
    else if 1e6 ≤ size then do
      let text ← plainText (← cut (x / 1e3) 1e3)
      pure (text ++ "m")
    else if 1e3 ≤ size then do
      let text ← plainText (← cut x 1e3)
      pure (text ++ "k")
    else if 1 ≤ size then do plainText (← cut (x * 1e3) 1e3)
    else do plainText (← cut (x * 1e6) 1e6)
  | _ => pure (Double.text x)

/-- The text of a number. -/
def text : Number → Except Crash String
  | .whole n => pure (wholeText n)
  | .ratio r => do floatText (← finite (ratioToFloat r))
  | .float x => floatText x

/-! ## Texts without guards -/

theorem plainText_eq (x : Float) : plainText x = .ok (Number.plainText x) := by
  unfold plainText Number.plainText
  split
  next whole =>
    obtain ⟨t, ht⟩ := exists_truncate? whole
    rw [truncate_eq ht, ht]
    rfl
  next => rfl

theorem cut_eq {x : Float} (h : Double.Moderate x.toModel.unpack) (places : Float) :
    cut x places = .ok (Double.ofInt ((Double.truncate? x).getD 0) / places) := by
  obtain ⟨t, ht, hlog⟩ := Double.truncate?_of_moderate h
  rw [cut, truncate_eq ht, ht]
  show (finite (Double.ofInt t) >>= _) = _
  rw [finite_ofInt (hlog.trans (by decide))]
  rfl

theorem isFinite_of_shape {x : Float} {negative : Bool} {m : Nat} {e : Int}
    (h : Double.shape x = .finite negative m e) : x.toModel.unpack.isFinite = true := by
  rw [Double.shape_eq] at h
  cases hx : x.toModel.unpack with
  | notANumber =>
    rw [hx] at h
    cases h
  | infinity sign =>
    rw [hx] at h
    cases h
  | zero sign => rfl
  | finite sign m e hm => rfl

theorem floatText_eq (x : Float) : floatText x = .ok (Number.floatText x) := by
  simp only [floatText, Number.floatText]
  cases hshape : Double.shape x with
  | nan => rfl
  | infinite negative => rfl
  | finite negative m e =>
    show (if _ then _ else _) = Except.ok (if _ then _ else _)
    split
    next => rfl
    next middle =>
      have small : ¬ (1e9 : Float) ≤ x.abs := by
        intro large
        apply middle
        rw [decide_eq_true large, Bool.true_or]
      have plain := Double.plain_of_not_le (isFinite_of_shape hshape) small
      split
      next =>
        rw [cut_eq plain.div_thousand]
        show (plainText _ >>= _) = _
        rw [plainText_eq]
        rfl
      next =>
        split
        next =>
          rw [cut_eq plain.moderate]
          show (plainText _ >>= _) = _
          rw [plainText_eq]
          rfl
        next =>
          split
          next =>
            rw [cut_eq plain.mul_thousand]
            exact plainText_eq _
          next =>
            rw [cut_eq plain.mul_million]
            exact plainText_eq _

theorem text_eq (x : Number) : text x = .ok x.text := by
  cases x with
  | whole n => rfl
  | ratio r =>
    show (finite (ratioToFloat r) >>= floatText) = _
    rw [finite_ratioToFloat]
    exact floatText_eq _
  | float x => exact floatText_eq x

end Reckoner.Guarded
