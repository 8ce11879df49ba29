import Reckoner.Number.Render
import Reckoner.Proofs.Number.Exact

/-!
# Doubles by their fields

A double is a sign, a field of exponent and a fraction, and `ofFields` is what the three denote.
Packing keeps them (`unpack_pack_ofFields`), so a double that is read off its bits, or loses its
sign, is known by its fields, and so is its shape.
-/

namespace Reckoner.Double

open Float.Model Float.Model.UnpackedFloat

/-! ## Fields -/

/-- What a sign, a field of exponent and a fraction denote. -/
def ofFields (sign : Sign) (exponent : BitVec 11) (fraction : BitVec 52) : UnpackedFloat :=
  if exponent = -1#_ then
    if fraction = 0#_ then .infinity sign else .notANumber
  else if exponent = 0#_ then
    if h : fraction = 0#_ then .zero sign
    else .finite sign fraction.toNat (-1074)
      (Nat.pos_of_ne_zero fun hz => h (BitVec.eq_of_toNat_eq hz))
  else .finite sign (2 ^ 52 + fraction.toNat) (exponent.toNat - 1075) (by omega)

theorem toNat_one_append (fraction : BitVec 52) :
    (1#1 ++ fraction).toNat = 2 ^ 52 + fraction.toNat := by
  rw [BitVec.toNat_append, ← Nat.shiftLeft_add_eq_or_of_lt fraction.isLt, Nat.shiftLeft_eq]
  rfl

theorem finite_congr {sign : Sign} {m m' : Nat} {e : Int} {h : 0 < m} {h' : 0 < m'}
    (same : m = m') : UnpackedFloat.finite sign m e h = .finite sign m' e h' := by
  subst same
  rfl

theorem unpack_eq_ofFields (b : BitVec 64) :
    unpack Format.binary64 b = ofFields (Sign.ofBitVec (@unpackSign Format.binary64 b))
      (@unpackExponent Format.binary64 b) (@unpackMantissa Format.binary64 b) := by
  have fields : unpack Format.binary64 b =
      if @unpackExponent Format.binary64 b = -1#_ then
        if @unpackMantissa Format.binary64 b = 0#_ then
          .infinity (Sign.ofBitVec (@unpackSign Format.binary64 b))
        else .notANumber
      else if @unpackExponent Format.binary64 b = 0#_ then
        if h : @unpackMantissa Format.binary64 b = 0#_ then
          .zero (Sign.ofBitVec (@unpackSign Format.binary64 b))
        else .finite (Sign.ofBitVec (@unpackSign Format.binary64 b))
          (@unpackMantissa Format.binary64 b).toNat
          ((@unpackExponent Format.binary64 b).toNat - 1075 + 1)
          (Nat.pos_of_ne_zero fun hz => h (BitVec.eq_of_toNat_eq hz))
      else .finite (Sign.ofBitVec (@unpackSign Format.binary64 b))
        (1#1 ++ @unpackMantissa Format.binary64 b).toNat
        ((@unpackExponent Format.binary64 b).toNat - 1075)
        (toNat_one_append _ ▸ by omega) := rfl
  by_cases top : @unpackExponent Format.binary64 b = -1#_
  · rw [fields, ofFields, if_pos top, if_pos top]
  · by_cases bottom : @unpackExponent Format.binary64 b = 0#_
    · rw [fields, ofFields, if_neg top, if_neg top, if_pos bottom, if_pos bottom, bottom]
      rfl
    · rw [fields, ofFields, if_neg top, if_neg top, if_neg bottom, if_neg bottom]
      exact finite_congr (toNat_one_append _)

theorem unpackSign_packComponents (sign : Sign) (exponent : BitVec 11) (fraction : BitVec 52) :
    Sign.ofBitVec (unpackSign (packComponents Format.binary64 sign exponent fraction)) = sign := by
  have h : unpackSign (packComponents Format.binary64 sign exponent fraction) = sign.toBitVec := by
    change (sign.toBitVec ++ exponent ++ fraction).extractLsb' 63 1 = sign.toBitVec
    rw [BitVec.extractLsb'_append_eq_of_le (by decide),
      BitVec.extractLsb'_append_eq_of_le (by decide)]
    cases sign <;> rfl
  rw [h]
  cases sign <;> rfl

theorem unpack_packComponents (sign : Sign) (exponent : BitVec 11) (fraction : BitVec 52) :
    unpack Format.binary64 (packComponents Format.binary64 sign exponent fraction) =
      ofFields sign exponent fraction := by
  rw [unpack_eq_ofFields, unpackSign_packComponents, unpackExponent_packComponents,
    unpackMantissa_packComponents]

theorem pack_finite (sign : Sign) (m : Nat) (e : Int) (h : 0 < m) :
    pack Format.binary64 (.finite sign m e h) =
      if 2 ^ 11 ≤ (e + (1023 : Nat) + (52 : Nat)).toNat + 1 then
        packedInfinity Format.binary64 sign
      else if m.log2 + 1 = 53 then
        packComponents Format.binary64 sign
          (BitVec.ofNat 11 (e + (1023 : Nat) + (52 : Nat)).toNat) (BitVec.ofNat 52 m)
      else packComponents Format.binary64 sign 0#11 (BitVec.ofNat 52 m) := rfl

theorem pack_ofFields (sign : Sign) (exponent : BitVec 11) (fraction : BitVec 52) :
    ofFields sign exponent fraction = .notANumber ∨
      pack Format.binary64 (ofFields sign exponent fraction) =
        packComponents Format.binary64 sign exponent fraction := by
  have hf := fraction.isLt
  have he := exponent.isLt
  by_cases top : exponent = -1#_
  · by_cases zero : fraction = 0#_
    · right
      rw [ofFields, if_pos top, if_pos zero, top, zero]
      rfl
    · left
      rw [ofFields, if_pos top, if_neg zero]
  right
  by_cases bottom : exponent = 0#_
  · by_cases zero : fraction = 0#_
    · rw [ofFields, if_neg top, if_pos bottom, dif_pos zero, bottom, zero]
      rfl
    · have hpos : fraction.toNat ≠ 0 := fun hz => zero (BitVec.eq_of_toNat_eq hz)
      have hlog : ¬ fraction.toNat.log2 + 1 = 53 := by
        have := (Nat.log2_lt hpos).2 hf
        omega
      rw [ofFields, if_neg top, if_pos bottom, dif_neg zero, pack_finite, if_neg (by decide),
        if_neg hlog, bottom, BitVec.ofNat_toNat, BitVec.setWidth_eq]
  · have hne : exponent.toNat ≠ 2047 := fun h => top (BitVec.eq_of_toNat_eq h)
    have hnz : exponent.toNat ≠ 0 := fun h => bottom (BitVec.eq_of_toNat_eq h)
    have hlog : (2 ^ 52 + fraction.toNat).log2 = 52 :=
      (Nat.log2_eq_iff (by omega)).2 ⟨by omega, by omega⟩
    have hbias : ((exponent.toNat : Int) - 1075 + (1023 : Nat) + (52 : Nat)).toNat =
        exponent.toNat := by omega
    have hmod : BitVec.ofNat 52 (2 ^ 52 + fraction.toNat) = fraction := by
      apply BitVec.eq_of_toNat_eq
      rw [BitVec.toNat_ofNat, Nat.add_mod_left, Nat.mod_eq_of_lt hf]
    rw [ofFields, if_neg top, if_neg bottom, pack_finite, hbias,
      if_neg (show ¬ 2 ^ 11 ≤ exponent.toNat + 1 by omega), if_pos (by rw [hlog]),
      BitVec.ofNat_toNat, BitVec.setWidth_eq, hmod]

/-- Packing what three fields denote and unpacking it again gives the same. -/
theorem unpack_pack_ofFields (sign : Sign) (exponent : BitVec 11) (fraction : BitVec 52) :
    unpack Format.binary64 (pack Format.binary64 (ofFields sign exponent fraction)) =
      ofFields sign exponent fraction := by
  rcases pack_ofFields sign exponent fraction with h | h
  · rw [h]
    rfl
  · rw [h, unpack_packComponents]

/-! ## Shapes -/

/-- The shape of an unpacked double; a zero has the least scale. -/
def Shape.ofUnpacked : UnpackedFloat → Shape
  | .notANumber => .nan
  | .infinity sign => .infinite (sign == .negative)
  | .zero sign => .finite (sign == .negative) 0 (-1074)
  | .finite sign mantissa scale _ => .finite (sign == .negative) mantissa scale

theorem toNat_unpackExponent (b : BitVec 64) :
    (@unpackExponent Format.binary64 b).toNat = b.toNat / 2 ^ 52 % 2 ^ 11 := by
  show ((b.extractLsb' 52 11)).toNat = _
  rw [BitVec.extractLsb'_toNat, Nat.shiftRight_eq_div_pow]

theorem toNat_unpackMantissa (b : BitVec 64) :
    (@unpackMantissa Format.binary64 b).toNat = b.toNat % 2 ^ 52 := by
  show ((b.extractLsb' 0 52)).toNat = _
  rw [BitVec.extractLsb'_toNat, Nat.shiftRight_zero]

theorem toNat_unpackSign (b : BitVec 64) :
    (@unpackSign Format.binary64 b).toNat = b.toNat / 2 ^ 63 % 2 := by
  show ((b.extractLsb' 63 1)).toNat = _
  rw [BitVec.extractLsb'_toNat, Nat.shiftRight_eq_div_pow]

theorem negative_unpackSign (b : BitVec 64) :
    (Sign.ofBitVec (@unpackSign Format.binary64 b) == .negative) =
      (b.toNat / signBit % 2 == 1) := by
  have h : b.toNat / signBit % 2 = (@unpackSign Format.binary64 b).toNat :=
    (toNat_unpackSign b).symm
  rw [h]
  generalize @unpackSign Format.binary64 b = sign
  revert sign
  decide

/-- The shape read off the bits is the shape of the unpacked double. -/
theorem shape_ofBits (b : BitVec 64) :
    Shape.ofBits b.toNat = Shape.ofUnpacked (UnpackedFloat.unpack Format.binary64 b) := by
  have he : b.toNat / hiddenBit % 2048 = (@unpackExponent Format.binary64 b).toNat :=
    (toNat_unpackExponent b).symm
  have hf : b.toNat % hiddenBit = (@unpackMantissa Format.binary64 b).toNat :=
    (toNat_unpackMantissa b).symm
  rw [unpack_eq_ofFields, Shape.ofBits, he, hf, ← negative_unpackSign]
  generalize Sign.ofBitVec (@unpackSign Format.binary64 b) = sign
  generalize @unpackExponent Format.binary64 b = exponent
  generalize @unpackMantissa Format.binary64 b = fraction
  have top : exponent.toNat = 2047 ↔ exponent = -1#_ :=
    ⟨fun h => BitVec.eq_of_toNat_eq h, fun h => h ▸ rfl⟩
  have bottom : exponent.toNat = 0 ↔ exponent = 0#_ :=
    ⟨fun h => BitVec.eq_of_toNat_eq h, fun h => h ▸ rfl⟩
  have empty : fraction.toNat = 0 ↔ fraction = 0#_ :=
    ⟨fun h => BitVec.eq_of_toNat_eq h, fun h => h ▸ rfl⟩
  by_cases full : exponent = -1#_
  · rw [if_pos (top.2 full), ofFields, if_pos full]
    by_cases none : fraction = 0#_
    · rw [if_pos (empty.2 none), if_pos none]
      rfl
    · rw [if_neg (mt empty.1 none), if_neg none]
      rfl
  rw [if_neg (mt top.1 full), ofFields, if_neg full]
  by_cases least : exponent = 0#_
  · rw [if_pos (bottom.2 least), if_pos least]
    by_cases none : fraction = 0#_
    · rw [dif_pos none, none]
      rfl
    · rw [dif_neg none]
      rfl
  · rw [if_neg (mt bottom.1 least), if_neg least]
    rfl

theorem shape_eq (x : Float) : shape x = Shape.ofUnpacked x.toModel.unpack :=
  shape_ofBits x.toModel.toBits.toBitVec

/-! ## Packing -/

theorem unpack_floatOfBits (w : UInt64) :
    (Float.ofBits w).toModel.unpack = UnpackedFloat.unpack Format.binary64 w.toBitVec := by
  show UnpackedFloat.unpack Format.binary64 (UnpackedFloat.pack Format.binary64
    (UnpackedFloat.unpack Format.binary64 w.toBitVec)) = _
  rw [unpack_eq_ofFields w.toBitVec, unpack_pack_ofFields]

theorem abs_ofFields (sign : Sign) (exponent : BitVec 11) (fraction : BitVec 52) :
    (ofFields sign exponent fraction).abs = ofFields .positive exponent fraction := by
  by_cases top : exponent = -1#_
  · rw [ofFields, ofFields, if_pos top, if_pos top]
    split <;> rfl
  by_cases bottom : exponent = 0#_
  · rw [ofFields, ofFields, if_neg top, if_neg top, if_pos bottom, if_pos bottom]
    by_cases zero : fraction = 0#_
    · rw [dif_pos zero, dif_pos zero]
      rfl
    · rw [dif_neg zero, dif_neg zero]
      rfl
  · rw [ofFields, ofFields, if_neg top, if_neg top, if_neg bottom, if_neg bottom]
    rfl

theorem unpack_abs (x : Float) : x.abs.toModel.unpack = x.toModel.unpack.abs := by
  show UnpackedFloat.unpack Format.binary64 (UnpackedFloat.pack Format.binary64
    (UnpackedFloat.unpack Format.binary64 x.toModel.toBits.toBitVec).abs) =
      (UnpackedFloat.unpack Format.binary64 x.toModel.toBits.toBitVec).abs
  rw [unpack_eq_ofFields x.toModel.toBits.toBitVec, abs_ofFields, unpack_pack_ofFields]

/-! ## Parts and comparisons -/

theorem unpack_eq (x : Float) : ∃ sign exponent fraction,
    x.toModel.unpack = ofFields sign exponent fraction :=
  ⟨_, _, _, unpack_eq_ofFields x.toModel.toBits.toBitVec⟩

theorem mantissa_lt {x : Float} {sign : Sign} {m : Nat} {e : Int} {h : 0 < m}
    (hx : x.toModel.unpack = .finite sign m e h) : m < 2 ^ 53 := by
  obtain ⟨s, exponent, fraction, hfields⟩ := unpack_eq x
  have hf := fraction.isLt
  by_cases top : exponent = -1#_
  · rw [hfields, ofFields, if_pos top] at hx
    by_cases zero : fraction = 0#_
    · rw [if_pos zero] at hx
      cases hx
    · rw [if_neg zero] at hx
      cases hx
  by_cases bottom : exponent = 0#_
  · rw [hfields, ofFields, if_neg top, if_pos bottom] at hx
    by_cases zero : fraction = 0#_
    · rw [dif_pos zero] at hx
      cases hx
    · rw [dif_neg zero] at hx
      cases hx
      omega
  · rw [hfields, ofFields, if_neg top, if_neg bottom] at hx
    cases hx
    omega

theorem truncate?_of_shape {x : Float} {negative : Bool} {m : Nat} {e : Int}
    (h : shape x = .finite negative m e) :
    truncate? x = some (if negative then -((fraction m e).1 / (fraction m e).2 : Nat)
      else ((fraction m e).1 / (fraction m e).2 : Nat) : Int) := by
  rw [truncate?, h]

theorem le_iff (x y : Float) :
    x ≤ y ↔ (x.toModel.unpack.compare y.toModel.unpack).any (·.isLE) = true := by
  show Float.le x y = true ↔ _
  rw [Float.le, decide_eq_true_iff]
  exact Iff.rfl

theorem lt_iff (x y : Float) :
    x < y ↔ (x.toModel.unpack.compare y.toModel.unpack == some .lt) = true := by
  show Float.lt x y = true ↔ _
  rw [Float.lt, decide_eq_true_iff]
  exact Iff.rfl

/-! ## Bits -/

/-- The sign that a flag tells. -/
def signOf : Bool → Sign
  | true => .negative
  | false => .positive

theorem eq_signOf {sign : Sign} {negative : Bool} (h : (sign == .negative) = negative) :
    sign = signOf negative := by
  subst h
  cases sign <;> rfl

theorem unpack_ofBits (negative : Bool) {bits : Nat} (h : bits < signBit) :
    (ofBits negative bits).toModel.unpack =
      ofFields (signOf negative) (BitVec.ofNat 11 (bits / hiddenBit)) (BitVec.ofNat 52 bits) := by
  have hsign : signBit = 9223372036854775808 := rfl
  let b : BitVec 64 := (UInt64.ofNat (if negative then signBit + bits else bits)).toBitVec
  have hb : b.toNat = if negative then signBit + bits else bits := by
    show (if negative then signBit + bits else bits) % 2 ^ 64 = _
    refine Nat.mod_eq_of_lt ?_
    split <;> omega
  have hexponent : @unpackExponent Format.binary64 b = BitVec.ofNat 11 (bits / hiddenBit) := by
    refine BitVec.eq_of_toNat_eq ((toNat_unpackExponent b).trans ?_)
    have hfield : (BitVec.ofNat 11 (bits / hiddenBit)).toNat = bits / 2 ^ 52 % 2 ^ 11 :=
      BitVec.toNat_ofNat ..
    rw [hfield, hb, hsign]
    split <;> omega
  have hfraction : @unpackMantissa Format.binary64 b = BitVec.ofNat 52 bits := by
    refine BitVec.eq_of_toNat_eq ((toNat_unpackMantissa b).trans ?_)
    have hlow : (BitVec.ofNat 52 bits).toNat = bits % 2 ^ 52 := BitVec.toNat_ofNat ..
    rw [hlow, hb, hsign]
    split <;> omega
  have hnegative : (Sign.ofBitVec (@unpackSign Format.binary64 b) == .negative) = negative := by
    rw [negative_unpackSign, hb, hsign, beq_eq_decide]
    split
    next minus => rw [minus]; exact decide_eq_true (by omega)
    next plus => rw [Bool.eq_false_iff.2 plus]; exact decide_eq_false (by omega)
  rw [ofBits, unpack_floatOfBits, unpack_eq_ofFields, ← hexponent, ← hfraction,
    ← eq_signOf hnegative]

/-- A field of exponent that is neither the least nor the greatest is that of a finite double other
than zero. -/
theorem ofFields_normal (sign : Sign) (fraction : BitVec 52) {field : Nat} (low : 0 < field)
    (high : field < 2047) :
    ∃ m e h, ofFields sign (BitVec.ofNat 11 field) fraction = .finite sign m e h := by
  have htoNat : (BitVec.ofNat 11 field).toNat = field := by
    rw [BitVec.toNat_ofNat]
    omega
  have top : BitVec.ofNat 11 field ≠ -1#_ := by
    intro h
    rw [h] at htoNat
    exact absurd htoNat.symm (Nat.ne_of_lt high)
  have bottom : BitVec.ofNat 11 field ≠ 0#_ := by
    intro h
    rw [h] at htoNat
    exact absurd htoNat.symm (Nat.ne_of_gt low)
  rw [ofFields, if_neg top, if_neg bottom]
  exact ⟨_, _, _, rfl⟩

theorem unpack_zero (negative : Bool) : (zero negative).toModel.unpack = .zero (signOf negative) :=
  unpack_ofBits negative (by decide : 0 < signBit)

end Reckoner.Double
