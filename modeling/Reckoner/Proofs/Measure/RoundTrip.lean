import Reckoner.Proofs.Measure.Convert
import Reckoner.Proofs.Number.Fits

/-!
# Conversions there, back and on

An exact conversion can be undone: the way back is exact and gives the number that was converted.
By factors this is so because every rate between units of a category is exact (`rates_fit`), so
that the way back asks for nothing but the number itself, and that fits.  Between the scales of
temperature each step of the way back asks for the result of a step of the way there.

Two exact conversions by factors, one after the other, give what the direct one gives if that is
exact too.
-/

namespace Reckoner

namespace FixedUnit

/-- Units of a category have exact rates. -/
theorem rates_fit : ∀ u ∈ all, ∀ v ∈ all, u.category = v.category →
    (u.factor?.all fun f => v.factor?.all fun g =>
      (Ratio.make (f.num * g.den) (f.den * g.num)).toOption.isSome) = true := by decide

/-- The rate between two units of a category fits. -/
theorem rate_fits {u v : FixedUnit} {f g : ℚ} (h : u.category = v.category)
    (hu : u.scale? = some f) (hv : v.scale? = some g) : Fits (f / g) := by
  obtain ⟨m, hm, rfl⟩ := Option.map_eq_some_iff.1 hu
  obtain ⟨n, hn, rfl⟩ := Option.map_eq_some_iff.1 hv
  have hfit := rates_fit u u.mem_all v v.mem_all h
  rw [hm, hn, Option.all_some, Option.all_some, Option.isSome_iff_exists] at hfit
  obtain ⟨r, hr⟩ := hfit
  obtain ⟨-, hq⟩ := Ratio.make_eq_ok_iff.1 (toOption_eq_some_iff.1 hr)
  have hvalue : r.toRat = m.num / m.den / (n.num / n.den) := by
    rw [hq, div_div_div_eq]
    push_cast
    rfl
  exact hvalue ▸ r.toRat_fits

end FixedUnit

namespace Measure

open Number

variable {σ : Type} (source : Option (RateSource σ))

/-! ## By factors -/

/-- A unit that is no scale of temperature has a factor. -/
theorem exists_scale_ne_zero {u : FixedUnit} (h : u.category ≠ .temperature) :
    ∃ f, u.scale? = some f ∧ f ≠ 0 := by
  obtain ⟨f, -, hf, nonzero, -⟩ := FixedUnit.exists_scale h
  exact ⟨f, hf, nonzero⟩

/-- A conversion by factors is a multiplication by an exact rate. -/
theorem exists_rate {u v : FixedUnit} {f g : ℚ} (h : u.category = v.category)
    (htemp : u.category ≠ .temperature) (hu : u.scale? = some f) (hv : v.scale? = some g) :
    ∃ rate : Number, rate.Canonical ∧ rate.toRat? = some (f / g) ∧
      ∀ x, convert source x (.fixed u) (.fixed v) = pure (rate.mul x) := by
  obtain ⟨f', n, hf', -, hn, hnf⟩ := FixedUnit.exists_scale htemp
  obtain ⟨g', m, hg', nonzero, hm, hmg⟩ := FixedUnit.exists_scale (h ▸ htemp)
  cases hf'.symm.trans hu
  cases hg'.symm.trans hv
  obtain ⟨rate, hrate, hrep⟩ := div?_represents (factor?_canonical hn).valid
    (factor?_canonical hm).valid hnf hmg nonzero
  refine ⟨rate, div?_canonical hrate, hrep.toRat?_of_fits (FixedUnit.rate_fits h hu hv), ?_⟩
  intro x
  rw [convert_by_factor source x h htemp, convertByFactor?_eq x hn hm, hrate]
  rfl

/-- What a conversion by factors gives. -/
theorem convert_represents {u v : FixedUnit} {f g p : ℚ} {x : Number} (h : u.category = v.category)
    (htemp : u.category ≠ .temperature) (hu : u.scale? = some f) (hv : v.scale? = some g)
    (hx : x.Canonical) (hp : x.toRat? = some p) :
    ∃ y : Number, convert source x (.fixed u) (.fixed v) = pure y ∧ y.Canonical ∧
      y.Represents (f / g * p) := by
  obtain ⟨rate, hcanonical, hvalue, hconvert⟩ := exists_rate source h htemp hu hv
  exact ⟨rate.mul x, hconvert x, Operation.apply_canonical ..,
    mul_represents hcanonical.valid hx.valid hvalue hp⟩

/-- A conversion by factors gives the canonical number whose value is right, if there is one. -/
theorem convert_eq {u v : FixedUnit} {f g p : ℚ} {x y : Number} (h : u.category = v.category)
    (htemp : u.category ≠ .temperature) (hu : u.scale? = some f) (hv : v.scale? = some g)
    (hx : x.Canonical) (hp : x.toRat? = some p) (hy : y.Canonical)
    (hq : y.toRat? = some (f / g * p)) : convert source x (.fixed u) (.fixed v) = pure y := by
  obtain ⟨z, hz, hcanonical, hrep⟩ := convert_represents source h htemp hu hv hx hp
  rw [hz, hrep.eq_of_canonical hcanonical hy hq]

section

variable {u v w : FixedUnit} {f g k p : ℚ} {x y : Number}

theorem convert_self (htemp : u.category ≠ .temperature) (hx : x.Canonical)
    (exact : x.isFloat = false) : convert source x (.fixed u) (.fixed u) = pure x := by
  obtain ⟨f, hu, nonzero⟩ := exists_scale_ne_zero htemp
  obtain ⟨p, hp⟩ := exists_toRat? exact
  refine convert_eq source rfl htemp hu hu hx hp hx ?_
  rw [div_self nonzero, one_mul, hp]

/-- The way back asks for the number that was converted. -/
theorem convert_back (h : u.category = v.category) (htemp : u.category ≠ .temperature)
    (hu : u.scale? = some f) (hv : v.scale? = some g) (hf : f ≠ 0) (hg : g ≠ 0)
    (hx : x.Canonical) (hp : x.toRat? = some p) (hy : y.Canonical)
    (hq : y.toRat? = some (f / g * p)) : convert source y (.fixed v) (.fixed u) = pure x := by
  refine convert_eq source h.symm (h ▸ htemp) hv hu hy hq hx ?_
  have hback : g / f * (f / g * p) = p := by field_simp
  rw [hback, hp]

/-- The way on has the value of the direct one. -/
theorem convert_on (h : v.category = w.category) (htemp : v.category ≠ .temperature)
    (hv : v.scale? = some g) (hw : w.scale? = some k) (hg : g ≠ 0) (hy : y.Canonical)
    (hq : y.toRat? = some (f / g * p)) :
    ∃ z : Number, convert source y (.fixed v) (.fixed w) = pure z ∧ z.Canonical ∧
      z.Represents (f / k * p) := by
  have hon : g / k * (f / g * p) = f / k * p := by field_simp
  have hrep := convert_represents source h htemp hv hw hy hq
  rwa [hon] at hrep

/-- A conversion by factors, with the way back and any way on. -/
theorem convert_via (h : u.category = v.category) (h' : v.category = w.category)
    (htemp : u.category ≠ .temperature) (hx : x.Canonical) (exact : x.isFloat = false) :
    ∃ y z z' : Number, convert source x (.fixed u) (.fixed v) = pure y ∧
      convert source y (.fixed v) (.fixed w) = pure z ∧
      convert source x (.fixed u) (.fixed w) = pure z' ∧
      (y.isFloat = false → convert source y (.fixed v) (.fixed u) = pure x) ∧
      (y.isFloat = false → z.isFloat = false → z'.isFloat = false → z = z') := by
  have htemp' : v.category ≠ .temperature := h ▸ htemp
  obtain ⟨f, hu, hf⟩ := exists_scale_ne_zero htemp
  obtain ⟨g, hv, hg⟩ := exists_scale_ne_zero htemp'
  obtain ⟨k, hw, -⟩ := exists_scale_ne_zero (h' ▸ htemp')
  obtain ⟨p, hp⟩ := exists_toRat? exact
  obtain ⟨y, hy, hcanonical, hrep⟩ := convert_represents source h htemp hu hv hx hp
  obtain ⟨z', hz', hcanonical', hrep'⟩ := convert_represents source (h.trans h') htemp hu hw hx hp
  cases hexact : y.isFloat with
  | true =>
    obtain ⟨z, hz⟩ := exists_convert source y h' fun heq => absurd heq htemp'
    exact ⟨y, z, z', hy, hz, hz', by simp [hexact], by simp [hexact]⟩
  | false =>
    have hq := hrep.value hexact
    obtain ⟨z, hz, hzcanonical, hzrep⟩ := convert_on source h' htemp' hv hw hg hcanonical hq
    refine ⟨y, z, z', hy, hz, hz', fun _ => ?_, fun _ hzexact hexact' => ?_⟩
    · exact convert_back source h htemp hu hv hf hg hx hp hcanonical hq
    · exact hzcanonical.eq_of_toRat? hcanonical' (hzrep.value hzexact) (hrep'.value hexact')

end

end Measure

/-! ## Operations undone -/

namespace Number

section

variable {a b c : Number} {r : ℚ}

theorem Operation.isFloat_left {op : Operation} (h : (op.apply a b).isFloat = false) :
    a.isFloat = false := by
  cases hfloat : a.isFloat with
  | false => rfl
  | true =>
    simp only [apply, hfloat, Bool.true_or, if_true] at h
    cases h

/-- The difference takes an exact sum apart. -/
theorem sub_of_add (ha : a.Canonical) (hc : c.Canonical) (hr : c.toRat? = some r)
    (exact : (a.add c).isFloat = false) : (a.add c).sub c = a := by
  obtain ⟨q, hq⟩ := exists_toRat? exact
  obtain ⟨p, r', hp, hr', rfl⟩ := Operation.toRat?_apply addition_computes hq
  cases hr'.symm.trans hr
  have hback := sub_represents (addition.apply_canonical a c).valid hc.valid hq hr
  rw [add_sub_cancel_right] at hback
  exact hback.eq_of_canonical (Operation.apply_canonical ..) ha hp

/-- The sum puts an exact difference together. -/
theorem add_of_sub (ha : a.Canonical) (hc : c.Canonical) (hr : c.toRat? = some r)
    (exact : (a.sub c).isFloat = false) : (a.sub c).add c = a := by
  obtain ⟨q, hq⟩ := exists_toRat? exact
  obtain ⟨p, r', hp, hr', rfl⟩ := Operation.toRat?_apply subtraction_computes hq
  cases hr'.symm.trans hr
  have hback := add_represents (subtraction.apply_canonical a c).valid hc.valid hq hr
  rw [sub_add_cancel] at hback
  exact hback.eq_of_canonical (Operation.apply_canonical ..) ha hp

/-- The quotient takes an exact product apart. -/
theorem div?_of_mul (ha : a.Canonical) (hc : c.Canonical) (hr : c.toRat? = some r)
    (nonzero : r ≠ 0) (exact : (a.mul c).isFloat = false) : (a.mul c).div? c = some a := by
  obtain ⟨q, hq⟩ := exists_toRat? exact
  obtain ⟨p, r', hp, hr', rfl⟩ := Operation.toRat?_apply multiplication_computes hq
  cases hr'.symm.trans hr
  obtain ⟨b, hb, hback⟩ := div?_represents (a := a.mul c)
    (multiplication.apply_canonical a c).valid hc.valid hq hr nonzero
  rw [mul_div_cancel_right₀ p nonzero] at hback
  rw [hb, hback.eq_of_canonical (div?_canonical hb) ha hp]

/-- The product puts an exact quotient together. -/
theorem mul_of_div? (ha : a.Canonical) (hc : c.Canonical) (hr : c.toRat? = some r)
    (hb : a.div? c = some b) (exact : b.isFloat = false) : b.mul c = a := by
  obtain ⟨q, hq⟩ := exists_toRat? exact
  obtain ⟨p, r', hp, hr', nonzero, rfl⟩ := toRat?_div hb hq
  cases hr'.symm.trans hr
  have hback := mul_represents (div?_canonical hb).valid hc.valid hq hr
  rw [div_mul_cancel₀ p nonzero] at hback
  exact hback.eq_of_canonical (Operation.apply_canonical ..) ha hp

theorem isFloat_of_div? (h : a.div? c = some b) (exact : b.isFloat = false) :
    a.isFloat = false := by
  unfold div? at h
  split at h
  next => cases h
  next =>
    cases h
    exact Operation.isFloat_left exact

end

end Number

namespace Measure

open Number

/-! ## Between the scales of temperature -/

section

variable {x y : Number}

theorem celsius_back (hx : x.Canonical)
    (exact : ((x.mul degreeRatio).add freezingPoint).isFloat = false) :
    (((x.mul degreeRatio).add freezingPoint).sub freezingPoint).div? degreeRatio = some x := by
  have hshift := sub_of_add (a := x.mul degreeRatio) (Operation.apply_canonical ..)
    freezingPoint_canonical rfl exact
  rw [hshift]
  exact div?_of_mul hx degreeRatio_canonical toRat?_degreeRatio (by norm_num)
    (Operation.isFloat_left exact)

theorem fahrenheit_back (hx : x.Canonical)
    (h : (x.sub freezingPoint).div? degreeRatio = some y) (exact : y.isFloat = false) :
    (y.mul degreeRatio).add freezingPoint = x := by
  have hstretch := mul_of_div? (a := x.sub freezingPoint) (Operation.apply_canonical ..)
    degreeRatio_canonical toRat?_degreeRatio h exact
  rw [hstretch]
  exact add_of_sub hx freezingPoint_canonical rfl (isFloat_of_div? h exact)

variable {σ : Type} (source : Option (RateSource σ))

/-- From one scale of temperature to the other and back. -/
theorem convert_scale_back {u v : FixedUnit} (hu : u.category = .temperature)
    (hv : v.category = .temperature) (hne : u ≠ v) (hx : x.Canonical) :
    ∃ y : Number, convert source x (.fixed u) (.fixed v) = pure y ∧
      (y.isFloat = false → convert source y (.fixed v) (.fixed u) = pure x) := by
  rcases scale_cases hu with rfl | rfl <;> rcases scale_cases hv with rfl | rfl
  · exact absurd rfl hne
  · refine ⟨(x.mul degreeRatio).add freezingPoint, rfl, fun exact => ?_⟩
    rw [convert_temperature source _ hv hu, convertTemperature?, celsius_back hx exact]
    rfl
  · refine ⟨division.apply (x.sub freezingPoint) degreeRatio, rfl, fun exact => ?_⟩
    rw [convert_temperature source _ hv hu, convertTemperature?, fahrenheit_back hx rfl exact]
    rfl
  · exact absurd rfl hne

/-! ## Conversions as a whole -/

/-- Conversions compose and can be undone.  Between units of a category with factors a canonical
exact number is not changed by a conversion to its own unit, an exact conversion can be undone, and
two exact conversions give what the direct one gives if that is exact.  An exact conversion from one
scale of temperature to the other can be undone. -/
theorem convert_back_and_on (s : σ) (hx : x.Canonical) (exact : x.isFloat = false) :
    (∀ u v w : FixedUnit, u.category ≠ .temperature → u.category = v.category →
      v.category = w.category →
      (convert source x (.fixed u) (.fixed u)).start s = (.ok x, s) ∧
      ∃ y z z' : Number, (convert source x (.fixed u) (.fixed v)).start s = (.ok y, s) ∧
        (convert source y (.fixed v) (.fixed w)).start s = (.ok z, s) ∧
        (convert source x (.fixed u) (.fixed w)).start s = (.ok z', s) ∧
        (y.isFloat = false →
          (convert source y (.fixed v) (.fixed u)).start s = (.ok x, s)) ∧
        (y.isFloat = false → z.isFloat = false → z'.isFloat = false → z = z')) ∧
    (∀ u v : FixedUnit, u.category = .temperature → v.category = .temperature → u ≠ v →
      ∃ y : Number, (convert source x (.fixed u) (.fixed v)).start s = (.ok y, s) ∧
        (y.isFloat = false →
          (convert source y (.fixed v) (.fixed u)).start s = (.ok x, s))) := by
  constructor
  · intro u v w htemp h h'
    obtain ⟨y, z, z', hy, hz, hz', hback, hon⟩ := convert_via source h h' htemp hx exact
    rw [convert_self source htemp hx exact, hy, hz']
    refine ⟨rfl, y, z, z', rfl, ?_, rfl, fun hexact => ?_, hon⟩
    · rw [hz, Calculation.start_pure]
    · rw [hback hexact, Calculation.start_pure]
  · intro u v hu hv hne
    obtain ⟨y, hy, hback⟩ := convert_scale_back source hu hv hne hx
    refine ⟨y, by rw [hy, Calculation.start_pure], fun hexact => ?_⟩
    rw [hback hexact, Calculation.start_pure]

/-- Two ninths. -/
def twoNinths : Number := .ratio ⟨2, 9, by decide, by decide, by decide, by decide⟩

/-- Two ninths of a mile in millimetres, back and on to inches, and two ninths of a degree in
Fahrenheit's scale and back. -/
theorem twoNinths_back_and_on :
    (twoNinths.Canonical ∧ twoNinths.isFloat = false) ∧
    (convert none twoNinths (.fixed .mile) (.fixed .millimetre)).start () =
      (.ok (.whole 357632), ()) ∧
    (convert none (.whole 357632) (.fixed .millimetre) (.fixed .mile)).start () =
      (.ok twoNinths, ()) ∧
    (convert none (.whole 357632) (.fixed .millimetre) (.fixed .inch)).start () =
      (convert none twoNinths (.fixed .mile) (.fixed .inch)).start () ∧
    ∃ y : Number,
      (convert none twoNinths (.fixed .celsius) (.fixed .fahrenheit)).start () = (.ok y, ()) ∧
      (convert none y (.fixed .fahrenheit) (.fixed .celsius)).start () = (.ok twoNinths, ()) := by
  have hcanonical : twoNinths.Canonical := by decide
  have hexact : twoNinths.isFloat = false := rfl
  obtain ⟨hfactor, hscale⟩ := convert_back_and_on none () hcanonical hexact
  obtain ⟨-, y, z, z', hy, hz, hz', hback, hon⟩ :=
    hfactor .mile .millimetre .inch (by decide) rfl rfl
  have hmillimetres : y = .whole 357632 := by
    cases hy
    rfl
  subst hmillimetres
  have hinches : z = .whole 14080 ∧ z' = .whole 14080 := by
    cases hz
    cases hz'
    exact ⟨rfl, rfl⟩
  have hsame := hon rfl (by rw [hinches.1]; rfl) (by rw [hinches.2]; rfl)
  obtain ⟨t, ht, hscaleback⟩ := hscale .celsius .fahrenheit rfl rfl (by decide)
  have htexact : t.isFloat = false := by
    cases ht
    rfl
  exact ⟨⟨hcanonical, hexact⟩, hy, hback rfl, by rw [hz, hz', hsame], t, ht, hscaleback htexact⟩

end

end Measure

end Reckoner
