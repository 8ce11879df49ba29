import Reckoner.Proofs.Number.Fits
import Reckoner.Proofs.Rates.CrossRate

/-!
# Rates without arbitrage

The rates of one table come from one list of prices, so nothing is gained on the way: from a
currency by way of another to a third, the two rates multiply to the direct one
(`quotient?_mul`).  In a product of two quotients the price in the middle cancels, for it is a
divisor once and so it is not zero.

What a table gives and what it refuses are both told by the prices alone (`rate_free_of_arbitrage`).
The price of the base is one, whatever the table lists for it, and the same code has rate one, even
if the table does not list it.
-/

namespace Reckoner

namespace RateTable

variable {table : RateTable} {base a b c : String}

/-! ## Products of quotients -/

theorem quotient?_eq_some_iff (hne : a ≠ b) {x : ℚ} :
    table.quotient? base a b = some x ↔
      ∃ p q, table.price? base a = some p ∧ table.price? base b = some q ∧ q ≠ 0 ∧ x = p / q := by
  constructor
  · intro h
    rw [quotient?, if_neg hne] at h
    obtain ⟨p, hp, h⟩ := Option.bind_eq_some_iff.1 h
    obtain ⟨q, hq, h⟩ := Option.bind_eq_some_iff.1 h
    split at h
    next => cases h
    next nonzero => exact ⟨p, q, hp, hq, nonzero, (Option.some.inj h).symm⟩
  · rintro ⟨p, q, hp, hq, nonzero, rfl⟩
    exact quotient?_eq_some hne hp hq nonzero

theorem quotient?_self (code : String) : table.quotient? base code code = some 1 := if_pos rfl

/-- The way by a third currency gives what the direct way gives. -/
theorem quotient?_mul {x y z : ℚ} (hx : table.quotient? base a b = some x)
    (hy : table.quotient? base b c = some y) (hz : table.quotient? base a c = some z) :
    x * y = z := by
  by_cases hab : a = b
  · subst hab
    rw [quotient?_self] at hx
    cases hx
    cases hy.symm.trans hz
    exact one_mul y
  by_cases hbc : b = c
  · subst hbc
    rw [quotient?_self] at hy
    cases hy
    cases hx.symm.trans hz
    exact mul_one x
  obtain ⟨p, q, hp, hq, hq0, rfl⟩ := (quotient?_eq_some_iff hab).1 hx
  obtain ⟨q', r, hq', hr, hr0, rfl⟩ := (quotient?_eq_some_iff hbc).1 hy
  cases hq.symm.trans hq'
  rw [div_mul_div_cancel₀ hq0]
  by_cases hac : a = c
  · -- there and back: the price of the first currency was a divisor as well
    subst hac
    rw [quotient?_self] at hz
    cases hz
    cases hp.symm.trans hr
    exact div_self hr0
  · obtain ⟨p', r', hp', hr', -, rfl⟩ := (quotient?_eq_some_iff hac).1 hz
    cases hp.symm.trans hp'
    cases hr.symm.trans hr'
    rfl

/-! ## Rates that are refused -/

theorem crossRate_refused (h : ∀ r, table.crossRate base a b ≠ .ok r) :
    ∃ why, table.crossRate base a b = .error (.conversion why) := by
  cases hrate : table.crossRate base a b with
  | ok r => exact absurd hrate (h r)
  | error e =>
    obtain ⟨why, rfl⟩ := Converts.crossRate table base a b e hrate
    exact ⟨why, rfl⟩

theorem priceOf_of_price?_eq_none {code : String} (h : table.price? base code = none) :
    code ≠ base ∧ table.priceOf code = .error (.conversion (.unknownCode code)) := by
  have hne : code ≠ base := by
    rintro rfl
    cases price?_base.symm.trans h
  rw [price?, if_neg hne, Option.map_eq_none_iff] at h
  exact ⟨hne, by rw [priceOf, h]⟩

/-- Of two currencies without a price, the second is the one that is named. -/
theorem crossRate_unknown (hne : a ≠ b) (ha : table.price? base a = none)
    (hb : table.price? base b = none) :
    table.crossRate base a b = .error (.conversion (.unknownCode b)) := by
  obtain ⟨out, -⟩ := priceOf_of_price?_eq_none ha
  obtain ⟨into, hprice⟩ := priceOf_of_price?_eq_none hb
  rw [crossRate, if_neg hne, if_neg out, if_neg into, hprice]
  rfl

/-! ## Codes in any case -/

/-- The price of a code in any case. -/
def worth? (table : RateTable) (base code : String) : Option ℚ :=
  table.price? (Text.upper base) (Text.upper code)

theorem exists_inverse_iff {q : ℚ} : (∃ i : Ratio, i.toRat = q⁻¹) ↔ Fits q⁻¹ := by
  constructor
  · rintro ⟨i, hi⟩
    exact hi ▸ i.toRat_fits
  · intro h
    obtain ⟨i, -, hi⟩ := Ratio.exists_ofRat h
    exact ⟨i, hi⟩

theorem message_unknownCode (code : String) :
    (CalcError.conversion (.unknownCode code)).message =
      "Conversion error: no exchange rate for [" ++ code ++ "]" := by
  have htext : "Conversion error" ++ ": " ++ "no exchange rate for [" =
      "Conversion error: no exchange rate for [" := rfl
  simp only [← htext, String.append_assoc]
  rfl

/-- The rates of a table are consistent.  Two rates in a row multiply to the direct one, and a code
has rate one to itself.  Between different codes there is a rate if and only if both have a price,
that of the target is not zero, and its inverse and the quotient of the prices fit; the rate is that
quotient, for which the base has price one.  Otherwise the conversion fails: so it does for a code
without a price and for a target without worth.  Of two codes without a price it names the
target. -/
theorem rate_free_of_arbitrage (table : RateTable) (base : String) :
    (∀ a b c x y z, table.rate base a b = .ok x → table.rate base b c = .ok y →
      table.rate base a c = .ok z → x.toRat * y.toRat = z.toRat) ∧
    (∀ a b, Text.upper a = Text.upper b → ∃ r, table.rate base a b = .ok r ∧ r.toRat = 1) ∧
    (∀ a b r, Text.upper a ≠ Text.upper b → (table.rate base a b = .ok r ↔
      ∃ p q, table.worth? base a = some p ∧ table.worth? base b = some q ∧ q ≠ 0 ∧ Fits q⁻¹ ∧
        r.toRat = p / q)) ∧
    (∀ code, Text.upper code = Text.upper base → table.worth? base code = some 1) ∧
    (∀ a b e, table.rate base a b = .error e → ∃ why, e = .conversion why) ∧
    (∀ a b, Text.upper a ≠ Text.upper b →
      table.worth? base a = none ∨ table.worth? base b = none ∨ table.worth? base b = some 0 →
      ∃ why, table.rate base a b = .error (.conversion why)) ∧
    (∀ a b, Text.upper a ≠ Text.upper b → table.worth? base a = none →
      table.worth? base b = none → ∃ e, table.rate base a b = .error e ∧
        e = .conversion (.unknownCode (Text.upper b)) ∧
        e.message = "Conversion error: no exchange rate for [" ++ Text.upper b ++ "]") := by
  refine ⟨?_, ?_, ?_, ?_, ?_, ?_, ?_⟩
  · intro a b c x y z hx hy hz
    exact quotient?_mul (quotient?_of_crossRate hx) (quotient?_of_crossRate hy)
      (quotient?_of_crossRate hz)
  · intro a b same
    exact ⟨.one, by rw [rate, same, crossRate_self], Ratio.toRat_one⟩
  · intro a b r hne
    simp only [rate, crossRate_eq_ok_iff hne, exists_inverse_iff, worth?]
  · intro code same
    rw [worth?, same, price?_base]
  · intro a b e h
    exact Converts.crossRate _ _ _ _ e h
  · intro a b hne h
    refine crossRate_refused fun r hr => ?_
    obtain ⟨p, q, hp, hq, nonzero, -⟩ := (crossRate_eq_ok_iff hne).1 hr
    rcases h with h | h | h
    · cases hp.symm.trans h
    · cases hq.symm.trans h
    · exact nonzero (Option.some.inj (hq.symm.trans h))
  · intro a b hne ha hb
    exact ⟨_, crossRate_unknown hne ha hb, rfl, message_unknownCode _⟩

/-- Prices in forints: the table lists the forint itself, and a currency without worth. -/
def forintTable : RateTable :=
  [("HUF", ⟨11, 4, by decide, by decide, by decide, by decide⟩),
    ("EUR", ⟨7747, 20, by decide, by decide, by decide, by decide⟩),
    ("USD", ⟨2851, 8, by decide, by decide, by decide, by decide⟩),
    ("ZWD", ⟨0, 1, Ratio.one.den_pos, by decide, by decide, Ratio.one.den_fits⟩)]

/-- From dollars to forints to euros: the price that the table lists for the forint does not count.
A currency without worth has a rate to others, but none leads to it, and of two codes that the table
does not list the second is named. -/
theorem dollars_to_forints_to_euros :
    (∃ x y z, forintTable.rate "huf" "usd" "Huf" = .ok x ∧
      forintTable.rate "huf" "Huf" "EUR" = .ok y ∧ forintTable.rate "huf" "usd" "EUR" = .ok z ∧
      x.toRat = 2851 / 8 ∧ z.toRat = 14255 / 15494 ∧ x.toRat * y.toRat = z.toRat) ∧
    (Text.upper "ZWD" ≠ Text.upper "EUR" ∧
      ∃ r, forintTable.rate "huf" "ZWD" "EUR" = .ok r ∧ r.toRat = 0) ∧
    (forintTable.worth? "huf" "ZWD" = some 0 ∧
      ∃ why, forintTable.rate "huf" "EUR" "ZWD" = .error (.conversion why)) ∧
    (forintTable.worth? "huf" "xau" = none ∧ forintTable.worth? "huf" "xag" = none ∧
      ∃ e, forintTable.rate "huf" "xau" "xag" = .error e ∧
        e.message = "Conversion error: no exchange rate for [XAG]") := by
  obtain ⟨hmul, -, hfound, -, -, hrefused, hnamed⟩ := rate_free_of_arbitrage forintTable "huf"
  have hdollar : forintTable.rate "huf" "usd" "Huf" =
      .ok ⟨2851, 8, by decide, by decide, by decide, by decide⟩ := by rfl
  have hforint : forintTable.rate "huf" "Huf" "EUR" =
      .ok ⟨20, 7747, by decide, by decide, by decide, by decide⟩ := by rfl
  have hdirect : forintTable.rate "huf" "usd" "EUR" =
      .ok ⟨14255, 15494, by decide, by decide, by decide, by decide⟩ := by rfl
  have hworthless : forintTable.worth? "huf" "ZWD" = some 0 := by rfl
  have hdifferent : Text.upper "ZWD" ≠ Text.upper "EUR" := by decide
  have hzero : forintTable.rate "huf" "ZWD" "EUR" =
      .ok ⟨0, 1, by decide, by decide, by decide, by decide⟩ := by rfl
  obtain ⟨p, q, hp, hq, -, -, hquotient⟩ := (hfound "ZWD" "EUR" _ hdifferent).1 hzero
  cases hp.symm.trans hworthless
  refine ⟨⟨_, _, _, hdollar, hforint, hdirect, ?_, ?_, hmul _ _ _ _ _ _ hdollar hforint hdirect⟩,
    ⟨hdifferent, _, hzero, hquotient.trans (zero_div q)⟩, ⟨hworthless, ?_⟩, rfl, rfl, ?_⟩
  · norm_num [Ratio.toRat_eq_div]
  · norm_num [Ratio.toRat_eq_div]
  · exact hrefused "EUR" "ZWD" hdifferent.symm (.inr (.inr hworthless))
  · obtain ⟨e, he, -, hmessage⟩ := hnamed "xau" "xag" (by decide) rfl rfl
    exact ⟨e, he, hmessage⟩

end RateTable

end Reckoner
