import Reckoner.Proofs.Number.Exact
import Reckoner.Rates.Bulletin
import Reckoner.Rates.Envelope

/-!
# What reading a bulletin gives

A text that is no bulletin is refused, or it declares entities; nothing else goes wrong in reading.
The quotes of a bulletin that was read are prices of positive numbers of units.  So its prices of
single units can be formed unless one of them does not fit, and never is anything divided by zero.
-/

namespace Reckoner

/-! ## Values and faults of results -/

section

variable {ε ε' α β : Type} {P : α → Prop} {Q : β → Prop} {R : ε → Prop}

/-- The value of the result, if it has one, has the property. -/
def Gives (P : α → Prop) (result : Except ε α) : Prop := ∀ a, result = .ok a → P a

/-- The fault of the result, if it has one, has the property. -/
def FailsBy (R : ε → Prop) (result : Except ε α) : Prop := ∀ e, result = .error e → R e

namespace Gives

theorem ok {a : α} (h : P a) : Gives P (.ok a : Except ε α) := by
  intro b hb
  cases hb
  exact h

theorem error (e : ε) : Gives P (.error e : Except ε α) := nofun

theorem bind {result : Except ε α} {next : α → Except ε β} (h : Gives P result)
    (hnext : ∀ a, P a → Gives Q (next a)) : Gives Q (result >>= next) := by
  intro b hb
  obtain ⟨a, ha, hb⟩ := bind_eq_ok_iff.1 hb
  exact hnext a (h a ha) b hb

theorem map {result : Except ε α} {f : α → β} (h : Gives P result) (hf : ∀ a, P a → Q (f a)) :
    Gives Q (result.map f) := by
  cases result with
  | ok a => exact .ok (hf a (h a rfl))
  | error e => exact .error e

theorem mapError {result : Except ε α} (h : Gives P result) (f : ε → ε') :
    Gives P (result.mapError f) := fun a ha => h a (mapError_eq_ok_iff.1 ha)

end Gives

namespace FailsBy

theorem ok (a : α) : FailsBy R (.ok a : Except ε α) := nofun

theorem error {e : ε} (h : R e) : FailsBy R (.error e : Except ε α) := by
  intro f hf
  cases hf
  exact h

theorem bind {result : Except ε α} {next : α → Except ε β} (h : FailsBy R result)
    (hnext : ∀ a, result = .ok a → FailsBy R (next a)) : FailsBy R (result >>= next) := by
  cases result with
  | ok a => exact hnext a rfl
  | error e => exact .error (h e rfl)

theorem map {result : Except ε α} (h : FailsBy R result) (f : α → β) :
    FailsBy R (result.map f) := by
  cases result with
  | ok a => exact .ok _
  | error e => exact .error (h e rfl)

theorem mapError {result : Except ε α} {S : ε' → Prop} {f : ε → ε'} (h : FailsBy R result)
    (hf : ∀ e, R e → S (f e)) : FailsBy S (result.mapError f) := by
  cases result with
  | ok a => exact .ok a
  | error e => exact .error (hf e (h e rfl))

end FailsBy

end

/-! ## Checks -/

section

variable {α β : Type} {P : α → Prop} {Q : β → Prop}

namespace Gives

theorem under {c : Checked α} (h : Gives P c) (name : String) : Gives P (c.under name) :=
  h.mapError _

theorem both {a : Checked α} {b : Checked β} (ha : Gives P a) (hb : Gives Q b) :
    Gives (fun pair => P pair.1 ∧ Q pair.2) (Checked.both a b) := by
  cases a with
  | ok a =>
    cases b with
    | ok b => exact .ok ⟨ha a rfl, hb b rfl⟩
    | error e => exact .error e
  | error e => cases b <;> exact .error _

theorem all {check : Datum → Checked α} (h : ∀ d, Gives P (check d)) (i : Nat)
    (items : List Datum) : Gives (fun as => ∀ a ∈ as, P a) (Checked.all check i items) := by
  induction items generalizing i with
  | nil => exact .ok nofun
  | cons d items ih =>
    refine (((h d).under _).both (ih (i + 1))).map fun pair hpair => ?_
    exact List.forall_mem_cons.2 hpair

theorem asList {check : Datum → Checked α} (h : ∀ d, Gives P (check d)) (d : Datum) :
    Gives (fun as => ∀ a ∈ as, P a) (d.asList check) := by
  cases d with
  | list items => exact all h 0 items
  | _ => exact .error _

theorem required {check : Datum → Checked α} (h : ∀ d, Gives P (check d)) (parts : Datum.Parts)
    (first second : String) : Gives P (Datum.required parts first second check) := by
  unfold Datum.required
  split
  next => exact (h _).under _
  next => exact .error _

theorem optional {check : Datum → Checked α} {default : α} (hdefault : P default)
    (h : ∀ d, Gives P (check d)) (parts : Datum.Parts) (first second : String) :
    Gives P (Datum.optional parts first second default check) := by
  unfold Datum.optional
  split
  next => exact (h _).under _
  next => exact .ok hdefault

end Gives

end

theorem Gives.trivial {ε α : Type} (result : Except ε α) : Gives (fun _ => True) result :=
  fun _ _ => True.intro

namespace Quote

theorem checkUnit_pos (d : Datum) : Gives (fun n => 0 < n) (checkUnit d) := by
  refine (Gives.trivial d.asInteger).bind fun n _ => ?_
  split
  next => exact .error _
  next positive => exact .ok (not_le.1 positive)

/-- A quote that passes its check is the price of a positive number of units. -/
theorem check_pos (d : Datum) : Gives (fun q => 0 < q.unit) (check d) := by
  refine (Gives.trivial d.parts).bind fun parts _ => ?_
  have hcode := Gives.trivial (Datum.required parts "@curr" "currency" checkCode)
  have hunit := Gives.optional Int.one_pos checkUnit_pos parts "@unit" "unit"
  have hprice := Gives.trivial (Datum.required parts "#text" "value" checkPrice)
  exact (hcode.both (hunit.both hprice)).map fun _ h => h.2.1

end Quote

namespace Bulletin

/-- The quotes of a bulletin are prices of positive numbers of units. -/
def Positive (b : Bulletin) : Prop := ∀ q ∈ b.quotes, 0 < q.unit

theorem checkDay_positive (d : Datum) : Gives Positive (checkDay d) := by
  refine (Gives.trivial d.parts).bind fun parts _ => ?_
  have hdate := Gives.trivial (Datum.required parts "@date" "date" Datum.asText)
  have hquotes : Gives (fun quotes : List Quote => ∀ q ∈ quotes, 0 < q.unit)
      (Datum.optional parts "Rate" "rates" [] (Datum.asList Quote.check)) :=
    .optional (List.forall_mem_nil _) (Gives.asList Quote.check_pos) parts "Rate" "rates"
  exact (hdate.both hquotes).map fun _ h => h.2

theorem check_positive (d : Datum) : Gives Positive (check d) :=
  (Gives.trivial d.parts).bind fun parts _ => .required checkDay_positive parts "Day" "day"

theorem read_positive (text : String) : Gives Positive (read text) := by
  refine (Gives.trivial (Document.read _ text)).bind fun data _ => ?_
  exact ((check_positive _).mapError _).mapError _

end Bulletin

/-! ## Texts that are no bulletins -/

/-- Why a text cannot be read: it is refused, or it declares entities. -/
inductive Unread : Fault → Prop where
  | refused (fault : DocumentFault) : Unread (.document fault)
  | entityDeclared : Unread .entityDeclared

theorem Unread.eq_entityDeclared {fault : Fault} (h : Unread fault)
    (hrefused : ∀ why, fault = .document why → False) : fault = .entityDeclared := by
  cases h with
  | refused why => exact (hrefused why rfl).elim
  | entityDeclared => rfl

theorem Document.read_fails (reading : Reading) (text : String) :
    FailsBy Unread (read reading text) := by
  unfold read
  split
  next => exact .error (.refused _)
  next =>
    split
    next => exact .ok _
    next => exact .error (.refused _)
    next => exact .error .entityDeclared

theorem Checked.orFault_fails {α : Type} (c : Checked α) (document : Option String) :
    FailsBy Unread ((c.orFault document).mapError .document) := by
  cases c with
  | ok a => exact .ok a
  | error issues => exact .error (.refused _)

theorem Bulletin.read_fails (text : String) : FailsBy Unread (read text) :=
  (Document.read_fails _ text).bind fun _ _ => Checked.orFault_fails _ _

theorem Envelope.unwrap_fails (text : String) : FailsBy Unread (unwrap text) :=
  (Document.read_fails _ text).bind fun _ _ => Checked.orFault_fails _ _

/-! ## Prices of single units -/

/-- A ratio does not fit its words. -/
def Ratio.Failure.IsRange : Ratio.Failure → Prop
  | .outOfRange _ _ => True
  | _ => False

theorem Ratio.ofRat_fails (q : ℚ) : FailsBy Failure.IsRange (ofRat q) := by
  unfold ofRat
  split
  next => exact .ok _
  next => exact .error True.intro

namespace Quote

/-- The price of a single unit as a rational number. -/
def single (q : Quote) : ℚ := q.price.toRat / q.unit

/-- The price of a single unit can be formed: its numerator and its denominator fit their words, and
so does the number of units. -/
def Fits (q : Quote) : Prop := FitsInt64 q.unit ∧ FitsInt64 q.single.num ∧ FitsNat64 q.single.den

/-- The price of a single unit is the quotient, if that fits. -/
theorem perUnit_eq {q : Quote} (positive : 0 < q.unit) :
    q.perUnit = Ratio.ofInt q.unit >>= fun _ => Ratio.ofRat q.single := by
  unfold perUnit
  split
  next one =>
    have hunit : Ratio.ofInt q.unit = .ok .one := by
      rw [one]
      rfl
    rw [hunit, single, one, Int.cast_one, div_one]
    exact (Ratio.ofRat_toRat q.price).symm
  next =>
    cases hunit : Ratio.ofInt q.unit with
    | error e => rfl
    | ok u =>
      rw [Ratio.ofInt_eq, Ratio.ofRat_eq_ok_iff] at hunit
      have hzero : u.toRat ≠ 0 := by
        rw [hunit]
        exact Int.cast_ne_zero.2 positive.ne'
      show q.price.div u = Ratio.ofRat q.single
      rw [Ratio.div_eq, if_neg hzero, hunit, single]

theorem perUnit_fails {q : Quote} (positive : 0 < q.unit) :
    FailsBy Ratio.Failure.IsRange q.perUnit := by
  rw [perUnit_eq positive, Ratio.ofInt_eq]
  exact (Ratio.ofRat_fails _).bind fun _ _ => Ratio.ofRat_fails _

theorem exists_perUnit {q : Quote} (positive : 0 < q.unit) (fits : q.Fits) :
    ∃ price, q.perUnit = .ok price := by
  obtain ⟨hunit, hsingle⟩ := fits
  have hofInt : ∃ u, Ratio.ofInt q.unit = .ok u := by
    have hone : FitsNat64 (q.unit : ℚ).den := Ratio.one.den_fits
    rw [Ratio.ofInt_eq]
    exact ⟨_, dif_pos ⟨hunit, hone⟩⟩
  obtain ⟨u, hu⟩ := hofInt
  rw [perUnit_eq positive, hu]
  exact ⟨_, dif_pos hsingle⟩

end Quote

namespace Bulletin

/-- Every price of a single unit can be formed. -/
def Fits (b : Bulletin) : Prop := ∀ q ∈ b.quotes, q.Fits

/-- The code and the price of a single unit. -/
def entry (q : Quote) : Except Ratio.Failure (String × Ratio) := do
  let price ← q.perUnit
  pure (q.currency, price)

theorem table_eq (b : Bulletin) :
    b.table = b.quotes.mapM entry >>= fun entries => pure (Entries.ofList entries) := rfl

theorem table_fails {b : Bulletin} (positive : b.Positive) :
    FailsBy Ratio.Failure.IsRange b.table := by
  have hentries : ∀ quotes : List Quote, (∀ q ∈ quotes, 0 < q.unit) →
      FailsBy Ratio.Failure.IsRange (quotes.mapM entry) := by
    intro quotes hquotes
    induction quotes with
    | nil => exact .ok _
    | cons q quotes ih =>
      obtain ⟨hq, hquotes⟩ := List.forall_mem_cons.1 hquotes
      rw [List.mapM_cons]
      -- the first price, then the others
      refine FailsBy.bind ?_ fun _ _ => (ih hquotes).bind fun _ _ => .ok _
      exact (Quote.perUnit_fails hq).bind fun _ _ => .ok _
  rw [table_eq]
  exact (hentries b.quotes positive).bind fun _ _ => .ok _

end Bulletin

end Reckoner
