import Reckoner.Calculate
import Reckoner.Proofs.Expr.Text
import Reckoner.Proofs.Grammar.Nesting

/-!
# Trees read back from their text

A tree with written-out leaves is derived from the tokens of its text (`derives`).  Every operator
stands in parentheses, so the derivation is an atom at every level, and precedence and grouping
never come into it.  No two quantities stand next to each other, so none are merged.

The parser therefore reads the tree back, if it may nest deep enough: four levels for every pair of
parentheses on the way to a leaf, and one for every exponent (`nesting`).  With a lower limit it may
give up, but it never finds anything else.
-/

namespace Reckoner

open Grammar

/-! ## The derivation -/

theorem Currency.find?_of_mem {code : String} (h : code ∈ codes) : find? code = some code := by
  have hall : (codes.all fun code => find? code == some code) = true := by decide
  exact eq_of_beq (List.all_eq_true.1 hall code h)

theorem Measure.Known.unitToken {u : Measure} (hu : u.Known) : UnitToken u.token u := by
  cases u with
  | fixed u => exact .fixed u
  | currency code => exact .currency (Currency.find?_of_mem hu)

theorem Quantity.WrittenOut.derives {q : Quantity} (h : q.WrittenOut) :
    Derives .atom q.tokens (.leaf q) := by
  cases h with
  | @of n unit hn hshort hunit =>
    cases unit with
    | none => exact .number (.integer n)
    | some u => exact .quantity (.integer n) (hunit u rfl).unitToken

/-- The tree is derived from its tokens, as an atom. -/
theorem Expr.WrittenOut.derives {e : Expr} (h : e.WrittenOut) : Derives .atom e.tokens e := by
  induction e with
  | leaf q => exact Quantity.WrittenOut.derives h
  | negate e ih => exact .parentheses (.negation (.ofExponent (.ofAtom (ih h))))
  | binary op l r ihl ihr =>
    obtain ⟨hop, hl, hr⟩ := h
    have hleft := ihl hl
    have hright := ihr hr
    suffices hinner : Derives .expression (l.tokens ++ op.token :: r.tokens) (.binary op l r) by
      have hparen := hinner.parentheses
      simpa [Expr.tokens] using hparen
    cases op with
    | power => exact .ofTerm (.ofExponent (.power hleft (.ofAtom hright)))
    | multiply => exact .ofTerm (.product (.ofExponent (.ofAtom hleft)) .star (.ofAtom hright))
    | divide => exact .ofTerm (.product (.ofExponent (.ofAtom hleft)) .slash (.ofAtom hright))
    | add =>
      exact .sum (.ofTerm (.ofExponent (.ofAtom hleft))) .plus (.ofExponent (.ofAtom hright))
    | subtract =>
      exact .sum (.ofTerm (.ofExponent (.ofAtom hleft))) .minus (.ofExponent (.ofAtom hright))
    | convert => exact absurd rfl hop

/-! ## The depth -/

/-- How deep the rules nest from the atom that a tree's text is. -/
def Expr.nesting : Expr → Nat
  | .leaf _ => 3
  | .negate e => e.nesting + 4
  | .binary .power l r => max l.nesting (r.nesting + 1) + 4
  | .binary _ l r => max l.nesting r.nesting + 4

theorem Quantity.WrittenOut.head_ne_parenOpen {q : Quantity} (h : q.WrittenOut)
    (rest : List Token) : (q.tokens ++ rest).head? ≠ some .parenOpen := by
  cases h with
  | of => nofun

section
variable {tokens : Array Token} {pos : Nat} {rest : List Token}

/-- The calls that read a tree go as deep as it nests. -/
theorem Expr.WrittenOut.reaches {e : Expr} (h : e.WrittenOut)
    (hahead : Ahead tokens pos (e.tokens ++ rest)) : Reaches tokens e.nesting .atom pos := by
  induction e generalizing pos rest with
  | leaf q =>
    refine reaches_atom_of_ne ?_
    rw [hahead.head?]
    exact Quantity.WrittenOut.head_ne_parenOpen h rest
  | negate e ih =>
    have he : e.WrittenOut := h
    have hat : Ahead tokens (pos + 1) (.minus :: (e.tokens ++ .parenClose :: rest)) := by
      simpa [Expr.tokens] using hahead.tail
    exact (ih he hat.tail).negated he.derives hat
  | binary op l r ihl ihr =>
    obtain ⟨hop, hl, hr⟩ := h
    have hat : Ahead tokens (pos + 1)
        (l.tokens ++ op.token :: (r.tokens ++ .parenClose :: rest)) := by
      simpa [Expr.tokens] using hahead.tail
    have hright : Ahead tokens (pos + 1 + l.tokens.length + 1)
        (r.tokens ++ .parenClose :: rest) := hat.append.tail
    have hfirst := (ihl hl hat).mono (Nat.le_max_left _ r.nesting)
    have hsecond := (ihr hr hright).mono (Nat.le_max_right l.nesting _)
    cases op with
    | power =>
      have hexponent := (ihr hr hright).ofAtom hr.derives hright
        (lt_followLooseness_parenClose (by decide) rest)
      exact ((ihl hl hat).mono (Nat.le_max_left _ _)).raised
        (hexponent.mono (Nat.le_max_right _ _)) hl.derives (.ofAtom hr.derives) hat
    | multiply => exact hfirst.multiplied hsecond hl.derives .star hr.derives hat
    | divide => exact hfirst.multiplied hsecond hl.derives .slash hr.derives hat
    | add => exact hfirst.added hsecond hl.derives .plus hr.derives hat
    | subtract => exact hfirst.added hsecond hl.derives .minus hr.derives hat
    | convert => exact absurd rfl hop

end

/-! ## Reading back -/

/-- The tokens of a tree are parsed to the tree, unless the limit is less than the tree's depth. -/
theorem Expr.WrittenOut.parseWithin_tokens {e : Expr} (h : e.WrittenOut) (limit : Nat) :
    parseWithin limit e.tokens.toArray = .tree e ∨
      (parseWithin limit e.tokens.toArray = .tooDeep ∧ limit < e.nesting + 3) := by
  have hahead : Ahead e.tokens.toArray 0 (e.tokens ++ []) := by simp [Ahead]
  exact parseWithin_of_atom h.derives (h.reaches hahead) limit

-- The limit is met by a power of two numbers, which nests eight levels deep.
example : parseWithin 10 #[.parenOpen, .integer 1, .caret, .integer 2, .parenClose] = .tooDeep := by
  cbv

/-- A tree reads back from its text.  The text has tokens, and whatever the limit on how deep rules
may nest, they come to the tree or are given up; they are not given up if the limit is three levels
above the depth of the tree. -/
theorem Expr.render_reads_back {e : Expr} (h : e.WrittenOut) :
    ∃ ts, Token.tokenize e.render = .ok ts ∧
      (∀ limit, parseWithin limit ts.toArray = .tree e ∨
        parseWithin limit ts.toArray = .tooDeep) ∧
      (∀ limit, e.nesting + 3 ≤ limit → parseWithin limit ts.toArray = .tree e) ∧
      (e.nesting + 3 ≤ nestingLimit → parse ts.toArray = .tree e ∧
        parseText e.render = .ok (some e)) := by
  have hparse (limit : Nat) := h.parseWithin_tokens limit
  have htokens : Token.tokenize e.render = .ok e.tokens := by
    rw [e.render_eq_text, h.tokenize_text]
  have hdeep (limit : Nat) (hlimit : e.nesting + 3 ≤ limit) :
      parseWithin limit e.tokens.toArray = .tree e :=
    (hparse limit).resolve_right fun ⟨_, hlt⟩ => Nat.not_le.2 hlt hlimit
  refine
    ⟨e.tokens, htokens, fun limit => (hparse limit).imp_right And.left, hdeep, fun hlimit => ?_⟩
  have htree : parse e.tokens.toArray = .tree e := hdeep nestingLimit hlimit
  exact ⟨htree, by rw [parseText_of_tokenize htokens, htree]; rfl⟩

/-- Euros squared with a minus sign, times inches by an area less a number. -/
theorem Expr.product_of_measures_reads_back :
    let e : Expr := .binary .multiply
      (.negate (.binary .power (.leaf ⟨.whole 10, some (.currency "EUR")⟩)
        (.leaf ⟨.whole 2, none⟩)))
      (.binary .divide (.leaf ⟨.whole 3, some (.fixed .inch)⟩)
        (.binary .subtract (.leaf ⟨.whole 7, some (.fixed .squareMetre)⟩)
          (.leaf ⟨.whole 1500, none⟩)))
    e.WrittenOut ∧ e.nesting + 3 ≤ nestingLimit ∧
      e.render = "((-(10EUR^2))*(3\"/(7m2-1500)))" ∧ parseText e.render = .ok (some e) := by
  intro e
  have heuro : (Measure.currency "EUR").Known := by simp [Measure.Known, Currency.codes]
  have hwritten : e.WrittenOut :=
    ⟨nofun, ⟨nofun, .of (by decide) (by decide) fun _ h => Option.some.inj h ▸ heuro,
      .of (by decide) (by decide) nofun⟩,
      nofun, .of (by decide) (by decide) fun _ h => Option.some.inj h ▸ trivial,
      nofun, .of (by decide) (by decide) fun _ h => Option.some.inj h ▸ trivial,
      .of (by decide) (by decide) nofun⟩
  have hdepth : e.nesting + 3 ≤ nestingLimit := by decide
  obtain ⟨ts, -, -, -, hread⟩ := render_reads_back hwritten
  exact ⟨hwritten, hdepth, by decide +kernel, (hread hdepth).2⟩

end Reckoner
