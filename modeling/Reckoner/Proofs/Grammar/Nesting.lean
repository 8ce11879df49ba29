import Reckoner.Proofs.Grammar.Completeness

/-!
# How deep derivations nest

How deep the calls of a rule go, read off a derivation of the tokens ahead.  For every rule it is
one more than for the rules of its parts: a sign takes no level of its own, since both of its
operands are called from the same rule, and only the exponent of a power is called from where its
base was.

A rule calls an operand for every match that it has noted.  The lemmas are about one operator; then
the opening is the left operand, and the only match continued from there is the whole
(`Grown.eq_of_pair`).
-/

namespace Reckoner.Grammar

variable {tokens : Array Token} {pos depth : Nat} {ts ts' rest : List Token} {e l r : Expr}

/-! ## What is found ahead -/

theorem Ahead.loose {n : Nat} (h : Ahead tokens pos (ts ++ rest))
    (hrest : n < followLooseness rest.head?) : n < followLooseness tokens[pos + ts.length]? := by
  rw [h.append.head?]
  exact hrest

/-- A derivation is found, if the token that follows is bound more loosely than the rule. -/
theorem longest_of_loose {rule : Rule} (h : Derives rule ts e)
    (hahead : Ahead tokens pos (ts ++ rest)) (hrest : rule.looseness < followLooseness rest.head?) :
    longest tokens rule pos = some ⟨e, pos + ts.length⟩ :=
  (longest_of_derives h hahead (Nat.le_of_lt hrest)).longest_eq
    (continuation?_eq_none (hahead.loose hrest))

theorem ne_minus_of_term (h : Derives .term ts e) (hahead : Ahead tokens pos (ts ++ rest)) :
    tokens[pos]? ≠ some .minus := by
  rw [hahead.head?]
  exact h.head_ne_minus (by decide) rest

/-- An expression opens with its first term. -/
theorem opening?_of_term (h : Derives .term ts e) (hahead : Ahead tokens pos (ts ++ rest))
    (hrest : 3 < followLooseness rest.head?) :
    opening? tokens (longest tokens) .expression pos = some ⟨e, pos + ts.length⟩ := by
  simp only [opening?, negation?, if_neg (ne_minus_of_term h hahead), Option.none_or]
  exact longest_of_loose h hahead hrest

theorem negation?_of_term (h : Derives .term ts e)
    (hahead : Ahead tokens pos (.minus :: (ts ++ rest))) (hrest : 3 < followLooseness rest.head?) :
    negation? tokens (longest tokens) pos = some ⟨.negate e, pos + 1 + ts.length⟩ := by
  have hminus : tokens[pos]? = some .minus := hahead.head?
  simp only [negation?, if_pos hminus, longest_of_loose h hahead.tail hrest, Option.map_some]

/-! ## Rules without an operator -/

theorem reaches_merge : Reaches tokens 2 .merge pos :=
  fun _ => ⟨fun _ => Nat.zero_lt_one, fun _ _ h => by cases h⟩

/-- An atom that is no expression in parentheses takes a level for itself, one for the chain of
quantities that it may be, and one for this chain's call of itself. -/
theorem reaches_atom_of_ne (h : tokens[pos]? ≠ some .parenOpen) : Reaches tokens 3 .atom pos := by
  intro _
  refine ⟨nofun, fun r p hcall => ?_⟩
  cases hcall with
  | parentheses hopen => exact absurd hopen h
  | ofMerge => exact reaches_merge

/-- An atom in parentheses takes one level more than the expression in them. -/
theorem Reaches.parentheses (h : Reaches tokens depth .expression (pos + 1)) (hdepth : 2 ≤ depth) :
    Reaches tokens (depth + 1) .atom pos := by
  intro _
  refine ⟨nofun, fun r p hcall => ?_⟩
  cases hcall with
  | parentheses _ => exact h
  | ofMerge => exact reaches_merge.mono hdepth

/-- An exponent without a caret takes one level more than its atom. -/
theorem Reaches.ofAtom (h : Reaches tokens depth .atom pos) (he : Derives .atom ts e)
    (hahead : Ahead tokens pos (ts ++ rest)) (hrest : 1 < followLooseness rest.head?) :
    Reaches tokens (depth + 1) .exponent pos := by
  intro _
  refine ⟨nofun, fun r p hcall => ?_⟩
  cases hcall with
  | power hbase hcaret =>
    cases (longest_of_loose he hahead hrest).symm.trans hbase
    exact absurd hcaret (ne_of_followLooseness (hahead.loose hrest))
  | ofAtom => exact h

/-- A term without a sign takes one level more than its exponent. -/
theorem Reaches.ofExponent (h : Reaches tokens depth .exponent pos) (he : Derives .exponent ts e)
    (hahead : Ahead tokens pos (ts ++ rest)) (hrest : 3 < followLooseness rest.head?) :
    Reaches tokens (depth + 1) .term pos := by
  intro _
  refine ⟨fun _ => h.depth_pos, fun r p hcall => ?_⟩
  have hnext := hahead.loose hrest
  cases hcall with
  | product hleft hsign =>
    have hfirst : opening? tokens (longest tokens) .term pos = some ⟨e, pos + ts.length⟩ :=
      longest_of_loose he hahead (Nat.lt_of_succ_lt hrest)
    cases hleft.eq_of_alone hfirst (continuation?_eq_none hnext)
    exact absurd (multiplicative?_eq_none hnext) hsign
  | ofExponent => exact h

/-- An expression without a sign takes one level more than its term. -/
theorem Reaches.ofTerm (h : Reaches tokens depth .term pos) (he : Derives .term ts e)
    (hahead : Ahead tokens pos (ts ++ rest)) (hrest : 4 < followLooseness rest.head?) :
    Reaches tokens (depth + 1) .expression pos := by
  intro _
  refine ⟨fun _ => h.depth_pos, fun r p hcall => ?_⟩
  have hnext := hahead.loose hrest
  cases hcall with
  | sum hleft hsign =>
    have hfirst := opening?_of_term he hahead (Nat.lt_of_succ_lt hrest)
    cases hleft.eq_of_alone hfirst (continuation?_eq_none hnext)
    exact absurd (additive?_eq_none hnext) hsign
  | negation hminus => exact absurd hminus (ne_minus_of_term he hahead)
  | ofTerm _ => exact h

/-! ## Rules with an operator -/

/-- A negation takes one level more than its operand. -/
theorem Reaches.negation (h : Reaches tokens depth .term (pos + 1)) (he : Derives .term ts e)
    (hahead : Ahead tokens pos (.minus :: (ts ++ rest))) (hrest : 4 < followLooseness rest.head?) :
    Reaches tokens (depth + 1) .expression pos := by
  intro _
  refine ⟨fun _ => h.depth_pos, fun r p hcall => ?_⟩
  have hopen := negation?_of_term he hahead (Nat.lt_of_succ_lt hrest)
  have hnext := hahead.tail.loose hrest
  cases hcall with
  | sum hleft hsign =>
    have hfirst : opening? tokens (longest tokens) .expression pos = _ :=
      Option.or_eq_some_iff.2 (.inl hopen)
    cases hleft.eq_of_alone hfirst (continuation?_eq_none hnext)
    exact absurd (additive?_eq_none hnext) hsign
  | negation _ => exact h
  | ofTerm hnone =>
    rw [hopen] at hnone
    cases hnone

/-- A sum takes one level more than its operands. -/
theorem Reaches.sum {sign : Token} {op : Operator} (hl : Reaches tokens depth .term pos)
    (hr : Reaches tokens depth .term (pos + ts.length + 1)) (hleft : Derives .term ts l)
    (hsign : SumSign sign op) (hright : Derives .term ts' r)
    (hahead : Ahead tokens pos (ts ++ sign :: (ts' ++ rest)))
    (hrest : 4 < followLooseness rest.head?) : Reaches tokens (depth + 1) .expression pos := by
  intro _
  refine ⟨fun _ => hl.depth_pos, fun r' p hcall => ?_⟩
  have hat : Ahead tokens (pos + ts.length) (sign :: (ts' ++ rest)) := hahead.append
  have hloose : 3 < followLooseness (some sign) := by
    rw [hsign.followLooseness]
    exact Nat.lt_succ_self 3
  have hnext := hat.tail.loose hrest
  cases hcall with
  | sum hgrown hop =>
    have hfirst := opening?_of_term hleft hahead hloose
    have hwhole : continuation? tokens (longest tokens) .expression ⟨l, pos + ts.length⟩ =
        some ⟨.binary op l r, pos + ts.length + 1 + ts'.length⟩ := by
      simp only [continuation?, additive?_eq_some.2 ⟨sign, hat.head?, hsign⟩, Option.bind_some,
        operand?, longest_of_loose hright hat.tail (Nat.lt_of_succ_lt hrest), Option.map_some]
    rcases hgrown.eq_of_pair hfirst hwhole (continuation?_eq_none hnext) with rfl | rfl
    · exact hr
    · exact absurd (additive?_eq_none hnext) hop
  | negation hminus => exact absurd hminus (ne_minus_of_term hleft hahead)
  | ofTerm _ => exact hl

/-- A product takes one level more than its operands. -/
theorem Reaches.product {sign : Token} {op : Operator} (hl : Reaches tokens depth .exponent pos)
    (hr : Reaches tokens depth .exponent (pos + ts.length + 1)) (hleft : Derives .exponent ts l)
    (hsign : ProductSign sign op) (hright : Derives .exponent ts' r)
    (hahead : Ahead tokens pos (ts ++ sign :: (ts' ++ rest)))
    (hrest : 3 < followLooseness rest.head?) : Reaches tokens (depth + 1) .term pos := by
  intro _
  refine ⟨fun _ => hl.depth_pos, fun r' p hcall => ?_⟩
  have hat : Ahead tokens (pos + ts.length) (sign :: (ts' ++ rest)) := hahead.append
  have hloose : 2 < followLooseness (some sign) := by
    rw [hsign.followLooseness]
    exact Nat.lt_succ_self 2
  have hnext := hat.tail.loose hrest
  cases hcall with
  | product hgrown hop =>
    have hfirst : opening? tokens (longest tokens) .term pos = _ :=
      longest_of_loose hleft hahead hloose
    have hwhole : continuation? tokens (longest tokens) .term ⟨l, pos + ts.length⟩ =
        some ⟨.binary op l r, pos + ts.length + 1 + ts'.length⟩ := by
      simp only [continuation?, multiplicative?_eq_some.2 ⟨sign, hat.head?, hsign⟩, operand?,
        longest_of_loose hright hat.tail (Nat.lt_of_succ_lt hrest), Option.map_some]
    rcases hgrown.eq_of_pair hfirst hwhole (continuation?_eq_none hnext) with rfl | rfl
    · exact hr
    · exact absurd (multiplicative?_eq_none hnext) hop
  | ofExponent => exact hl

/-- A power takes one level more than its base and its exponent. -/
theorem Reaches.power (hl : Reaches tokens depth .atom pos)
    (hr : Reaches tokens depth .exponent (pos + ts.length + 1)) (hbase : Derives .atom ts l)
    (hahead : Ahead tokens pos (ts ++ .caret :: rest)) :
    Reaches tokens (depth + 1) .exponent pos := by
  intro _
  refine ⟨nofun, fun r' p hcall => ?_⟩
  cases hcall with
  | power hfound _ =>
    cases ((longest_of_derives hbase hahead (Nat.le_refl 1)).longest_eq rfl).symm.trans hfound
    exact hr
  | ofAtom => exact hl

/-! ## Atoms in parentheses

An operator in parentheses takes four levels more than its operands, if these are atoms: for the
atom, the expression, the term and the exponent.  What is raised to is called as an exponent. -/

theorem lt_followLooseness_parenClose {n : Nat} (h : n < 5) (rest : List Token) :
    n < followLooseness (Token.parenClose :: rest).head? := h

/-- A term that is an atom takes two levels more than the atom. -/
theorem Reaches.termOfAtom (h : Reaches tokens depth .atom pos) (he : Derives .atom ts e)
    (hahead : Ahead tokens pos (ts ++ rest)) (hrest : 3 < followLooseness rest.head?) :
    Reaches tokens (depth + 2) .term pos :=
  (h.ofAtom he hahead (by omega)).ofExponent (.ofAtom he) hahead hrest

theorem Reaches.negated (h : Reaches tokens depth .atom (pos + 2)) (he : Derives .atom ts e)
    (hahead : Ahead tokens (pos + 1) (.minus :: (ts ++ .parenClose :: rest))) :
    Reaches tokens (depth + 4) .atom pos := by
  have hterm := h.termOfAtom he hahead.tail (lt_followLooseness_parenClose (by decide) rest)
  have hexpression := hterm.negation (.ofExponent (.ofAtom he)) hahead
    (lt_followLooseness_parenClose (by decide) rest)
  exact hexpression.parentheses (Nat.le_add_left 2 _)

theorem Reaches.added {sign : Token} {op : Operator} (hl : Reaches tokens depth .atom (pos + 1))
    (hr : Reaches tokens depth .atom (pos + 1 + ts.length + 1)) (hleft : Derives .atom ts l)
    (hsign : SumSign sign op) (hright : Derives .atom ts' r)
    (hahead : Ahead tokens (pos + 1) (ts ++ sign :: (ts' ++ .parenClose :: rest))) :
    Reaches tokens (depth + 4) .atom pos := by
  have hfirst := hl.termOfAtom hleft hahead
    (Nat.lt_of_lt_of_eq (by decide) hsign.followLooseness.symm)
  have hsecond := hr.termOfAtom hright hahead.append.tail
    (lt_followLooseness_parenClose (by decide) rest)
  have hexpression := hfirst.sum hsecond (.ofExponent (.ofAtom hleft)) hsign
    (.ofExponent (.ofAtom hright)) hahead (lt_followLooseness_parenClose (by decide) rest)
  exact hexpression.parentheses (Nat.le_add_left 2 _)

theorem Reaches.multiplied {sign : Token} {op : Operator}
    (hl : Reaches tokens depth .atom (pos + 1))
    (hr : Reaches tokens depth .atom (pos + 1 + ts.length + 1)) (hleft : Derives .atom ts l)
    (hsign : ProductSign sign op) (hright : Derives .atom ts' r)
    (hahead : Ahead tokens (pos + 1) (ts ++ sign :: (ts' ++ .parenClose :: rest))) :
    Reaches tokens (depth + 4) .atom pos := by
  have hfirst := hl.ofAtom hleft hahead
    (Nat.lt_of_lt_of_eq (by decide) hsign.followLooseness.symm)
  have hsecond := hr.ofAtom hright hahead.append.tail
    (lt_followLooseness_parenClose (by decide) rest)
  have hterm := hfirst.product hsecond (.ofAtom hleft) hsign (.ofAtom hright) hahead
    (lt_followLooseness_parenClose (by decide) rest)
  have hderives : Derives .term (ts ++ sign :: ts') (.binary op l r) :=
    .product (.ofExponent (.ofAtom hleft)) hsign (.ofAtom hright)
  rw [← List.cons_append, ← List.append_assoc] at hahead
  have hexpression := hterm.ofTerm hderives hahead (lt_followLooseness_parenClose (by decide) rest)
  exact hexpression.parentheses (Nat.le_add_left 2 _)

theorem Reaches.raised (hl : Reaches tokens depth .atom (pos + 1))
    (hr : Reaches tokens depth .exponent (pos + 1 + ts.length + 1)) (hbase : Derives .atom ts l)
    (hexponent : Derives .exponent ts' r)
    (hahead : Ahead tokens (pos + 1) (ts ++ .caret :: (ts' ++ .parenClose :: rest))) :
    Reaches tokens (depth + 4) .atom pos := by
  have hpower := hl.power hr hbase hahead
  have hderives : Derives .exponent (ts ++ .caret :: ts') (.binary .power l r) :=
    .power hbase hexponent
  rw [← List.cons_append, ← List.append_assoc] at hahead
  have hterm := hpower.ofExponent hderives hahead (lt_followLooseness_parenClose (by decide) rest)
  have hexpression := hterm.ofTerm (.ofExponent hderives) hahead
    (lt_followLooseness_parenClose (by decide) rest)
  exact hexpression.parentheses (Nat.le_add_left 2 _)

/-! ## Whole texts -/

/-- Tokens that are an atom are parsed to its tree, unless the limit is less than three levels above
the depth of the atom. -/
theorem parseWithin_of_atom (h : Derives .atom ts e) (hreaches : Reaches ts.toArray depth .atom 0)
    (limit : Nat) :
    parseWithin limit ts.toArray = .tree e ∨
      (parseWithin limit ts.toArray = .tooDeep ∧ limit < depth + 3) := by
  have hterm : Derives .term ts e := .ofExponent (.ofAtom h)
  rcases parseWithin_eq_or limit ts.toArray with ⟨hdeep, hnot⟩ | heq
  · refine .inr ⟨hdeep, Nat.lt_of_not_le fun hle => hnot (Reaches.mono ?_ hle)⟩
    have hahead : Ahead ts.toArray 0 (ts ++ []) := by simp [Ahead]
    have hdepth := hreaches.termOfAtom h hahead (show 3 < 5 by decide)
    exact hdepth.ofTerm hterm hahead (Nat.lt_succ_self 4)
  · refine .inl (heq.trans (derives_iff_outcomeOf.1 ?_))
    rw [List.toList_toArray]
    exact .ofTerm hterm

end Reckoner.Grammar
