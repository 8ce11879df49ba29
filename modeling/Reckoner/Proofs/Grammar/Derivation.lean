import Reckoner.Proofs.Grammar.Memo

/-!
# Derivations

The grammar as it is written down, without an order among the alternatives: `Derives rule ts e` says
that the tokens `ts` are a match of the rule with the tree `e`.  Each constructor is one
alternative.

The longest match of a rule has a derivation from the tokens that it takes
(`derives_of_longest`).
-/

namespace Reckoner.Grammar

/-! ## The grammar -/

/-- The signs of a sum. -/
inductive SumSign : Token → Operator → Prop where
  | plus : SumSign .plus .add
  | minus : SumSign .minus .subtract

/-- The signs of a product. -/
inductive ProductSign : Token → Operator → Prop where
  | star : ProductSign .star .multiply
  | slash : ProductSign .slash .divide

/-- The tokens that stand for numbers. -/
inductive NumberToken : Token → Number → Prop where
  | integer (n : Int) : NumberToken (.integer n) (.whole n)
  | float (x : Float) : NumberToken (.float x) (.float x)

/-- The tokens that stand for units.  A currency has to be a known one. -/
inductive UnitToken : Token → Measure → Prop where
  | fixed (u : FixedUnit) : UnitToken (.unit u) (.fixed u)
  | currency {code known : String} (h : Currency.find? code = some known) :
    UnitToken (.currency code) (.currency known)

/-- The tokens are derived from the rule, with the tree. -/
inductive Derives : Rule → List Token → Expr → Prop where
  | sum {ts ts' : List Token} {l r : Expr} {sign : Token} {op : Operator} :
    Derives .expression ts l → SumSign sign op → Derives .term ts' r →
    Derives .expression (ts ++ sign :: ts') (.binary op l r)
  | negation {ts : List Token} {e : Expr} :
    Derives .term ts e → Derives .expression (.minus :: ts) (.negate e)
  | ofTerm {ts : List Token} {e : Expr} :
    Derives .term ts e → Derives .expression ts e
  | product {ts ts' : List Token} {l r : Expr} {sign : Token} {op : Operator} :
    Derives .term ts l → ProductSign sign op → Derives .exponent ts' r →
    Derives .term (ts ++ sign :: ts') (.binary op l r)
  | conversion {ts : List Token} {e : Expr} {t : Token} {u : Measure} :
    Derives .term ts e → UnitToken t u →
    Derives .term (ts ++ [.to, t]) (.binary .convert e (.leaf (.oneOf u)))
  | ofExponent {ts : List Token} {e : Expr} :
    Derives .exponent ts e → Derives .term ts e
  | power {ts ts' : List Token} {b e : Expr} :
    Derives .atom ts b → Derives .exponent ts' e →
    Derives .exponent (ts ++ .caret :: ts') (.binary .power b e)
  | ofAtom {ts : List Token} {e : Expr} :
    Derives .atom ts e → Derives .exponent ts e
  | parentheses {ts : List Token} {e : Expr} :
    Derives .expression ts e → Derives .atom (.parenOpen :: (ts ++ [.parenClose])) e
  | ofMerge {ts : List Token} {e : Expr} :
    Derives .merge ts e → Derives .atom ts e
  | quantity {t t' : Token} {x : Number} {u : Measure} :
    NumberToken t x → UnitToken t' u → Derives .atom [t, t'] (.leaf ⟨x, some u⟩)
  | number {t : Token} {x : Number} :
    NumberToken t x → Derives .atom [t] (.leaf ⟨x, none⟩)
  | unit {t : Token} {u : Measure} :
    UnitToken t u → Derives .atom [t] (.leaf (.oneOf u))
  /-- The new quantity measures what the first unit of the chain, its second token, measures. -/
  | merged {first second t t' : Token} {ts : List Token} {e : Expr} {x : Number} {u v : Measure} :
    Derives .merge (first :: second :: ts) e → UnitToken second u → NumberToken t x →
    UnitToken t' v → u.category = v.category →
    Derives .merge (first :: second :: ts ++ [t, t']) (.binary .add e (.leaf ⟨x, some v⟩))
  | single {t t' : Token} {x : Number} {u : Measure} :
    NumberToken t x → UnitToken t' u → Derives .merge [t, t'] (.leaf ⟨x, some u⟩)

/-! ## Terminals -/

theorem additive?_eq_some {t : Option Token} {op : Operator} :
    additive? t = some op ↔ ∃ sign, t = some sign ∧ SumSign sign op := by
  constructor
  · intro h
    unfold additive? at h
    split at h
    · cases h
      exact ⟨_, rfl, .plus⟩
    · cases h
      exact ⟨_, rfl, .minus⟩
    · cases h
  · rintro ⟨sign, rfl, hsign⟩
    cases hsign <;> rfl

theorem multiplicative?_eq_some {t : Option Token} {op : Operator} :
    multiplicative? t = some op ↔ ∃ sign, t = some sign ∧ ProductSign sign op := by
  constructor
  · intro h
    unfold multiplicative? at h
    split at h
    · cases h
      exact ⟨_, rfl, .star⟩
    · cases h
      exact ⟨_, rfl, .slash⟩
    · cases h
  · rintro ⟨sign, rfl, hsign⟩
    cases hsign <;> rfl

theorem number?_eq_some {t : Option Token} {x : Number} :
    number? t = some x ↔ ∃ token, t = some token ∧ NumberToken token x := by
  constructor
  · intro h
    unfold number? at h
    split at h
    · cases h
      exact ⟨_, rfl, .integer _⟩
    · cases h
      exact ⟨_, rfl, .float _⟩
    · cases h
  · rintro ⟨token, rfl, htoken⟩
    cases htoken <;> rfl

theorem unit?_eq_some {t : Option Token} {u : Measure} :
    unit? t = some u ↔ ∃ token, t = some token ∧ UnitToken token u := by
  constructor
  · intro h
    unfold unit? at h
    split at h
    · cases h
      exact ⟨_, rfl, .fixed _⟩
    · obtain ⟨known, hknown, rfl⟩ := Option.map_eq_some_iff.1 h
      exact ⟨_, rfl, .currency hknown⟩
    · cases h
  · rintro ⟨token, rfl, htoken⟩
    cases htoken with
    | fixed u => rfl
    | currency hknown => simp only [unit?, hknown, Option.map_some]

/-- The quantity at a position is a number token and a unit token. -/
theorem quantity?_eq_some_iff {tokens : Array Token} {pos : Nat} {q : Quantity} :
    quantity? tokens pos = some q ↔ ∃ t t' x u, tokens[pos]? = some t ∧ tokens[pos + 1]? = some t' ∧
      NumberToken t x ∧ UnitToken t' u ∧ q = ⟨x, some u⟩ := by
  rw [quantity?_eq_some]
  constructor
  · rintro ⟨x, u, hx, hu, rfl⟩
    obtain ⟨t, ht, hnum⟩ := number?_eq_some.1 hx
    obtain ⟨t', ht', hunit⟩ := unit?_eq_some.1 hu
    exact ⟨t, t', x, u, ht, ht', hnum, hunit, rfl⟩
  · rintro ⟨t, t', x, u, ht, ht', hnum, hunit, rfl⟩
    exact ⟨x, u, number?_eq_some.2 ⟨t, ht, hnum⟩, unit?_eq_some.2 ⟨t', ht', hunit⟩, rfl⟩

/-- A merge starts with a number and a unit, which is the leading unit of its tree. -/
theorem Derives.merge_start {rule : Rule} {ts : List Token} {e : Expr} (h : Derives rule ts e)
    (hrule : rule = .merge) : ∃ first second rest x u, ts = first :: second :: rest ∧
      NumberToken first x ∧ UnitToken second u ∧ leadingUnit? e = some u := by
  induction h with
  | merged _ _ _ _ _ ih =>
    obtain ⟨first, second, rest, x, u, hts, hx, hu, hlead⟩ := ih rfl
    injection hts with hfirst hts
    injection hts with hsecond _
    subst hfirst hsecond
    exact ⟨_, _, _, x, u, rfl, hx, hu, hlead⟩
  | single hx hu => exact ⟨_, _, [], _, _, rfl, hx, hu, rfl⟩
  | _ => cases hrule

theorem NumberToken.ne_parenOpen {t : Token} {x : Number} (h : NumberToken t x) :
    some t ≠ some .parenOpen := by
  cases h <;> simp

theorem UnitToken.ne_parenOpen {t : Token} {u : Measure} (h : UnitToken t u) :
    some t ≠ some .parenOpen := by
  cases h <;> simp

theorem UnitToken.number?_eq_none {t : Token} {u : Measure} (h : UnitToken t u) :
    number? (some t) = none := by
  cases h <;> rfl

theorem UnitToken.unique {t : Token} {u v : Measure} (h : UnitToken t u) (h' : UnitToken t v) :
    u = v := by
  cases h with
  | fixed u => cases h'; rfl
  | currency hknown =>
    cases h' with
    | currency hknown' => rw [Option.some.inj (hknown.symm.trans hknown')]

/-! ## Tokens between positions -/

/-- The tokens from one position to another. -/
def between (tokens : Array Token) (pos stop : Nat) : List Token :=
  (tokens.toList.drop pos).take (stop - pos)

section
variable {tokens : Array Token} {pos mid stop : Nat}

theorem between_append (h : pos ≤ mid) (h' : mid ≤ stop) :
    between tokens pos stop = between tokens pos mid ++ between tokens mid stop := by
  have hsplit : stop - pos = (mid - pos) + (stop - mid) := by omega
  have hmid : pos + (mid - pos) = mid := by omega
  unfold between
  rw [hsplit, List.take_add, List.drop_drop, hmid]

theorem between_cons {t : Token} (ht : tokens[pos]? = some t) (h : pos < stop) :
    between tokens pos stop = t :: between tokens (pos + 1) stop := by
  have hdrop : tokens.toList.drop pos = t :: tokens.toList.drop (pos + 1) := by
    rw [← Array.getElem?_toList] at ht
    obtain ⟨hlt, rfl⟩ := List.getElem?_eq_some_iff.1 ht
    exact List.drop_eq_getElem_cons hlt
  have hsucc : stop - pos = (stop - (pos + 1)) + 1 := by omega
  unfold between
  rw [hdrop, hsucc, List.take_succ_cons]

theorem between_self : between tokens pos pos = [] := by
  unfold between
  rw [Nat.sub_self, List.take_zero]

theorem between_size : between tokens 0 tokens.size = tokens.toList := by
  unfold between
  rw [List.drop_zero, Nat.sub_zero, ← Array.length_toList, List.take_length]

end

/-! ## What is found has a derivation -/

/-- The match is derived from its rule. -/
structure Justified (tokens : Array Token) (rule : Rule) (pos : Nat) (found : Found) : Prop where
  within : found.Within tokens pos
  derives : Derives rule (between tokens pos found.stop) found.tree

section
variable {tokens : Array Token} {table : Rule → Nat → Option Found}

/-- An operand is derived from its rule, and its tokens come after the sign. -/
theorem operand?_derives (ht : ∀ r p f, table r p = some f → Justified tokens r p f)
    {op : Operator} {pos : Nat} {left found : Found} {rule : Rule} {sign : Token}
    (hsign : tokens[left.stop]? = some sign) (hpos : pos ≤ left.stop)
    (h : operand? table op left rule = some found) :
    ∃ r, found.tree = .binary op left.tree r ∧
      between tokens pos found.stop =
        between tokens pos left.stop ++ sign :: between tokens (left.stop + 1) found.stop ∧
      Derives rule (between tokens (left.stop + 1) found.stop) r := by
  obtain ⟨r, hr, rfl⟩ := Option.map_eq_some_iff.1 h
  have hj := ht _ _ _ hr
  have hlt : left.stop < r.stop := Nat.lt_trans (Nat.lt_succ_self _) hj.within.1
  refine ⟨r.tree, rfl, ?_, hj.derives⟩
  rw [between_append hpos (Nat.le_of_lt hlt), between_cons hsign hlt]

theorem between_two {pos : Nat} {t t' : Token} (ht : tokens[pos]? = some t)
    (ht' : tokens[pos + 1]? = some t') : between tokens pos (pos + 2) = [t, t'] := by
  rw [between_cons ht (by omega), between_cons ht' (by omega), between_self]

theorem leaf?_derives {pos : Nat} {found : Found} (h : leaf? tokens pos = some found) :
    Derives .atom (between tokens pos found.stop) found.tree := by
  unfold leaf? at h
  split at h
  · next q hq =>
    cases h
    obtain ⟨t, t', x, u, ht, ht', hx, hu, rfl⟩ := quantity?_eq_some_iff.1 hq
    rw [between_two ht ht']
    exact .quantity hx hu
  · split at h
    · next x hx =>
      cases h
      obtain ⟨t, ht, hnum⟩ := number?_eq_some.1 hx
      rw [between_cons ht (Nat.lt_succ_self pos), between_self]
      exact .number hnum
    · obtain ⟨u, hu, rfl⟩ := Option.map_eq_some_iff.1 h
      obtain ⟨t, ht, hunit⟩ := unit?_eq_some.1 hu
      rw [between_cons ht (Nat.lt_succ_self pos), between_self]
      exact .unit hunit

/-- A quantity continues a chain only if it measures what the first one does. -/
theorem category_eq_of_continues {chain : Expr} {x : Number} {u v : Measure}
    (hlead : leadingUnit? chain = some u) (h : continues chain ⟨x, some v⟩ = true) :
    u.category = v.category := by
  simp only [continues, hlead, Measure.commonCategory?] at h
  split at h
  · assumption
  · cases h

/-- An opening is derived from its rule. -/
theorem opening?_derives (ht : ∀ r p f, table r p = some f → Justified tokens r p f)
    {rule : Rule} {pos : Nat} {found : Found} (h : opening? tokens table rule pos = some found) :
    Derives rule (between tokens pos found.stop) found.tree := by
  cases rule with
  | expression =>
    rcases Option.or_eq_some_iff.1 h with hn | ⟨_, hterm⟩
    · unfold negation? at hn
      split at hn
      · next hminus =>
        obtain ⟨r, hr, rfl⟩ := Option.map_eq_some_iff.1 hn
        have hj := ht _ _ _ hr
        rw [between_cons hminus (Nat.lt_trans (Nat.lt_succ_self _) hj.within.1)]
        exact .negation hj.derives
      · cases hn
    · exact .ofTerm (ht _ _ _ hterm).derives
  | term => exact .ofExponent (ht _ _ _ h).derives
  | exponent =>
    obtain ⟨base, hbase, hpower⟩ := Option.bind_eq_some_iff.1 h
    have hj := ht _ _ _ hbase
    unfold powerOf at hpower
    split at hpower
    · next hcaret =>
      rcases Option.or_eq_some_iff.1 hpower with hoperand | ⟨_, hnone⟩
      · obtain ⟨r, htree, htokens, hr⟩ :=
          operand?_derives ht hcaret (Nat.le_of_lt hj.within.1) hoperand
        rw [htree, htokens]
        exact .power hj.derives hr
      · cases hnone
        exact .ofAtom hj.derives
    · cases hpower
      exact .ofAtom hj.derives
  | atom =>
    rcases Option.or_eq_some_iff.1 h with hparen | ⟨_, hrest⟩
    · unfold parenthesis? at hparen
      split at hparen
      · next hopen =>
        obtain ⟨inner, hinner, hclosed⟩ := Option.bind_eq_some_iff.1 hparen
        split at hclosed
        · next hclose =>
          cases hclosed
          have hj := ht _ _ _ hinner
          have hlt := hj.within.1
          rw [between_cons hopen (by simp only; omega),
            between_append (Nat.le_of_lt hlt) (Nat.le_succ inner.stop),
            between_cons hclose (Nat.lt_succ_self _), between_self]
          exact .parentheses hj.derives
        · cases hclosed
      · cases hparen
    · rcases Option.or_eq_some_iff.1 hrest with hmerge | ⟨_, hleaf⟩
      · exact .ofMerge (ht _ _ _ hmerge).derives
      · exact leaf?_derives hleaf
  | merge =>
    obtain ⟨q, hq, rfl⟩ := Option.map_eq_some_iff.1 h
    obtain ⟨t, t', x, u, ht, ht', hx, hu, rfl⟩ := quantity?_eq_some_iff.1 hq
    rw [between_two ht ht']
    exact .single hx hu

/-- A continuation of a match that is derived is derived. -/
theorem continuation?_derives (ht : ∀ r p f, table r p = some f → Justified tokens r p f)
    {rule : Rule} {pos : Nat} {left found : Found} (hleft : Justified tokens rule pos left)
    (h : continuation? tokens table rule left = some found) :
    Derives rule (between tokens pos found.stop) found.tree := by
  have hpos := Nat.le_of_lt hleft.within.1
  cases rule with
  | expression =>
    obtain ⟨op, hop, hoperand⟩ := Option.bind_eq_some_iff.1 h
    obtain ⟨sign, hat, hsign⟩ := additive?_eq_some.1 hop
    obtain ⟨r, htree, htokens, hr⟩ := operand?_derives ht hat hpos hoperand
    rw [htree, htokens]
    exact .sum hleft.derives hsign hr
  | term =>
    simp only [continuation?] at h
    split at h
    · next op hop =>
      obtain ⟨sign, hat, hsign⟩ := multiplicative?_eq_some.1 hop
      obtain ⟨r, htree, htokens, hr⟩ := operand?_derives ht hat hpos h
      rw [htree, htokens]
      exact .product hleft.derives hsign hr
    · split at h
      · next hto =>
        obtain ⟨u, hu, rfl⟩ := Option.map_eq_some_iff.1 h
        obtain ⟨t, hat, hunit⟩ := unit?_eq_some.1 hu
        rw [between_append hpos (Nat.le_add_right left.stop 2), between_two hto hat]
        exact .conversion hleft.derives hunit
      · cases h
  | merge =>
    simp only [continuation?, extended?] at h
    split at h
    · next q hq =>
      split at h
      · next hcontinues =>
        cases h
        obtain ⟨t, t', x, v, hat, hat', hx, hv, rfl⟩ := quantity?_eq_some_iff.1 hq
        have hchain := hleft.derives
        obtain ⟨first, second, rest, _, u, hts, _, hu, hlead⟩ := hchain.merge_start rfl
        rw [hts] at hchain
        rw [between_append hpos (Nat.le_add_right left.stop 2), between_two hat hat', hts]
        exact .merged hchain hu hx hv (category_eq_of_continues hlead hcontinues)
      · cases h
    · cases h
  | exponent => cases h
  | atom => cases h

/-- The longest match of a rule is derived from it. -/
theorem derives_of_longest {rule : Rule} {pos : Nat} {found : Found}
    (h : longest tokens rule pos = some found) :
    Derives rule (between tokens pos found.stop) found.tree := by
  refine (longest_induct (motive := Justified tokens) ?_ ?_ rule pos found h).derives
  · intro table ht rule pos found hopening
    exact ⟨opening?_within (fun r p f hf => (ht r p f hf).within) hopening,
      opening?_derives ht hopening⟩
  · intro table ht rule pos left next hleft hnext
    have hw := continuation?_within (fun r p f hf => (ht r p f hf).within) hnext
    exact ⟨hw.mono (Nat.le_of_lt hleft.within.1), continuation?_derives ht hleft hnext⟩

end

end Reckoner.Grammar
