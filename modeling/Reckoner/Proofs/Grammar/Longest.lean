import Reckoner.Grammar.Packrat

/-!
# Longest matches

What the rules of the grammar match, said without a memo.  A rule has an *opening*, one of its
alternatives that do not start with the rule itself, and a match is *continued* by the alternative
that does.  The result of a rule is its opening, continued for as long as that works.  So an
expression is a term, or a term after a minus sign, followed by the longest run of signs with terms,
joined from the left.

Every rule calls only rules of a lower *level*: at a later position, or at the same position a rule
that binds tighter.  This is why the recursion ends, and it is the order that the memo is filled in.

Matches are never empty and stay within the tokens (`longest_bounds`).  `longest_eq` is the equation
to reason with.
-/

namespace Reckoner.Grammar

/-! ## Levels -/

/-- How loosely a rule binds. -/
def Rule.looseness : Rule → Nat
  | .merge => 0
  | .atom => 1
  | .exponent => 2
  | .term => 3
  | .expression => 4

/-- The level of a rule at a position.  Calls go to lower levels. -/
def level (tokens : Array Token) (rule : Rule) (pos : Nat) : Nat :=
  5 * (tokens.size - pos) + rule.looseness

theorem Rule.looseness_lt (rule : Rule) : rule.looseness < 5 := by
  cases rule <;> decide

theorem level_lt_of_lt {tokens : Array Token} {pos later : Nat} (r r' : Rule)
    (hlt : pos < later) (hpos : pos < tokens.size) :
    level tokens r' later < level tokens r pos := by
  have h := r'.looseness_lt
  unfold level
  omega

theorem level_lt_of_tighter {tokens : Array Token} {r r' : Rule} (pos : Nat)
    (h : r'.looseness < r.looseness) : level tokens r' pos < level tokens r pos := by
  unfold level
  omega

/-! ## Openings and continuations -/

section
variable (tokens : Array Token) (table : Rule → Nat → Option Found)

/-- The operand after an operator, joined to the operand before it. -/
def operand? (op : Operator) (left : Found) (rule : Rule) : Option Found :=
  (table rule (left.stop + 1)).map fun r => ⟨.binary op left.tree r.tree, r.stop⟩

/-- A term after a minus sign. -/
def negation? (pos : Nat) : Option Found :=
  if tokens[pos]? = some .minus then
    (table .term (pos + 1)).map fun r => ⟨.negate r.tree, r.stop⟩
  else none

/-- An expression in parentheses. -/
def parenthesis? (pos : Nat) : Option Found :=
  if tokens[pos]? = some .parenOpen then
    (table .expression (pos + 1)).bind fun inner =>
      if tokens[inner.stop]? = some .parenClose then some ⟨inner.tree, inner.stop + 1⟩ else none
  else none

/-- An atom with the exponent after its caret; without one the atom alone. -/
def powerOf (base : Found) : Option Found :=
  if tokens[base.stop]? = some .caret then
    (operand? table .power base .exponent).or (some base)
  else some base

/-- A match of a rule by an alternative that does not start with the rule itself. -/
def opening? : Rule → Nat → Option Found
  | .expression, pos => (negation? tokens table pos).or (table .term pos)
  | .term, pos => table .exponent pos
  | .exponent, pos => (table .atom pos).bind (powerOf tokens table)
  | .atom, pos => (parenthesis? tokens table pos).or ((table .merge pos).or (leaf? tokens pos))
  | .merge, pos => (quantity? tokens pos).map fun q => ⟨.leaf q, pos + 2⟩

/-- A match of a rule made longer by the alternative that starts with the rule itself. -/
def continuation? : Rule → Found → Option Found
  | .expression, left =>
    (additive? tokens[left.stop]?).bind fun op => operand? table op left .term
  | .term, left =>
    match multiplicative? tokens[left.stop]? with
    | some op => operand? table op left .exponent
    | none => if tokens[left.stop]? = some .to then conversion? tokens left else none
  | .merge, chain => extended? tokens chain
  | .exponent, _ | .atom, _ => none

end

/-- A match made longer for as long as that works.  A longer match ends further on, and within
`size` tokens. -/
def longestRun (size : Nat) (extend : Found → Option Found) (left : Found) : Found :=
  match extend left with
  | some next =>
    if left.stop < next.stop ∧ next.stop ≤ size then longestRun size extend next else left
  | none => left
termination_by size - left.stop

/-- The longest match of a rule at a position: its opening, continued for as long as that works. -/
def longest (tokens : Array Token) (rule : Rule) (pos : Nat) : Option Found :=
  if pos < tokens.size then
    let below (r : Rule) (p : Nat) : Option Found :=
      if level tokens r p < level tokens rule pos then longest tokens r p else none
    (opening? tokens below rule pos).map
      (longestRun tokens.size (continuation? tokens below rule))
  else none
termination_by level tokens rule pos

/-! ## Terminals -/

theorem getElem?_lt {tokens : Array Token} {pos : Nat} {t : Token} (h : tokens[pos]? = some t) :
    pos < tokens.size := by
  obtain ⟨hlt, _⟩ := Array.getElem?_eq_some_iff.1 h
  exact hlt

/-- A terminal that takes nothing from the end of the tokens matches only before it. -/
theorem lt_of_terminal {α : Type} {tokens : Array Token} {pos : Nat} {a : α}
    {terminal : Option Token → Option α} (hend : terminal none = none)
    (h : terminal tokens[pos]? = some a) : pos < tokens.size := by
  cases ht : tokens[pos]? with
  | none =>
    rw [ht, hend] at h
    cases h
  | some t => exact getElem?_lt ht

theorem unit?_lt {tokens : Array Token} {pos : Nat} {u : Measure}
    (h : unit? tokens[pos]? = some u) : pos < tokens.size :=
  lt_of_terminal rfl h

theorem number?_lt {tokens : Array Token} {pos : Nat} {x : Number}
    (h : number? tokens[pos]? = some x) : pos < tokens.size :=
  lt_of_terminal rfl h

theorem quantity?_eq_some {tokens : Array Token} {pos : Nat} {q : Quantity} :
    quantity? tokens pos = some q ↔
      ∃ x u, number? tokens[pos]? = some x ∧ unit? tokens[pos + 1]? = some u ∧ q = ⟨x, some u⟩ := by
  simp only [quantity?, bind, Option.bind_eq_some_iff, Option.some.injEq]
  constructor
  · rintro ⟨x, hx, u, hu, rfl⟩
    exact ⟨x, u, hx, hu, rfl⟩
  · rintro ⟨x, u, hx, hu, rfl⟩
    exact ⟨x, hx, u, hu, rfl⟩

theorem quantity?_lt {tokens : Array Token} {pos : Nat} {q : Quantity}
    (h : quantity? tokens pos = some q) : pos + 1 < tokens.size := by
  obtain ⟨_, _, _, hu, _⟩ := quantity?_eq_some.1 h
  exact unit?_lt hu

/-! ## Bounds -/

/-- The match has at least one token and ends within the tokens. -/
def Found.Within (tokens : Array Token) (pos : Nat) (found : Found) : Prop :=
  pos < found.stop ∧ found.stop ≤ tokens.size

theorem Found.Within.mono {tokens : Array Token} {pos pos' : Nat} {found : Found}
    (h : found.Within tokens pos) (hle : pos' ≤ pos) : found.Within tokens pos' :=
  ⟨Nat.lt_of_le_of_lt hle h.1, h.2⟩

/-- All matches of a table lie within the tokens. -/
def Proper (tokens : Array Token) (table : Rule → Nat → Option Found) : Prop :=
  ∀ rule pos found, table rule pos = some found → found.Within tokens pos

section
variable {tokens : Array Token} {table : Rule → Nat → Option Found}

theorem operand?_within (ht : Proper tokens table) {op : Operator} {left found : Found}
    {rule : Rule} (h : operand? table op left rule = some found) :
    found.Within tokens left.stop := by
  obtain ⟨r, hr, rfl⟩ := Option.map_eq_some_iff.1 h
  have hw := ht _ _ _ hr
  exact ⟨Nat.lt_trans (Nat.lt_succ_self _) hw.1, hw.2⟩

theorem negation?_within (ht : Proper tokens table) {pos : Nat} {found : Found}
    (h : negation? tokens table pos = some found) : found.Within tokens pos := by
  unfold negation? at h
  split at h
  · obtain ⟨r, hr, rfl⟩ := Option.map_eq_some_iff.1 h
    exact (ht _ _ _ hr).mono (Nat.le_succ pos)
  · cases h

theorem parenthesis?_within (ht : Proper tokens table) {pos : Nat} {found : Found}
    (h : parenthesis? tokens table pos = some found) : found.Within tokens pos := by
  unfold parenthesis? at h
  split at h
  · obtain ⟨inner, hi, hclose⟩ := Option.bind_eq_some_iff.1 h
    split at hclose
    · next hstop =>
      cases hclose
      have hw := ht _ _ _ hi
      have hlt := getElem?_lt hstop
      exact ⟨by have := hw.1; simp only; omega, hlt⟩
    · cases hclose
  · cases h

theorem leaf?_within {pos : Nat} {found : Found} (h : leaf? tokens pos = some found) :
    found.Within tokens pos := by
  unfold leaf? at h
  split at h
  · next q hq =>
    cases h
    have hlt := quantity?_lt hq
    exact ⟨by simp only; omega, hlt⟩
  · split at h
    · next x hx =>
      cases h
      exact ⟨Nat.lt_succ_self pos, number?_lt hx⟩
    · obtain ⟨u, hu, rfl⟩ := Option.map_eq_some_iff.1 h
      exact ⟨Nat.lt_succ_self pos, unit?_lt hu⟩

theorem powerOf_within (ht : Proper tokens table) {pos : Nat} {base found : Found}
    (hbase : base.Within tokens pos) (h : powerOf tokens table base = some found) :
    found.Within tokens pos := by
  unfold powerOf at h
  split at h
  · rcases Option.or_eq_some_iff.1 h with hp | ⟨_, hb⟩
    · exact (operand?_within ht hp).mono (Nat.le_of_lt hbase.1)
    · cases hb
      exact hbase
  · cases h
    exact hbase

theorem opening?_within (ht : Proper tokens table) {rule : Rule} {pos : Nat} {found : Found}
    (h : opening? tokens table rule pos = some found) : found.Within tokens pos := by
  cases rule with
  | expression =>
    rcases Option.or_eq_some_iff.1 h with hn | ⟨_, hterm⟩
    · exact negation?_within ht hn
    · exact ht _ _ _ hterm
  | term => exact ht _ _ _ h
  | exponent =>
    obtain ⟨base, hbase, hpower⟩ := Option.bind_eq_some_iff.1 h
    exact powerOf_within ht (ht _ _ _ hbase) hpower
  | atom =>
    rcases Option.or_eq_some_iff.1 h with hp | ⟨_, hrest⟩
    · exact parenthesis?_within ht hp
    · rcases Option.or_eq_some_iff.1 hrest with hm | ⟨_, hleaf⟩
      · exact ht _ _ _ hm
      · exact leaf?_within hleaf
  | merge =>
    obtain ⟨q, hq, rfl⟩ := Option.map_eq_some_iff.1 h
    have hlt := quantity?_lt hq
    exact ⟨by simp only; omega, hlt⟩

theorem conversion?_within {left found : Found} (h : conversion? tokens left = some found) :
    found.Within tokens left.stop := by
  obtain ⟨u, hu, rfl⟩ := Option.map_eq_some_iff.1 h
  have hlt := unit?_lt hu
  exact ⟨by simp only; omega, hlt⟩

theorem extended?_within {chain found : Found} (h : extended? tokens chain = some found) :
    found.Within tokens chain.stop := by
  unfold extended? at h
  split at h
  · next q hq =>
    split at h
    · cases h
      have hlt := quantity?_lt hq
      exact ⟨by simp only; omega, hlt⟩
    · cases h
  · cases h

theorem continuation?_within (ht : Proper tokens table) {rule : Rule} {left found : Found}
    (h : continuation? tokens table rule left = some found) : found.Within tokens left.stop := by
  cases rule with
  | expression =>
    obtain ⟨op, _, hop⟩ := Option.bind_eq_some_iff.1 h
    exact operand?_within ht hop
  | term =>
    simp only [continuation?] at h
    split at h
    · exact operand?_within ht h
    · split at h
      · exact conversion?_within h
      · cases h
  | merge => exact extended?_within h
  | exponent => cases h
  | atom => cases h

end

/-! ## Runs -/

section
variable {size : Nat} {extend extend' : Found → Option Found}

/-- A run takes every longer match. -/
theorem longestRun_of_some {left next : Found} (h : extend left = some next)
    (hlt : left.stop < next.stop) (hle : next.stop ≤ size) :
    longestRun size extend left = longestRun size extend next := by
  rw [longestRun, h]
  exact if_pos ⟨hlt, hle⟩

/-- A run stops where there is no longer match. -/
theorem longestRun_of_none {left : Found} (h : extend left = none) :
    longestRun size extend left = left := by
  rw [longestRun, h]

/-- What holds of a match and of every longer one holds of the whole run. -/
theorem longestRun_induct {motive : Found → Prop}
    (step : ∀ left next, extend left = some next → left.stop < next.stop → next.stop ≤ size →
      motive left → motive next)
    (left : Found) (h : motive left) : motive (longestRun size extend left) := by
  rw [longestRun]
  cases hx : extend left with
  | none => exact h
  | some next =>
    simp only
    split
    · next hlonger =>
      exact longestRun_induct step next (step left next hx hlonger.1 hlonger.2 h)
    · exact h
termination_by size - left.stop

/-- A run depends only on how the matches it meets are made longer. -/
theorem longestRun_congr {least : Nat} (h : ∀ left, least < left.stop → extend left = extend' left)
    (left : Found) (hleft : least < left.stop) :
    longestRun size extend left = longestRun size extend' left := by
  rw [longestRun, longestRun, h left hleft]
  cases extend' left with
  | none => rfl
  | some next =>
    simp only
    split
    · next hlonger =>
      exact longestRun_congr h next (Nat.lt_trans hleft hlonger.1)
    · rfl
termination_by size - left.stop

end

/-! ## The equation of a rule -/

section
variable {tokens : Array Token} {table table' : Rule → Nat → Option Found} {pos : Nat}

/-- An opening asks only rules of a lower level. -/
theorem opening?_congr (ht : Proper tokens table) {rule : Rule} (hpos : pos < tokens.size)
    (h : ∀ r p, level tokens r p < level tokens rule pos → table r p = table' r p) :
    opening? tokens table rule pos = opening? tokens table' rule pos := by
  have later (r : Rule) {p : Nat} (hp : pos < p) : table r p = table' r p :=
    h r p (level_lt_of_lt rule r hp hpos)
  have tighter (r : Rule) (hr : r.looseness < rule.looseness) : table r pos = table' r pos :=
    h r pos (level_lt_of_tighter pos hr)
  cases rule with
  | expression =>
    simp only [opening?, negation?, later .term (Nat.lt_succ_self pos), tighter .term (by decide)]
  | term => exact tighter .exponent (by decide)
  | exponent =>
    simp only [opening?, ← tighter .atom (by decide)]
    cases hbase : table .atom pos with
    | none => rfl
    | some base =>
      have hlt : pos < base.stop + 1 := Nat.lt_succ_of_lt (ht _ _ _ hbase).1
      simp only [Option.bind_some, powerOf, operand?, later .exponent hlt]
  | atom =>
    simp only [opening?, parenthesis?, later .expression (Nat.lt_succ_self pos),
      tighter .merge (by decide)]
  | merge => rfl

/-- A continuation asks only rules of a lower level. -/
theorem continuation?_congr {rule : Rule} (hpos : pos < tokens.size)
    (h : ∀ r p, level tokens r p < level tokens rule pos → table r p = table' r p)
    (left : Found) (hleft : pos < left.stop) :
    continuation? tokens table rule left = continuation? tokens table' rule left := by
  have later (r : Rule) : table r (left.stop + 1) = table' r (left.stop + 1) :=
    h r _ (level_lt_of_lt rule r (Nat.lt_succ_of_lt hleft) hpos)
  cases rule <;> simp only [continuation?, operand?, later]

end

theorem longest_of_size_le {tokens : Array Token} {pos : Nat} (rule : Rule)
    (h : tokens.size ≤ pos) : longest tokens rule pos = none := by
  rw [longest]
  exact if_neg (Nat.not_lt.2 h)

/-- What an opening has and a continuation keeps, given that the results they ask for have it, all
longest matches have. -/
theorem longest_induct {tokens : Array Token} {motive : Rule → Nat → Found → Prop}
    (opening : ∀ table, (∀ r p f, table r p = some f → motive r p f) → ∀ rule pos found,
      opening? tokens table rule pos = some found → motive rule pos found)
    (continuation : ∀ table, (∀ r p f, table r p = some f → motive r p f) →
      ∀ rule pos left next, motive rule pos left →
        continuation? tokens table rule left = some next → motive rule pos next)
    (rule : Rule) (pos : Nat) (found : Found) (h : longest tokens rule pos = some found) :
    motive rule pos found := by
  rw [longest] at h
  split at h
  · obtain ⟨first, hfirst, rfl⟩ := Option.map_eq_some_iff.1 h
    have hbelow : ∀ r p f, (if level tokens r p < level tokens rule pos then longest tokens r p
        else none) = some f → motive r p f := by
      intro r p f hf
      split at hf
      · exact longest_induct opening continuation r p f hf
      · cases hf
    exact longestRun_induct
      (fun left next hnext _ _ hleft => continuation _ hbelow rule pos left next hleft hnext)
      first (opening _ hbelow rule pos first hfirst)
  · cases h
termination_by level tokens rule pos

/-- Matches are never empty and stay within the tokens. -/
theorem longest_bounds (tokens : Array Token) : Proper tokens (longest tokens) :=
  longest_induct (fun _ ht _ _ _ hfound => opening?_within ht hfound)
    (fun _ ht _ _ _ _ hleft hnext => (continuation?_within ht hnext).mono (Nat.le_of_lt hleft.1))

/-- A rule's result is its opening, continued for as long as that works. -/
theorem longest_eq {tokens : Array Token} {pos : Nat} (rule : Rule) (hpos : pos < tokens.size) :
    longest tokens rule pos = (opening? tokens (longest tokens) rule pos).map
      (longestRun tokens.size (continuation? tokens (longest tokens) rule)) := by
  have hlower : ∀ r p, level tokens r p < level tokens rule pos → longest tokens r p =
      if level tokens r p < level tokens rule pos then longest tokens r p else none :=
    fun r p hlt => (if_pos hlt).symm
  rw [longest, if_pos hpos]
  simp only
  rw [← opening?_congr (longest_bounds tokens) hpos hlower]
  cases hfirst : opening? tokens (longest tokens) rule pos with
  | none => rfl
  | some first =>
    have hstart := (opening?_within (longest_bounds tokens) hfirst).1
    exact congrArg some
      (longestRun_congr (continuation?_congr hpos hlower) first hstart).symm

end Reckoner.Grammar
