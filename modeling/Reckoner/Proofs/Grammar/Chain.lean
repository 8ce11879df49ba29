import Reckoner.Proofs.Grammar.Memo

/-!
# Chains

The rules that start with themselves match *chains*: a first operand and then *links*, each an
operator with its operand, for as long as there is one; the operands are joined from the left.

`Chained tokens table` says that a table holds the results of a parser that reads chains in a loop
and keeps no memo: its fields are the equations of the five rules.  The equations have exactly one
solution, and the parser with the memo comes to it (`parseRule_chained`).
-/

namespace Reckoner.Grammar

/-! ## Runs of links -/

/-- An operator and the operand after it. -/
abbrev Link := Operator × Found

/-- The links from a position on: one after the other until there is none. -/
inductive Run (link? : Nat → Option Link) : Nat → List Link → Prop where
  | stop {pos : Nat} : link? pos = none → Run link? pos []
  | step {pos : Nat} {op : Operator} {operand : Found} {links : List Link} :
    link? pos = some (op, operand) → Run link? operand.stop links →
    Run link? pos ((op, operand) :: links)

/-- A match with an operand joined to it. -/
def Found.join (left : Found) (link : Link) : Found :=
  ⟨.binary link.1 left.tree link.2.tree, link.2.stop⟩

/-- The match is the first operand with the links after it, joined from the left. -/
def IsChain (link? : Nat → Option Link) (first found : Found) : Prop :=
  ∃ links, Run link? first.stop links ∧ found = links.foldl Found.join first

section
variable {link? link?' : Nat → Option Link} {pos : Nat} {links links' : List Link}

theorem Run.unique (h : Run link? pos links) (h' : Run link? pos links') : links = links' := by
  induction h generalizing links' with
  | stop hnone =>
    cases h' with
    | stop _ => rfl
    | step hsome _ =>
      rw [hnone] at hsome
      cases hsome
  | step hsome _ ih =>
    cases h' with
    | stop hnone =>
      rw [hnone] at hsome
      cases hsome
    | step hsome' hrest =>
      rw [hsome] at hsome'
      cases hsome'
      rw [ih hrest]

/-- Links that end further on and within the tokens come to an end. -/
theorem Run.exists {size : Nat}
    (hforward : ∀ p op r, link? p = some (op, r) → p < r.stop ∧ r.stop ≤ size) (pos : Nat) :
    ∃ links, Run link? pos links := by
  cases hlink : link? pos with
  | none => exact ⟨[], .stop hlink⟩
  | some link =>
    obtain ⟨op, r⟩ := link
    have hr := hforward pos op r hlink
    obtain ⟨links, hrest⟩ := Run.exists hforward r.stop
    exact ⟨(op, r) :: links, .step hlink hrest⟩
termination_by size - pos

/-- A run depends only on the links at the positions that it can reach. -/
theorem Run.congr {least : Nat} (h : Run link? pos links) (hpos : least < pos)
    (hforward : ∀ p op r, link? p = some (op, r) → p < r.stop)
    (heq : ∀ p, least < p → link? p = link?' p) : Run link?' pos links := by
  induction h with
  | stop hnone => exact .stop (by rw [← heq _ hpos, hnone])
  | step hsome _ ih =>
    have hlt := hforward _ _ _ hsome
    exact .step (by rw [← heq _ hpos, hsome]) (ih (Nat.lt_trans hpos hlt))

/-- Where a chain ends there is no further link. -/
theorem IsChain.link?_stop {first found : Found} (h : IsChain link? first found) :
    link? found.stop = none := by
  obtain ⟨links, hrun, rfl⟩ := h
  generalize hstart : first.stop = start at hrun
  induction hrun generalizing first with
  | stop hnone =>
    subst hstart
    exact hnone
  | @step pos op operand links _ _ ih => exact @ih (first.join (op, operand)) rfl

/-- Making a match longer by one link after the other comes to its chain.  What a link needs of the
match before it may be kept as an invariant. -/
theorem longestRun_eq_join {size : Nat} {extend : Found → Option Found} {P : Found → Prop}
    (hforward : ∀ p op r, link? p = some (op, r) → p < r.stop ∧ r.stop ≤ size)
    (hextend : ∀ left, P left → extend left = (link? left.stop).map left.join)
    (hkeep : ∀ left link, P left → P (left.join link))
    {first : Found} (hfirst : P first) (hrun : Run link? first.stop links) :
    longestRun size extend first = links.foldl Found.join first := by
  generalize hstart : first.stop = start at hrun
  induction hrun generalizing first with
  | stop hnone =>
    subst hstart
    exact longestRun_of_none (by rw [hextend first hfirst, hnone, Option.map_none])
  | @step pos op operand links hsome _ ih =>
    subst hstart
    have hnext : extend first = some (first.join (op, operand)) := by
      rw [hextend first hfirst, hsome, Option.map_some]
    have hbounds := hforward _ _ _ hsome
    rw [longestRun_of_some hnext hbounds.1 hbounds.2]
    exact ih (hkeep first _ hfirst) rfl

/-- A longest run is the only chain from its first match. -/
theorem isChain_iff_longestRun {size : Nat} {extend : Found → Option Found} {P : Found → Prop}
    (hforward : ∀ p op r, link? p = some (op, r) → p < r.stop ∧ r.stop ≤ size)
    (hextend : ∀ left, P left → extend left = (link? left.stop).map left.join)
    (hkeep : ∀ left link, P left → P (left.join link))
    {first found : Found} (hfirst : P first) :
    IsChain link? first found ↔ longestRun size extend first = found := by
  constructor
  · rintro ⟨links, hrun, rfl⟩
    exact longestRun_eq_join hforward hextend hkeep hfirst hrun
  · rintro rfl
    obtain ⟨links, hrun⟩ := Run.exists hforward first.stop
    exact ⟨links, hrun, longestRun_eq_join hforward hextend hkeep hfirst hrun⟩

end

/-! ## The links of the rules -/

section
variable (tokens : Array Token) (table : Rule → Nat → Option Found)

/-- A sign and a term. -/
def sumLink? (pos : Nat) : Option Link :=
  (additive? tokens[pos]?).bind fun op => (table .term (pos + 1)).map fun r => (op, r)

/-- A sign and an exponent, or `to` and a unit. -/
def productLink? (pos : Nat) : Option Link :=
  match multiplicative? tokens[pos]? with
  | some op => (table .exponent (pos + 1)).map fun r => (op, r)
  | none =>
    if tokens[pos]? = some .to then
      (unit? tokens[pos + 1]?).map fun u => (.convert, ⟨.leaf (.oneOf u), pos + 2⟩)
    else none

/-- A number and a unit that measures what the given unit measures. -/
def quantityLink? (first : Measure) (pos : Nat) : Option Link :=
  (number? tokens[pos]?).bind fun x => (unit? tokens[pos + 1]?).bind fun u =>
    if first.category = u.category then some (.add, ⟨.leaf ⟨x, some u⟩, pos + 2⟩) else none

/-- The table holds the results of the grammar read with loops: an expression is a term, with or
without a minus sign before it, and the longest run of signs with terms; and so on. -/
structure Chained : Prop where
  expression : ∀ pos found, table .expression pos = some found ↔
    ∃ first, (negation? tokens table pos).or (table .term pos) = some first ∧
      IsChain (sumLink? tokens table) first found
  term : ∀ pos found, table .term pos = some found ↔
    ∃ first, table .exponent pos = some first ∧ IsChain (productLink? tokens table) first found
  exponent : ∀ pos, table .exponent pos = (table .atom pos).bind (powerOf tokens table)
  atom : ∀ pos, table .atom pos =
    (parenthesis? tokens table pos).or ((table .merge pos).or (leaf? tokens pos))
  merge : ∀ pos found, table .merge pos = some found ↔
    ∃ x u, number? tokens[pos]? = some x ∧ unit? tokens[pos + 1]? = some u ∧
      IsChain (quantityLink? tokens u) ⟨.leaf ⟨x, some u⟩, pos + 2⟩ found

end

section
variable {tokens : Array Token} {table table' : Rule → Nat → Option Found}

theorem sumLink?_within (ht : Proper tokens table) {pos : Nat} {op : Operator} {r : Found}
    (h : sumLink? tokens table pos = some (op, r)) : r.Within tokens pos := by
  obtain ⟨op', _, hr⟩ := Option.bind_eq_some_iff.1 h
  obtain ⟨r', hr', hlink⟩ := Option.map_eq_some_iff.1 hr
  cases hlink
  exact (ht _ _ _ hr').mono (Nat.le_succ pos)

theorem productLink?_within (ht : Proper tokens table) {pos : Nat} {op : Operator} {r : Found}
    (h : productLink? tokens table pos = some (op, r)) : r.Within tokens pos := by
  unfold productLink? at h
  split at h
  · obtain ⟨r', hr', hlink⟩ := Option.map_eq_some_iff.1 h
    cases hlink
    exact (ht _ _ _ hr').mono (Nat.le_succ pos)
  · split at h
    · obtain ⟨u, hu, hlink⟩ := Option.map_eq_some_iff.1 h
      cases hlink
      have hlt := unit?_lt hu
      exact ⟨by simp only; omega, hlt⟩
    · cases h

theorem quantityLink?_eq_some {first : Measure} {pos : Nat} {link : Link} :
    quantityLink? tokens first pos = some link ↔
      ∃ x u, number? tokens[pos]? = some x ∧ unit? tokens[pos + 1]? = some u ∧
        first.category = u.category ∧ link = (.add, ⟨.leaf ⟨x, some u⟩, pos + 2⟩) := by
  simp only [quantityLink?, Option.bind_eq_some_iff, Option.ite_none_right_eq_some,
    Option.some.injEq]
  constructor
  · rintro ⟨x, hx, u, hu, hcategory, rfl⟩
    exact ⟨x, u, hx, hu, hcategory, rfl⟩
  · rintro ⟨x, u, hx, hu, hcategory, rfl⟩
    exact ⟨x, hx, u, hu, hcategory, rfl⟩

theorem quantityLink?_within {first : Measure} {pos : Nat} {op : Operator} {r : Found}
    (h : quantityLink? tokens first pos = some (op, r)) : r.Within tokens pos := by
  obtain ⟨x, u, _, hu, _, hlink⟩ := quantityLink?_eq_some.1 h
  cases hlink
  have hlt := unit?_lt hu
  exact ⟨by simp only; omega, hlt⟩

/-- An expression is continued by a link. -/
theorem continuation?_expression (left : Found) :
    continuation? tokens table .expression left =
      (sumLink? tokens table left.stop).map left.join := by
  simp only [continuation?, sumLink?, operand?]
  cases additive? tokens[left.stop]? with
  | none => rfl
  | some op =>
    cases table .term (left.stop + 1) with
    | none => rfl
    | some r => rfl

/-- A term is continued by a link. -/
theorem continuation?_term (left : Found) :
    continuation? tokens table .term left =
      (productLink? tokens table left.stop).map left.join := by
  simp only [continuation?, productLink?, operand?, conversion?]
  cases multiplicative? tokens[left.stop]? with
  | some op =>
    cases table .exponent (left.stop + 1) with
    | none => rfl
    | some r => rfl
  | none =>
    simp only
    split
    · cases unit? tokens[left.stop + 1]? with
      | none => rfl
      | some u => rfl
    · rfl

/-- A chain of quantities is continued by a link, which has to suit the first unit of the chain. -/
theorem continuation?_merge {u : Measure} {left : Found} (hu : leadingUnit? left.tree = some u) :
    continuation? tokens table .merge left =
      (quantityLink? tokens u left.stop).map left.join := by
  simp only [continuation?, extended?, quantityLink?, quantity?]
  cases number? tokens[left.stop]? with
  | none => rfl
  | some x =>
    cases unit? tokens[left.stop + 1]? with
    | none => rfl
    | some v =>
      simp only [bind, Option.bind_some, continues, hu, Measure.commonCategory?]
      split
      · rfl
      · rfl

/-! ## The equations hold -/

/-- A rule's result is its opening, continued for as long as that works; beyond the tokens there is
neither. -/
theorem longest_eq_some_iff {rule : Rule} {pos : Nat} {found : Found} :
    longest tokens rule pos = some found ↔
      ∃ first, opening? tokens (longest tokens) rule pos = some first ∧
        longestRun tokens.size (continuation? tokens (longest tokens) rule) first = found := by
  rcases Nat.lt_or_ge pos tokens.size with hpos | hsize
  · rw [longest_eq rule hpos, Option.map_eq_some_iff]
  · rw [longest_of_size_le rule hsize]
    constructor
    · intro h
      cases h
    · rintro ⟨first, hfirst, _⟩
      have hw := opening?_within (longest_bounds tokens) hfirst
      exact absurd hsize (Nat.not_le.2 (Nat.lt_of_lt_of_le hw.1 hw.2))

/-- The longest matches are those of the grammar read with loops. -/
theorem longest_chained (tokens : Array Token) : Chained tokens (longest tokens) where
  expression := by
    intro pos found
    rw [longest_eq_some_iff]
    refine exists_congr fun first => and_congr_right fun _ => ?_
    exact (isChain_iff_longestRun (P := fun _ => True)
      (fun _ _ _ h => sumLink?_within (longest_bounds tokens) h)
      (fun left _ => continuation?_expression left) (fun _ _ _ => trivial) trivial).symm
  term := by
    intro pos found
    rw [longest_eq_some_iff]
    refine exists_congr fun first => and_congr_right fun _ => ?_
    exact (isChain_iff_longestRun (P := fun _ => True)
      (fun _ _ _ h => productLink?_within (longest_bounds tokens) h)
      (fun left _ => continuation?_term left) (fun _ _ _ => trivial) trivial).symm
  exponent := by
    intro pos
    refine Option.ext fun found => ?_
    rw [longest_eq_some_iff]
    constructor
    · rintro ⟨first, hfirst, rfl⟩
      rw [longestRun_of_none rfl]
      exact hfirst
    · intro h
      exact ⟨found, h, longestRun_of_none rfl⟩
  atom := by
    intro pos
    refine Option.ext fun found => ?_
    rw [longest_eq_some_iff]
    constructor
    · rintro ⟨first, hfirst, rfl⟩
      rw [longestRun_of_none rfl]
      exact hfirst
    · intro h
      exact ⟨found, h, longestRun_of_none rfl⟩
  merge := by
    intro pos found
    have hchain (x : Number) (u : Measure) :
        IsChain (quantityLink? tokens u) ⟨.leaf ⟨x, some u⟩, pos + 2⟩ found ↔
          longestRun tokens.size (continuation? tokens (longest tokens) .merge)
            ⟨.leaf ⟨x, some u⟩, pos + 2⟩ = found :=
      -- joining a quantity at the right leaves the first unit of the chain
      isChain_iff_longestRun (P := fun left => leadingUnit? left.tree = some u)
        (fun _ _ _ h => quantityLink?_within h) (fun _ h => continuation?_merge h)
        (fun _ _ h => h) rfl
    rw [longest_eq_some_iff]
    simp only [opening?, Option.map_eq_some_iff, quantity?_eq_some]
    constructor
    · rintro ⟨_, ⟨_, ⟨x, u, hx, hu, rfl⟩, rfl⟩, hrun⟩
      exact ⟨x, u, hx, hu, (hchain x u).2 hrun⟩
    · rintro ⟨x, u, hx, hu, hrun⟩
      exact ⟨_, ⟨_, ⟨x, u, hx, hu, rfl⟩, rfl⟩, (hchain x u).1 hrun⟩

/-! ## The equations have one solution -/

/-- Beyond the tokens there is no match. -/
theorem Chained.eq_none (h : Chained tokens table) {pos : Nat} (hsize : tokens.size ≤ pos)
    (rule : Rule) : table rule pos = none := by
  have hend : tokens[pos]? = none := Array.getElem?_eq_none hsize
  have hmerge : table .merge pos = none := by
    refine Option.eq_none_iff_forall_ne_some.2 fun found hfound => ?_
    obtain ⟨x, u, hx, _, _⟩ := (h.merge pos found).1 hfound
    exact absurd (number?_lt hx) (Nat.not_lt.2 hsize)
  have hatom : table .atom pos = none := by
    have hleaf : leaf? tokens pos = none := by
      refine Option.eq_none_iff_forall_ne_some.2 fun found hfound => ?_
      have hw := leaf?_within hfound
      exact absurd hsize (Nat.not_le.2 (Nat.lt_of_lt_of_le hw.1 hw.2))
    rw [h.atom pos, hmerge, hleaf]
    simp only [parenthesis?, hend]
    rfl
  have hexponent : table .exponent pos = none := by
    rw [h.exponent pos, hatom, Option.bind_none]
  have hterm : table .term pos = none := by
    refine Option.eq_none_iff_forall_ne_some.2 fun found hfound => ?_
    obtain ⟨first, hfirst, _⟩ := (h.term pos found).1 hfound
    rw [hexponent] at hfirst
    cases hfirst
  cases rule with
  | merge => exact hmerge
  | atom => exact hatom
  | exponent => exact hexponent
  | term => exact hterm
  | expression =>
    refine Option.eq_none_iff_forall_ne_some.2 fun found hfound => ?_
    obtain ⟨first, hfirst, _⟩ := (h.expression pos found).1 hfound
    simp only [negation?, hend, hterm] at hfirst
    cases hfirst

/-- Chains of two link functions that agree from the first match on. -/
theorem isChain_congr {link? link?' : Nat → Option Link} {size least : Nat}
    (hforward : ∀ p op r, link? p = some (op, r) → p < r.stop ∧ r.stop ≤ size)
    (heq : ∀ p, least < p → link? p = link?' p) {first found : Found}
    (hfirst : least < first.stop) :
    IsChain link?' first found ↔ IsChain link? first found := by
  have hto {links : List Link} (hrun : Run link? first.stop links) : Run link?' first.stop links :=
    hrun.congr hfirst (fun p op r h => (hforward p op r h).1) heq
  constructor
  · rintro ⟨links, hrun, rfl⟩
    obtain ⟨links', hrun'⟩ := Run.exists hforward first.stop
    rw [hrun.unique (hto hrun')]
    exact ⟨links', hrun', rfl⟩
  · rintro ⟨links, hrun, rfl⟩
    exact ⟨links, hto hrun, rfl⟩

/-- A rule's entry is determined by the entries of lower levels. -/
theorem Chained.eq_of_lower (h : Chained tokens table) {rule : Rule} {pos : Nat}
    (hpos : pos < tokens.size)
    (hlower : ∀ r p, level tokens r p < level tokens rule pos → longest tokens r p = table r p) :
    table rule pos = longest tokens rule pos := by
  have hl := longest_chained tokens
  have hopen := opening?_congr (longest_bounds tokens) hpos hlower
  have hafter (r : Rule) (p : Nat) (hp : pos < p) : longest tokens r p = table r p :=
    hlower r p (level_lt_of_lt rule r hp hpos)
  have hstart {first : Found} (hfirst : opening? tokens (longest tokens) rule pos = some first) :
      pos < first.stop := (opening?_within (longest_bounds tokens) hfirst).1
  refine Option.ext fun found => ?_
  cases rule with
  | expression =>
    have hlink (p : Nat) (hp : pos < p) :
        sumLink? tokens (longest tokens) p = sumLink? tokens table p := by
      simp only [sumLink?, hafter .term (p + 1) (Nat.lt_succ_of_lt hp)]
    rw [h.expression, hl.expression]
    simp only [opening?] at hopen hstart
    rw [← hopen]
    refine exists_congr fun first => and_congr_right fun hfirst => ?_
    exact isChain_congr (fun _ _ _ hr => sumLink?_within (longest_bounds tokens) hr) hlink
      (hstart hfirst)
  | term =>
    have hlink (p : Nat) (hp : pos < p) :
        productLink? tokens (longest tokens) p = productLink? tokens table p := by
      simp only [productLink?, hafter .exponent (p + 1) (Nat.lt_succ_of_lt hp)]
    rw [h.term, hl.term]
    simp only [opening?] at hopen hstart
    rw [← hopen]
    refine exists_congr fun first => and_congr_right fun hfirst => ?_
    exact isChain_congr (fun _ _ _ hr => productLink?_within (longest_bounds tokens) hr) hlink
      (hstart hfirst)
  | exponent =>
    rw [h.exponent, hl.exponent]
    simp only [opening?] at hopen
    rw [hopen]
  | atom =>
    rw [h.atom, hl.atom]
    simp only [opening?] at hopen
    rw [hopen]
  | merge => rw [h.merge, hl.merge]

theorem Chained.eq_longest (h : Chained tokens table) (rule : Rule) (pos : Nat) :
    table rule pos = longest tokens rule pos := by
  rcases Nat.lt_or_ge pos tokens.size with hpos | hsize
  · refine h.eq_of_lower hpos fun r p hlower => ?_
    exact (Chained.eq_longest h r p).symm
  · rw [h.eq_none hsize, longest_of_size_le rule hsize]
termination_by level tokens rule pos

end

/-! ## The parser comes to the solution -/

section
variable {tokens : Array Token} {n : Nat} {start : Memo} {enough : Prop}

/-- Calls of rules one after the other, which share the memo. -/
theorem mapM_yields (calls : List (Rule × Nat)) {call : Rule → Nat → Parse (Option Found)}
    (h : ∀ r p, Yields tokens n start enough (call r p) (longest tokens r p)) :
    Yields tokens n start enough (calls.mapM fun (r, p) => call r p)
      (calls.map fun (r, p) => longest tokens r p) := by
  induction calls with
  | nil => exact .pure []
  | cons c calls ih =>
    rw [List.mapM_cons, List.map_cons]
    exact (h c.1 c.2).bind (ih.bind (.pure _))

theorem level_lt (tokens : Array Token) (rule : Rule) (pos : Nat) :
    level tokens rule pos < 5 * tokens.size + 5 := by
  have h := rule.looseness_lt
  unfold level
  omega

end

/-- The parser reads chains.  For any tokens the equations of the grammar read with loops have
exactly one solution.  Its matches are never empty, stay within the tokens, and end where no further
link follows.  Whatever rules are called, at whatever positions and one after the other, their
results are those of the solution, and so is every note in the memo they share; the parser gives up
only if rules may not nest five levels deep for each token. -/
theorem parseRule_chained (tokens : Array Token) :
    ∃ table : Rule → Nat → Option Found,
      Chained tokens table ∧
      (∀ table', Chained tokens table' → table' = table) ∧
      (∀ rule pos found, table rule pos = some found →
        pos < found.stop ∧ found.stop ≤ tokens.size) ∧
      (∀ pos found, table .expression pos = some found →
        sumLink? tokens table found.stop = none) ∧
      (∀ pos found, table .term pos = some found →
        productLink? tokens table found.stop = none) ∧
      ∀ (depth : Nat) (calls : List (Rule × Nat)),
        match (calls.mapM fun (rule, pos) => parseRule tokens depth rule pos).run {} with
        | some (results, memo) =>
          results = calls.map (fun (rule, pos) => table rule pos) ∧
            ∀ rule pos noted, memo[(pos, rule)]? = some noted → noted = table rule pos
        | none => depth ≤ 5 * tokens.size + 4 := by
  have hchained := longest_chained tokens
  refine ⟨longest tokens, hchained, fun table h => ?_, longest_bounds tokens,
    fun pos found h => ?_, fun pos found h => ?_, fun depth calls => ?_⟩
  · funext rule pos
    exact h.eq_longest rule pos
  · obtain ⟨_, _, hchain⟩ := (hchained.expression pos found).1 h
    exact hchain.link?_stop
  · obtain ⟨_, _, hchain⟩ := (hchained.term pos found).1 h
    exact hchain.link?_stop
  · have hcall (rule : Rule) (pos : Nat) :
        Yields tokens (5 * tokens.size + 5) {} (5 * tokens.size + 4 < depth)
          (parseRule tokens depth rule pos) (longest tokens rule pos) := by
      have hlt := level_lt tokens rule pos
      refine (parseRule_yields depth hlt).mono fun henough => ?_
      omega
    have hends := mapM_yields calls hcall {} (Keeps.empty tokens _)
    cases hrun : (calls.mapM fun (rule, pos) => parseRule tokens depth rule pos).run {} with
    | none =>
      rw [hrun] at hends
      exact Nat.not_lt.1 hends
    | some out =>
      rw [hrun] at hends
      obtain ⟨hresults, hkeeps⟩ := hends
      refine ⟨hresults, fun rule pos noted hnoted => ?_⟩
      exact hkeeps.faithful rule pos noted (level_lt tokens rule pos) hnoted

end Reckoner.Grammar
