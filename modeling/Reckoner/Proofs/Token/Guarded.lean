import Reckoner.Proofs.Number.Guarded
import Reckoner.Proofs.Token.Lexeme
import Reckoner.Proofs.Token.Numeral

/-!
# Guarded tokens

Cutting a text into tokens with a guard: the characters of a numeral have to denote a number.  They
always do (`tokenize_eq`), so that nothing stands in the way of a text's tokens but numerals with
too many digits.
-/

namespace Reckoner

/-- An integer token fits its word. -/
def Token.Canonical : Token → Prop
  | .integer n => FitsInt64 n
  | _ => True

namespace Guarded

open Token Numeral Text

/-! ## Tokens with guards -/

/-- The token of a lexeme, in which the characters of a numeral have to denote a number. -/
def token (l : Lexeme) : Except Crash Token :=
  if l.token.isNumber && (readFloat? (String.ofList l.chars)).isNone then
    .error (.unreadable l.chars)
  else l.read.mapError fun _ => .tooManyDigits

/-- The tokens of a text. -/
def tokenize (text : String) : Except Crash (List Token) := (Lexeme.scan text.toList).mapM token

/-- Every number of the text is written in at most as many digits as integers are read from. -/
def ShortNumerals (text : String) : Prop :=
  ∀ l ∈ Lexeme.scan text.toList, l.token.isNumber = true → l.chars.countP isDigit ≤ digitLimit

end Guarded

/-! ## Lexemes -/

namespace Lexeme

open Token

/-- What lexemes are: numerals with a point, numerals without one, and lexemes that stand for no
number. -/
inductive Regular : Lexeme → Prop where
  | point {ds ds' exponent : List Char} :
    ds ≠ [] ∨ ds' ≠ [] → Digits ds → Digits ds' → IsExponent exponent →
    Regular ⟨ds ++ '.' :: (ds' ++ exponent), floatToken (ds ++ '.' :: (ds' ++ exponent))⟩
  | whole {ds exponent : List Char} :
    ds ≠ [] → Digits ds → IsExponent exponent →
    Regular ⟨ds ++ exponent, integerToken (ds ++ exponent)⟩
  | other {l : Lexeme} : l.token.isNumber = false → Regular l

theorem first?_of_mem_scan {cs : List Char} {l : Lexeme} (h : l ∈ scan cs) :
    ∃ rest, rest.length ≤ cs.length ∧ first? rest = some l := by
  induction cs using scan.induct with
  | case1 =>
    rw [scan_nil] at h
    cases h
  | case2 c rest gap ih =>
    rw [scan_gap gap] at h
    obtain ⟨front, hlength, hfirst⟩ := ih h
    exact ⟨front, hlength.trans (Nat.le_succ _), hfirst⟩
  | case3 c rest gap lexeme found ih =>
    rw [scan_lexeme gap found] at h
    rcases List.mem_cons.1 h with rfl | h
    · exact ⟨c :: rest, Nat.le_refl _, found⟩
    · obtain ⟨front, hlength, hfirst⟩ := ih h
      refine ⟨front, ?_, hfirst⟩
      rw [List.length_drop] at hlength
      rw [List.length_cons]
      omega
  | case4 c rest gap found ih =>
    rw [scan_cons, if_neg gap, found] at h
    obtain ⟨front, hlength, hfirst⟩ := ih h
    exact ⟨front, hlength.trans (Nat.le_succ _), hfirst⟩

/-- Only the two numeral patterns make tokens that stand for numbers. -/
theorem isNumber_of_mem_patterns {p : Pattern} (h : p ∈ patterns) :
    p = pointNumeral ∨ p = plainNumeral ∨ ∀ cs, (p.token cs).isNumber = false := by
  rcases List.mem_append.1 h with h | h
  · rcases List.mem_append.1 h with h | h
    · simp only [List.mem_cons, List.not_mem_nil, or_false] at h
      rcases h with rfl | rfl | h
      · exact .inl rfl
      · exact .inr (.inl rfl)
      · refine .inr (.inr fun cs => ?_)
        rcases h with rfl | rfl | rfl | rfl | rfl | rfl | rfl | rfl | rfl | rfl <;> rfl
    · refine .inr (.inr fun cs => ?_)
      rcases List.mem_append.1 h with h | h
      · obtain ⟨spelling, -, rfl⟩ := List.mem_map.1 h
        rfl
      · obtain ⟨sign, -, rfl⟩ := List.mem_map.1 h
        rfl
  · simp only [List.mem_cons, List.not_mem_nil, or_false] at h
    rcases h with rfl | rfl
    · exact .inr (.inr fun cs => rfl)
    · exact .inr (.inr fun cs => rfl)

theorem regular_of_mem_scan {cs : List Char} {l : Lexeme} (h : l ∈ scan cs) : l.Regular := by
  obtain ⟨rest, -, hfirst⟩ := first?_of_mem_scan h
  obtain ⟨p, hp, rfl⟩ := Option.map_eq_some_iff.1 hfirst
  have hsize : 0 < p.size rest := by simpa using List.find?_some hp
  rcases isNumber_of_mem_patterns (List.mem_of_find?_eq_some hp) with rfl | rfl | hother
  · obtain ⟨ds, ds', exponent, htake, hne, hds, hds', hexponent⟩ := take_pointNumeral hsize
    rw [htake]
    exact .point hne hds hds' hexponent
  · obtain ⟨ds, exponent, htake, hne, hds, hexponent⟩ := take_plainNumeral hsize
    rw [htake]
    exact .whole hne hds hexponent
  · exact .other (hother _)

end Lexeme

namespace Guarded

open Token Numeral Text

/-! ## Tokens without guards -/

theorem isNumber_integerToken (cs : List Char) : (Token.integerToken cs).isNumber = true := by
  unfold Token.integerToken
  dsimp only
  split
  next => rfl
  next => rfl

theorem point_not_mem {ds exponent : List Char} (hds : Digits ds) (h : IsExponent exponent) :
    '.' ∉ ds ++ exponent := by
  have hpoint : ∀ {cs : List Char}, Digits cs → '.' ∉ cs := fun hcs hmem => by cases hcs '.' hmem
  intro hmem
  rcases List.mem_append.1 hmem with hmem | hmem
  · exact hpoint hds hmem
  · cases h with
    | none => cases hmem
    | plain he _ hds' =>
      rcases List.mem_cons.1 hmem with hmem | hmem
      · rcases he with rfl | rfl <;> cases hmem
      · exact hpoint hds' hmem
    | signed he hsign _ hds' =>
      rcases List.mem_cons.1 hmem with hmem | hmem
      · rcases he with rfl | rfl <;> cases hmem
      · rcases List.mem_cons.1 hmem with hmem | hmem
        · rcases hsign with rfl | rfl <;> cases hmem
        · exact hpoint hds' hmem

/-- The characters of a numeral denote a number. -/
theorem token_of_isNumeral {l : Lexeme} (h : IsNumeral l.chars) :
    token l = l.read.mapError fun _ => .tooManyDigits := by
  obtain ⟨x, hx⟩ := exists_readFloat? h
  rw [token, hx, Option.isNone_some, Bool.and_false]
  rfl

/-- No guard is hit. -/
theorem token_eq {l : Lexeme} (h : l.Regular) :
    token l = l.read.mapError fun _ => .tooManyDigits := by
  cases h with
  | point hne hds hds' hexponent => exact token_of_isNumeral (.point hne hds hds' hexponent)
  | whole hne hds hexponent => exact token_of_isNumeral (.whole hne hds hexponent)
  | other hother =>
    rw [token, hother]
    rfl

theorem mapM_mapError {ε ε' α β : Type} {f : α → Except ε' β} {g : α → Except ε β} {k : ε → ε'}
    {as : List α} (h : ∀ a ∈ as, f a = (g a).mapError k) : as.mapM f = (as.mapM g).mapError k := by
  induction as with
  | nil => rfl
  | cons a as ih =>
    rw [List.mapM_cons, List.mapM_cons, h a List.mem_cons_self,
      ih fun b hb => h b (List.mem_cons_of_mem _ hb)]
    cases g a with
    | error e => rfl
    | ok b => cases as.mapM g <;> rfl

/-- A text is cut into the tokens that it has without guards. -/
theorem tokenize_eq (text : String) :
    tokenize text = (Token.tokenize text).mapError fun _ => .tooManyDigits :=
  mapM_mapError fun _ hl => token_eq (Lexeme.regular_of_mem_scan hl)

/-! ## Short numerals -/

/-- A text with short numerals has the tokens that it denotes. -/
theorem tokenize_of_short {text : String} (short : ShortNumerals text) :
    Token.tokenize text = .ok (ofChars text.toList) :=
  tokenize_of_excess_none (excessIn?_eq_none_iff.2 fun l hl => Lexeme.excess?_eq_none (short l hl))

/-! ## The tokens of a text -/

theorem wholeValue?_fits {m : Nat} {n value : Int} (h : wholeValue? m n = some value) :
    FitsInt64 value := by
  unfold wholeValue? at h
  split at h
  next => cases h
  next =>
    dsimp only at h
    split at h
    next fits =>
      cases h
      exact fits
    next => cases h

/-- The integer tokens of a text fit. -/
theorem canonical_of_tokenize {text : String} {ts : List Token} {t : Token}
    (h : Token.tokenize text = .ok ts) (ht : t ∈ ts) : t.Canonical := by
  obtain ⟨-, rfl⟩ := tokenize_eq_ok_iff.1 h
  obtain ⟨l, hl, rfl⟩ := List.mem_map.1 ht
  cases Lexeme.regular_of_mem_scan hl with
  | point => exact trivial
  | whole =>
    unfold Token.integerToken
    dsimp only
    split
    next value => exact wholeValue?_fits value
    next => exact trivial
  | other hother =>
    generalize l.token = t at hother
    cases t with
    | integer n => cases hother
    | _ => exact trivial

/-- The numerals of a short text are short. -/
theorem shortNumerals_of_length {text : String} (h : text.toList.length ≤ digitLimit) :
    ShortNumerals text := by
  intro l hl _
  obtain ⟨rest, hrest, hfirst⟩ := Lexeme.first?_of_mem_scan hl
  obtain ⟨p, -, rfl⟩ := Option.map_eq_some_iff.1 hfirst
  calc (rest.take (p.size rest)).countP isDigit
      ≤ (rest.take (p.size rest)).length := List.countP_le_length
    _ ≤ rest.length := List.length_take_le' ..
    _ ≤ digitLimit := hrest.trans h

end Guarded

end Reckoner
