import Reckoner.Document.Check
import Reckoner.Document.Read
import Reckoner.Proofs.Token.Numeral
import Reckoner.Proofs.Xml.Markup

/-!
# Data of written documents

A document that is written as one element is neither blank nor changed by trimming, so its data is
that of the element (`Document.read_wrap`).  Elements of one name that asks for a list come as one
list, in order and however many they are (`Datum.foldl_add_list`), and text between elements leaves
no trace if it is blank (`Datum.directText_of_blank`).  Digits are read as the number that they
denote, whatever zeros lead them, if the number is not too long (`Document.readCount_digits`).

The line ends of a document do not matter: with its line ends unified it has the same data
(`Document.read_unifyLineEnds`).
-/

namespace Reckoner

open Text

/-! ## Documents -/

namespace Xml

theorem tight_wrap (tag : String) (attributes : List (String × String)) (inner : List Char) :
    Tight isBlank (wrap tag attributes inner) where
  first := ⟨'<', rfl, by decide⟩
  last := by
    have hend : wrap tag attributes inner =
        openTag tag attributes ++ (inner ++ '<' :: '/' :: tag.toList) ++ ['>'] := by
      simp [wrap, closeTag]
    rw [hend]
    exact ⟨'>', List.getLast?_concat, by decide⟩

theorem afterOrderMark_unifyLineEnds (cs : List Char) :
    afterOrderMark (unifyLineEnds cs) = unifyLineEnds (afterOrderMark cs) := by
  fun_induction unifyLineEnds cs with
  | case1 cs => rfl
  | case2 cs hcs =>
    show '\n' :: unifyLineEnds cs = unifyLineEnds ('\r' :: cs)
    rw [unifyLineEnds.eq_2 cs hcs]
  | case3 c cs hpair hne =>
    by_cases hmark : c = '\ufeff'
    · rw [hmark, afterOrderMark, afterOrderMark]
    · have hleft (ds : List Char) : afterOrderMark (c :: ds) = c :: ds := by
        rw [afterOrderMark]
        rintro _ ⟨⟩
        exact hmark rfl
      rw [hleft, hleft, unifyLineEnds.eq_3 c cs hpair hne]
  | case4 => rfl

theorem readDocument_unifyLineEnds (style : NameStyle) (document : String) :
    readDocument style (String.ofList (unifyLineEnds document.toList)) =
      readDocument style document := by
  rw [readDocument, readDocument, String.toList_ofList, afterOrderMark_unifyLineEnds,
    unifyLineEnds_idem]

end Xml

namespace Document

theorem trim_wrap (tag : String) (attributes : List (String × String)) (inner : List Char) :
    trim (String.ofList (Xml.wrap tag attributes inner)) =
      String.ofList (Xml.wrap tag attributes inner) := by
  rw [trim, String.toList_ofList, (Xml.tight_wrap tag attributes inner).dropAround_eq]

theorem isAllBlank_wrap (tag : String) (attributes : List (String × String)) (inner : List Char) :
    isAllBlank (String.ofList (Xml.wrap tag attributes inner)) = false := by
  obtain ⟨c, hc, hblank⟩ := (Xml.tight_wrap tag attributes inner).exists_mem
  rw [isAllBlank, String.toList_ofList, List.all_eq_false]
  exact ⟨c, hc, by simp [hblank]⟩

/-- The data of a document that is written as one element. -/
theorem read_wrap {reading : Reading} {tag : String} {attributes : List (String × String)}
    {inner : List Char} {node : Xml.Node}
    (h : root reading (String.ofList (Xml.wrap tag attributes inner)) = .ok node) :
    read reading (String.ofList (Xml.wrap tag attributes inner)) =
      .ok (Datum.ofRoot reading.lists node) := by
  rw [read, isAllBlank_wrap, trim_wrap, h]
  rfl

theorem root_unifyLineEnds (reading : Reading) (document : String) :
    root reading (String.ofList (unifyLineEnds document.toList)) = root reading document := by
  unfold root
  simp only [Xml.readDocument_unifyLineEnds]

/-- The line ends of a document do not matter for its data. -/
theorem read_unifyLineEnds {reading : Reading} {document : String} {d : Datum}
    (h : read reading document = .ok d) :
    read reading (String.ofList (unifyLineEnds document.toList)) = .ok d := by
  unfold read at h ⊢
  rw [isAllBlank_unifyLineEnds, trim_unifyLineEnds, root_unifyLineEnds]
  split at h
  next => cases h
  next hblank =>
    rw [if_neg hblank]
    cases hroot : root reading (trim document) with
    | ok node =>
      rw [hroot] at h
      exact h
    | error refusal =>
      rw [hroot] at h
      cases refusal <;> cases h

end Document

/-! ## Data of contents -/

namespace Datum

variable {lists : List String} {parts : Parts} {name : String}

theorem addContents_append (lists : List String) (parts : Parts) (ns more : List Xml.Node) :
    addContents lists parts (ns ++ more) =
      addContents lists (addContents lists parts ns) more := by
  induction ns generalizing parts with
  | nil => rw [List.nil_append, addContents]
  | cons n ns ih =>
    cases n with
    | text s => rw [List.cons_append, addContents, addContents, ih]
    | element _ _ _ _ => rw [List.cons_append, addContents, addContents, ih]

theorem addContents_element (lists : List String) (parts : Parts) (tag : String)
    (attributes : List (String × String)) (declared : List (String × Option String))
    (contents : List Xml.Node) :
    addContents lists parts [.element tag attributes declared contents] =
      add lists parts tag (ofElement lists (.element tag attributes declared contents)) := by
  rw [addContents, addContents]

theorem lookup_concat (hnone : parts.lookup name = none) (d : Datum) :
    (parts ++ [(name, d)]).lookup name = some d := by
  rw [List.lookup_append, hnone]
  simp

theorem set_concat (hnone : parts.lookup name = none) (old new : Datum) :
    set (parts ++ [(name, old)]) name new = parts ++ [(name, new)] := by
  induction parts with
  | nil => simp [set]
  | cons part parts ih =>
    obtain ⟨n, d⟩ := part
    rw [List.lookup_cons] at hnone
    split at hnone
    next => cases hnone
    next hname =>
      have hne : n ≠ name := by
        rintro rfl
        simp at hname
      rw [List.cons_append, set, if_neg hne, ih hnone]
      rfl

theorem foldl_add_extends (hnone : parts.lookup name = none) (items ds : List Datum) :
    ds.foldl (fun parts d => add lists parts name d) (parts ++ [(name, .list items)]) =
      parts ++ [(name, .list (items ++ ds))] := by
  induction ds generalizing items with
  | nil => rw [List.foldl_nil, List.append_nil]
  | cons d ds ih =>
    rw [List.foldl_cons, add, lookup_concat hnone]
    show ds.foldl _ (set (parts ++ [(name, .list items)]) name (.list (items ++ [d]))) = _
    rw [set_concat hnone, ih, List.append_assoc, List.singleton_append]

/-- Values that are added under a name that asks for a list come as one list, if there are any. -/
theorem foldl_add_list (hlist : lists.contains name = true) (hnone : parts.lookup name = none)
    (ds : List Datum) :
    ds.foldl (fun parts d => add lists parts name d) parts =
      if ds.isEmpty then parts else parts ++ [(name, .list ds)] := by
  cases ds with
  | nil => rfl
  | cons d ds =>
    rw [List.foldl_cons, add, hnone, hlist]
    exact foldl_add_extends hnone [d] ds

/-- Blank pieces of text are no text of the element. -/
theorem directText_of_blank {contents : List Xml.Node}
    (h : ∀ s, .text s ∈ contents → ∀ c ∈ s.toList, isBlank c = true) :
    directText contents = "" := by
  have hjoin : ∀ c ∈ (String.join (contents.filterMap Xml.Node.text?)).toList,
      isBlank c = true := by
    intro c hc
    rw [String.toList_join, List.mem_flatMap] at hc
    obtain ⟨s, hs, hc⟩ := hc
    obtain ⟨n, hn, htext⟩ := List.mem_filterMap.1 hs
    cases n with
    | text t =>
      cases htext
      exact h s hn c hc
    | element _ _ _ _ => cases htext
  rw [directText, trim, dropAround_of_forall hjoin]

end Datum

/-! ## Checks -/

theorem Datum.required_eq {α : Type} {parts : Datum.Parts} {first second : String} {d : Datum}
    {check : Datum → Checked α} {a : α} (hd : parts.lookup first = some d) (h : check d = .ok a) :
    Datum.required parts first second check = .ok a := by
  rw [Datum.required, Datum.part?, hd]
  show Checked.under first (check d) = _
  rw [h]
  rfl

theorem Datum.optional_eq {α : Type} {parts : Datum.Parts} {first second : String} {d : Datum}
    {default : α} {check : Datum → Checked α} {a : α} (hd : parts.lookup first = some d)
    (h : check d = .ok a) : Datum.optional parts first second default check = .ok a := by
  rw [Datum.optional, Datum.part?, hd]
  show Checked.under first (check d) = _
  rw [h]
  rfl

theorem Checked.all_map {α β : Type} {check : Datum → Checked β} {toDatum : α → Datum}
    {value : α → β} {xs : List α} (h : ∀ x ∈ xs, check (toDatum x) = .ok (value x)) (i : Nat) :
    Checked.all check i (xs.map toDatum) = .ok (xs.map value) := by
  induction xs generalizing i with
  | nil => rfl
  | cons x xs ih =>
    obtain ⟨hx, hxs⟩ := List.forall_mem_cons.1 h
    rw [List.map_cons, Checked.all, hx, ih hxs]
    rfl

/-! ## Integers -/

namespace Document

open Token

/-- What holds of the ten digits holds of every character of a run of digits. -/
theorem forall_mem_digits {p : Char → Prop} [DecidablePred p] {ds : List Char} (hds : Digits ds)
    (h : (digits.all fun c => decide (p c)) = true) : ∀ c ∈ ds, p c := fun c hc =>
  forall_mem_of_all h c (mem_digits (hds c hc))

theorem ofAsciiDigits_zero_cons (ds : List Char) : ofAsciiDigits ('0' :: ds) = ofAsciiDigits ds :=
  rfl

theorem ofAsciiDigits_dropWhile {ds : List Char} (hds : Digits ds) :
    ofAsciiDigits (ds.dropWhile isLeadingZero) = ofAsciiDigits ds := by
  induction ds with
  | nil => rfl
  | cons d ds ih =>
    have hzero := forall_mem_digits (p := fun c => isLeadingZero c = true → c = '0') hds (by decide)
    obtain ⟨hd, -⟩ := List.forall_mem_cons.1 hzero
    cases hleading : isLeadingZero d with
    | false => rw [List.dropWhile_cons_of_neg (by simp [hleading])]
    | true =>
      rw [List.dropWhile_cons_of_pos hleading, ih fun c hc => hds c (List.mem_cons_of_mem _ hc),
        hd hleading, ofAsciiDigits_zero_cons]

/-- Of digits that may all be left out as leading zeros the last one is a zero. -/
theorem getLastD_of_dropWhile_eq_nil {ds : List Char} (hds : Digits ds)
    (h : ds.dropWhile isLeadingZero = []) : ds.getLastD '0' = '0' := by
  rcases List.eq_nil_or_concat' ds with rfl | ⟨front, c, rfl⟩
  · rfl
  · have hmem : c ∈ front ++ [c] := List.mem_concat_self
    have hleading : isLeadingZero c = true := List.dropWhile_eq_nil_iff.1 h c hmem
    rw [List.getLastD_concat]
    exact forall_mem_digits (p := fun c => isLeadingZero c = true → c = '0') hds (by decide) c hmem
      hleading

/-- The zeros that lead some digits do not change their number. -/
theorem exists_dropLeadingZeros {ds : List Char} (hne : ds ≠ []) (hds : Digits ds) :
    ∃ rest, dropLeadingZeros ds = some rest ∧ rest ≠ [] ∧ Digits rest ∧
      ofAsciiDigits rest = ofAsciiDigits ds ∧ (rest = ['0'] ∨ rest.head? ≠ some '0') := by
  obtain ⟨d, ds, rfl⟩ := List.exists_cons_of_ne_nil hne
  obtain ⟨hd, htail⟩ := List.forall_mem_cons.1 hds
  by_cases hzero : d = '0'
  · subst hzero
    have hleft : Digits (ds.dropWhile isLeadingZero) := fun c hc =>
      htail c (List.dropWhile_subset _ hc)
    rw [dropLeadingZeros, ofAsciiDigits_zero_cons, ← ofAsciiDigits_dropWhile htail]
    split
    next hnone =>
      -- there are only zeros, the last of which stays
      rw [getLastD_of_dropWhile_eq_nil htail hnone, hnone]
      exact ⟨['0'], rfl, List.cons_ne_nil _ _, by simp [Digits, isDigit], rfl, .inl rfl⟩
    next rest hpoint => cases hleft '.' (hpoint ▸ List.mem_cons_self)
    next c rest _ hrest =>
      have hstart : isLeadingZero c = false := by
        have hnot := List.head?_dropWhile_not isLeadingZero ds
        rwa [hrest] at hnot
      rw [hrest] at hleft ⊢
      have hc : ('1' ≤ c && c ≤ '9') = true :=
        forall_mem_digits (p := fun c => isLeadingZero c = false → ('1' ≤ c && c ≤ '9') = true)
          hleft (by decide) c List.mem_cons_self hstart
      rw [if_pos hc]
      refine ⟨c :: rest, rfl, List.cons_ne_nil _ _, hleft, rfl, .inr ?_⟩
      rintro ⟨⟩
      cases hc
  · have hlow : (('1' ≤ d && d ≤ '9') || d == '-') = true :=
      forall_mem_digits (p := fun c => c ≠ '0' → (('1' ≤ c && c ≤ '9') || c == '-') = true) hds
        (by decide) d List.mem_cons_self hzero
    rw [dropLeadingZeros, if_pos hlow]
    · exact ⟨d :: ds, rfl, hne, hds, rfl, .inr fun heq => hzero (Option.some.inj heq)⟩
    · rintro rfl
      exact hzero rfl

theorem signedDigits?_digits {ds : List Char} (hne : ds ≠ []) (h : Digits ds) :
    signedDigits? ds = some (ofAsciiDigits ds : Int) := by
  obtain ⟨d, ds, rfl⟩ := List.exists_cons_of_ne_nil hne
  have hall : ((d :: ds).all fun c => '0' ≤ c && c ≤ '9') = true := List.all_eq_true.2 h
  rw [signedDigits?]
  · simp only [hall]
    rfl
  · rintro _ ⟨⟩
    cases h '-' List.mem_cons_self

theorem dropUnderscores_digits {ds : List Char} (h : Digits ds) : dropUnderscores ds = ds := by
  unfold dropUnderscores
  split
  next => rfl
  next => exact List.filter_eq_self.2 (forall_mem_digits h (by decide))

theorem le_foldl_digits (n : Nat) (ds : List Nat) :
    n * 10 ^ ds.length ≤ ds.foldl (fun n d => n * 10 + d) n := by
  induction ds generalizing n with
  | nil => simp
  | cons d ds ih =>
    calc n * 10 ^ (d :: ds).length = n * 10 * 10 ^ ds.length := by
          rw [List.length_cons, Nat.pow_succ', Nat.mul_assoc]
      _ ≤ (n * 10 + d) * 10 ^ ds.length := Nat.mul_le_mul_right _ (Nat.le_add_right _ _)
      _ ≤ _ := ih _

/-- A run of digits that no zero leads denotes no less than a power of ten. -/
theorem pow_le_ofAsciiDigits {c : Char} {cs : List Char} (h : Digits (c :: cs)) (hc : c ≠ '0') :
    10 ^ cs.length ≤ ofAsciiDigits (c :: cs) := by
  have hone : ∀ d ∈ digits, d ≠ '0' → 1 ≤ asciiDigitValue d := forall_mem_of_all (by decide)
  have hlead := hone c (mem_digits (h c List.mem_cons_self)) hc
  have hgrow := le_foldl_digits (0 * 10 + asciiDigitValue c) (cs.map asciiDigitValue)
  rw [List.length_map] at hgrow
  calc 10 ^ cs.length = 1 * 10 ^ cs.length := (Nat.one_mul _).symm
    _ ≤ (0 * 10 + asciiDigitValue c) * 10 ^ cs.length := Nat.mul_le_mul_right _ (by omega)
    _ ≤ ofAsciiDigits (c :: cs) := hgrow

/-- Digits take one byte each. -/
theorem utf8ByteSize_digits {ds : List Char} (h : Digits ds) :
    (String.ofList ds).utf8ByteSize = ds.length := by
  have hone : ∀ c ∈ digits, c.utf8Size = 1 := forall_mem_of_all (by decide)
  induction ds with
  | nil => rfl
  | cons c ds ih =>
    obtain ⟨hc, hds⟩ := List.forall_mem_cons.1 h
    have hfirst : (String.ofList [c]).utf8ByteSize = 1 :=
      String.utf8ByteSize_singleton.trans (hone c (mem_digits hc))
    rw [← List.singleton_append, String.ofList_append, String.utf8ByteSize_append, ih hds, hfirst,
      List.length_append, List.length_singleton]

/-- Digits are read as the number that they denote, if it is not too long. -/
theorem readCount_digits {ds : List Char} (hne : ds ≠ []) (h : Digits ds)
    (hshort : ofAsciiDigits ds < 10 ^ digitLimit) :
    readCount (String.ofList ds) = .ok (ofAsciiDigits ds : Int) := by
  obtain ⟨rest, hrest, hpresent, hdigits, hvalue, hlead⟩ := exists_dropLeadingZeros hne h
  have htrim : dropAround isGap ds = ds := dropAround_eq_self (forall_mem_digits h (by decide))
  have hplus : dropPlus ds = some ds := by
    unfold dropPlus
    split
    next => cases h '+' List.mem_cons_self
    next => cases h '+' List.mem_cons_self
    next => rfl
  have hbare : bareCount? (String.ofList ds) = some (String.ofList rest) := by
    simp only [bareCount?, String.toList_ofList, htrim, hplus, Option.bind_eq_bind,
      Option.bind_some, hrest, dropUnderscores_digits hdigits]
    rfl
  have hsize : ¬digitLimit < (String.ofList rest).utf8ByteSize := by
    obtain ⟨c, cs, rfl⟩ := List.exists_cons_of_ne_nil hpresent
    rw [utf8ByteSize_digits hdigits, List.length_cons, Nat.not_lt]
    rcases hlead with hzero | hlead
    · have hcs := (List.cons.inj hzero).2
      rw [hcs]
      decide +kernel
    · have hpow := pow_le_ofAsciiDigits hdigits fun heq => hlead (heq ▸ rfl)
      rw [hvalue] at hpow
      exact (Nat.pow_lt_pow_iff_right (by decide)).1 (Nat.lt_of_le_of_lt hpow hshort)
  rw [readCount, hbare]
  simp only [if_neg hsize, String.toList_ofList, signedDigits?_digits hpresent hdigits, hvalue]
  rfl

end Document

end Reckoner
