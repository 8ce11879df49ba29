import Mathlib.Data.List.TakeWhile
import Reckoner.Proofs.Text.LineEnds
import Reckoner.Xml.Reader

/-!
# Written documents

Elements are written as tags around their contents, with attributes in double quotes and without
references or declarations.  What is written so is read back (`readDocument_wrap`).

Reading takes piece after piece with a budget for the number of pieces.  `Reads` leaves the budget
out: from some characters on, some nodes are read and some characters are left.  Readings follow one
another (`Reads.trans`), and what lies between two tags is read as an element whose contents were
read (`Reads.element`).
-/

namespace Reckoner.Xml

/-! ## Characters -/

/-- The character may stand in a document, and it stays when line ends are unified. -/
def isKept (c : Char) : Bool := isLegal c && c != '\r'

/-- The character stands for itself in a double-quoted value. -/
def isValueChar (c : Char) : Bool :=
  isLegal c && !(c == '<' || c == '&' || c == '"') && (!isSpace c || c == ' ')

/-- The character stands for itself between tags, whatever stands around it. -/
def isTextChar (c : Char) : Bool := isKept c && !(c == '<' || c == '&' || c == '>')

/-- The marks of markup. -/
def marks : List Char :=
  [' ', '\t', '\n', '\r', '<', '>', '/', '?', '!', '&', '"', '=', ';', '#']

theorem isNameChar_of_mem_marks {c : Char} (h : c ∈ marks) : isNameChar c = false := by
  have hall : marks.all (fun c => !isNameChar c) = true := by decide
  exact (Bool.not_eq_true' _).mp (List.all_eq_true.1 hall c h)

theorem not_mem_marks {c : Char} (h : isNameStart c = true) : c ∉ marks := by
  intro hc
  have hname : isNameChar c = true := by rw [isNameChar, h, Bool.true_or]
  cases hname.symm.trans (isNameChar_of_mem_marks hc)

theorem isKept_of_isValueChar {c : Char} (h : isValueChar c = true) : isKept c = true := by
  have hreturn : c ≠ '\r' := by
    rintro rfl
    cases h
  simp_all [isValueChar, isKept]

/-- The runs of name characters hold no others than those that may stand in a document. -/
theorem isKept_of_isNameChar {c : Char} (h : isNameChar c = true) : isKept c = true := by
  have hruns : ∀ run ∈ nameStartRuns ++ nameExtraRuns, 0x20 ≤ run.1 ∧ run.2 < 0xfffe := by
    decide +kernel
  rw [isNameChar, isNameStart, Text.inRuns, Text.inRuns, ← List.any_append, List.any_eq_true] at h
  obtain ⟨run, hrun, hc⟩ := h
  obtain ⟨hlow, hhigh⟩ := hruns run hrun
  simp only [Bool.and_eq_true, decide_eq_true_eq] at hc
  have hcode : 0x20 ≤ c.toNat ∧ c.toNat ≠ 0xfffe ∧ c.toNat ≠ 0xffff := by omega
  have hreturn : c ≠ '\r' := by
    rintro rfl
    exact absurd hcode.1 (by decide)
  simp [isKept, isLegal, hcode, hreturn]

/-! ## Names -/

/-- The characters are a name without a colon. -/
def isLocalName : List Char → Bool
  | [] => false
  | c :: cs => isNameStart c && cs.all isNameChar

theorem exists_cons_of_isLocalName {cs : List Char} (h : isLocalName cs = true) :
    ∃ c rest, cs = c :: rest ∧ isNameStart c = true ∧ ∀ d ∈ rest, isNameChar d = true := by
  cases cs with
  | nil => cases h
  | cons c rest =>
    obtain ⟨hc, hrest⟩ := Bool.and_eq_true_iff.1 h
    exact ⟨c, rest, rfl, hc, List.all_eq_true.1 hrest⟩

theorem nameOf_append {p q : Char → Bool} {c d : Char} {cs rest : List Char} (hc : p c = true)
    (hcs : ∀ e ∈ cs, q e = true) (hd : q d = false) :
    nameOf p q (c :: (cs ++ d :: rest)) = some (String.ofList (c :: cs), d :: rest) := by
  have hstop : (d :: rest).takeWhile q = [] := List.takeWhile_cons_of_neg (by simp [hd])
  have hleft : (d :: rest).dropWhile q = d :: rest := List.dropWhile_cons_of_neg (by simp [hd])
  rw [nameOf, if_pos hc, List.takeWhile_append_of_pos hcs, List.dropWhile_append_of_pos hcs, hstop,
    hleft, List.append_nil]

/-- A name is read up to a character that does not continue it. -/
theorem localName_append {s : String} (h : isLocalName s.toList = true) {d : Char}
    (hd : isNameChar d = false) (rest : List Char) :
    localName (s.toList ++ d :: rest) = some (s, d :: rest) := by
  obtain ⟨c, cs, hs, hc, hcs⟩ := exists_cons_of_isLocalName h
  have hwhole : String.ofList (c :: cs) = s := by rw [← hs, String.ofList_toList]
  rw [hs, List.cons_append, ← hwhole]
  exact nameOf_append hc hcs hd

theorem ne_colon_of_mem_marks {d : Char} (hd : d ∈ marks) : d ≠ ':' := by
  rintro rfl
  exact absurd hd (by decide)

theorem simpleName_append (style : NameStyle) {s : String} (h : isLocalName s.toList = true)
    {d : Char} (hd : d ∈ marks) (rest : List Char) :
    simpleName style (s.toList ++ d :: rest) = some (s, d :: rest) := by
  have hstop := isNameChar_of_mem_marks hd
  cases style with
  | plain =>
    obtain ⟨c, cs, hs, hc, hcs⟩ := exists_cons_of_isLocalName h
    have hwhole : String.ofList (c :: cs) = s := by rw [← hs, String.ofList_toList]
    rw [hs, List.cons_append, ← hwhole]
    show plainName (c :: (cs ++ d :: rest)) = _
    exact nameOf_append (by simp [hc]) (fun e he => by simp [hcs e he])
      (by simp [hstop, ne_colon_of_mem_marks hd])
  | qualified => exact localName_append h hstop rest

/-- The text is a name: one without a colon or, where names are qualified, two of them with a colon
between. -/
inductive IsName : NameStyle → String → Prop where
  | bare {style : NameStyle} {s : String} : isLocalName s.toList = true → IsName style s
  | qualified {label bare : String} : isLocalName label.toList = true →
    isLocalName bare.toList = true → IsName .qualified (label ++ ":" ++ bare)

theorem IsName.exists_cons {style : NameStyle} {s : String} (h : IsName style s) :
    ∃ c rest, s.toList = c :: rest ∧ isNameStart c = true ∧
      ∀ d ∈ rest, isNameChar d = true ∨ d = ':' := by
  cases h with
  | bare h =>
    obtain ⟨c, rest, hs, hc, hrest⟩ := exists_cons_of_isLocalName h
    exact ⟨c, rest, hs, hc, fun d hd => .inl (hrest d hd)⟩
  | @qualified label bare hlabel hbare =>
    obtain ⟨c, rest, hs, hc, hrest⟩ := exists_cons_of_isLocalName hlabel
    obtain ⟨c', rest', hs', hc', hrest'⟩ := exists_cons_of_isLocalName hbare
    refine ⟨c, rest ++ ':' :: c' :: rest', by simp [hs, hs'], hc, ?_⟩
    have hname : isNameChar c' = true := by rw [isNameChar, hc', Bool.true_or]
    exact List.forall_mem_append.2 ⟨fun d hd => .inl (hrest d hd), List.forall_mem_cons.2
      ⟨.inr rfl, List.forall_mem_cons.2 ⟨.inl hname, fun d hd => .inl (hrest' d hd)⟩⟩⟩

/-- A name is read up to a mark. -/
theorem name_append {style : NameStyle} {s : String} (h : IsName style s) {d : Char}
    (hd : d ∈ marks) (rest : List Char) :
    name style (s.toList ++ d :: rest) = some (s, d :: rest) := by
  cases h with
  | bare h =>
    cases style with
    | plain => exact simpleName_append .plain h hd rest
    | qualified =>
      have hread : localName (s.toList ++ d :: rest) = some (s, d :: rest) :=
        simpleName_append .qualified h hd rest
      rw [name, hread]
      simp only [Option.bind_eq_bind, Option.bind_some]
      split
      next h =>
        cases h
        exact absurd rfl (ne_colon_of_mem_marks hd)
      next => rfl
  | @qualified label bare hlabel hbare =>
    have hcolon : isNameChar ':' = false := by decide
    have hcs : (label ++ ":" ++ bare).toList ++ d :: rest =
        label.toList ++ ':' :: (bare.toList ++ d :: rest) := by simp
    rw [hcs, name, localName_append hlabel hcolon]
    simp only [Option.bind_eq_bind, Option.bind_some,
      localName_append hbare (isNameChar_of_mem_marks hd)]

/-- A name does not begin with a mark. -/
theorem append_ne_mark {style : NameStyle} {s : String} (h : IsName style s) {d : Char}
    (hd : d ∈ marks) (cs rest : List Char) : s.toList ++ cs ≠ d :: rest := by
  obtain ⟨c, front, hs, hc, -⟩ := h.exists_cons
  rw [hs, List.cons_append]
  rintro ⟨⟩
  exact not_mem_marks hc hd

/-! ## Attributes -/

/-- An attribute as it is written behind a name. -/
def writeAttribute (a : String × String) : List Char :=
  ' ' :: (a.1.toList ++ '=' :: '"' :: (a.2.toList ++ ['"']))

/-- The attribute has a name, and its value stands for itself. -/
structure Plain (style : NameStyle) (a : String × String) : Prop where
  name : IsName style a.1
  value : ∀ c ∈ a.2.toList, isValueChar c = true

/-- Characters that stand for themselves are a value as they are written. -/
theorem attributeValue_plain (refs : References) {cs : List Char}
    (h : ∀ c ∈ cs, isValueChar c = true) : attributeValue refs cs = some cs := by
  induction cs with
  | nil => rw [attributeValue]
  | cons c cs ih =>
    obtain ⟨hc, hcs⟩ := List.forall_mem_cons.1 h
    have hspace : (if isSpace c then ' ' else c) = c := by
      by_cases hs : isSpace c
      · simp_all [isValueChar]
      · simp [hs]
    rw [attributeValue, ih hcs]
    · show some ((if isSpace c then ' ' else c) :: cs) = _
      rw [hspace]
    · rintro rfl
      cases hc
    · rintro rfl
      cases hc

theorem rawUntil_append {cs : List Char} (h : ∀ c ∈ cs, isValueChar c = true) (rest : List Char) :
    rawUntil '"' (cs ++ '"' :: rest) = some (cs, rest) := by
  have hall : ∀ c ∈ cs, (c != '"' && isLegal c) = true := by
    intro c hc
    have := h c hc
    simp_all [isValueChar]
  have hread : (cs ++ '"' :: rest).takeWhile (fun c => c != '"' && isLegal c) = cs := by
    rw [List.takeWhile_append_of_pos hall, List.takeWhile_cons_of_neg (by decide), List.append_nil]
  simp only [rawUntil, hread, List.drop_left, if_true]

theorem mem_marks_of_isSpace {c : Char} (h : isSpace c = true) : c ∈ marks := by
  simp only [isSpace, Bool.or_eq_true, beq_iff_eq] at h
  rcases h with ((rfl | rfl) | rfl) | rfl <;> decide

/-- No space is skipped in front of a name. -/
theorem skipSpace_append {style : NameStyle} {s : String} (h : IsName style s) (cs : List Char) :
    skipSpace (s.toList ++ cs) = s.toList ++ cs := by
  obtain ⟨c, front, hs, hc, -⟩ := h.exists_cons
  rw [hs, List.cons_append]
  exact List.dropWhile_cons_of_neg fun hspace => not_mem_marks hc (mem_marks_of_isSpace hspace)

/-- The attributes of a tag are read up to its end. -/
theorem writtenAttributes_eq (setting : Setting) {attributes : List (String × String)}
    (h : ∀ a ∈ attributes, Plain setting.style a) (rest : List Char) {fuel : Nat}
    (hfuel : attributes.length < fuel) :
    writtenAttributes setting fuel (attributes.flatMap writeAttribute ++ '>' :: rest) =
      some (attributes.map fun a => (a.1, a.2.toList), false, rest) := by
  induction attributes generalizing fuel with
  | nil =>
    obtain ⟨fuel, rfl⟩ := Nat.exists_eq_succ_of_ne_zero (Nat.ne_of_gt hfuel)
    rfl
  | cons a attributes ih =>
    obtain ⟨⟨hname, hvalue⟩, hattributes⟩ := List.forall_mem_cons.1 h
    obtain ⟨fuel, rfl⟩ := Nat.exists_eq_succ_of_ne_zero (Nat.ne_of_gt (Nat.zero_lt_of_lt hfuel))
    have hmore := ih hattributes (Nat.lt_of_succ_lt_succ hfuel)
    let more := attributes.flatMap writeAttribute ++ '>' :: rest
    have hcs : (a :: attributes).flatMap writeAttribute ++ '>' :: rest =
        ' ' :: (a.1.toList ++ '=' :: '"' :: (a.2.toList ++ '"' :: more)) := by
      simp [writeAttribute, more]
    have hbody : skipSpace (' ' :: (a.1.toList ++ '=' :: '"' :: (a.2.toList ++ '"' :: more))) =
        a.1.toList ++ '=' :: '"' :: (a.2.toList ++ '"' :: more) := skipSpace_append hname _
    have hread := name_append hname (show '=' ∈ marks by decide)
      ('"' :: (a.2.toList ++ '"' :: more))
    rw [hcs, writtenAttributes, hbody]
    split
    next h => exact absurd h (append_ne_mark hname (by decide) _ _)
    next h => exact absurd h (append_ne_mark hname (by decide) _ _)
    next body _ _ =>
      have hquoted : quoted ('"' :: (a.2.toList ++ '"' :: more)) = some (a.2.toList, more) :=
        rawUntil_append hvalue more
      have hequals : after? "=" (skipSpace ('=' :: '"' :: (a.2.toList ++ '"' :: more))) =
          some ('"' :: (a.2.toList ++ '"' :: more)) := rfl
      have hquote : skipSpace ('"' :: (a.2.toList ++ '"' :: more)) =
          '"' :: (a.2.toList ++ '"' :: more) := rfl
      simp only [List.head?_cons, Option.any_some, show isSpace ' ' = true from rfl, if_true, hread,
        Option.bind_eq_bind, Option.bind_some, hequals, hquote, hquoted,
        attributeValue_plain _ hvalue, more, hmore, List.map_cons]

/-! ## Tags -/

/-- A tag that opens an element. -/
def openTag (tag : String) (attributes : List (String × String)) : List Char :=
  '<' :: (tag.toList ++ (attributes.flatMap writeAttribute ++ ['>']))

/-- A tag that closes an element. -/
def closeTag (tag : String) : List Char := '<' :: '/' :: (tag.toList ++ ['>'])

/-- An element around its written contents. -/
def wrap (tag : String) (attributes : List (String × String)) (inner : List Char) : List Char :=
  openTag tag attributes ++ (inner ++ closeTag tag)

/-- The name and the attributes of an element stand for themselves, and no attribute is given
twice. -/
structure PlainTag (style : NameStyle) (tag : String) (attributes : List (String × String)) :
    Prop where
  name : IsName style tag
  plain : ∀ a ∈ attributes, Plain style a
  distinct : (attributes.map Prod.fst).Nodup

theorem length_le_flatMap_writeAttribute (attributes : List (String × String)) :
    attributes.length ≤ (attributes.flatMap writeAttribute).length := by
  induction attributes with
  | nil => exact Nat.le_refl 0
  | cons a attributes ih =>
    rw [List.flatMap_cons, List.length_append, List.length_cons]
    have hone : 1 ≤ (writeAttribute a).length := Nat.succ_le_of_lt (Nat.succ_pos _)
    omega

section

variable {setting : Setting} {tag : String} {attributes : List (String × String)}

theorem openingTag_eq (hrules : setting.rules = []) (h : PlainTag setting.style tag attributes)
    (rest : List Char) :
    openingTag setting (tag.toList ++ (attributes.flatMap writeAttribute ++ '>' :: rest)) =
      some (.opening tag attributes false, rest) := by
  let after := attributes.flatMap writeAttribute ++ '>' :: rest
  obtain ⟨d, more, hd, hafter⟩ : ∃ d more, d ∈ marks ∧ after = d :: more := by
    cases hattributes : attributes with
    | nil => exact ⟨'>', rest, by decide, by simp [after, hattributes]⟩
    | cons a tail =>
      exact ⟨' ', _, by decide, by simp only [after, hattributes]; rfl⟩
  have hname : name setting.style (tag.toList ++ after) = some (tag, after) := by
    rw [hafter]
    exact name_append h.name hd more
  have hfuel : attributes.length < after.length + 1 := by
    have := length_le_flatMap_writeAttribute attributes
    simp only [after, List.length_append]
    omega
  have hwritten : writtenAttributes setting (after.length + 1) after =
      some (attributes.map fun a => (a.1, a.2.toList), false, rest) :=
    writtenAttributes_eq setting h.plain rest hfuel
  have hkeys :
      ((attributes.map fun a => (a.1, a.2.toList)).map (·.1)) = attributes.map Prod.fst := by
    simp [Function.comp_def]
  have hgiven : elementAttributes setting.rules tag
      (attributes.map fun a => (a.1, a.2.toList)) = attributes := by
    simp [hrules, elementAttributes, defaultAttributes, isTextAttribute, typedValue,
      Function.comp_def]
  show openingTag setting (tag.toList ++ after) = _
  simp only [openingTag, hname, Option.bind_eq_bind, Option.bind_some, hwritten, hkeys, hgiven,
    if_pos h.distinct]

theorem closingTag_eq {style : NameStyle} (h : IsName style tag) (rest : List Char) :
    closingTag style (tag.toList ++ '>' :: rest) = some (.closing tag, rest) := by
  have hname := name_append h (show '>' ∈ marks by decide) rest
  have hend : after? ">" (skipSpace ('>' :: rest)) = some rest := rfl
  simp only [closingTag, hname, Option.bind_eq_bind, Option.bind_some, hend]

/-! ## Pieces -/

theorem piece_openTag (hrules : setting.rules = []) (h : PlainTag setting.style tag attributes)
    (rest : List Char) :
    piece setting (openTag tag attributes ++ rest) =
      some (.opening tag attributes false, rest) := by
  have hcs : openTag tag attributes ++ rest =
      '<' :: (tag.toList ++ (attributes.flatMap writeAttribute ++ '>' :: rest)) := by
    simp [openTag]
  rw [hcs, piece]
  · exact openingTag_eq hrules h rest
  · exact append_ne_mark h.name (by decide) _
  · exact append_ne_mark h.name (by decide) _
  · exact fun _ => append_ne_mark h.name (by decide) _ _
  · exact append_ne_mark h.name (by decide) _

theorem piece_closeTag (h : IsName setting.style tag) (rest : List Char) :
    piece setting (closeTag tag ++ rest) = some (.closing tag, rest) := by
  have hcs : closeTag tag ++ rest = '<' :: '/' :: (tag.toList ++ '>' :: rest) := by
    simp [closeTag]
  rw [hcs, piece]
  exact closingTag_eq h rest

theorem hasNoSectionEnd_of_not_mem {cs : List Char} (h : '>' ∉ cs) : hasNoSectionEnd cs = true := by
  fun_induction hasNoSectionEnd cs with
  | case1 => simp at h
  | case2 c cs _ ih => exact ih fun hmem => h (List.mem_cons_of_mem _ hmem)
  | case3 => rfl

/-- Characters that stand for themselves are one piece up to the next mark. -/
theorem piece_chars (setting : Setting) {cs rest : List Char} (hne : cs ≠ [])
    (h : ∀ c ∈ cs, isTextChar c = true) (hrest : ∃ c ∈ rest.head?, c = '<' ∨ c = '&') :
    piece setting (cs ++ rest) = some (.chars cs, rest) := by
  obtain ⟨d, hd, hmark⟩ := hrest
  obtain ⟨tail, rfl⟩ := List.head?_eq_some_iff.1 hd
  have hplain : ∀ c ∈ cs, c ≠ '<' ∧ c ≠ '&' ∧ c ≠ '>' ∧ isLegal c = true := by
    intro c hc
    have := h c hc
    simp_all [isTextChar, isKept]
  have hrun : (cs ++ d :: tail).takeWhile (fun c => c != '<' && c != '&') = cs := by
    have hall : ∀ c ∈ cs, (c != '<' && c != '&') = true := by
      intro c hc
      obtain ⟨hless, hamp, -⟩ := hplain c hc
      simp [hless, hamp]
    rw [List.takeWhile_append_of_pos hall, List.takeWhile_cons_of_neg, List.append_nil]
    rcases hmark with rfl | rfl <;> decide
  have hlegal : cs.all isLegal = true := List.all_eq_true.2 fun c hc => (hplain c hc).2.2.2
  have hsection : hasNoSectionEnd cs = true :=
    hasNoSectionEnd_of_not_mem fun hmem => (hplain '>' hmem).2.2.1 rfl
  obtain ⟨c, cs, rfl⟩ := List.exists_cons_of_ne_nil hne
  obtain ⟨hless, hamp, -⟩ := hplain c List.mem_cons_self
  have hfirst : ∀ e ∈ ['<', '&'], ∀ after, c :: (cs ++ d :: tail) ≠ e :: after := by
    rintro e he after ⟨⟩
    simp_all
  rw [List.cons_append] at hrun ⊢
  rw [piece]
  · have hpresent : (!(c :: cs).isEmpty) = true := rfl
    simp only [plainChars, hrun, hpresent, hlegal, hsection, Bool.and_self, if_true]
    rw [← List.cons_append, List.drop_left]
  · exact fun _ => hfirst '<' (by decide) _
  · exact fun _ => hfirst '<' (by decide) _
  · exact fun _ => hfirst '<' (by decide) _
  · exact fun _ => hfirst '<' (by decide) _
  · exact hfirst '<' (by decide)
  · exact hfirst '&' (by decide)

/-! ## Contents -/

/-- From some characters on, nodes are read and other characters are left.  No more pieces are read
than characters, and these may stand in a document. -/
structure Reads (setting : Setting) (cs : List Char) (ns : List Node) (rest : List Char) :
    Prop where
  steps : ∃ cost, cost + rest.length ≤ cs.length ∧ ∀ fuel top below,
    fill setting (fuel + cost) top below cs =
      fill setting fuel { top with contents := ns.reverse ++ top.contents } below rest
  kept : ∀ c ∈ cs, isKept c = true ∨ c ∈ rest

theorem Reads.refl (setting : Setting) (cs : List Char) : Reads setting cs [] cs where
  steps := ⟨0, by simp, fun _ _ _ => rfl⟩
  kept := fun _ => .inr

theorem Reads.trans {cs middle rest : List Char} {ns more : List Node}
    (h : Reads setting cs ns middle) (h' : Reads setting middle more rest) :
    Reads setting cs (ns ++ more) rest where
  steps := by
    obtain ⟨cost, hcost, hfill⟩ := h.steps
    obtain ⟨cost', hcost', hfill'⟩ := h'.steps
    refine ⟨cost' + cost, by omega, fun fuel top below => ?_⟩
    rw [← Nat.add_assoc, hfill, hfill', List.reverse_append, List.append_assoc]
  kept := fun c hc => (h.kept c hc).elim .inl (h'.kept c)

/-- A piece of text is read as one node. -/
theorem Reads.chars {text rest : List Char} (hne : text ≠ [])
    (h : ∀ c ∈ text, isTextChar c = true) (hrest : ∃ c ∈ rest.head?, c = '<' ∨ c = '&') :
    Reads setting (text ++ rest) [.text (String.ofList text)] rest where
  steps := by
    refine ⟨1, ?_, fun fuel top below => ?_⟩
    · have := List.length_pos_iff.2 hne
      rw [List.length_append]
      omega
    · rw [fill, piece_chars setting hne h hrest]
      rfl
  kept := by
    intro c hc
    refine (List.mem_append.1 hc).imp_left fun hc => ?_
    exact (Bool.and_eq_true_iff.1 (h c hc)).1

theorem IsName.isKept {style : NameStyle} (h : IsName style tag) :
    ∀ c ∈ tag.toList, isKept c = true := by
  obtain ⟨c, cs, htag, hc, hcs⟩ := h.exists_cons
  have hname : isNameChar c = true := by rw [isNameChar, hc, Bool.true_or]
  rw [htag]
  refine List.forall_mem_cons.2 ⟨isKept_of_isNameChar hname, fun d hd => ?_⟩
  rcases hcs d hd with hd | rfl
  · exact isKept_of_isNameChar hd
  · decide

theorem isKept_of_mem_openTag {style : NameStyle} (h : PlainTag style tag attributes) :
    ∀ c ∈ openTag tag attributes, isKept c = true := by
  have hmark (d : Char) (hd : isKept d = true) : ∀ c ∈ [d], isKept c = true :=
    List.forall_mem_singleton.2 hd
  have hattribute : ∀ a ∈ attributes, ∀ c ∈ writeAttribute a, isKept c = true := by
    intro a ha
    refine List.forall_mem_cons.2 ⟨by decide, List.forall_mem_append.2
      ⟨(h.plain a ha).name.isKept, ?_⟩⟩
    refine List.forall_mem_cons.2 ⟨by decide, List.forall_mem_cons.2 ⟨by decide, ?_⟩⟩
    exact List.forall_mem_append.2
      ⟨fun c hc => isKept_of_isValueChar ((h.plain a ha).value c hc), hmark '"' (by decide)⟩
  refine List.forall_mem_cons.2 ⟨by decide, List.forall_mem_append.2
    ⟨h.name.isKept,
      List.forall_mem_append.2 ⟨fun c hc => ?_, hmark '>' (by decide)⟩⟩⟩
  obtain ⟨a, ha, hc⟩ := List.mem_flatMap.1 hc
  exact hattribute a ha c hc

theorem isKept_of_mem_closeTag {style : NameStyle} (h : IsName style tag) :
    ∀ c ∈ closeTag tag, isKept c = true := by
  refine List.forall_mem_cons.2 ⟨by decide, List.forall_mem_cons.2 ⟨by decide, ?_⟩⟩
  refine List.forall_mem_append.2 ⟨h.isKept, List.forall_mem_singleton.2 (by decide)⟩

/-- Tags around contents are read as an element. -/
theorem Reads.element {inner rest : List Char} {ns : List Node} (hrules : setting.rules = [])
    (h : PlainTag setting.style tag attributes)
    (hinner : Reads setting (inner ++ (closeTag tag ++ rest)) ns (closeTag tag ++ rest)) :
    Reads setting (wrap tag attributes inner ++ rest) [.element tag attributes [] ns] rest := by
  have hwrap : wrap tag attributes inner ++ rest =
      openTag tag attributes ++ (inner ++ (closeTag tag ++ rest)) := by simp [wrap]
  rw [hwrap]
  refine ⟨?_, fun c hc => ?_⟩
  · obtain ⟨cost, hcost, hfill⟩ := hinner.steps
    refine ⟨1 + (cost + 1), ?_, fun fuel top below => ?_⟩
    · simp only [openTag, closeTag, List.length_append, List.length_cons] at hcost ⊢
      omega
    · have hopen := piece_openTag hrules h (inner ++ (closeTag tag ++ rest))
      have hclose := piece_closeTag h.name rest
      have hfuel : fuel + (1 + (cost + 1)) = (fuel + 1 + cost) + 1 := by omega
      rw [hfuel, fill, hopen]
      show fill setting (fuel + 1 + cost) ⟨tag, attributes, []⟩ (top :: below) _ = _
      rw [hfill, fill, hclose]
      simp [OpenElement.add, OpenElement.close]
  · rcases List.mem_append.1 hc with hc | hc
    · exact .inl (isKept_of_mem_openTag h c hc)
    · refine (hinner.kept c hc).elim .inl fun hc => ?_
      exact (List.mem_append.1 hc).imp_left (isKept_of_mem_closeTag h.name c)

/-! ## Documents -/

theorem rootElement_eq {body rest : List Char} {ns : List Node} (hrules : setting.rules = [])
    (h : PlainTag setting.style tag attributes)
    (hbody : Reads setting body ns (closeTag tag ++ rest)) :
    rootElement setting (openTag tag attributes ++ body) =
      some (.element tag attributes [] ns, rest) := by
  obtain ⟨cost, hcost, hfill⟩ := hbody.steps
  obtain ⟨fuel, hfuel⟩ : ∃ fuel, body.length + 1 = fuel + 1 + cost := by
    exact ⟨body.length - cost, by omega⟩
  have hcs : openTag tag attributes ++ body =
      '<' :: (tag.toList ++ (attributes.flatMap writeAttribute ++ '>' :: body)) := by
    simp [openTag]
  have hclose := piece_closeTag h.name rest
  rw [hcs, rootElement, openingTag_eq hrules h body]
  show fill setting (body.length + 1) ⟨tag, attributes, []⟩ [] body = _
  rw [hfuel, hfill, fill, hclose]
  simp [OpenElement.close]

/-- Nothing stands before the first element of a document that begins with its tag. -/
theorem prolog_openTag {style : NameStyle} (h : IsName style tag)
    (attributes : List (String × String)) (body : List Char) :
    prolog style (openTag tag attributes ++ body) =
      .ok (⟨[], false, false⟩, openTag tag attributes ++ body) := by
  let after := attributes.flatMap writeAttribute ++ '>' :: body
  have hcs : openTag tag attributes ++ body = '<' :: (tag.toList ++ after) := by
    simp [openTag, after]
  have hmark (d : Char) (hd : d ∈ marks) (rest : List Char) : tag.toList ++ after ≠ d :: rest :=
    append_ne_mark h hd after rest
  have hversion : versionDeclaration ('<' :: (tag.toList ++ after)) =
      some (false, '<' :: (tag.toList ++ after)) := by
    have hnone : after? "<?xml" ('<' :: (tag.toList ++ after)) = none := by
      unfold after?
      rw [if_neg]
      intro hprefix
      obtain ⟨rest, hrest⟩ := List.isPrefixOf_iff_prefix.1 hprefix
      exact hmark '?' (by decide) _ (List.cons.inj hrest).2.symm
    rw [versionDeclaration, hnone]
  have hskip : skipSpace ('<' :: (tag.toList ++ after)) = '<' :: (tag.toList ++ after) := rfl
  rw [hcs, prolog, hversion]
  show beforeElement style (('<' :: (tag.toList ++ after)).length + 1) false ⟨[], false, false⟩
    ('<' :: (tag.toList ++ after)) = _
  rw [beforeElement, hskip]
  split
  next h => exact absurd (List.cons.inj h).2 (hmark '?' (by decide) _)
  next h => exact absurd (List.cons.inj h).2 (hmark '!' (by decide) _)
  next h => exact absurd (List.cons.inj h).2 (hmark '!' (by decide) _)
  next => rfl

/-- What is read as one element may stand in a document. -/
theorem isKept_of_mem_wrap {inner : List Char} {ns : List Node}
    (h : PlainTag setting.style tag attributes)
    (hinner : Reads setting (inner ++ closeTag tag) ns (closeTag tag)) :
    ∀ c ∈ wrap tag attributes inner, isKept c = true := by
  refine List.forall_mem_append.2 ⟨isKept_of_mem_openTag h, fun c hc => ?_⟩
  exact (hinner.kept c hc).elim id (isKept_of_mem_closeTag h.name c)

/-- A document of one element is read as this element. -/
theorem readDocument_wrap {style : NameStyle} {inner : List Char} {ns : List Node}
    (h : PlainTag style tag attributes)
    (hinner : Reads ⟨style, [], ⟨style, false⟩⟩ (inner ++ closeTag tag) ns (closeTag tag)) :
    readDocument style (String.ofList (wrap tag attributes inner)) =
      .ok (.element tag attributes [] ns) := by
  let body := inner ++ closeTag tag
  have hreturn : '\r' ∉ openTag tag attributes ++ body := by
    intro hmem
    cases isKept_of_mem_wrap h hinner '\r' hmem
  have hmark : afterOrderMark (openTag tag attributes ++ body) = openTag tag attributes ++ body :=
    rfl
  have hroot : rootElement ⟨style, [], ⟨style, false⟩⟩ (openTag tag attributes ++ body) =
      some (.element tag attributes [] ns, []) :=
    rootElement_eq rfl h (by rwa [List.append_nil])
  have hlenient : Prolog.lenient ⟨[], false, false⟩ = false := rfl
  have hepilog : isEpilog style (([] : List Char).length + 1) [] = true := rfl
  show readDocument style (String.ofList (openTag tag attributes ++ body)) = _
  simp only [readDocument, String.toList_ofList, hmark, Text.unifyLineEnds_of_not_mem hreturn,
    prolog_openTag h.name attributes body, bind, Except.bind, hlenient, hroot, hepilog,
    if_true]

end

end Reckoner.Xml
