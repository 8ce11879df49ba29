import Reckoner.Proofs.Rates.Bulletin
import Reckoner.Proofs.Rates.Price

/-!
# Published bulletins

A publication is a bulletin before it is written: a date and postings, each with a code, a number of
units and a figure, and the spaces between the elements.  Written as a document it is read back as a
bulletin with the same date and one quote for each posting, in order (`Publication.read_text`).

A figure denotes a rational number exactly, whatever zeros it begins and ends with
(`Price.parse_figure`).  If all prices of single units fit, the table has the price of the last
posting of each code, the codes in upper case, and nothing else (`Publication.reads_back`).
-/

namespace Reckoner

open Text Token

/-! ## Letters and digits -/

theorem toNat_lt_of_isAlphanum {c : Char} (h : c.isAlphanum = true) : c.toNat < 128 := by
  have hends : 'Z'.val.toNat < 128 ∧ 'z'.val.toNat < 128 ∧ '9'.val.toNat < 128 := by decide
  have hranges : (decide ('A'.val ≤ c.val ∧ c.val ≤ 'Z'.val) ||
      (decide ('a'.val ≤ c.val) && decide (c.val ≤ 'z'.val)) ||
      (decide ('0'.val ≤ c.val) && decide (c.val ≤ '9'.val))) = true := h
  simp only [Bool.or_eq_true, Bool.and_eq_true, decide_eq_true_eq,
    UInt32.le_iff_toNat_le] at hranges
  show c.val.toNat < 128
  omega

theorem forall_alphanum {p : Char → Prop} [DecidablePred p]
    (h : ∀ n < 128, (Char.ofNat n).isAlphanum = true → p (Char.ofNat n)) {c : Char}
    (hc : c.isAlphanum = true) : p c := by
  rw [← Char.ofNat_toNat c] at hc ⊢
  exact h c.toNat (toNat_lt_of_isAlphanum (by rwa [Char.ofNat_toNat] at hc)) hc

/-- The upper case of a text of letters and digits is taken letter by letter. -/
theorem upper_eq_toUpper {s : String} (h : ∀ c ∈ s.toList, c.isAlphanum = true) :
    upper s = s.toUpper := by
  have hchar : ∀ c ∈ s.toList, upperChar c = [c.toUpper] := fun c hc =>
    forall_alphanum (p := fun c => upperChar c = [c.toUpper]) (by decide) (h c hc)
  rw [upper, String.toUpper, ← String.toList_inj, String.toList_ofList, String.toList_map,
    List.map_eq_flatMap]
  exact List.flatMap_congr hchar

theorem trim_alphanum {s : String} (h : ∀ c ∈ s.toList, c.isAlphanum = true) : trim s = s := by
  have hblank : ∀ c ∈ s.toList, isBlank c = false := fun c hc =>
    forall_alphanum (p := fun c => isBlank c = false) (by decide) (h c hc)
  rw [trim, dropAround_eq_self hblank, String.ofList_toList]

/-! ## Spaces between elements -/

/-- The spaces that may stand between elements. -/
def layoutChars : List Char := [' ', '\t', '\n']

/-- What spaces between elements are read as. -/
def gapNodes : List Char → List Xml.Node
  | [] => []
  | gap => [.text (String.ofList gap)]

theorem reads_gap (setting : Xml.Setting) {gap rest : List Char} (h : ∀ c ∈ gap, c ∈ layoutChars)
    (hrest : ∃ c ∈ rest.head?, c = '<' ∨ c = '&') :
    Xml.Reads setting (gap ++ rest) (gapNodes gap) rest := by
  cases gap with
  | nil => exact .refl setting rest
  | cons c gap =>
    have htext : ∀ d ∈ layoutChars, Xml.isTextChar d = true := forall_mem_of_all (by decide)
    exact .chars (List.cons_ne_nil _ _) (fun d hd => htext d (h d hd)) hrest

theorem addContents_gap (lists : List String) (parts : Datum.Parts) (gap : List Char) :
    Datum.addContents lists parts (gapNodes gap) = parts := by
  cases gap with
  | nil => rw [gapNodes, Datum.addContents]
  | cons c gap => rw [gapNodes, Datum.addContents, Datum.addContents]; exact List.cons_ne_nil _ _

theorem isBlank_of_mem_gapNodes {gap : List Char} (h : ∀ c ∈ gap, c ∈ layoutChars) {s : String}
    (hs : .text s ∈ gapNodes gap) : ∀ c ∈ s.toList, isBlank c = true := by
  have hblank : ∀ c ∈ layoutChars, isBlank c = true := forall_mem_of_all (by decide)
  cases gap with
  | nil => cases hs
  | cons d gap =>
    cases List.mem_singleton.1 hs
    rw [String.toList_ofList]
    exact fun c hc => hblank c (h c hc)

/-! ## Postings -/

/-- What is published about one currency: the price of some units of it, and the spaces in front of
this.  The price fits a ratio, and what is written can be read: the digits of the price and the
number of units are not too long. -/
structure Posting where
  gap : List Char
  code : String
  unit : List Char
  figure : Figure
  gap_layout : ∀ c ∈ gap, c ∈ layoutChars := by exact Token.forall_mem_of_all (by decide)
  code_alphanum : ∀ c ∈ code.toList, c.isAlphanum = true := by
    exact Token.forall_mem_of_all (by decide)
  unit_digits : Digits unit := by decide
  unit_pos : 0 < ofAsciiDigits unit := by decide
  unit_short : ofAsciiDigits unit < 10 ^ digitLimit := by decide +kernel
  figure_short : figure.whole.length + figure.decimals.length ≤ digitLimit := by decide +kernel
  num_fits : FitsInt64 figure.value.num := by decide +kernel
  den_fits : FitsNat64 figure.value.den := by decide +kernel

namespace Posting

/-- The number of units. -/
def units (p : Posting) : Nat := ofAsciiDigits p.unit

/-- The code in upper case. -/
def key (p : Posting) : String := p.code.toUpper

/-- The price of a single unit. -/
def single (p : Posting) : ℚ := p.figure.value / p.units

/-- The number of units and the price of a single one fit their words. -/
structure Fits (p : Posting) : Prop where
  units : FitsInt64 p.units
  num : FitsInt64 p.single.num
  den : FitsNat64 p.single.den

instance (p : Posting) : Decidable p.Fits :=
  decidable_of_iff (FitsInt64 p.units ∧ FitsInt64 p.single.num ∧ FitsNat64 p.single.den)
    ⟨fun ⟨units, num, den⟩ => ⟨units, num, den⟩, fun h => ⟨h.units, h.num, h.den⟩⟩

/-- The price as a ratio. -/
def price (p : Posting) : Ratio :=
  ⟨p.figure.value.num, p.figure.value.den, p.figure.value.den_pos, p.figure.value.reduced,
    p.num_fits, p.den_fits⟩

/-- The quote that a posting is read as. -/
def quote (p : Posting) : Quote := ⟨p.key, p.units, p.price⟩

def attributes (p : Posting) : List (String × String) :=
  [("unit", String.ofList p.unit), ("curr", p.code)]

/-- The characters of a posting. -/
def chars (p : Posting) : List Char := p.gap ++ Xml.wrap "Rate" p.attributes p.figure.chars

def element (p : Posting) : Xml.Node :=
  .element "Rate" p.attributes [] [.text (String.ofList p.figure.chars)]

/-- What a posting is read as. -/
def nodes (p : Posting) : List Xml.Node := gapNodes p.gap ++ [p.element]

/-- The data of a posting, part by part. -/
def parts (p : Posting) : Datum.Parts :=
  [("@unit", .text (String.ofList p.unit)), ("@curr", .text p.code),
    ("#text", .text (String.ofList p.figure.chars))]

theorem unit_ne_nil (p : Posting) : p.unit ≠ [] := by
  intro h
  have := p.unit_pos
  rw [h] at this
  exact absurd this (by decide)

theorem figure_ne_nil (p : Posting) : p.figure.chars ≠ [] :=
  List.append_ne_nil_of_left_ne_nil p.figure.whole_ne_nil _

theorem plainTag {style : Xml.NameStyle} (p : Posting) :
    Xml.PlainTag style "Rate" p.attributes where
  name := .bare (by decide)
  plain := by
    have hunit : Xml.isLocalName "unit".toList = true := by decide
    have hcurr : Xml.isLocalName "curr".toList = true := by decide
    refine List.forall_mem_cons.2 ⟨⟨.bare hunit, ?_⟩, List.forall_mem_singleton.2 ⟨.bare hcurr, ?_⟩⟩
    · show ∀ c ∈ (String.ofList p.unit).toList, Xml.isValueChar c = true
      rw [String.toList_ofList]
      exact Document.forall_mem_digits p.unit_digits (by decide)
    · exact fun c hc => forall_alphanum (p := fun c => Xml.isValueChar c = true)
        (by decide) (p.code_alphanum c hc)
  distinct := by
    show ["unit", "curr"].Nodup
    decide

theorem reads {setting : Xml.Setting} (hrules : setting.rules = []) (p : Posting)
    (rest : List Char) : Xml.Reads setting (p.chars ++ rest) p.nodes rest := by
  have hfigure : Xml.Reads setting (p.figure.chars ++ (Xml.closeTag "Rate" ++ rest))
      [.text (String.ofList p.figure.chars)] (Xml.closeTag "Rate" ++ rest) :=
    .chars p.figure_ne_nil (p.figure.forall_mem_chars (by decide)) ⟨'<', rfl, .inl rfl⟩
  have hgap : Xml.Reads setting
      (p.gap ++ (Xml.wrap "Rate" p.attributes p.figure.chars ++ rest)) (gapNodes p.gap)
      (Xml.wrap "Rate" p.attributes p.figure.chars ++ rest) :=
    reads_gap setting p.gap_layout ⟨'<', rfl, .inl rfl⟩
  rw [chars, List.append_assoc]
  exact hgap.trans (.element hrules p.plainTag hfigure)

theorem ofElement_element (p : Posting) :
    Datum.ofElement ["Rate"] p.element = .record p.parts := by
  have htrim : trim (String.ofList p.figure.chars) = String.ofList p.figure.chars := by
    rw [trim, String.toList_ofList, dropAround_eq_self (p.figure.forall_mem_chars (by decide))]
  have hpresent : (String.ofList p.figure.chars).isEmpty = false := by
    have := p.figure_ne_nil
    simpa [String.isEmpty_iff] using this
  have htext : Datum.directText [.text (String.ofList p.figure.chars)] =
      String.ofList p.figure.chars := by
    simp [Datum.directText, Xml.Node.text?, htrim]
  rw [element, Datum.ofElement, htext, Datum.addContents, Datum.addContents]
  simp only [Datum.assemble, hpresent, parts]
  rfl

theorem check_parts (p : Posting) : Quote.check (.record p.parts) = .ok p.quote := by
  have hcode : Quote.checkCode (.text p.code) = .ok p.key := by
    rw [key, ← upper_eq_toUpper p.code_alphanum]
    show Except.ok (upper (trim p.code)) = _
    rw [trim_alphanum p.code_alphanum]
  have hunit : Quote.checkUnit (.text (String.ofList p.unit)) = .ok (p.units : Int) := by
    have hread := Document.readCount_digits p.unit_ne_nil p.unit_digits p.unit_short
    have hpos : ¬((p.units : Int) ≤ 0) := by
      have := p.unit_pos
      unfold units
      omega
    rw [Quote.checkUnit, Datum.asInteger, hread]
    show (if (p.units : Int) ≤ 0 then _ else _) = _
    rw [if_neg hpos]
    rfl
  have hprice : Quote.checkPrice (.text (String.ofList p.figure.chars)) = .ok p.price := by
    have hvalue : Ratio.ofRat p.figure.value = .ok p.price := Ratio.ofRat_toRat p.price
    rw [Quote.checkPrice, Price.parse_figure p.figure p.figure_short, hvalue]
    rfl
  have hparts : Datum.parts (.record p.parts) = .ok p.parts := rfl
  have hcode : Datum.required p.parts "@curr" "currency" Quote.checkCode = .ok p.key :=
    Datum.required_eq rfl hcode
  have hunit : Datum.optional p.parts "@unit" "unit" 1 Quote.checkUnit = .ok (p.units : Int) :=
    Datum.optional_eq rfl hunit
  have hprice : Datum.required p.parts "#text" "value" Quote.checkPrice = .ok p.price :=
    Datum.required_eq rfl hprice
  simp only [Quote.check, hparts, bind, Except.bind, hcode, hunit, hprice]
  rfl

end Posting

/-! ## Publications -/

/-- A bulletin before it is written: its date, its postings, and the spaces in front of the other
tags: in front of the day, at its end, and at the end of the document. -/
structure Publication where
  date : String
  postings : List Posting
  top : List Char
  foot : List Char
  bottom : List Char
  date_chars : ∀ c ∈ date.toList, c ∈ '-' :: digits := by exact Token.forall_mem_of_all (by decide)
  top_layout : ∀ c ∈ top, c ∈ layoutChars := by exact Token.forall_mem_of_all (by decide)
  foot_layout : ∀ c ∈ foot, c ∈ layoutChars := by exact Token.forall_mem_of_all (by decide)
  bottom_layout : ∀ c ∈ bottom, c ∈ layoutChars := by exact Token.forall_mem_of_all (by decide)

namespace Publication

/-- The characters of the day. -/
def dayChars (p : Publication) : List Char :=
  Xml.wrap "Day" [("date", p.date)] (p.postings.flatMap Posting.chars ++ p.foot)

/-- The document of a publication. -/
def text (p : Publication) : String :=
  String.ofList (Xml.wrap "MNBCurrentExchangeRates" [] (p.top ++ (p.dayChars ++ p.bottom)))

/-- The bulletin that a publication is read as. -/
def bulletin (p : Publication) : Bulletin := ⟨p.date, p.postings.map Posting.quote⟩

/-- What stands in the day. -/
def dayNodes (p : Publication) : List Xml.Node :=
  p.postings.flatMap Posting.nodes ++ gapNodes p.foot

def day (p : Publication) : Xml.Node := .element "Day" [("date", p.date)] [] p.dayNodes

/-- What stands in the document. -/
def rootNodes (p : Publication) : List Xml.Node := gapNodes p.top ++ ([p.day] ++ gapNodes p.bottom)

/-- The data of the day, part by part. -/
def dayParts (p : Publication) : Datum.Parts :=
  ("@date", .text p.date) ::
    if p.postings.isEmpty then []
    else [("Rate", .list (p.postings.map fun q => .record q.parts))]

theorem plainTag_day {style : Xml.NameStyle} (p : Publication) :
    Xml.PlainTag style "Day" [("date", p.date)] where
  name := .bare (by decide)
  plain := by
    have hdate : Xml.isLocalName "date".toList = true := by decide
    have hvalue : ∀ c ∈ '-' :: digits, Xml.isValueChar c = true := forall_mem_of_all (by decide)
    exact List.forall_mem_singleton.2 ⟨.bare hdate, fun c hc => hvalue c (p.date_chars c hc)⟩
  distinct := List.pairwise_singleton _ _

theorem plainTag_root {style : Xml.NameStyle} :
    Xml.PlainTag style "MNBCurrentExchangeRates" [] where
  name := .bare (by decide)
  plain := List.forall_mem_nil _
  distinct := List.nodup_nil

theorem reads_postings {setting : Xml.Setting} (hrules : setting.rules = [])
    (postings : List Posting) (rest : List Char) :
    Xml.Reads setting (postings.flatMap Posting.chars ++ rest) (postings.flatMap Posting.nodes)
      rest := by
  induction postings with
  | nil => exact .refl setting rest
  | cons q postings ih =>
    rw [List.flatMap_cons, List.flatMap_cons, List.append_assoc]
    exact (q.reads hrules _).trans ih

theorem reads_day {setting : Xml.Setting} (hrules : setting.rules = []) (p : Publication)
    (rest : List Char) : Xml.Reads setting (p.dayChars ++ rest) [p.day] rest := by
  refine .element hrules p.plainTag_day ?_
  rw [List.append_assoc]
  exact (reads_postings hrules p.postings _).trans
    (reads_gap setting p.foot_layout ⟨'<', rfl, .inl rfl⟩)

theorem reads_root {setting : Xml.Setting} (hrules : setting.rules = []) (p : Publication)
    (rest : List Char) (hrest : ∃ c ∈ rest.head?, c = '<' ∨ c = '&') :
    Xml.Reads setting (p.top ++ (p.dayChars ++ p.bottom) ++ rest) p.rootNodes rest := by
  rw [List.append_assoc, List.append_assoc]
  refine (reads_gap setting p.top_layout ⟨'<', rfl, .inl rfl⟩).trans ?_
  exact (reads_day hrules p _).trans (reads_gap setting p.bottom_layout hrest)

theorem root_text (p : Publication) :
    Document.root ⟨["Rate"], none⟩ p.text =
      .ok (.element "MNBCurrentExchangeRates" [] [] p.rootNodes) :=
  Xml.readDocument_wrap plainTag_root (reads_root rfl p _ ⟨'<', rfl, .inl rfl⟩)

/-- The characters of a publication may stand in a document. -/
theorem isKept_text (p : Publication) : ∀ c ∈ p.text.toList, Xml.isKept c = true := by
  let setting : Xml.Setting := ⟨.plain, [], ⟨.plain, false⟩⟩
  have hreads := reads_root (show setting.rules = [] from rfl) p
    (Xml.closeTag "MNBCurrentExchangeRates") ⟨'<', rfl, .inl rfl⟩
  rw [text, String.toList_ofList]
  exact Xml.isKept_of_mem_wrap plainTag_root hreads

/-! ### Data of a publication -/

theorem addContents_postings (postings : List Posting) (parts : Datum.Parts) :
    Datum.addContents ["Rate"] parts (postings.flatMap Posting.nodes) =
      (postings.map fun q => Datum.record q.parts).foldl
        (fun parts d => Datum.add ["Rate"] parts "Rate" d) parts := by
  induction postings generalizing parts with
  | nil => rw [List.flatMap_nil, Datum.addContents]; rfl
  | cons q postings ih =>
    have hadd : Datum.addContents ["Rate"] parts [q.element] =
        Datum.add ["Rate"] parts "Rate" (.record q.parts) := by
      rw [← q.ofElement_element, Posting.element, Datum.addContents_element]
    rw [List.flatMap_cons, Datum.addContents_append, Posting.nodes, Datum.addContents_append,
      addContents_gap, hadd, ih, List.map_cons, List.foldl_cons]

theorem ofElement_day (p : Publication) : Datum.ofElement ["Rate"] p.day = .record p.dayParts := by
  have hblank : Datum.directText p.dayNodes = "" := by
    refine Datum.directText_of_blank fun s hs => ?_
    rcases List.mem_append.1 hs with hs | hs
    · obtain ⟨q, hq, hs⟩ := List.mem_flatMap.1 hs
      rcases List.mem_append.1 hs with hs | hs
      · exact isBlank_of_mem_gapNodes q.gap_layout hs
      · cases List.mem_singleton.1 hs
    · exact isBlank_of_mem_gapNodes p.foot_layout hs
  have hattributes : Datum.attributeParts [("date", p.date)] [] = [("@date", .text p.date)] := rfl
  have hparts : Datum.addContents ["Rate"] [("@date", .text p.date)] p.dayNodes = p.dayParts := by
    rw [dayNodes, Datum.addContents_append, addContents_gap, addContents_postings,
      Datum.foldl_add_list rfl rfl, dayParts, List.isEmpty_map]
    cases p.postings <;> rfl
  rw [day, Datum.ofElement, hattributes, hparts, hblank]
  rfl

theorem check_dayParts (p : Publication) :
    Bulletin.checkDay (.record p.dayParts) = .ok p.bulletin := by
  have hparts : Datum.parts (.record p.dayParts) = .ok p.dayParts := rfl
  have hdate : Datum.required p.dayParts "@date" "date" Datum.asText = .ok p.date :=
    Datum.required_eq rfl rfl
  have hquotes : Datum.optional p.dayParts "Rate" "rates" [] (Datum.asList Quote.check) =
      .ok (p.postings.map Posting.quote) := by
    cases hpostings : p.postings with
    | nil =>
      rw [dayParts, hpostings]
      rfl
    | cons q postings =>
      have hlookup : p.dayParts.lookup "Rate" =
          some (.list ((q :: postings).map fun q => .record q.parts)) := by
        rw [dayParts, hpostings]
        rfl
      refine Datum.optional_eq hlookup ?_
      exact Checked.all_map (fun q _ => q.check_parts) 0
  simp only [Bulletin.checkDay, hparts, bind, Except.bind, hdate, hquotes]
  rfl

theorem ofRoot_rootNodes (p : Publication) :
    Datum.ofRoot ["Rate"] (.element "MNBCurrentExchangeRates" [] [] p.rootNodes) =
      .record [("MNBCurrentExchangeRates", .record [("Day", .record p.dayParts)])] := by
  have hblank : Datum.directText p.rootNodes = "" := by
    refine Datum.directText_of_blank fun s hs => ?_
    rcases List.mem_append.1 hs with hs | hs
    · exact isBlank_of_mem_gapNodes p.top_layout hs
    · rcases List.mem_append.1 hs with hs | hs
      · cases List.mem_singleton.1 hs
      · exact isBlank_of_mem_gapNodes p.bottom_layout hs
  have hday : Datum.addContents ["Rate"] [] p.rootNodes = [("Day", .record p.dayParts)] := by
    rw [rootNodes, Datum.addContents_append, Datum.addContents_append, addContents_gap,
      addContents_gap, ← p.ofElement_day, day, Datum.addContents_element]
    rfl
  have hattributes : Datum.attributeParts [] [] = [] := rfl
  rw [Datum.ofRoot, Datum.addContents_element, Datum.ofElement, hattributes, hday, hblank]
  rfl

/-- The document of a publication is read as its bulletin. -/
theorem read_text (p : Publication) : Bulletin.read p.text = .ok p.bulletin := by
  have hdata : Document.read ⟨["Rate"], none⟩ p.text =
      .ok (.record [("MNBCurrentExchangeRates", .record [("Day", .record p.dayParts)])]) := by
    rw [← p.ofRoot_rootNodes]
    exact Document.read_wrap p.root_text
  have hbody : Datum.body "MNBCurrentExchangeRates"
      (.record [("MNBCurrentExchangeRates", .record [("Day", .record p.dayParts)])]) =
      .record [("Day", .record p.dayParts)] := rfl
  have hcheck : Bulletin.check (.record [("Day", .record p.dayParts)]) = .ok p.bulletin := by
    show Datum.required [("Day", .record p.dayParts)] "Day" "day" Bulletin.checkDay = _
    exact Datum.required_eq rfl p.check_dayParts
  simp only [Bulletin.read, hdata, bind, Except.bind, hbody, hcheck]
  rfl

end Publication

/-! ## Tables -/

/-- The value of a name is the last one that was entered under it. -/
theorem Entries.value?_ofList {α : Type} (entries : List (String × α)) (name : String) :
    (Entries.ofList entries).value? name =
      ((entries.filter fun e => e.1 = name).getLast?).map Prod.snd := by
  induction entries using List.reverseRecOn with
  | nil => rfl
  | append_singleton entries e ih =>
    have henter : Entries.ofList (entries ++ [e]) = (Entries.ofList entries).enter e.1 e.2 := by
      rw [Entries.ofList, List.foldl_append]
      rfl
    rw [henter, Entries.value?_enter, List.filter_append]
    by_cases h : e.1 = name
    · simp [h]
    · simp [h, Ne.symm h, ih]

namespace Publication

/-- The code and the price of a single unit of a posting that fits. -/
theorem exists_entry {q : Posting} (fits : q.Fits) :
    ∃ r : Ratio, Bulletin.entry q.quote = .ok (q.key, r) ∧ r.toRat = q.single := by
  have hpositive : 0 < q.quote.unit := Int.natCast_pos.2 q.unit_pos
  have hsingle : q.quote.single = q.single := by
    show q.price.toRat / ((q.units : Int) : ℚ) = q.single
    rw [Int.cast_natCast]
    rfl
  have hfits : q.quote.Fits := ⟨fits.units, hsingle ▸ fits.num, hsingle ▸ fits.den⟩
  obtain ⟨r, hr⟩ := Quote.exists_perUnit hpositive hfits
  refine ⟨r, by rw [Bulletin.entry, hr]; rfl, ?_⟩
  rw [Quote.perUnit_eq hpositive] at hr
  obtain ⟨-, -, hvalue⟩ := bind_eq_ok_iff.1 hr
  rw [← hsingle]
  exact Ratio.ofRat_eq_ok_iff.1 hvalue

theorem exists_entries {postings : List Posting} (fits : ∀ q ∈ postings, q.Fits) :
    ∃ entries, (postings.map Posting.quote).mapM Bulletin.entry = .ok entries ∧
      entries.map (fun e => (e.1, e.2.toRat)) = postings.map fun q => (q.key, q.single) := by
  induction postings with
  | nil => exact ⟨[], rfl, rfl⟩
  | cons q postings ih =>
    obtain ⟨hq, hpostings⟩ := List.forall_mem_cons.1 fits
    obtain ⟨r, hr, hvalue⟩ := exists_entry hq
    obtain ⟨entries, hentries, hvalues⟩ := ih hpostings
    refine ⟨(q.key, r) :: entries, ?_, ?_⟩
    · rw [List.map_cons, List.mapM_cons, hr, hentries]
      rfl
    · rw [List.map_cons, List.map_cons, hvalue, hvalues]

/-- A publication is read back.  Its document gives its date and, if the prices of single units fit,
a table: each code in upper case has the price of a single unit in its last posting, and no other
name has a price. -/
theorem reads_back {p : Publication} (fits : ∀ q ∈ p.postings, q.Fits) :
    ∃ b table, Bulletin.read p.text = .ok b ∧ b.date = p.date ∧ b.table = .ok table ∧
      ∀ name, (table.value? name).map Ratio.toRat =
        ((p.postings.filter fun q => q.key = name).getLast?).map Posting.single := by
  obtain ⟨entries, hentries, hvalues⟩ := exists_entries fits
  refine ⟨p.bulletin, Entries.ofList entries, p.read_text, rfl, ?_, fun name => ?_⟩
  · rw [Bulletin.table_eq, bulletin, hentries]
    rfl
  · have hlast := congrArg (fun es : List (String × ℚ) =>
      ((es.filter fun e => e.1 = name).getLast?).map Prod.snd) hvalues
    simp only [List.filter_map, List.getLast?_map, Option.map_map, Function.comp_def] at hlast
    rw [Entries.value?_ofList, Option.map_map]
    exact hlast

/-- Two prices of one currency, its codes in different cases, and between them the price of a
hundred units of another one. -/
def sample : Publication where
  date := "1970-01-01"
  postings :=
    [{ gap := ['\n'], code := "EUR", unit := "1".toList,
       figure := { whole := "387".toList, fraction := some "350".toList } },
      { gap := [], code := "JPY", unit := "100".toList,
        figure := { whole := "230".toList, fraction := some "10".toList } },
      { gap := ['\t', ' '], code := "eur", unit := "01".toList,
        figure := { whole := "0400".toList, fraction := none } }]
  top := ['\n']
  foot := []
  bottom := ['\n']

/-- The document of the sample is read back.  The last price of the euro counts, whatever the case
of its code, and only codes in upper case have a price. -/
theorem sample_reads_back :
    sample.text = "<MNBCurrentExchangeRates>\n<Day date=\"1970-01-01\">\n" ++
      "<Rate unit=\"1\" curr=\"EUR\">387,350</Rate>" ++
      "<Rate unit=\"100\" curr=\"JPY\">230,10</Rate>\t " ++
      "<Rate unit=\"01\" curr=\"eur\">0400</Rate></Day>\n</MNBCurrentExchangeRates>" ∧
    (∀ q ∈ sample.postings, q.Fits) ∧
    ∃ b table, Bulletin.read sample.text = .ok b ∧ b.date = "1970-01-01" ∧ b.table = .ok table ∧
      (table.value? "EUR").map Ratio.toRat = some 400 ∧
      (table.value? "JPY").map Ratio.toRat = some (2301 / 1000) ∧
      (table.value? "eur").map Ratio.toRat = none := by
  have fits : ∀ q ∈ sample.postings, q.Fits := by decide +kernel
  obtain ⟨b, table, hread, hdate, htable, hvalues⟩ := reads_back fits
  refine ⟨by decide +kernel, fits, b, table, hread, hdate, htable, ?_, ?_, ?_⟩
  · rw [hvalues]
    decide +kernel
  · rw [hvalues]
    decide +kernel
  · rw [hvalues]
    decide +kernel

/-- A bulletin of a price for a thousand units, so low that the price of a single one does not
fit. -/
def unfit : Publication where
  date := "1970-01-01"
  postings :=
    [{ gap := [], code := "IDR", unit := "1000".toList,
       figure := { whole := "0".toList, fraction := some "00000000000000001".toList } }]
  top := []
  foot := []
  bottom := []

end Publication

end Reckoner
