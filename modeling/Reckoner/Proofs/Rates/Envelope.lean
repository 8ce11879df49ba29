import Reckoner.Proofs.Document.Read
import Reckoner.Proofs.Xml.Prefixes
import Reckoner.Rates.Envelope

/-!
# Wrapped bulletins

An envelope is written around a document as four nested elements with the escaped document in the
innermost one.  The service may write these elements with any prefixes, as long as the prefixes
stand for its namespaces.  The names are bare in the data of an envelope, and what the attributes
and declarations leave there has names of its own (`Datum.lookup_attributeParts`), so the data lead
to the document (`Datum.leads_of_nests`).  Unwrapping gives it back without the blanks around it
(`Envelope.unwrap_of_carries`).
-/

namespace Reckoner

open Text

/-! ## Data of nested elements -/

namespace Datum

variable {lists : List String} {parts : Parts} {name : String}

theorem addContents_textNodes (lists : List String) (parts : Parts) (texts : List (List Char)) :
    addContents lists parts (Xml.textNodes texts) = parts := by
  induction texts with
  | nil => rw [Xml.textNodes, List.map_nil, addContents]
  | cons text texts ih =>
    show addContents lists parts (.text _ :: Xml.textNodes texts) = _
    rw [addContents, ih]

theorem directText_textNodes (texts : List (List Char)) :
    directText (Xml.textNodes texts) = trim (String.ofList texts.flatten) := by
  have htexts : (Xml.textNodes texts).filterMap Xml.Node.text? = texts.map String.ofList := by
    simp [Xml.textNodes, List.filterMap_map, Function.comp_def, Xml.Node.text?]
  have hjoin : String.join (texts.map String.ofList) = String.ofList texts.flatten := by
    rw [← String.toList_inj, String.toList_join, String.toList_ofList, List.flatMap_map]
    simp [List.flatMap_id']
  rw [directText, htexts, hjoin]

/-- A text that is not blank is a text without the blanks around it. -/
theorem ofText_trim {s : String} (h : isAllBlank s = false) :
    ofText (trim s) = .text (trim s) := by
  have hpresent : (trim s).isEmpty = false := by
    obtain ⟨c, hc, hpresent⟩ := List.all_eq_false.1 h
    obtain ⟨d, hd, -⟩ := (tight_dropAround ⟨c, hc, Bool.eq_false_iff.2 hpresent⟩).exists_mem
    rw [← Bool.not_eq_true, String.isEmpty_iff, trim, ← String.toList_inj, String.toList_ofList]
    exact List.ne_nil_of_mem hd
  rw [ofText, hpresent]
  rfl

/-- An element that holds nothing but text is its text. -/
theorem ofElement_textNodes (lists : List String) (tag : String) (texts : List (List Char)) :
    ofElement lists (.element tag [] [] (Xml.textNodes texts)) =
      ofText (trim (String.ofList texts.flatten)) := by
  have hattributes : attributeParts [] [] = [] := rfl
  rw [ofElement, hattributes, addContents_textNodes, directText_textNodes, assemble]
  exact if_pos rfl

theorem lookup_set_of_ne {other : String} (h : name ≠ other) (value : Datum) :
    (set parts other value).lookup name = parts.lookup name := by
  induction parts with
  | nil => simp [set, h]
  | cons part parts ih =>
    obtain ⟨n, v⟩ := part
    unfold set
    split
    next heq =>
      subst heq
      rw [List.lookup_cons, List.lookup_cons, beq_eq_false_iff_ne.2 h]
    next => rw [List.lookup_cons, List.lookup_cons, ih]

/-- The parts of attributes and declarations have names that begin with a mark of their own. -/
theorem lookup_attributeParts (h : name.toList.head? ≠ some '@')
    (attributes : List (String × String)) (declared : List (String × Option String)) :
    (attributeParts attributes declared).lookup name = none := by
  have hkey (key : String) : name ≠ "@" ++ key := by
    rintro rfl
    exact h (by simp)
  have hattributes (parts : Parts) (hnone : parts.lookup name = none) :
      (attributes.foldl (fun parts a => set parts ("@" ++ a.1) (.text a.2)) parts).lookup name =
        none := by
    induction attributes generalizing parts with
    | nil => exact hnone
    | cons a attributes ih =>
      exact ih _ ((lookup_set_of_ne (hkey a.1) _).trans hnone)
  unfold attributeParts
  dsimp only
  split
  next => exact hattributes [] rfl
  next => exact (lookup_set_of_ne (hkey "xmlns") _).trans (hattributes [] rfl)

theorem lookup_add_of_ne {other : String} (h : name ≠ other) (value : Datum) :
    (add lists parts other value).lookup name = parts.lookup name := by
  unfold add
  split
  next => exact lookup_set_of_ne h _
  next => rw [List.lookup_append, List.lookup_cons, beq_eq_false_iff_ne.2 h, List.lookup_nil,
    Option.or_none]

theorem lookup_addContents {ns : List Xml.Node} (h : ∀ n ∈ ns, n.name? ≠ some name) :
    (addContents lists parts ns).lookup name = parts.lookup name := by
  induction ns generalizing parts with
  | nil => rw [addContents]
  | cons n ns ih =>
    obtain ⟨hn, hns⟩ := List.forall_mem_cons.1 h
    cases n with
    | text _ => rw [addContents, ih hns]
    | element tag _ _ _ =>
      have hne : name ≠ tag := by
        rintro rfl
        exact hn rfl
      rw [addContents, ih hns, lookup_add_of_ne hne]

/-- The text of an element does not hide its parts. -/
theorem assemble_lookup (lists : List String) {d : Datum} (hname : parts.lookup name = some d)
    (hne : name ≠ "#text") (text : String) :
    ∃ shown, assemble lists parts text = .record shown ∧ shown.lookup name = some d := by
  have hparts : parts.isEmpty = false := by
    cases parts with
    | nil => cases hname
    | cons => rfl
  rw [assemble, hparts]
  cases text.isEmpty with
  | true => exact ⟨parts, rfl, hname⟩
  | false => exact ⟨_, rfl, (lookup_add_of_ne hne _).trans hname⟩

/-- Records inside records lead along the names to a text. -/
inductive Leads : List String → Datum → String → Prop where
  | text (s : String) : Leads [] (.text s) s
  | part {name : String} {path : List String} {parts : Parts} {d : Datum} {s : String} :
    parts.lookup name = some d → Leads path d s → Leads (name :: path) (.record parts) s

theorem Leads.exists_record {path : List String} {d : Datum} {s : String}
    (h : Leads (name :: path) d s) : ∃ parts, d = .record parts := by
  cases h
  exact ⟨_, rfl⟩

/-- The name is neither that of an attribute's part nor that of the text. -/
def IsElementName (name : String) : Prop := name.toList.head? ≠ some '@' ∧ name ≠ "#text"

/-- The data of nested elements lead to the text in them, if it is not blank. -/
theorem leads_of_nests {x : String} (hblank : isAllBlank x = false) {path : List String}
    {node : Xml.Node} (h : Xml.Nests x path node) (hpath : ∀ name ∈ path, IsElementName name) :
    ∃ name attributes declared contents, path.head? = some name ∧
      node = .element name attributes declared contents ∧
      Leads path.tail (ofElement [] node) (trim x) := by
  induction h with
  | @result name texts htexts =>
    refine ⟨name, [], [], _, rfl, rfl, ?_⟩
    rw [ofElement_textNodes, htexts, String.ofList_toList, ofText_trim hblank]
    exact .text _
  | @layer name inner path attributes declared before after node hbefore hafter _ ih =>
    obtain ⟨-, hinner⟩ := List.forall_mem_cons.1 hpath
    obtain ⟨child, attributes', declared', contents', hhead, rfl, hleads⟩ := ih hinner
    cases hhead
    obtain ⟨⟨hmark, hne⟩, -⟩ := List.forall_mem_cons.1 hinner
    let parts := attributeParts attributes declared
    have hnone : (addContents [] parts before).lookup inner = none :=
      (lookup_addContents hbefore).trans (lookup_attributeParts hmark attributes declared)
    have hlookup : (addContents [] parts (before ++
        .element inner attributes' declared' contents' :: after)).lookup inner =
        some (ofElement [] (.element inner attributes' declared' contents')) := by
      rw [addContents_append, addContents, lookup_addContents hafter, add, hnone]
      exact lookup_concat hnone _
    refine ⟨name, attributes, declared, _, rfl, rfl, ?_⟩
    obtain ⟨shown, hshown, hpart⟩ := assemble_lookup [] hlookup hne
      (directText (before ++ .element inner attributes' declared' contents' :: after))
    rw [ofElement, hshown]
    exact .part hpart hleads

end Datum

/-! ## Unwrapping -/

namespace Envelope

/-- The names of an envelope's elements from the outside, in the service's namespaces or in none. -/
structure IsPath (path : List (Option String × String)) : Prop where
  names : path.map Prod.snd =
    ["Envelope", "Body", "GetCurrentExchangeRatesResponse", "GetCurrentExchangeRatesResult"]
  bare : ∀ p ∈ path, ∀ uri ∈ p.1, namespaces.lookup uri = some none

theorem check_of_leads {d : Datum} {s : String}
    (h : Datum.Leads ["Body", "GetCurrentExchangeRatesResponse", "GetCurrentExchangeRatesResult"]
      d s) : check d = .ok s := by
  cases h with
  | part hbody h =>
    cases h with
    | @part _ _ body _ _ hresponse h =>
      cases h with
      | @part _ _ response _ _ hresult h =>
        cases h
        have hchecked : checkResponse (.record response) = .ok s := Datum.required_eq hresult rfl
        have hchecked : checkBody (.record body) = .ok s := Datum.required_eq hresponse hchecked
        exact Datum.required_eq hbody hchecked

/-- A document that is read is not blank. -/
theorem isAllBlank_of_readDocument {style : Xml.NameStyle} {document : String} {tree : Xml.Node}
    (h : Xml.readDocument style (trim document) = .ok tree) : isAllBlank document = false := by
  refine Bool.eq_false_iff.2 fun hblank => ?_
  have htrim : trim document = "" := by
    rw [trim, dropAround_of_forall (List.all_eq_true.1 hblank)]
  have hempty : Xml.readDocument style "" = .error .malformed := by cases style <;> rfl
  rw [htrim, hempty] at h
  cases h

/-- A document that is read as an envelope around a text is unwrapped to this text. -/
theorem unwrap_of_carries {document x : String} {tree : Xml.Node}
    {path : List (Option String × String)} (hpath : IsPath path)
    (hread : Xml.readDocument .qualified (trim document) = .ok tree)
    (h : Xml.Carries namespaces x Xml.outermostScope path tree) (hblank : isAllBlank x = false) :
    unwrap document = .ok (trim x) := by
  obtain ⟨shown, hresolve, hnests⟩ := h.resolve hpath.bare
  rw [hpath.names] at hnests
  obtain ⟨name, attributes, declared, contents, hname, rfl, hleads⟩ :=
    Datum.leads_of_nests hblank hnests (by unfold Datum.IsElementName; decide)
  cases hname
  have hroot : Document.root ⟨[], some namespaces⟩ (trim document) =
      .ok (.element "Envelope" attributes declared contents) := by
    simp only [Document.root, hread, bind, Except.bind, hresolve]
  have hdata : Document.read ⟨[], some namespaces⟩ document =
      .ok (.record [("Envelope",
        Datum.ofElement [] (.element "Envelope" attributes declared contents))]) := by
    rw [Document.read, isAllBlank_of_readDocument hread, hroot]
    exact congrArg (fun parts => Except.ok (Datum.record parts)) (Datum.addContents_element ..)
  obtain ⟨parts, hparts⟩ := hleads.exists_record
  have hcheck := check_of_leads hleads
  rw [hparts] at hdata hcheck
  rw [unwrap, hdata]
  show Except.mapError _ ((check (.record parts)).orFault (some document)) = _
  rw [hcheck]
  rfl

/-! ## Written envelopes -/

/-- What is written in proper layers is read as elements that carry the text. -/
theorem read_layered {x innermost : String} {path : List (Option String × String)}
    {layers : List Xml.Layer} (h : Xml.Proper innermost Xml.outermostScope path layers)
    (hx : ∀ c ∈ x.toList, Xml.isKept c = true) :
    ∃ tree, Xml.readDocument .qualified
        (trim (String.ofList (Xml.layered x innermost layers))) = .ok tree ∧
      Xml.Carries namespaces x Xml.outermostScope path tree := by
  obtain ⟨tag, attributes, inner, ns, hwritten, htag, hreads, hcarries⟩ := h.reads namespaces hx []
  rw [List.append_nil] at hreads
  refine ⟨_, ?_, hcarries⟩
  rw [hwritten, Document.trim_wrap]
  exact Xml.readDocument_wrap htag hreads

/-- What is written around a text as an envelope, with any prefixes and declarations, is unwrapped
to the text. -/
theorem unwrap_layered {x innermost : String} {path : List (Option String × String)}
    {layers : List Xml.Layer} (hpath : IsPath path)
    (h : Xml.Proper innermost Xml.outermostScope path layers)
    (hx : ∀ c ∈ x.toList, Xml.isKept c = true) (hblank : isAllBlank x = false) :
    unwrap (String.ofList (Xml.layered x innermost layers)) = .ok (trim x) := by
  obtain ⟨tree, hread, hcarries⟩ := read_layered h hx
  exact unwrap_of_carries hpath hread hcarries hblank

/-- A document in an envelope. -/
def wrapped (document : String) : String :=
  String.ofList (Xml.wrap "Envelope" [] (Xml.wrap "Body" []
    (Xml.wrap "GetCurrentExchangeRatesResponse" []
      (Xml.wrap "GetCurrentExchangeRatesResult" [] (Xml.escape document.toList)))))

theorem proper_wrapped : Xml.Proper "GetCurrentExchangeRatesResult" Xml.outermostScope
    [(none, "Envelope"), (none, "Body"), (none, "GetCurrentExchangeRatesResponse"),
      (none, "GetCurrentExchangeRatesResult")]
    [⟨"Envelope", [], "", ""⟩, ⟨"Body", [], "", ""⟩,
      ⟨"GetCurrentExchangeRatesResponse", [], "", ""⟩] := by
  have hscope : (Xml.outermostScope.lookup "").join = none := rfl
  have hlayer (tag : String) {inner : Option String × String}
      {path : List (Option String × String)} {layers : List Xml.Layer}
      (htag : Xml.isLocalName tag.toList = true)
      (h : Xml.Proper "GetCurrentExchangeRatesResult" Xml.outermostScope (inner :: path) layers) :
      Xml.Proper "GetCurrentExchangeRatesResult" Xml.outermostScope ((none, tag) :: inner :: path)
        (⟨tag, [], "", ""⟩ :: layers) :=
    .layer ⟨.bare htag, List.forall_mem_nil _, List.nodup_nil⟩
      (Xml.named_of_isLocalName htag hscope) (by simp) h
  have hresult : Xml.isLocalName "GetCurrentExchangeRatesResult".toList = true := by decide
  refine hlayer _ (by decide) ?_
  refine hlayer _ (by decide) ?_
  refine hlayer _ (by decide) ?_
  exact .result (.bare hresult) (Xml.named_of_isLocalName hresult hscope)

/-- The document in an envelope is given back without the blanks around it. -/
theorem unwrap_wrapped {document : String}
    (hkept : ∀ c ∈ document.toList, Xml.isKept c = true)
    (hblank : isAllBlank document = false) : unwrap (wrapped document) = .ok (trim document) := by
  have hnames : IsPath [(none, "Envelope"), (none, "Body"),
      (none, "GetCurrentExchangeRatesResponse"), (none, "GetCurrentExchangeRatesResult")] :=
    ⟨rfl, by simp⟩
  have hwritten : wrapped document =
      String.ofList (Xml.layered document "GetCurrentExchangeRatesResult"
        [⟨"Envelope", [], "", ""⟩, ⟨"Body", [], "", ""⟩,
          ⟨"GetCurrentExchangeRatesResponse", [], "", ""⟩]) := by
    have hgap : Xml.escape "".toList = [] := rfl
    simp only [wrapped, Xml.layered, hgap, List.nil_append, List.append_nil]
  rw [hwritten]
  exact unwrap_layered hnames proper_wrapped hkept hblank

/-! ## Envelopes of the service -/

/-- The elements of an envelope in the namespaces of the service. -/
def path : List (Option String × String) :=
  [(some "http://schemas.xmlsoap.org/soap/envelope/", "Envelope"),
    (some "http://schemas.xmlsoap.org/soap/envelope/", "Body"),
    (some "http://www.mnb.hu/webservices/", "GetCurrentExchangeRatesResponse"),
    (some "http://www.mnb.hu/webservices/", "GetCurrentExchangeRatesResult")]

theorem isPath_path : IsPath path where
  names := rfl
  bare := by decide

/-- An envelope of the service is unwrapped to the text in it without the blanks around it, whatever
prefixes and declarations it has.  This holds of all documents that are read as an envelope around
the text, and an escaped text in proper layers is one of them; so the prefixes of two envelopes make
no difference. -/
theorem unwrap_any_prefixes {x : String} (hblank : isAllBlank x = false) :
    (∀ {document : String} {tree : Xml.Node},
      Xml.readDocument .qualified (trim document) = .ok tree →
      Xml.Carries namespaces x Xml.outermostScope path tree → unwrap document = .ok (trim x)) ∧
    ((∀ c ∈ x.toList, Xml.isKept c = true) → ∀ {innermost : String} {layers : List Xml.Layer},
      Xml.Proper innermost Xml.outermostScope path layers →
        unwrap (String.ofList (Xml.layered x innermost layers)) = .ok (trim x) ∧
        ∀ {other : String} {others : List Xml.Layer},
          Xml.Proper other Xml.outermostScope path others →
          unwrap (String.ofList (Xml.layered x other others)) =
            unwrap (String.ofList (Xml.layered x innermost layers))) := by
  refine ⟨fun hread h => unwrap_of_carries isPath_path hread h hblank, fun hx _ _ h => ?_⟩
  have hunwrap := unwrap_layered isPath_path h hx hblank
  refine ⟨hunwrap, fun hother => ?_⟩
  rw [hunwrap, unwrap_layered isPath_path hother hx hblank]

/-- Layers with a prefix for each namespace. -/
def prefixed : List Xml.Layer :=
  [⟨"s:Envelope", [("xmlns:s", "http://schemas.xmlsoap.org/soap/envelope/")], "", ""⟩,
    ⟨"s:Body", [], "\n", "\n"⟩,
    ⟨"m:GetCurrentExchangeRatesResponse", [("xmlns:m", "http://www.mnb.hu/webservices/")], "", ""⟩]

theorem proper_prefixed :
    Xml.Proper "m:GetCurrentExchangeRatesResult" Xml.outermostScope path prefixed := by
  have hname (label bare : String) (hlabel : Xml.isLocalName label.toList = true)
      (hbare : Xml.isLocalName bare.toList = true) : Xml.IsName .qualified (label ++ ":" ++ bare) :=
    .qualified hlabel hbare
  have hdeclaration (label uri : String) (hlabel : Xml.isLocalName label.toList = true)
      (huri : uri.toList.all Xml.isValueChar = true) :
      ∀ a ∈ [("xmlns" ++ ":" ++ label, uri)], Xml.Plain .qualified a :=
    List.forall_mem_singleton.2
      ⟨hname "xmlns" label (by decide) hlabel, List.all_eq_true.1 huri⟩
  have hgaps (layer : Xml.Layer)
      (h : (layer.before.toList ++ layer.after.toList).all Xml.isKept = true) :=
    List.all_eq_true.1 h
  refine .layer ⟨hname "s" "Envelope" (by decide) (by decide),
    hdeclaration "s" _ (by decide) (by decide), by simp⟩
    ⟨rfl, by decide, [], rfl, List.nodup_nil⟩ (hgaps _ (by decide)) ?_
  refine .layer ⟨hname "s" "Body" (by decide) (by decide), List.forall_mem_nil _,
    List.nodup_nil⟩ ⟨rfl, by decide, [], rfl, List.nodup_nil⟩
    (hgaps _ (by decide)) ?_
  refine .layer ⟨hname "m" "GetCurrentExchangeRatesResponse" (by decide)
    (by decide), hdeclaration "m" _ (by decide) (by decide), by simp⟩
    ⟨rfl, by decide, [], rfl, List.nodup_nil⟩ (hgaps _ (by decide)) ?_
  exact .result (hname "m" "GetCurrentExchangeRatesResult" (by decide) (by decide))
    ⟨rfl, by decide, [], rfl, List.nodup_nil⟩

/-- Layers without prefixes, where an inner default namespace shadows an outer one. -/
def shadowed : List Xml.Layer :=
  [⟨"Envelope", [("xmlns", "http://schemas.xmlsoap.org/soap/envelope/")], "", ""⟩,
    ⟨"Body", [], "", ""⟩,
    ⟨"GetCurrentExchangeRatesResponse", [("xmlns", "http://www.mnb.hu/webservices/")], "", ""⟩]

theorem proper_shadowed :
    Xml.Proper "GetCurrentExchangeRatesResult" Xml.outermostScope path shadowed := by
  have hdeclaration (uri : String) (h : uri.toList.all Xml.isValueChar = true) :
      ∀ a ∈ [("xmlns", uri)], Xml.Plain .qualified a := by
    have hname : Xml.isLocalName "xmlns".toList = true := by decide
    exact List.forall_mem_singleton.2 ⟨.bare hname, List.all_eq_true.1 h⟩
  refine .layer ⟨.bare (by decide), hdeclaration _ (by decide),
    by simp⟩ ⟨rfl, by decide, [], rfl, List.nodup_nil⟩ (by simp) ?_
  refine .layer ⟨.bare (by decide), List.forall_mem_nil _, List.nodup_nil⟩
    ⟨rfl, by decide, [], rfl, List.nodup_nil⟩ (by simp) ?_
  refine .layer ⟨.bare (by decide), hdeclaration _ (by decide),
    by simp⟩ ⟨rfl, by decide, [], rfl, List.nodup_nil⟩ (by simp) ?_
  exact .result (.bare (by decide)) ⟨rfl, by decide, [], rfl, List.nodup_nil⟩

/-- Prefixes and shadowed declarations leave a text as it is. -/
theorem prefixed_and_shadowed_unwrapped :
    isAllBlank " <Day/> & more" = false ∧
    (∃ tree, Xml.readDocument .qualified (trim (String.ofList
        (Xml.layered " <Day/> & more" "m:GetCurrentExchangeRatesResult" prefixed))) = .ok tree ∧
      Xml.Carries namespaces " <Day/> & more" Xml.outermostScope path tree) ∧
    unwrap (String.ofList
      (Xml.layered " <Day/> & more" "m:GetCurrentExchangeRatesResult" prefixed)) =
        .ok "<Day/> & more" ∧
    unwrap (String.ofList (Xml.layered " <Day/> & more" "GetCurrentExchangeRatesResult" shadowed)) =
      unwrap (String.ofList
        (Xml.layered " <Day/> & more" "m:GetCurrentExchangeRatesResult" prefixed)) := by
  have hblank : isAllBlank " <Day/> & more" = false := by decide
  have hkept : ∀ c ∈ " <Day/> & more".toList, Xml.isKept c = true :=
    List.all_eq_true.1 (by decide)
  have htrim : trim " <Day/> & more" = "<Day/> & more" := by decide
  obtain ⟨hread, hwritten⟩ := unwrap_any_prefixes hblank
  obtain ⟨tree, htree, hcarries⟩ := read_layered proper_prefixed hkept
  obtain ⟨-, hsame⟩ := hwritten hkept proper_prefixed
  exact ⟨hblank, ⟨tree, htree, hcarries⟩, htrim ▸ hread htree hcarries, hsame proper_shadowed⟩

end Envelope

end Reckoner
