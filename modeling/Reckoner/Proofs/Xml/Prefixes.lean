import Reckoner.Proofs.Xml.Escape
import Reckoner.Xml.Namespace

/-!
# Names with prefixes

The same names can be written with different prefixes.  `Named` says what the name of an element
stands for where it is written, and `Carries` that elements of given names are nested around a text;
both look at the names as they are written.  When names are resolved and their namespaces leave them
bare, nothing of the prefixes is left in the names (`Carries.resolve`).

`Proper` describes documents that are read as such elements: tags with any prefixes and declarations
around the escaped text, with other text between them (`Proper.reads`).
-/

namespace Reckoner.Xml

/-! ## Names -/

/-- In the scope an element with these attributes declares the given namespaces, its name stands for
a bare name in a namespace or in none, and no two of its attributes stand for the same. -/
structure Named (scope : Scope) (declared : List (String × Option String)) (tag : String)
    (attributes : List (String × String)) (space : Option String) (bare : String) : Prop where
  declares : declarations attributes = some declared
  named : resolveElement (declared.reverse ++ scope) tag = some ⟨space, bare⟩
  distinct : ∃ resolved, resolveAttributes (declared.reverse ++ scope) attributes = some resolved ∧
    (resolved.map (·.1)).Nodup

theorem splitName_eq {s : String} (h : isLocalName s.toList = true) : splitName s = (none, s) := by
  have hcolon : isNameChar ':' = false := by decide
  obtain ⟨c, cs, hs, hc, hcs⟩ := exists_cons_of_isLocalName h
  have hall : ∀ d ∈ s.toList, (d != ':') = true := by
    rw [hs]
    refine List.forall_mem_cons.2 ⟨?_, fun d hd => ?_⟩
    · have hname : isNameChar c = true := by rw [isNameChar, hc, Bool.true_or]
      exact bne_iff_ne.2 fun h => by cases (h ▸ hcolon).symm.trans hname
    · exact bne_iff_ne.2 fun h => by cases (h ▸ hcolon).symm.trans (hcs d hd)
  have hfront : s.toList.takeWhile (· != ':') = s.toList := List.takeWhile_eq_self_iff.2 hall
  simp only [splitName, hfront, List.drop_length]

variable {short : ShortNames} {scope : Scope} {x : String}

/-- An element without a prefix is in no namespace where there is no default one. -/
theorem named_of_isLocalName {tag : String} (h : isLocalName tag.toList = true)
    (hscope : (scope.lookup "").join = none) : Named scope [] tag [] none tag where
  declares := rfl
  named := by
    show resolveElement scope tag = _
    rw [resolveElement, splitName_eq h, hscope]
  distinct := ⟨[], rfl, List.nodup_nil⟩

/-- An element is shown with the short name of its namespace. -/
theorem Named.resolve {declared : List (String × Option String)} {tag bare : String}
    {space : Option String} {attributes : List (String × String)} {ns resolved : List Node}
    (h : Named scope declared tag attributes space bare)
    (hshort : ∀ uri ∈ space, short.lookup uri = some none)
    (hns : Node.resolveAll short (declared.reverse ++ scope) ns = some resolved) :
    ∃ shown, (Node.element tag attributes [] ns).resolve short scope =
      some (.element bare shown declared resolved) ∧ (attributes = [] → shown = []) := by
  obtain ⟨given, hgiven, hdistinct⟩ := h.distinct
  have hdisplay : ResolvedName.display short ⟨space, bare⟩ = bare := by
    cases space with
    | none => rfl
    | some uri => simp only [ResolvedName.display, hshort uri rfl]
  refine ⟨given.map fun a => (a.1.display short, a.2), ?_, ?_⟩
  · rw [Node.resolve, h.declares]
    simp only [Option.bind_eq_bind, Option.bind_some, h.named, hgiven, if_pos hdistinct, hns,
      hdisplay]
  · rintro rfl
    cases hgiven
    rfl

/-! ## Nested elements -/

/-- The name of an element. -/
def Node.name? : Node → Option String
  | .text _ => none
  | .element name .. => some name

/-- The names in some contents can be resolved, and none of the elements there is then shown with
the given name. -/
def Lacks (short : ShortNames) (scope : Scope) (name : String) (ns : List Node) : Prop :=
  ∃ shown, Node.resolveAll short scope ns = some shown ∧ ∀ n ∈ shown, n.name? ≠ some name

/-- In the scope the node is an element of the first name around an element of the second name, and
so on, up to one that holds nothing but the text.  Beside an inner element there may be text and
elements with other names. -/
inductive Carries (short : ShortNames) (x : String) :
    Scope → List (Option String × String) → Node → Prop where
  | result {scope : Scope} {declared : List (String × Option String)} {tag bare : String}
      {space : Option String} {texts : List (List Char)} :
    Named scope declared tag [] space bare → texts.flatten = x.toList →
    Carries short x scope [(space, bare)] (.element tag [] [] (textNodes texts))
  | layer {scope : Scope} {declared : List (String × Option String)} {tag bare : String}
      {space : Option String} {attributes : List (String × String)}
      {inner : Option String × String} {path : List (Option String × String)}
      {before after : List Node} {node : Node} :
    Named scope declared tag attributes space bare →
    Lacks short (declared.reverse ++ scope) inner.2 before →
    Lacks short (declared.reverse ++ scope) inner.2 after →
    Carries short x (declared.reverse ++ scope) (inner :: path) node →
    Carries short x scope ((space, bare) :: inner :: path)
      (.element tag attributes [] (before ++ node :: after))

/-- The node is an element of the first name around an element of the second name, and so on, up to
one that holds nothing but the text.  No inner element has another one of its name beside it. -/
inductive Nests (x : String) : List String → Node → Prop where
  | result {name : String} {texts : List (List Char)} : texts.flatten = x.toList →
    Nests x [name] (.element name [] [] (textNodes texts))
  | layer {name inner : String} {path : List String} {attributes : List (String × String)}
      {declared : List (String × Option String)} {before after : List Node} {node : Node} :
    (∀ n ∈ before, n.name? ≠ some inner) → (∀ n ∈ after, n.name? ≠ some inner) →
    Nests x (inner :: path) node →
    Nests x (name :: inner :: path)
      (.element name attributes declared (before ++ node :: after))

theorem resolveAll_append {ns more resolved others : List Node}
    (h : Node.resolveAll short scope ns = some resolved)
    (hmore : Node.resolveAll short scope more = some others) :
    Node.resolveAll short scope (ns ++ more) = some (resolved ++ others) := by
  induction ns generalizing resolved with
  | nil =>
    rw [Node.resolveAll] at h
    cases h
    exact hmore
  | cons n ns ih =>
    rw [Node.resolveAll] at h
    obtain ⟨first, hfirst, h⟩ := Option.bind_eq_some_iff.1 h
    obtain ⟨rest, hrest, h⟩ := Option.bind_eq_some_iff.1 h
    cases h
    rw [List.cons_append, Node.resolveAll, hfirst, ih hrest]
    rfl

theorem resolveAll_cons {n resolved : Node} {ns others : List Node}
    (h : n.resolve short scope = some resolved)
    (hns : Node.resolveAll short scope ns = some others) :
    Node.resolveAll short scope (n :: ns) = some (resolved :: others) := by
  rw [Node.resolveAll, h, hns]
  rfl

theorem resolveAll_textNodes (texts : List (List Char)) :
    Node.resolveAll short scope (textNodes texts) = some (textNodes texts) := by
  induction texts with
  | nil => rw [textNodes, List.map_nil, Node.resolveAll]
  | cons text texts ih => exact resolveAll_cons (by rw [Node.resolve]) ih

theorem lacks_textNodes (name : String) (texts : List (List Char)) :
    Lacks short scope name (textNodes texts) := by
  refine ⟨_, resolveAll_textNodes texts, fun n hn => ?_⟩
  obtain ⟨text, -, rfl⟩ := List.mem_map.1 hn
  exact (Option.some_ne_none name).symm

/-- Where all namespaces leave names bare, the prefixes are gone. -/
theorem Carries.resolve {path : List (Option String × String)} {node : Node}
    (h : Carries short x scope path node)
    (hshort : ∀ p ∈ path, ∀ uri ∈ p.1, short.lookup uri = some none) :
    ∃ shown, node.resolve short scope = some shown ∧ Nests x (path.map Prod.snd) shown := by
  induction h with
  | result hnamed htexts =>
    obtain ⟨shown, hresolve, hnone⟩ := hnamed.resolve (hshort _ List.mem_cons_self)
      (resolveAll_textNodes _)
    cases hnone rfl
    cases hnamed.declares
    exact ⟨_, hresolve, .result htexts⟩
  | layer hnamed hbefore hafter _ ih =>
    obtain ⟨hfirst, hpath⟩ := List.forall_mem_cons.1 hshort
    obtain ⟨inner, hinner, hnests⟩ := ih hpath
    obtain ⟨befores, hbefores, hfront⟩ := hbefore
    obtain ⟨afters, hafters, hback⟩ := hafter
    obtain ⟨shown, hresolve, -⟩ := hnamed.resolve hfirst
      (resolveAll_append hbefores (resolveAll_cons hinner hafters))
    exact ⟨_, hresolve, .layer hfront hback hnests⟩

/-! ## Written elements -/

/-- A tag that is written around an element, and the text before and after this element. -/
structure Layer where
  tag : String
  attributes : List (String × String)
  before : String
  after : String

/-- The escaped text in the innermost tag, with the layers around it. -/
def layered (x innermost : String) : List Layer → List Char
  | [] => wrap innermost [] (escape x.toList)
  | layer :: layers => wrap layer.tag layer.attributes
      (escape layer.before.toList ++ (layered x innermost layers ++ escape layer.after.toList))

/-- In the scope the tags of the layers and the innermost one stand for the names of the path, and
what is written beside them may stand in a document. -/
inductive Proper (innermost : String) :
    Scope → List (Option String × String) → List Layer → Prop where
  | result {scope : Scope} {declared : List (String × Option String)} {space : Option String}
      {bare : String} :
    IsName .qualified innermost → Named scope declared innermost [] space bare →
    Proper innermost scope [(space, bare)] []
  | layer {scope : Scope} {declared : List (String × Option String)} {space : Option String}
      {bare : String} {inner : Option String × String} {path : List (Option String × String)}
      {layer : Layer} {layers : List Layer} :
    PlainTag .qualified layer.tag layer.attributes →
    Named scope declared layer.tag layer.attributes space bare →
    (∀ c ∈ layer.before.toList ++ layer.after.toList, isKept c = true) →
    Proper innermost (declared.reverse ++ scope) (inner :: path) layers →
    Proper innermost scope ((space, bare) :: inner :: path) (layer :: layers)

/-- Proper layers are read, from the inside out, as elements that carry the text. -/
theorem Proper.reads (short : ShortNames) {innermost : String}
    {path : List (Option String × String)} {layers : List Layer}
    (h : Proper innermost scope path layers)
    (hx : ∀ c ∈ x.toList, isKept c = true) (rest : List Char) :
    ∃ tag attributes inner ns, layered x innermost layers = wrap tag attributes inner ∧
      PlainTag .qualified tag attributes ∧
      Reads ⟨.qualified, [], ⟨.qualified, false⟩⟩ (inner ++ (closeTag tag ++ rest)) ns
        (closeTag tag ++ rest) ∧
      Carries short x scope path (.element tag attributes [] ns) := by
  induction h generalizing rest with
  | result hname hnamed =>
    obtain ⟨texts, htexts, hreads⟩ := Reads.escaped hx (closeTag innermost ++ rest)
      ⟨'<', rfl, .inl rfl⟩
    exact ⟨innermost, [], _, _, rfl, ⟨hname, List.forall_mem_nil _, List.nodup_nil⟩, hreads,
      .result hnamed htexts⟩
  | @layer scope declared space bare next path layer layers hplain hnamed hgaps _ ih =>
    obtain ⟨hbefore, hafter⟩ := List.forall_mem_append.1 hgaps
    let close := closeTag layer.tag ++ rest
    obtain ⟨afters, -, hreadsAfter⟩ := Reads.escaped hafter close ⟨'<', rfl, .inl rfl⟩
    obtain ⟨tag, attributes, inner, ns, hwritten, htag, hinner, hcarries⟩ :=
      ih (escape layer.after.toList ++ close)
    obtain ⟨befores, -, hreadsBefore⟩ := Reads.escaped hbefore
      (wrap tag attributes inner ++ (escape layer.after.toList ++ close)) ⟨'<', rfl, .inl rfl⟩
    have helement := Reads.element rfl htag hinner
    refine ⟨layer.tag, layer.attributes, _,
      textNodes befores ++ .element tag attributes [] ns :: textNodes afters, rfl, hplain, ?_,
      .layer hnamed (lacks_textNodes _ _) (lacks_textNodes _ _) hcarries⟩
    rw [hwritten, List.append_assoc, List.append_assoc]
    exact hreadsBefore.trans (helement.trans hreadsAfter)

end Reckoner.Xml
