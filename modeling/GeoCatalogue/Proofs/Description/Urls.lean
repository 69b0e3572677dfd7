import GeoCatalogue.Description
import GeoCatalogue.Proofs.Template.Workbench
import GeoCatalogue.Proofs.Xml.Plain
import GeoCatalogue.Proofs.Xml.Scopes

/-!
# The templates of a description

A description takes one template from every `Url` element of a document, on
whatever level it is. The templates are numbered in document order, so two
elements that say the same are two templates, and registering them one after
the other keeps all of them, each with the parameters of its own placeholders
(`Registry.exists_of_foldlM_register`).

This can fail in one way only: a placeholder has a label that is bound nowhere
around its element. In a document that has been read these are the labels that
are missing from the bindings in scope, since a label that is bound stands for
a namespace there. So **either the description keeps every `Url` element, or
it names a label that is bound nowhere** (`Description.ofElement_keeps_urls`).
-/
namespace GeoCatalogue

open Xml

/-! ## Registering many templates -/

namespace Registry

variable {r s : Registry} {ts : List UrlTemplate} {failure : Failure}

/-- **Templates cannot be registered exactly if the parameters of one of them
cannot be worked out**; the first of these decides the failure. -/
theorem foldlM_register_eq_error :
    ts.foldlM register r = .error failure ↔
      ts.mapM UrlTemplate.parameters = .error failure := by
  induction ts generalizing r with
  | nil =>
    constructor
    · intro no
      cases no
    · intro no
      cases no
  | cons t ts ih =>
    rw [List.foldlM_cons, List.mapM_cons]
    cases declared : t.parameters with
    | error cause =>
      rw [register, declared]
      simp only [Except.error_bind, Except.error.injEq]
    | ok ps =>
      rw [r.register_of_ok declared, Except.ok_bind, Except.ok_bind, ih,
        Except.bind_eq_error]
      constructor
      · exact .inl
      · rintro (h | ⟨pss, -, no⟩)
        · exact h
        · cases no

/-- **Pairwise different templates that are registered one after the other** all come into the
registry, in order and with their own parameters. That they are different is what is needed:
a template that is registered again keeps its place, and takes the parameters that come
with the later registration. -/
theorem exists_of_foldlM_register (h : ts.foldlM register r = .ok s)
    (different : (r.templates ++ ts).Pairwise fun t u => t.same u = false)
    (own : ∀ t ∈ r.templates, r.HoldsOwn t) :
    s.templates = r.templates ++ ts ∧ ∀ t ∈ s.templates, s.HoldsOwn t := by
  induction ts generalizing r with
  | nil =>
    obtain rfl := Except.ok.inj h
    rw [List.append_nil]
    exact ⟨rfl, own⟩
  | cons t ts ih =>
    rw [List.foldlM_cons] at h
    obtain ⟨next, hnext, h⟩ := Except.bind_eq_ok.mp h
    obtain ⟨ps, hps, hinsert⟩ := Except.bind_eq_ok.mp hnext
    obtain rfl := Except.ok.inj hinsert
    -- the template is new, so it comes last and the others are left alone
    have others : ∀ u ∈ r.templates, u.same t = false := fun u hu =>
      (List.pairwise_append.mp different).2.2 u hu t List.mem_cons_self
    have new : r.contains t = false := by
      rw [contains_eq_any, List.any_eq_false]
      intro u hu
      rw [others u hu]
      exact Bool.false_ne_true
    have templates : (r.insert t ps).templates = r.templates ++ [t] := by
      rw [templates_insert, new]
      rfl
    have kept : ∀ u ∈ (r.insert t ps).templates, (r.insert t ps).HoldsOwn u := by
      intro u hu
      rw [templates] at hu
      rcases List.mem_append.mp hu with old | last
      · refine (own u old).insert ?_ ps
        rw [UrlTemplate.same, Bool.beq_comm]
        exact ne_true_of_eq_false (others u old)
      · obtain rfl := List.mem_singleton.mp last
        exact r.holdsOwn_insert hps
    have rest := ih h (by rwa [templates, List.append_assoc]) kept
    rwa [templates, List.append_assoc] at rest

end Registry

/-! ## Placeholders without a name -/

/-- A token declares no parameter exactly if it has no name. -/
theorem Parameter.describe_eq_error {bindings : Bindings} {offsets : Offsets}
    {token : String} {failure : Failure} :
    describe bindings offsets token = .error failure ↔
      Token.resolve bindings token = .error failure := by
  unfold describe
  rw [Except.bind_eq_error]
  constructor
  · rintro (h | ⟨name, -, no⟩)
    · exact h
    · cases no
  · exact .inl

namespace Description

/-- **A placeholder of an element with a label that is bound nowhere around
it.** -/
structure IsUnbound (url : Element) (label token : String) : Prop where
  /-- The placeholder is one of the template. -/
  placed : token
    ∈ (Segments.ofString ((url.attribute? "template").getD "")).tokens
  /-- It has the label. -/
  labelled : ∃ localName,
    Token.splitLabel (Token.name token) = some (label.toList, localName)
  /-- The label is not among the bindings in scope. -/
  unbound : ∀ namespaceName, (some label, namespaceName) ∉ url.tag.scope

/-- **A template in a registry that keeps an element**: it says what the
element says, and has the parameters that its placeholders declare there. -/
structure Keeps (r : Registry) (url : Element) (t : UrlTemplate) : Prop where
  /-- The text, which may be missing. -/
  template : t.template = (url.attribute? "template").getD ""
  /-- The media type, which may be missing. -/
  mediaType : t.mediaType = (url.attribute? "type").getD ""
  /-- The role of the response, results if nothing else is said. -/
  rel : t.rel = (url.attribute? "rel").getD "results"
  /-- The number of the first result, as it is written. -/
  index : t.offsets.index = url.attribute? "indexOffset"
  /-- The number of the first page, as it is written. -/
  page : t.offsets.page = url.attribute? "pageOffset"
  /-- The bindings in scope. -/
  bindings : t.bindings = url.tag.scope
  /-- The parameters of the placeholders, under these bindings and
  offsets. -/
  parameters : Parameter.ofTemplate url.tag.scope
      ⟨url.attribute? "indexOffset", url.attribute? "pageOffset"⟩
      ((url.attribute? "template").getD "") = .ok (r.parameters t)

variable {serial first : Nat} {root url : Element} {label token : String}

/-- The `Url` elements of a document, in document order. -/
def urls (root : Element) : List Element :=
  root.descendantsNamed (named "Url")

theorem pairwise_templatesOf (first : Nat) (root : Element) :
    (templatesOf first root).Pairwise fun t u => t.same u = false := by
  unfold templatesOf
  rw [List.pairwise_iff_getElem]
  intro i j hi hj lt
  rw [List.getElem_mapIdx, List.getElem_mapIdx]
  refine beq_false_of_ne fun same => ?_
  have same : first + i = first + j := same
  omega

/-- The templates are those of the elements, one by one and in order. -/
theorem forall₂_templatesOf (first : Nat) (root : Element) :
    List.Forall₂ (fun url t => ∃ serial, t = templateOf serial url)
      (urls root) (templatesOf first root) := by
  unfold templatesOf
  rw [List.forall₂_iff_get]
  refine ⟨List.length_mapIdx.symm, fun i hi hi' => ⟨first + i, ?_⟩⟩
  exact List.getElem_mapIdx

/-- **The parameters of an element cannot be worked out exactly if one of its
placeholders is unbound**, and the failure names it. -/
theorem exists_isUnbound (bound : url.tag.scope.BindsLabels)
    {failure : Failure}
    (h : (templateOf serial url).parameters = .error failure) :
    ∃ label token, IsUnbound url label token ∧
      failure = .unresolvedPrefix label token := by
  obtain ⟨before, token, after, split, -, fails⟩ :=
    Except.mapM_eq_error_iff.mp h
  obtain ⟨label, localName, labelled, unnamed, rfl⟩ :=
    Token.resolve_eq_error.mp (Parameter.describe_eq_error.mp fails)
  have placed : token
      ∈ (Segments.ofString ((url.attribute? "template").getD "")).tokens := by
    rw [show (Segments.ofString ((url.attribute? "template").getD "")).tokens
      = before ++ token :: after from split]
    exact List.mem_append_right before List.mem_cons_self
  refine ⟨String.ofList label, token, ⟨placed, ⟨localName, ?_⟩, ?_⟩, rfl⟩
  · rw [String.toList_ofList]
    exact labelled
  · exact bound.namespaceOf?_eq_none_iff.mp unnamed

/-- An element with an unbound placeholder has no parameters. -/
theorem IsUnbound.exists_eq_error (h : IsUnbound url label token)
    (bound : url.tag.scope.BindsLabels) (serial : Nat) :
    ∃ failure, (templateOf serial url).parameters = .error failure := by
  obtain ⟨placed, ⟨localName, labelled⟩, unbound⟩ := h
  refine Except.exists_mapM_eq_error placed
    (Parameter.describe_eq_error.mpr (Token.resolve_eq_error.mpr
      ⟨label.toList, localName, labelled, ?_, rfl⟩))
  rw [String.ofList_toList]
  exact bound.namespaceOf?_eq_none_iff.mpr unbound

/-- A template that is held with its own parameters keeps the element it was
taken from. -/
theorem keeps_of_holdsOwn {r : Registry}
    (own : r.HoldsOwn (templateOf serial url)) :
    Keeps r url (templateOf serial url) where
  template := rfl
  mediaType := rfl
  rel := rfl
  index := rfl
  page := rfl
  bindings := rfl
  parameters := own

/-- **A description keeps every `Url` element, or names a label that is bound
nowhere.** Take any element of a document that has been read, as the document
element of a description. Either no placeholder of a `Url` element below it has
a label that is not among the bindings in scope at that element. Then the
description has exactly one template for each of these elements, in document
order and no two the same, and it keeps what the element says and the parameters
that are declared there. Or some placeholder has such a label, and the
description fails for it. -/
theorem ofElement_keeps_urls {source : String} {document : Element}
    (parsed : Element.parse source = .ok document)
    (inside : root ∈ document.withDescendants) (serial first : Nat) :
    (∃ d, ofElement serial first root = .ok d ∧
      (∀ url ∈ urls root, ∀ label token, ¬ IsUnbound url label token) ∧
      (d.templates.Pairwise fun t u => t.same u = false) ∧
      List.Forall₂ (Keeps d.registry) (urls root) d.templates) ∨
    ∃ url ∈ urls root, ∃ label token, IsUnbound url label token ∧
      ofElement serial first root
        = .error (.unresolvedPrefix label token) := by
  have bound : ∀ url ∈ urls root, url.tag.scope.BindsLabels := fun url hurl =>
    Element.bindsLabels_of_parse parsed url
      (Element.descendants_subset inside (List.mem_filter.mp hurl).1)
  have different := pairwise_templatesOf first root
  have taken := forall₂_templatesOf first root
  unfold ofElement
  cases registered : (templatesOf first root).foldlM Registry.register {} with
  | error failure =>
    obtain ⟨before, t, after, split, -, fails⟩ := Except.mapM_eq_error_iff.mp
      (Registry.foldlM_register_eq_error.mp registered)
    have mem : t ∈ templatesOf first root := by
      rw [split]
      exact List.mem_append_right before List.mem_cons_self
    obtain ⟨url, hurl, number, rfl⟩ := taken.exists_of_mem_right mem
    obtain ⟨label, token, unbound, rfl⟩ := exists_isUnbound (bound url hurl) fails
    exact .inr ⟨url, hurl, label, token, unbound, rfl⟩
  | ok r =>
    obtain ⟨templates, own⟩ :=
      Registry.exists_of_foldlM_register registered different nofun
    have templates : r.templates = templatesOf first root := templates
    rw [templates] at own
    refine .inl ⟨⟨serial, root, r⟩, rfl, ?_, ?_, ?_⟩
    · intro url hurl label token unbound
      obtain ⟨t, ht, number, rfl⟩ := taken.exists_of_mem_left hurl
      obtain ⟨failure, fails⟩ := unbound.exists_eq_error (bound url hurl) number
      rw [own _ ht] at fails
      cases fails
    · show r.templates.Pairwise _
      rw [templates]
      exact different
    · show List.Forall₂ (Keeps r) (urls root) r.templates
      rw [templates]
      have each := (List.forall₂_and_left _ _).mpr ⟨own, taken.flip⟩
      refine (each.imp ?_).flip
      rintro t url ⟨held, number, rfl⟩
      exact keeps_of_holdsOwn held

/-! ## A description -/

/-- The pieces of a description with a label that is bound again inside, and with
two elements that say the same. -/
def nestedPieces : List String := [
  "<OpenSearchDescription xmlns=\"http://a9.com/-/spec/opensearch/1.1/\" ",
  "xmlns:g=\"urn:outer\">",
  "<Url template=\"\x7bg:box\x7d\"/>",
  "<group xmlns:g=\"urn:inner\">",
  "<Url template=\"\x7bg:box\x7d\" indexOffset=\"0\"/>",
  "</group>",
  "<Url template=\"\x7bg:box\x7d\"/>",
  "</OpenSearchDescription>"]

/-- That description. -/
def nestedText : String :=
  String.join nestedPieces

/-- The bindings outside of the group. -/
def outerScope : Bindings :=
  [(none, Vocabulary.openSearch), (some "g", "urn:outer")]

/-- The bindings in the group. -/
def innerScope : Bindings :=
  [(none, Vocabulary.openSearch), (some "g", "urn:inner")]

/-- The document that is written there. -/
def nestedDocument : Element :=
  let template : QName × String := (⟨"", "template"⟩, "\x7bg:box\x7d")
  let offset : QName × String := (⟨"", "indexOffset"⟩, "0")
  ⟨⟨named "OpenSearchDescription", [], outerScope⟩,
    .element ⟨named "Url", [template], outerScope⟩ .nothing
      (.element ⟨named "group", [], innerScope⟩
        (.element ⟨named "Url", [template, offset], innerScope⟩ .nothing .nothing)
        (.element ⟨named "Url", [template], outerScope⟩ .nothing .nothing))⟩

open Document in
/-- The tokens of that text. -/
def nestedTokens : List Token := [
  openingOf "OpenSearchDescription"
    [("xmlns", Vocabulary.openSearch), ("xmlns:g", "urn:outer")] false,
  openingOf "Url" [("template", "\x7bg:box\x7d")] true,
  openingOf "group" [("xmlns:g", "urn:inner")] false,
  openingOf "Url" [("template", "\x7bg:box\x7d"), ("indexOffset", "0")] true,
  .closing "group".toList,
  openingOf "Url" [("template", "\x7bg:box\x7d")] true,
  .closing "OpenSearchDescription".toList]

open Document in
set_option maxRecDepth 10000 in
/-- The document is read from that text. -/
theorem parse_nestedText : Element.parse nestedText = .ok nestedDocument := by
  have body : Source.body nestedText
      = .ok (nestedPieces.flatMap String.toList) := by
    unfold Source.body
    rw [nestedText, String.toList_join]
    decide +kernel
  have tokens : Token.ofChars (nestedPieces.flatMap String.toList)
      = .ok nestedTokens := by
    decide +kernel
  have placed : places 0 false false nestedTokens = .ok () := by decide +kernel
  have formed : plainContent nestedTokens
      = .ok (.element nestedDocument.tag nestedDocument.inside .nothing) := by
    unfold plainContent nestedTokens
    simp only [assemble, rawTag?_openingOf, Except.ok_bind]
    rfl
  exact Element.parse_of_plain body tokens (by decide +kernel) placed formed rfl

/-- The description keeps all three elements, also the two that say the same;
the label stands for what is bound around each of them. -/
theorem ofElement_keeps_urls_nested :
    Element.parse nestedText = .ok nestedDocument ∧
    ∃ d, ofElement 0 0 nestedDocument = .ok d ∧
      (d.templates.Pairwise fun t u => t.same u = false) ∧
      List.Forall₂ (Keeps d.registry) (urls nestedDocument) d.templates ∧
      (urls nestedDocument).map (·.tag.scope)
        = [outerScope, innerScope, outerScope] := by
  have bound : (ofElement 0 0 nestedDocument).isOk = true := by decide +kernel
  refine ⟨parse_nestedText, ?_⟩
  rcases ofElement_keeps_urls parse_nestedText List.mem_cons_self 0 0 with
    ⟨d, hd, -, different, kept⟩ | ⟨url, -, label, token, -, fails⟩
  · exact ⟨d, hd, different, kept, rfl⟩
  · rw [fails] at bound
    cases bound

end Description

end GeoCatalogue
