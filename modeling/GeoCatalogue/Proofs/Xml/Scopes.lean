import GeoCatalogue.Proofs.Name.Tables
import GeoCatalogue.Proofs.Outcome
import GeoCatalogue.Xml.Document

/-!
# Bindings in a document

A label may stand for no namespace in two ways: it is not bound at all, or it is
bound to the empty text. The second does not happen in a document that has been
read. A declaration of a label with an empty text is a defect, only the default
namespace can be taken back, and the bindings that hold at an element are
declarations of the elements around it. So at every element of a document
**each label that is bound stands for a namespace**
(`Element.bindsLabels_of_parse`).
-/
namespace GeoCatalogue

theorem Table.mem_of_mem_settled {κ α : Type} [BEq κ] [LawfulBEq κ]
    {t : Table κ α} {entry : κ × α} (h : entry ∈ t.settled) : entry ∈ t := by
  obtain ⟨key, -, found⟩ := List.mem_filterMap.mp h
  obtain ⟨value, hvalue, rfl⟩ := Option.map_eq_some_iff.mp found
  exact Table.mem_of_get? hvalue

/-- A key has no value exactly if nothing is written for it. -/
theorem Table.get?_eq_none_iff {κ α : Type} [BEq κ] [LawfulBEq κ]
    {t : Table κ α} {key : κ} :
    t.get? key = none ↔ ∀ value, (key, value) ∉ t := by
  unfold get?
  rw [List.lookup_eq_none_iff]
  constructor
  · intro h value hvalue
    have different := h (key, value) (List.mem_reverse.mpr hvalue)
    exact bne_iff_ne.mp different rfl
  · rintro h ⟨k, value⟩ hentry
    rw [bne_iff_ne]
    rintro rfl
    exact h value (List.mem_reverse.mp hentry)

namespace Bindings

variable {b : Bindings} {label : String}

/-- **Every label that is bound stands for a namespace.** -/
def BindsLabels (b : Bindings) : Prop :=
  ∀ label namespaceName, (some label, namespaceName) ∈ b → namespaceName ≠ ""

@[simp] theorem bindsLabels_nil : BindsLabels [] := nofun

/-- **Then only a label that is not bound stands for no namespace.** -/
theorem BindsLabels.namespaceOf?_eq_none_iff (h : b.BindsLabels) :
    b.namespaceOf? label = none ↔
      ∀ namespaceName, (some label, namespaceName) ∉ b := by
  rw [← Table.get?_eq_none_iff, namespaceOf?, Option.filter_eq_none_iff]
  constructor
  · intro empty
    cases found : b.get? (some label) with
    | none => rfl
    | some namespaceName =>
      have bound := h label namespaceName (Table.mem_of_get? found)
      exact absurd (decide_eq_true bound) (empty namespaceName found)
  · intro unbound namespaceName found
    rw [unbound] at found
    cases found

end Bindings

namespace Xml

open Bindings

/-! ## Declarations -/

namespace Document

/-- A label is never declared to stand for the empty text. -/
theorem ne_empty_of_binding? {name : Option String × String}
    {value label namespaceName : String}
    (h : binding? name value = .ok (some (some label, namespaceName))) :
    namespaceName ≠ "" := by
  unfold binding? at h
  split at h
  · -- the default namespace has no label
    split at h
    · cases h
    · cases h
  · split at h
    · split at h
      · cases h
      · cases h
    · split at h
      · cases h
      · next accepted =>
        cases h
        rintro rfl
        simp at accepted
  · cases h

variable {scope : Bindings}

/-- **An element keeps that**: its bindings are those around it and those that
it declares. -/
theorem bindsLabels_of_resolveTag {raw : RawTag} {tag : Tag}
    (h : resolveTag scope raw = .ok tag) (around : scope.BindsLabels) :
    tag.scope.BindsLabels := by
  obtain ⟨divided, -, h⟩ := Except.bind_eq_ok.mp h
  obtain ⟨declared, hdeclared, h⟩ := Except.bind_eq_ok.mp h
  obtain ⟨name, -, h⟩ := Except.bind_eq_ok.mp h
  obtain ⟨expanded, -, h⟩ := Except.bind_eq_ok.mp h
  obtain ⟨attributes, -, h⟩ := Except.bind_eq_ok.mp h
  have inner : Bindings.BindsLabels (scope ++ declared) := by
    intro label namespaceName bound
    rcases List.mem_append.mp bound with outer | own
    · exact around label namespaceName outer
    · obtain ⟨⟨name, value⟩, -, hbinding⟩ :=
        Except.exists_of_mem_filterMapM hdeclared own
      exact ne_empty_of_binding? hbinding
  split at h
  · cases h
  · obtain rfl := Except.ok.inj h
    exact fun label namespaceName bound =>
      inner label namespaceName (Table.mem_of_mem_settled bound)

/-- **So it holds at all elements of a content**, if it holds around it. -/
theorem bindsLabels_of_resolve {nodes : Nodes RawTag} {content : Content}
    (h : resolve scope nodes = .ok content) (around : scope.BindsLabels) :
    ∀ e ∈ content.descendants, e.tag.scope.BindsLabels := by
  induction nodes generalizing scope content with
  | nothing =>
    obtain rfl := Except.ok.inj h
    exact nofun
  | element raw inside after ihInside ihAfter =>
    obtain ⟨tag, htag, h⟩ := Except.bind_eq_ok.mp h
    obtain ⟨below, hbelow, h⟩ := Except.bind_eq_ok.mp h
    obtain ⟨later, hlater, h⟩ := Except.bind_eq_ok.mp h
    obtain rfl := Except.ok.inj h
    have own := bindsLabels_of_resolveTag htag around
    intro e he
    rcases List.mem_cons.mp he with rfl | he
    · exact own
    · rcases List.mem_append.mp he with he | he
      · exact ihInside hbelow own e he
      · exact ihAfter hlater around e he
  | text value after ih =>
    obtain ⟨later, hlater, h⟩ := Except.bind_eq_ok.mp h
    obtain rfl := Except.ok.inj h
    have below := ih hlater around
    exact below
  | remark after ih =>
    obtain ⟨later, hlater, h⟩ := Except.bind_eq_ok.mp h
    obtain rfl := Except.ok.inj h
    have below := ih hlater around
    exact below

end Document

/-! ## Documents -/

namespace Nodes

/-- The elements on the first level are among all elements. -/
theorem children_subset (content : Content) :
    content.children ⊆ content.descendants := by
  intro e h
  induction content with
  | nothing => cases h
  | element tag inside after ihInside ihAfter =>
    rcases List.mem_cons.mp h with rfl | h
    · exact List.mem_cons_self
    · exact List.mem_cons_of_mem _ (List.mem_append_right _ (ihAfter h))
  | text value after ih => exact ih h
  | remark after ih => exact ih h

/-- What is below an element of a content is in that content. -/
theorem descendants_subset {content : Content} {e : Element}
    (h : e ∈ content.descendants) :
    e.inside.descendants ⊆ content.descendants := by
  induction content with
  | nothing => cases h
  | element tag inside after ihInside ihAfter =>
    intro c hc
    refine List.mem_cons_of_mem _ (List.mem_append.mpr ?_)
    rcases List.mem_cons.mp h with rfl | h
    · exact .inl hc
    · rcases List.mem_append.mp h with h | h
      · exact .inl (ihInside h hc)
      · exact .inr (ihAfter h hc)
  | text value after ih => exact ih h
  | remark after ih => exact ih h

end Nodes

/-- What is below an element of a document is in that document. -/
theorem Element.descendants_subset {document e : Element}
    (h : e ∈ document.withDescendants) :
    e.inside.descendants ⊆ document.withDescendants := by
  refine List.Subset.trans ?_ (List.subset_cons_self _ _)
  rcases List.mem_cons.mp h with rfl | h
  · exact List.Subset.refl _
  · exact Nodes.descendants_subset h

/-- **At every element of a document, each label that is bound stands for a namespace.** Only
the default namespace can be taken back by a declaration: for a label, an empty name is an
error of the document. -/
theorem Element.bindsLabels_of_parse {source : String} {document : Element}
    (h : Element.parse source = .ok document) :
    ∀ e ∈ document.withDescendants, e.tag.scope.BindsLabels := by
  obtain ⟨body, -, h⟩ := Except.bind_eq_ok.mp h
  obtain ⟨tokens, -, h⟩ := Except.bind_eq_ok.mp h
  obtain ⟨nodes, hnodes, h⟩ := Except.bind_eq_ok.mp h
  have root : document ∈ nodes.children := by
    split at h
    · next only =>
      obtain rfl := Except.ok.inj h
      rw [only]
      exact List.mem_cons_self
    · cases h
  obtain ⟨-, -, hnodes⟩ := Except.bind_eq_ok.mp hnodes
  obtain ⟨expanded, -, hnodes⟩ := Except.bind_eq_ok.mp hnodes
  obtain ⟨frames, -, hnodes⟩ := Except.bind_eq_ok.mp hnodes
  split at hnodes
  · have all := Document.bindsLabels_of_resolve hnodes bindsLabels_nil
    have top := nodes.children_subset root
    intro e he
    rcases List.mem_cons.mp he with rfl | he
    · exact all e top
    · exact all e (Nodes.descendants_subset top he)
  · cases hnodes

end Xml

end GeoCatalogue
