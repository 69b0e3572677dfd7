import GeoCatalogue.Proofs.XPath.Order
import GeoCatalogue.XPath.Selection

/-!
# The nodes of a document

Two ways lead through a document: all levels at once, and one level at a
time. Both give the same nodes (`children_perm`): every node below the
document is a child of exactly one node – of the document or of one below
it. The nodes on all levels are in document order, and the elements among
them are those of the tree, in the same order.
-/
namespace GeoCatalogue.XPath

open Xml

namespace Node

/-! ## Places -/

/-- The nodes of a content stand at the places that the content takes. -/
theorem place_of_mem_allLevels {content : Content} {place : Nat} {n : Node}
    (h : n ∈ allLevels place content) :
    place ≤ n.place ∧ n.place < place + extent content := by
  induction content generalizing place with
  | nothing => cases h
  | element tag inside after ihInside ihAfter =>
    rw [extent]
    rcases List.mem_cons.mp h with rfl | h
    · constructor
      · exact Nat.le_refl place
      · show place < _
        omega
    · rcases List.mem_append.mp h with h | h
      · have := ihInside h
        omega
      · have := ihAfter h
        omega
  | text value after ih =>
    rw [extent]
    rcases List.mem_cons.mp h with rfl | h
    · constructor
      · exact Nat.le_refl place
      · show place < _
        omega
    · have := ih h
      omega
  | remark after ih =>
    rw [extent]
    rcases List.mem_cons.mp h with rfl | h
    · constructor
      · exact Nat.le_refl place
      · show place < _
        omega
    · have := ih h
      omega

/-- **The nodes on all levels are in document order.** -/
theorem ascending_allLevels (place : Nat) (content : Content) :
    Ascending (allLevels place content) := by
  induction content generalizing place with
  | nothing => exact .nil
  | element tag inside after ihInside ihAfter =>
    refine List.pairwise_cons.mpr ⟨?_, ?_⟩
    · intro n hn
      show place < n.place
      rcases List.mem_append.mp hn with hn | hn
      · have := place_of_mem_allLevels hn
        omega
      · have := place_of_mem_allLevels hn
        omega
    · refine List.pairwise_append.mpr ⟨ihInside _, ihAfter _, ?_⟩
      intro m hm n hn
      have := place_of_mem_allLevels hm
      have := place_of_mem_allLevels hn
      omega
  | text value after ih =>
    refine List.pairwise_cons.mpr ⟨?_, ih _⟩
    intro n hn
    show place < n.place
    have := place_of_mem_allLevels hn
    omega
  | remark after ih =>
    refine List.pairwise_cons.mpr ⟨?_, ih _⟩
    intro n hn
    show place < n.place
    have := place_of_mem_allLevels hn
    omega

/-- **The nodes below a document are in document order.** -/
@[simp] theorem ascending_descendants (root : Element) :
    Ascending (ofDocument root).descendants :=
  ascending_allLevels 1 _

theorem ascending_withDocument (root : Element) :
    Ascending (ofDocument root :: (ofDocument root).descendants) := by
  refine List.pairwise_cons.mpr ⟨?_, ascending_descendants root⟩
  intro n hn
  exact (place_of_mem_allLevels hn).1

/-! ## Children -/

/-- The nodes of a content are those on its first level and the children of
all of them. -/
theorem firstLevel_append_perm (place : Nat) (content : Content) :
    (firstLevel place content ++
      (allLevels place content).flatMap children).Perm
        (allLevels place content) := by
  induction content generalizing place with
  | nothing => exact .nil
  | element tag inside after ihInside ihAfter =>
    rw [firstLevel, allLevels, List.flatMap_cons, List.flatMap_append,
      List.cons_append]
    refine .cons _ ?_
    -- the first level of `inside` is found among the children of the
    -- element: it changes places with what is left of the first level
    rw [show children ⟨place, .element ⟨tag, inside⟩⟩
        = firstLevel (place + 1 + tag.attributes.length) inside from rfl]
    refine .trans ?_ ((ihInside _).append (ihAfter _))
    rw [← List.append_assoc (firstLevel _ inside)]
    exact List.perm_append_comm_assoc _ _ _
  | text value after ih => exact .cons _ (ih _)
  | remark after ih => exact .cons _ (ih _)

/-- **Every node below a document is a child of one node**: the children of
the document and of all nodes below it are the nodes below it. -/
theorem children_perm (root : Element) :
    ((ofDocument root :: (ofDocument root).descendants).flatMap
      children).Perm (ofDocument root).descendants :=
  firstLevel_append_perm 1 _

/-! ## Elements -/

/-- **Lists taken from the elements among the nodes** of a content are those
taken from the elements of the tree, in the same order. -/
theorem flatMap_allLevels {α : Type} (P : QName → Bool) {F : Node → List α}
    {G : Element → List α} (same : ∀ place e, F ⟨place, .element e⟩ = G e)
    (place : Nat) (content : Content) :
    ((allLevels place content).filter fun n => n.name?.any P).flatMap F
      = (content.descendants.filter fun e => P e.name).flatMap G := by
  induction content generalizing place with
  | nothing => rfl
  | element tag inside after ihInside ihAfter =>
    have node : (name? ⟨place, .element ⟨tag, inside⟩⟩).any P = P tag.name :=
      rfl
    have element : P (Element.name ⟨tag, inside⟩) = P tag.name := rfl
    rw [allLevels, Nodes.descendants, List.filter_cons, List.filter_cons,
      List.filter_append, List.filter_append, node, element]
    by_cases h : P tag.name
    · rw [if_pos h, if_pos h, List.flatMap_cons, List.flatMap_append,
        ihInside, ihAfter, List.flatMap_cons, List.flatMap_append, same]
    · rw [if_neg h, if_neg h, List.flatMap_append, ihInside, ihAfter,
        List.flatMap_append]
  | text value after ih => exact ih _
  | remark after ih => exact ih _

/-- **Lists taken from the elements below a document**, in document
order. -/
theorem flatMap_descendants {α : Type} (P : QName → Bool)
    {F : Node → List α} {G : Element → List α}
    (same : ∀ place e, F ⟨place, .element e⟩ = G e) (root : Element) :
    ((ofDocument root).descendants.filter fun n => n.name?.any P).flatMap F
      = (root.withDescendants.filter fun e => P e.name).flatMap G := by
  refine (flatMap_allLevels P same 1 _).trans ?_
  rw [Nodes.descendants, Nodes.descendants, List.append_nil]
  rfl

/-- The elements with certain names among the nodes below a document. -/
theorem filterMap_selected?_descendants (P : QName → Bool) (root : Element) :
    ((ofDocument root).descendants.filter fun n => n.name?.any P).filterMap
        selected?
      = (root.withDescendants.filter fun e => P e.name).map
          Selected.element := by
  rw [List.filterMap_eq_flatMap_toList, List.map_eq_flatMap]
  exact flatMap_descendants P (fun place e => rfl) root

/-- **The first child with a certain name** among the nodes of an element is
that among its elements. -/
theorem selected?_find?_children (P : QName → Bool) (place : Nat)
    (e : Element) :
    ((children ⟨place, .element e⟩).find? fun n => n.name?.any P).bind
        selected?
      = (e.inside.children.find? fun c => P c.name).map Selected.element := by
  show ((firstLevel _ e.inside).find? _).bind _ = _
  -- the places play no part, but they change on the way
  generalize place + 1 + e.tag.attributes.length = start
  induction e.inside generalizing start with
  | nothing => rfl
  | element tag inside after _ ihAfter =>
    have node : (name? ⟨start, .element ⟨tag, inside⟩⟩).any P = P tag.name :=
      rfl
    have element : P (Element.name ⟨tag, inside⟩) = P tag.name := rfl
    rw [firstLevel, Nodes.children, List.find?_cons, List.find?_cons, node,
      element]
    cases P tag.name with
    | true => rfl
    | false => exact ihAfter _
  | text value after ih => exact ih _
  | remark after ih => exact ih _

end Node

end GeoCatalogue.XPath
