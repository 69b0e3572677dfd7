import GeoCatalogue.XPath.Node
import Mathlib.Data.List.Nodup

/-!
# Document order

The nodes of a document are numbered in document order, and a path gives
its nodes in that order, each once. Here is what putting nodes in order
does when they are taken from a list that is in order already: the result
has the same members, and so it *is* a list in order as soon as it has its
members (`inOrder_eq_of_mem_iff`). How the nodes were collected – in
groups, several times, from the end – does not matter.
-/
namespace GeoCatalogue.XPath

/-- **Nodes in document order, no place twice.** -/
def Ascending (nodes : List Node) : Prop :=
  nodes.Pairwise fun a b => a.place < b.place

/-! ## Lists in order -/

theorem Ascending.sublist {as bs : List Node} (h : Ascending bs)
    (sub : as.Sublist bs) : Ascending as :=
  List.Pairwise.sublist sub h

theorem Ascending.nodup {nodes : List Node} (h : Ascending nodes) :
    nodes.Nodup := by
  refine List.Pairwise.imp ?_ h
  intro a b hab heq
  rw [heq] at hab
  exact Nat.lt_irrefl _ hab

/-- In a list in order, nodes are told apart by their places. -/
theorem Ascending.eq_of_place {nodes : List Node} (h : Ascending nodes)
    {a b : Node} (ha : a ∈ nodes) (hb : b ∈ nodes)
    (same : a.place = b.place) : a = b := by
  induction h with
  | nil => cases ha
  | @cons c rest hc hrest ih =>
    rcases List.mem_cons.mp ha with rfl | hrest_a
    · rcases List.mem_cons.mp hb with rfl | hrest_b
      · rfl
      · exact absurd same (Nat.ne_of_lt (hc b hrest_b))
    · rcases List.mem_cons.mp hb with rfl | hrest_b
      · exact absurd same.symm (Nat.ne_of_lt (hc a hrest_a))
      · exact ih hrest_a hrest_b

/-- **Lists in order are equal when they have the same members.** -/
theorem Ascending.eq_of_mem_iff {as bs : List Node} (ha : Ascending as)
    (hb : Ascending bs) (same : ∀ n, n ∈ as ↔ n ∈ bs) : as = bs := by
  have perm : as.Perm bs :=
    (List.perm_ext_iff_of_nodup ha.nodup hb.nodup).mpr same
  refine perm.eq_of_pairwise ?_ ha hb
  intro a b _ _ hab hba
  exact absurd hab (Nat.lt_asymm hba)

/-! ## Leaving out repeats -/

/-- Leaving out repeats only leaves something out. -/
theorem withoutRepeats_sublist (nodes : List Node) :
    (withoutRepeats nodes).Sublist nodes := by
  induction nodes with
  | nil => exact .slnil
  | cons node rest ih =>
    unfold withoutRepeats
    split
    · rename_i next others h
      rw [h] at ih
      split
      · exact ((List.sublist_cons_self next others).trans ih).cons_cons node
      · exact ih.cons_cons node
    · exact (List.nil_sublist rest).cons_cons node

/-- Without repeats, a sorted list is in order. -/
theorem ascending_withoutRepeats {nodes : List Node}
    (h : nodes.Pairwise fun a b => a.place ≤ b.place) :
    Ascending (withoutRepeats nodes) := by
  induction h with
  | nil => exact .nil
  | @cons node rest hnode hrest ih =>
    unfold withoutRepeats
    split
    · rename_i next others heq
      rw [heq] at ih
      have later := (List.pairwise_cons.mp ih).1
      have hnext : node.place ≤ next.place :=
        hnode next ((withoutRepeats_sublist rest).subset
          (by rw [heq]; exact List.mem_cons_self))
      split
      · rename_i hsame
        refine List.pairwise_cons.mpr ⟨?_, (List.pairwise_cons.mp ih).2⟩
        intro b hb
        rw [← hsame]
        exact later b hb
      · rename_i hne
        have hlt : node.place < next.place :=
          Nat.lt_of_le_of_ne hnext (fun h => hne h.symm)
        refine List.pairwise_cons.mpr ⟨?_, ih⟩
        intro b hb
        rcases List.mem_cons.mp hb with rfl | hb
        · exact hlt
        · exact Nat.lt_trans hlt (later b hb)
    · exact List.pairwise_singleton _ node

/-- A node that is left out stands at the place of one that stays. -/
theorem exists_mem_withoutRepeats {nodes : List Node} {n : Node}
    (h : n ∈ nodes) : ∃ m ∈ withoutRepeats nodes, m.place = n.place := by
  induction nodes with
  | nil => cases h
  | cons node rest ih =>
    unfold withoutRepeats
    rcases List.mem_cons.mp h with rfl | h
    · split
      · split
        · exact ⟨n, List.mem_cons_self, rfl⟩
        · exact ⟨n, List.mem_cons_self, rfl⟩
      · exact ⟨n, List.mem_cons_self, rfl⟩
    · obtain ⟨m, hm, hplace⟩ := ih h
      -- the node that stays for `n` is itself left out if it is next to
      -- `node` and at its place
      split
      · rename_i next others heq
        rw [heq] at hm
        split
        · rename_i hsame
          rcases List.mem_cons.mp hm with rfl | hm
          · exact ⟨node, List.mem_cons_self, by rw [← hsame, hplace]⟩
          · exact ⟨m, List.mem_cons_of_mem node hm, hplace⟩
        · exact ⟨m, List.mem_cons_of_mem node hm, hplace⟩
      · rename_i heq
        rw [heq] at hm
        cases hm

/-! ## Putting nodes in order -/

theorem ascending_inOrder (nodes : List Node) : Ascending (inOrder nodes) := by
  refine ascending_withoutRepeats ?_
  refine (List.pairwise_mergeSort ?_ ?_ nodes).imp ?_
  · intro a b c hab hbc
    exact decide_eq_true
      (Nat.le_trans (of_decide_eq_true hab) (of_decide_eq_true hbc))
  · intro a b
    simpa using Nat.le_total a.place b.place
  · intro a b hab
    exact of_decide_eq_true hab

/-- **Nodes of one document, put in order, are the same nodes.** -/
theorem mem_inOrder {all nodes : List Node} (h : Ascending all)
    (sub : nodes ⊆ all) {n : Node} : n ∈ inOrder nodes ↔ n ∈ nodes := by
  have back {m : Node} (hm : m ∈ inOrder nodes) : m ∈ nodes :=
    List.mem_mergeSort.mp ((withoutRepeats_sublist _).subset hm)
  constructor
  · exact back
  · intro hn
    obtain ⟨m, hm, hplace⟩ :=
      exists_mem_withoutRepeats (List.mem_mergeSort.mpr hn)
    rw [← h.eq_of_place (sub (back hm)) (sub hn) hplace]
    exact hm

/-- **Nodes put in order are the list in order that has them as its
members.** -/
theorem inOrder_eq_of_mem_iff {all nodes : List Node} (h : Ascending all)
    (same : ∀ n, n ∈ nodes ↔ n ∈ all) : inOrder nodes = all := by
  refine (ascending_inOrder nodes).eq_of_mem_iff h (fun n => ?_)
  rw [mem_inOrder h (fun m hm => (same m).mp hm), same]

theorem inOrder_of_ascending {nodes : List Node} (h : Ascending nodes) :
    inOrder nodes = nodes :=
  inOrder_eq_of_mem_iff h (fun _ => Iff.rfl)

/-- **Nodes of one document, none of them twice, are only rearranged** when
they are put in order. -/
theorem inOrder_perm {all nodes : List Node} (h : Ascending all)
    (sub : nodes ⊆ all) (once : nodes.Nodup) :
    (inOrder nodes).Perm nodes :=
  (List.perm_ext_iff_of_nodup (ascending_inOrder nodes).nodup once).mpr
    (fun _ => mem_inOrder h sub)

end GeoCatalogue.XPath
