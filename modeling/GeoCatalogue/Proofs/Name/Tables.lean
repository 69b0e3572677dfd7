import GeoCatalogue.Name.Bindings
import Mathlib.Data.List.Nodup

/-!
# Tables that are written at their end

The last entry of a key counts, and keys are listed in the order of their first
entries. So an entry that is written at the end of a table decides the value of
its key and of no other (`Table.get?_append_entry`), and its key is listed last
if it is new and keeps its place if it is not (`eraseDups_concat`).
-/
namespace GeoCatalogue

/-! ## Lists without repetitions -/

section Repetitions

variable {α : Type} [BEq α] [LawfulBEq α]

/-- Removing repetitions leaves every member once. -/
theorem nodup_eraseDups (as : List α) : as.eraseDups.Nodup := by
  cases as with
  | nil => exact List.nodup_nil
  | cons a as =>
    rw [List.eraseDups_cons, List.nodup_cons]
    refine ⟨?_, nodup_eraseDups _⟩
    rw [List.mem_eraseDups, List.mem_filter]
    simp
termination_by as.length
decreasing_by
  exact Nat.lt_succ_of_le (List.length_filter_le _ _)

/-- **One more member** comes last if it is new, and is left out if it is
not. -/
theorem eraseDups_concat (as : List α) (a : α) :
    (as ++ [a]).eraseDups
      = as.eraseDups ++ if as.contains a then [] else [a] := by
  rw [List.eraseDups_append, List.removeAll, List.filter_singleton]
  cases h : as.contains a with
  | true => simp [List.contains_iff_mem.mp h]
  | false =>
    have new : a ∉ as := fun ha => by simp [ha] at h
    simp [new, List.eraseDups_cons]

end Repetitions

namespace Table

variable {κ α β : Type} [BEq κ]

/-! ## Values -/

/-- The value of a key after all values were changed. -/
@[simp] theorem get?_map (f : α → β) (t : Table κ α) (key : κ) :
    Table.get? (t.map fun (k, value) => (k, f value)) key
      = (t.get? key).map f := by
  unfold Table.get?
  rw [← List.map_reverse]
  induction t.reverse with
  | nil => rfl
  | cons entry rest ih =>
    obtain ⟨k, value⟩ := entry
    rw [List.map_cons, List.lookup_cons, List.lookup_cons, ih]
    split
    · rfl
    · rfl

/-- The value of a key after all keys were changed, none of two into the
same. -/
theorem get?_map_key {κ' : Type} [BEq κ'] [LawfulBEq κ] [LawfulBEq κ']
    {f : κ → κ'} (injective : Function.Injective f) (t : Table κ α)
    (key : κ) :
    Table.get? (t.map fun (k, value) => (f k, value)) (f key)
      = t.get? key := by
  unfold Table.get?
  rw [← List.map_reverse]
  induction t.reverse with
  | nil => rfl
  | cons entry rest ih =>
    obtain ⟨k, value⟩ := entry
    have same : (f key == f k) = (key == k) := by
      rw [Bool.eq_iff_iff, beq_iff_eq, beq_iff_eq]
      exact injective.eq_iff
    rw [List.map_cons, List.lookup_cons, List.lookup_cons, ih, same]

/-- **An entry at the end of a table** decides the value of its key, and of no
other. -/
theorem get?_append_entry (t : Table κ α) (k : κ) (value : α) (key : κ) :
    Table.get? (t ++ [(k, value)]) key
      = if key == k then some value else t.get? key := by
  unfold Table.get?
  rw [List.reverse_append, List.reverse_singleton, List.singleton_append,
    List.lookup_cons]
  cases key == k with
  | true => rfl
  | false => rfl

/-- **One table after the other**: a key has the value that the second one gives
it, and otherwise that of the first. -/
@[simp] theorem get?_append (t u : Table κ α) (key : κ) :
    Table.get? (t ++ u) key = (u.get? key).or (t.get? key) := by
  unfold Table.get?
  rw [List.reverse_append, List.lookup_append]

/-- **A table made from the members of a list that are picked out**: the value of
a key is that of the last member picked out for it. -/
theorem get?_map_filter {γ : Type} (picked : γ → Bool) (f : γ → κ × α)
    (members : List γ) (key : κ) :
    Table.get? ((members.filter picked).map f) key
      = (members.reverse.find? fun m => picked m && key == (f m).1).map
        fun m => (f m).2 := by
  unfold Table.get?
  rw [← List.map_reverse, ← List.filter_reverse]
  induction members.reverse with
  | nil => rfl
  | cons m rest ih =>
    rw [List.filter_cons, List.find?_cons]
    cases hm : picked m with
    | false => exact ih
    | true =>
      rw [if_pos rfl, List.map_cons, List.lookup_cons, ih, Bool.true_and]
      split
      · rfl
      · rfl

variable [LawfulBEq κ]

theorem get?_concat (t : Table κ α) (key : κ) (value : α) :
    Table.get? (t ++ [(key, value)]) key = some value := by
  rw [get?_append_entry, beq_self_eq_true, if_pos rfl]

/-- **An entry anywhere in a table** matters for its own key only. -/
theorem get?_append_cons {t u : Table κ α} {k key : κ} (other : key ≠ k) (value : α) :
    Table.get? (t ++ (k, value) :: u) key = Table.get? (t ++ u) key := by
  rw [List.append_cons, get?_append, get?_append_entry,
    beq_eq_false_iff_ne.mpr other, if_neg Bool.false_ne_true, ← get?_append]

/-- **An entry at the end of a table** puts its key last if the key is new. -/
theorem keys_concat (t : Table κ α) (key : κ) (value : α) :
    Table.keys (t ++ [(key, value)])
      = t.keys ++ if t.keys.contains key then [] else [key] := by
  have known : t.keys.contains key = (t.map Prod.fst).contains key := by
    rw [Bool.eq_iff_iff, List.contains_iff_mem, List.contains_iff_mem]
    exact List.mem_eraseDups
  rw [known]
  unfold keys
  rw [List.map_append, List.map_singleton, eraseDups_concat]

/-- What is not among the keys has no value. -/
theorem get?_eq_none {t : Table κ α} {key : κ} (h : key ∉ t.keys) :
    t.get? key = none := by
  unfold keys at h
  rw [List.mem_eraseDups] at h
  unfold get?
  rw [List.lookup_eq_none_iff]
  intro entry hentry
  rw [bne_iff_ne]
  rintro rfl
  exact h (List.mem_map_of_mem (List.mem_reverse.mp hentry))

/-- **The last entry of a key** has its value. -/
theorem get?_eq_some_iff {t : Table κ α} {key : κ} {value : α} :
    t.get? key = some value ↔
      ∃ before after, t = before ++ (key, value) :: after ∧
        ∀ entry ∈ after, entry.1 ≠ key := by
  unfold get?
  rw [List.lookup_eq_some_iff]
  constructor
  · rintro ⟨behind, front, same, others⟩
    refine ⟨front.reverse, behind.reverse, ?_, fun entry mem => ?_⟩
    · rw [← List.reverse_inj, same]
      simp
    · exact (bne_iff_ne.mp (others entry (List.mem_reverse.mp mem))).symm
  · rintro ⟨before, after, rfl, others⟩
    refine ⟨after.reverse, before.reverse, by simp, fun entry mem => ?_⟩
    exact bne_iff_ne.mpr (others entry (List.mem_reverse.mp mem)).symm

/-- A value that is found in a table is written there. -/
theorem mem_of_get? {t : Table κ α} {key : κ} {value : α}
    (h : t.get? key = some value) : (key, value) ∈ t := by
  obtain ⟨before, after, rfl, -⟩ := get?_eq_some_iff.mp h
  exact List.mem_append_right before List.mem_cons_self

/-- **A key has a value** exactly if something is written for it. -/
theorem has_iff {t : Table κ α} {key : κ} :
    t.has key = true ↔ key ∈ t.map Prod.fst := by
  unfold has
  constructor
  · intro h
    obtain ⟨value, hvalue⟩ := Option.isSome_iff_exists.mp h
    exact List.mem_map_of_mem (mem_of_get? hvalue)
  · intro mem
    by_contra none
    have unlisted : key ∈ t.keys := List.mem_eraseDups.mpr mem
    rw [Bool.not_eq_true, Option.isSome_eq_false_iff, Option.isNone_iff_eq_none,
      get?, List.lookup_eq_none_iff] at none
    obtain ⟨entry, hentry, rfl⟩ := List.mem_map.mp mem
    exact bne_iff_ne.mp (none entry (List.mem_reverse.mpr hentry)) rfl

end Table

end GeoCatalogue
