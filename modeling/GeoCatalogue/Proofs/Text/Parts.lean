import Mathlib.Data.List.Basic

/-!
# Texts divided at a mark

A text that is divided into parts by a mark can be divided at the mark again, as long as
no part has the mark itself. So a grammar of parts (`Text.Divided`) is tested part by part
(`Text.divided_iff`).
-/
namespace GeoCatalogue.Text

variable {mark c : Char} {parts : List (List Char)} {cs : List Char} {n : ℕ}
  {P : List Char → Prop}

/-- A character of divided parts is the mark between them, or is in one of them. -/
theorem mem_intercalate (h : c ∈ [mark].intercalate parts) :
    c = mark ∨ ∃ part ∈ parts, c ∈ part := by
  induction parts with
  | nil => exact absurd h List.not_mem_nil
  | cons part parts ih =>
    cases parts with
    | nil =>
      rw [List.intercalate_singleton] at h
      exact .inr ⟨part, List.mem_cons_self, h⟩
    | cons next parts =>
      rw [List.intercalate_cons_cons, List.append_assoc, List.mem_append, List.mem_append,
        List.mem_singleton] at h
      rcases h with own | rfl | rest
      · exact .inr ⟨part, List.mem_cons_self, own⟩
      · exact .inl rfl
      · refine (ih rest).imp_right ?_
        rintro ⟨later, member, hc⟩
        exact ⟨later, List.mem_cons_of_mem part member, hc⟩

/-- Parts in front of others. -/
theorem intercalate_append {others : List (List Char)} (hparts : parts ≠ [])
    (hothers : others ≠ []) :
    [mark].intercalate (parts ++ others)
      = [mark].intercalate parts ++ mark :: [mark].intercalate others := by
  induction parts with
  | nil => exact absurd rfl hparts
  | cons part parts ih =>
    rw [List.cons_append, List.intercalate_cons_of_ne_nil (by simp [hothers])]
    by_cases last : parts = []
    · rw [last, List.nil_append, List.intercalate_singleton, List.append_assoc]
      rfl
    · rw [ih last, List.intercalate_cons_of_ne_nil last]
      simp only [List.append_assoc]

theorem eq_intercalate_of_splitOn (h : cs.splitOn mark = parts) :
    cs = [mark].intercalate parts :=
  h ▸ (List.intercalate_splitOn mark).symm

/-- **A text of so many parts**, divided by a mark, which have a property. -/
def Divided (mark : Char) (n : ℕ) (P : List Char → Prop) (cs : List Char) : Prop :=
  ∃ parts, parts.length = n ∧ (∀ part ∈ parts, P part) ∧ cs = [mark].intercalate parts

/-- **Divided texts are tested part by part.** -/
theorem divided_iff (foreign : ∀ part, P part → mark ∉ part) (hn : n ≠ 0) :
    Divided mark n P cs ↔
      (cs.splitOn mark).length = n ∧ ∀ part ∈ cs.splitOn mark, P part := by
  constructor
  · rintro ⟨parts, rfl, each, rfl⟩
    have nonempty : parts ≠ [] := List.ne_nil_of_length_pos (Nat.pos_of_ne_zero hn)
    rw [List.splitOn_intercalate mark (fun part hp => foreign part (each part hp)) nonempty]
    exact ⟨rfl, each⟩
  · rintro ⟨count, each⟩
    exact ⟨cs.splitOn mark, count, each, eq_intercalate_of_splitOn rfl⟩

theorem Divided.mem (h : Divided mark n P cs) (hc : c ∈ cs) :
    c = mark ∨ ∃ part, P part ∧ c ∈ part := by
  obtain ⟨parts, -, each, rfl⟩ := h
  refine (mem_intercalate hc).imp_right ?_
  rintro ⟨part, member, inside⟩
  exact ⟨part, each part member, inside⟩

end GeoCatalogue.Text
