import GeoCatalogue.Text.Blank

/-!
# Texts without blanks at their ends

What `trimList` leaves neither starts nor ends with what is trimmed off, and
a text that does neither is left as it is; so trimming twice is trimming once
(`trim_trim`). What is trimmed off around a text does not matter for what is
left of it (`trimList_between`), and nothing else is lost (`exists_trimList_eq`).
Which characters are blank is said by their code points (`isBlank_iff`).
-/
namespace GeoCatalogue.Text

/-- **The blanks by their code points.** -/
theorem isBlank_iff {c : Char} :
    isBlank c = true ↔
      (0x09 ≤ c.toNat ∧ c.toNat ≤ 0x0d) ∨ (0x1c ≤ c.toNat ∧ c.toNat ≤ 0x20) ∨
        c.toNat = 0x85 ∨ c.toNat = 0xa0 ∨ c.toNat = 0x1680 ∨
        (0x2000 ≤ c.toNat ∧ c.toNat ≤ 0x200a) ∨ c.toNat = 0x2028 ∨
        c.toNat = 0x2029 ∨ c.toNat = 0x202f ∨ c.toNat = 0x205f ∨
        c.toNat = 0x3000 := by
  unfold isBlank
  simp only [Bool.or_eq_true, Bool.and_eq_true, decide_eq_true_eq, beq_iff_eq,
    or_assoc]

variable {p : Char → Bool} {cs : List Char}

/-- **A trimmed text does not end with what is trimmed off.** -/
theorem getLast?_trimList {c : Char} (h : (trimList p cs).getLast? = some c) :
    p c = false := by
  unfold trimList dropBack at h
  rw [List.getLast?_reverse] at h
  have first := List.head?_dropWhile_not p (dropFront p cs).reverse
  rw [h] at first
  exact first

/-- **A trimmed text does not start with what is trimmed off.** -/
theorem head?_trimList {c : Char} (h : (trimList p cs).head? = some c) :
    p c = false := by
  -- what is dropped at the back leaves the front as it is
  have front : trimList p cs <+: dropFront p cs := by
    have behind := List.dropWhile_suffix p (l := (dropFront p cs).reverse)
    rw [← List.reverse_prefix, List.reverse_reverse] at behind
    exact behind
  obtain ⟨rest, split⟩ := front
  have first := List.head?_dropWhile_not p cs
  rw [show cs.dropWhile p = trimList p cs ++ rest from split.symm,
    List.head?_append, h] at first
  exact first

/-- A text that does not start with what is dropped is left as it is. -/
theorem dropFront_eq_self (h : ∀ c, cs.head? = some c → p c = false) :
    dropFront p cs = cs := by
  cases cs with
  | nil => rfl
  | cons c cs =>
    unfold dropFront
    rw [List.dropWhile_cons, h c rfl, if_neg Bool.false_ne_true]

/-- **A text without such ends is left as it is.** -/
theorem trimList_eq_self (hfront : ∀ c, cs.head? = some c → p c = false)
    (hback : ∀ c, cs.getLast? = some c → p c = false) :
    trimList p cs = cs := by
  have back : dropFront p cs.reverse = cs.reverse := by
    refine dropFront_eq_self fun c hc => hback c ?_
    rw [← List.head?_reverse]
    exact hc
  unfold trimList
  rw [dropFront_eq_self hfront]
  show (dropFront p cs.reverse).reverse = cs
  rw [back, List.reverse_reverse]

theorem dropFront_append {front : List Char} (h : ∀ c ∈ front, p c = true)
    (cs : List Char) : dropFront p (front ++ cs) = dropFront p cs :=
  List.dropWhile_append_of_pos h

theorem dropBack_append {back : List Char} (h : ∀ c ∈ back, p c = true)
    (cs : List Char) : dropBack p (cs ++ back) = dropBack p cs := by
  unfold dropBack
  rw [List.reverse_append,
    List.dropWhile_append_of_pos fun c hc => h c (List.mem_reverse.mp hc)]

/-- **What is trimmed off around a text does not matter.** -/
theorem trimList_between {front back : List Char}
    (hfront : ∀ c ∈ front, p c = true) (hback : ∀ c ∈ back, p c = true)
    (cs : List Char) :
    trimList p (front ++ (cs ++ back)) = trimList p cs := by
  unfold trimList
  rw [dropFront_append hfront]
  by_cases nothing : dropFront p cs = []
  · have gone : dropFront p (cs ++ back) = [] := by
      have all := dropFront_append hback []
      unfold dropFront at nothing all ⊢
      rw [List.dropWhile_append, nothing, List.isEmpty_nil, if_pos rfl]
      simpa using all
    rw [gone, nothing]
  · have kept : dropFront p (cs ++ back) = dropFront p cs ++ back := by
      unfold dropFront at nothing ⊢
      rw [List.dropWhile_append, if_neg (by simpa using nothing)]
    rw [kept, dropBack_append hback]

/-- Something to be trimmed off stands on both sides of what is left. -/
theorem exists_trimList_eq (p : Char → Bool) (cs : List Char) :
    ∃ front back, cs = front ++ (trimList p cs ++ back) ∧
      (∀ c ∈ front, p c = true) ∧ ∀ c ∈ back, p c = true := by
  refine ⟨cs.takeWhile p, ((dropFront p cs).reverse.takeWhile p).reverse, ?_,
    List.all_eq_true.mp List.all_takeWhile, fun c hc => ?_⟩
  · have back : trimList p cs ++ ((dropFront p cs).reverse.takeWhile p).reverse
        = dropFront p cs := by
      unfold trimList dropBack
      rw [← List.reverse_append, List.takeWhile_append_dropWhile, List.reverse_reverse]
    rw [back]
    exact List.takeWhile_append_dropWhile.symm
  · exact List.all_eq_true.mp List.all_takeWhile c (List.mem_reverse.mp hc)

/-- **Trimming twice is trimming once.** -/
@[simp] theorem trim_trim (text : String) : trim (trim text) = trim text := by
  unfold trim
  rw [String.toList_ofList,
    trimList_eq_self (fun _ => head?_trimList) (fun _ => getLast?_trimList)]

end GeoCatalogue.Text
