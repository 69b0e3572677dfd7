import GeoCatalogue.Text.Blank

/-!
# Texts written as words

A text that consists of words with single blanks in between has these words
(`words_intercalate`).
-/
namespace GeoCatalogue.Text

/-- **A word**: some characters, none of them blank. -/
structure IsWord (text : String) : Prop where
  /-- There is a character. -/
  nonempty : text.toList ≠ []
  /-- No character is blank. -/
  solid : ∀ c ∈ text.toList, isBlank c = false

/-- Whether a text is a word is found out from its characters. -/
theorem isWord_iff {text : String} :
    (text.toList ≠ [] ∧ text.toList.all (!isBlank ·) = true) ↔ IsWord text := by
  simp only [List.all_eq_true, Bool.not_eq_true']
  constructor
  · rintro ⟨nonempty, solid⟩
    exact ⟨nonempty, solid⟩
  · rintro ⟨nonempty, solid⟩
    exact ⟨nonempty, solid⟩

instance (text : String) : Decidable (IsWord text) :=
  decidable_of_decidable_of_iff isWord_iff

variable {p : Char → Bool} {c d : Char} {run rest : List Char}

/-- A run of one character ends at a character of the class. -/
theorem runsOutside_cons_of_end (first : p c = false) (ends : p d = true) :
    runsOutside p (c :: d :: rest) = [c] :: runsOutside p rest := by
  have after : runsOutside p (d :: rest) = runsOutside p rest := by
    rw [runsOutside.eq_def]
    simp [ends]
  rw [runsOutside.eq_def]
  simp only [first, Bool.false_eq_true, if_false, after]
  cases runsOutside p rest with
  | nil => rfl
  | cons next runs => simp [ends]

/-- A run goes on over a character outside of the class. -/
theorem runsOutside_cons_of_run (first : p c = false) (second : p d = false)
    {runs : List (List Char)} (h : runsOutside p (d :: rest) = run :: runs) :
    runsOutside p (c :: d :: rest) = (c :: run) :: runs := by
  rw [runsOutside.eq_def]
  simp [first, second, h]

/-- **What is outside of a class altogether is one run.** -/
theorem runsOutside_of_solid (nonempty : run ≠ [])
    (solid : ∀ c ∈ run, p c = false) : runsOutside p run = [run] := by
  induction run with
  | nil => exact absurd rfl nonempty
  | cons c run ih =>
    obtain ⟨first, later⟩ := List.forall_mem_cons.mp solid
    cases run with
    | nil => simp [runsOutside, first]
    | cons d run =>
      exact runsOutside_cons_of_run first (later d List.mem_cons_self)
        (ih (List.cons_ne_nil d run) later)

/-- **A run ends at a character of the class**, and the runs after that
follow. -/
theorem runsOutside_append (nonempty : run ≠ [])
    (solid : ∀ c ∈ run, p c = false) (ends : p d = true) (rest : List Char) :
    runsOutside p (run ++ d :: rest) = run :: runsOutside p rest := by
  induction run with
  | nil => exact absurd rfl nonempty
  | cons c run ih =>
    obtain ⟨first, later⟩ := List.forall_mem_cons.mp solid
    cases run with
    | nil => exact runsOutside_cons_of_end first ends
    | cons next run =>
      exact runsOutside_cons_of_run first (later next List.mem_cons_self)
        (ih (List.cons_ne_nil next run) later)

/-- **The words of a text that is written as words.** -/
@[simp] theorem words_intercalate {texts : List String}
    (h : ∀ text ∈ texts, IsWord text) :
    words (" ".intercalate texts) = texts := by
  induction texts with
  | nil => rfl
  | cons word texts ih =>
    obtain ⟨⟨nonempty, solid⟩, rest⟩ := List.forall_mem_cons.mp h
    cases texts with
    | nil =>
      rw [words, String.intercalate_singleton,
        runsOutside_of_solid nonempty solid, List.map_singleton,
        String.ofList_toList]
    | cons next texts =>
      have split : (" ".intercalate (word :: next :: texts)).toList
          = word.toList ++ ' ' :: (" ".intercalate (next :: texts)).toList := by
        rw [String.intercalate_cons_cons, String.toList_append,
          String.toList_append, List.append_assoc]
        rfl
      rw [words, split, runsOutside_append nonempty solid rfl, List.map_cons,
        String.ofList_toList]
      exact congrArg (word :: ·) (ih rest)

end GeoCatalogue.Text
