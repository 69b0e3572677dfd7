import GeoCatalogue.Template.Segments
import Mathlib.Data.List.TakeWhile

/-!
# The one cut of a template

Which placeholders a text has can be said without scanning it: the text is
literals and placeholders in turn, no token is empty or holds a closing brace,
and no opening brace of a literal starts a placeholder. In front of a
placeholder that means that a closing brace follows it at once; after the last
placeholder there may also be no closing brace any more. These are the
conditions of `IsCut`, and a text has exactly one cut that satisfies them –
the one that scanning it from left to right gives (`isCut_iff`).
-/
namespace GeoCatalogue.Segments

variable {cs literal token text : List Char}

/-! ## What a cut has to satisfy -/

/-- **Literal text in front of a placeholder**: a closing brace follows every
opening brace of it at once. -/
def IsPlain (literal : List Char) : Prop :=
  ∀ front back, literal = front ++ '{' :: back → back.head? = some '}'

/-- **Literal text after all placeholders**: a closing brace follows every
opening brace of it at once, or does not follow at all. -/
def IsPlainEnd (literal : List Char) : Prop :=
  ∀ front back, literal = front ++ '{' :: back →
    back.head? = some '}' ∨ '}' ∉ back

/-- **The cut of a text**, said without scanning. -/
inductive IsCut : List Char → Segments → Prop where
  /-- A text without a placeholder. -/
  | done {literal : List Char} (plain : IsPlainEnd literal) :
      IsCut literal (.done literal)
  /-- A text with a placeholder, and the cut of what follows. -/
  | placeholder {literal token text : List Char} {rest : Segments}
      (plain : IsPlain literal) (nonempty : token ≠ [])
      (unclosed : '}' ∉ token) (tail : IsCut text rest) :
      IsCut (literal ++ '{' :: (token ++ '}' :: text))
        (.placeholder literal token rest)

/-! ## Tokens -/

/-- **A token at the front of a text** is closed by the first closing
brace. -/
theorem tokenAtFront?_eq_some :
    tokenAtFront? cs = some (token, text) ↔
      cs = token ++ '}' :: text ∧ token ≠ [] ∧ '}' ∉ token := by
  unfold tokenAtFront?
  constructor
  · intro h
    have whole := List.takeWhile_append_dropWhile (p := (· ≠ '}')) (l := cs)
    split at h
    · next c front d back hfront hback =>
      obtain ⟨rfl, rfl⟩ := Prod.mk.inj (Option.some.inj h)
      have closing : d = '}' := by
        have first := List.head?_dropWhile_not (· ≠ '}') cs
        rw [hback] at first
        simpa using first
      have open' : ∀ e ∈ c :: front, e ≠ '}' := by
        intro e he
        rw [← hfront] at he
        simpa using List.mem_takeWhile_imp he
      rw [hfront, hback, closing] at whole
      exact ⟨whole.symm, List.cons_ne_nil _ _, fun closed => open' '}' closed rfl⟩
    · cases h
  · rintro ⟨rfl, nonempty, unclosed⟩
    have others : ∀ e ∈ token, decide (e ≠ '}') = true := by
      intro e he
      rw [decide_eq_true_eq]
      rintro rfl
      exact unclosed he
    rw [List.takeWhile_append_of_pos others, List.dropWhile_append_of_pos others]
    cases token with
    | nil => exact absurd rfl nonempty
    | cons c token => simp

/-- **There is no token** if a closing brace comes first, or none at
all. -/
@[simp] theorem tokenAtFront?_eq_none :
    tokenAtFront? cs = none ↔ cs.head? = some '}' ∨ '}' ∉ cs := by
  constructor
  · intro h
    by_contra no
    obtain ⟨first, closed⟩ := not_or.mp no
    obtain ⟨token, text, rfl, unclosed⟩ :=
      List.eq_append_cons_of_mem (not_not.mp closed)
    have nonempty : token ≠ [] := by
      rintro rfl
      exact first rfl
    rw [tokenAtFront?_eq_some.mpr ⟨rfl, nonempty, unclosed⟩] at h
    cases h
  · intro h
    cases found : tokenAtFront? cs with
    | none => rfl
    | some parts =>
      obtain ⟨rfl, nonempty, unclosed⟩ := tokenAtFront?_eq_some.mp found
      rcases h with first | closed
      · cases token : parts.1 with
        | nil => exact absurd token nonempty
        | cons c rest =>
          rw [token] at first unclosed
          obtain rfl := Option.some.inj first
          exact absurd List.mem_cons_self unclosed
      · exact absurd (List.mem_append_right _ List.mem_cons_self) closed

/-! ## Scanning -/

@[simp] theorem ofChars_nil : ofChars [] = done [] := by
  rw [ofChars]

theorem ofChars_cons_of_ne {c : Char} (h : c ≠ '{') :
    ofChars (c :: cs) = cons c (ofChars cs) := by
  rw [ofChars, if_neg h]

/-- A brace that opens no placeholder is literal text. -/
theorem ofChars_brace_of_none (h : tokenAtFront? cs = none) :
    ofChars ('{' :: cs) = cons '{' (ofChars cs) := by
  rw [ofChars, if_pos rfl]
  split
  · next found =>
    rw [h] at found
    cases found
  · rfl

theorem ofChars_brace_of_some (h : tokenAtFront? cs = some (token, text)) :
    ofChars ('{' :: cs) = placeholder [] token (ofChars text) := by
  rw [ofChars, if_pos rfl]
  split
  · next found =>
    obtain ⟨rfl, rfl⟩ := Prod.mk.inj (Option.some.inj (h.symm.trans found))
    rfl
  · next found =>
    rw [h] at found
    cases found

/-! ## The cut that scanning gives -/

theorem isPlain_nil : IsPlain [] := by
  intro front back no
  exact absurd no.symm (List.append_ne_nil_of_right_ne_nil front
    (List.cons_ne_nil _ _))

theorem IsPlain.isPlainEnd (h : IsPlain literal) : IsPlainEnd literal :=
  fun front back same => .inl (h front back same)

theorem IsPlain.tail {c : Char} (h : IsPlain (c :: literal)) :
    IsPlain literal :=
  fun front back same => h (c :: front) back (congrArg (c :: ·) same)

theorem IsPlainEnd.tail {c : Char} (h : IsPlainEnd (c :: literal)) :
    IsPlainEnd literal :=
  fun front back same => h (c :: front) back (congrArg (c :: ·) same)

/-- A plain text with a character in front, if that starts no placeholder. -/
theorem IsPlain.cons {c : Char} (h : IsPlain literal)
    (front : c = '{' → literal.head? = some '}') : IsPlain (c :: literal) := by
  intro before back same
  cases before with
  | nil =>
    obtain ⟨rfl, rfl⟩ := List.cons.inj same
    exact front rfl
  | cons d before => exact h before back (List.cons.inj same).2

/-- A plain end with a character in front, if that starts no placeholder. -/
theorem IsPlainEnd.cons {c : Char} (h : IsPlainEnd literal)
    (front : c = '{' → literal.head? = some '}' ∨ '}' ∉ literal) :
    IsPlainEnd (c :: literal) := by
  intro before back same
  cases before with
  | nil =>
    obtain ⟨rfl, rfl⟩ := List.cons.inj same
    exact front rfl
  | cons d before => exact h before back (List.cons.inj same).2

/-- **A cut with one more literal character**: a brace may come to stand in
front if no token is there. -/
theorem IsCut.cons {c : Char} {s : Segments} (h : IsCut cs s)
    (front : c = '{' → tokenAtFront? cs = none) :
    IsCut (c :: cs) (s.cons c) := by
  cases h with
  | done plain =>
    exact .done (plain.cons fun brace => tokenAtFront?_eq_none.mp (front brace))
  | @placeholder literal token text rest plain nonempty unclosed tail =>
    suffices front : IsPlain (c :: literal) from
      .placeholder front nonempty unclosed tail
    refine plain.cons fun brace => ?_
    -- the closing brace of the placeholder is not the first character, so it
    -- is the literal that starts with one
    rcases tokenAtFront?_eq_none.mp (front brace) with first | none
    · cases literal with
      | nil => cases first
      | cons d literal => exact first
    · refine absurd ?_ none
      simp

/-- **Scanning gives a cut.** The induction follows the scan, which goes on behind the
placeholder that it has found or else behind the next character. -/
theorem isCut_ofChars (cs : List Char) : IsCut cs (ofChars cs) := by
  induction cs using ofChars.induct with
  | case1 =>
    rw [ofChars_nil]
    exact .done isPlain_nil.isPlainEnd
  | case2 rest token text found _ ih =>
    obtain ⟨rfl, nonempty, unclosed⟩ := tokenAtFront?_eq_some.mp found
    rw [ofChars_brace_of_some found]
    exact .placeholder isPlain_nil nonempty unclosed ih
  | case3 rest none ih =>
    rw [ofChars_brace_of_none none]
    exact ih.cons fun _ => none
  | case4 c rest other ih =>
    rw [ofChars_cons_of_ne other]
    exact ih.cons fun brace => absurd brace other

theorem IsPlainEnd.ofChars_eq (h : IsPlainEnd literal) :
    ofChars literal = done literal := by
  induction literal with
  | nil => exact ofChars_nil
  | cons c literal ih =>
    by_cases brace : c = '{'
    · subst brace
      rw [ofChars_brace_of_none (tokenAtFront?_eq_none.mpr (h [] literal rfl)),
        ih h.tail]
      rfl
    · rw [ofChars_cons_of_ne brace, ih h.tail]
      rfl

/-- A literal in front of a placeholder is not cut. -/
theorem IsPlain.ofChars_eq (h : IsPlain literal) (nonempty : token ≠ [])
    (unclosed : '}' ∉ token) :
    ofChars (literal ++ '{' :: (token ++ '}' :: text))
      = placeholder literal token (ofChars text) := by
  induction literal with
  | nil =>
    exact ofChars_brace_of_some
      (tokenAtFront?_eq_some.mpr ⟨rfl, nonempty, unclosed⟩)
  | cons c literal ih =>
    rw [List.cons_append]
    by_cases brace : c = '{'
    · subst brace
      have first : (literal ++ '{' :: (token ++ '}' :: text)).head?
          = some '}' := by
        rw [List.head?_append, h [] literal rfl, Option.some_or]
      rw [ofChars_brace_of_none (tokenAtFront?_eq_none.mpr (.inl first)),
        ih h.tail]
      rfl
    · rw [ofChars_cons_of_ne brace, ih h.tail]
      rfl

/-- **A text has exactly one cut**: the one that scanning gives. -/
theorem isCut_iff {s : Segments} : IsCut cs s ↔ s = ofChars cs := by
  constructor
  · intro h
    induction h with
    | done plain => exact plain.ofChars_eq.symm
    | placeholder plain nonempty unclosed _ ih =>
      rw [plain.ofChars_eq nonempty unclosed, ih]
  · rintro rfl
    exact isCut_ofChars cs

end GeoCatalogue.Segments
