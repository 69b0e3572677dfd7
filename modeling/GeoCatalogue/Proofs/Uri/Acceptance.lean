import GeoCatalogue.Proofs.Outcome
import GeoCatalogue.Uri.Request

/-!
# When a text is accepted as a URI

The check of a URI goes through characters, escapes and parts, and stops at
the first defect. For a text that is accepted this makes one condition out of
each check, and their conjunction is acceptance (`checkChars_eq_ok`,
`checkParts_eq_ok`). The text that is handed back is always the one that was
checked, and the failure always names it (`request_eq_ok`,
`request_eq_error`).
-/
namespace GeoCatalogue.Uri

variable {cs : List Char}

/-! ## A line feed at the end -/

/-- A text that does not end in a line feed is taken as it is. -/
theorem withoutLineEnd_of_getLast?_ne (h : cs.getLast? ≠ some '\n') :
    withoutLineEnd cs = cs := by
  unfold withoutLineEnd
  rw [if_neg]
  simpa using h

theorem withoutLineEnd_of_notMem (h : '\n' ∉ cs) : withoutLineEnd cs = cs :=
  withoutLineEnd_of_getLast?_ne fun last => h (List.mem_of_getLast? last)

/-- **What is cut off is one line feed at the end, or nothing.** -/
theorem eq_withoutLineEnd_or (cs : List Char) :
    cs = withoutLineEnd cs ∨ cs = withoutLineEnd cs ++ ['\n'] := by
  by_cases last : cs.getLast? = some '\n'
  · obtain ⟨front, rfl⟩ := List.getLast?_eq_some_iff.mp last
    right
    unfold withoutLineEnd
    rw [if_pos (by rw [List.getLast?_concat]; rfl), List.dropLast_concat]
  · exact .inl (withoutLineEnd_of_getLast?_ne last).symm

/-- The characters that are looked at, and perhaps a line feed. -/
theorem mem_or_eq_of_mem {c : Char} (h : c ∈ cs) :
    c ∈ withoutLineEnd cs ∨ c = '\n' := by
  rcases eq_withoutLineEnd_or cs with whole | ended
  · exact .inl (whole ▸ h)
  · rw [ended] at h
    exact (List.mem_append.mp h).imp_right List.mem_singleton.mp

theorem mem_of_mem_withoutLineEnd {c : Char} (h : c ∈ withoutLineEnd cs) :
    c ∈ cs := by
  rcases eq_withoutLineEnd_or cs with whole | ended
  · exact whole ▸ h
  · rw [ended]
    exact List.mem_append_left _ h

/-! ## The checks in turn -/

/-- The characters and the escapes of a text are as they should be. -/
theorem checkCharacters_eq_ok :
    checkCharacters cs = .ok () ↔
      (withoutLineEnd cs).all isUriChar = true ∧
        escapesAreWellFormed cs = true := by
  unfold checkCharacters
  cases (withoutLineEnd cs).all isUriChar with
  | false => simp
  | true =>
    cases escapesAreWellFormed cs with
    | false => simp
    | true => simp

/-- **The parts of a URI are as they should be**: there is a scheme, the
authority is acceptable, and it is not empty if the scheme needs one. -/
theorem checkParts_eq_ok :
    checkParts cs = .ok () ↔
      ∃ scheme rest, scheme? cs = some (scheme, rest) ∧
        checkAuthority (authority rest) = .ok () ∧
        (needsHost scheme && (authority rest).isEmpty) = false := by
  unfold checkParts
  split
  · next scheme rest found =>
    rw [Except.bind_eq_ok]
    constructor
    · rintro ⟨⟨⟩, acceptable, named⟩
      refine ⟨scheme, rest, found, acceptable, Bool.of_not_eq_true ?_⟩
      intro empty
      rw [if_pos empty] at named
      cases named
    · rintro ⟨scheme', rest', found', acceptable, named⟩
      obtain ⟨rfl, rfl⟩ := Prod.mk.inj (Option.some.inj (found.symm.trans found'))
      refine ⟨(), acceptable, ?_⟩
      rw [named, if_neg Bool.false_ne_true]
  · next missing =>
    constructor
    · intro h
      obtain ⟨-, -, no⟩ := Except.bind_eq_ok.mp h
      cases no
    · rintro ⟨scheme, rest, found, -⟩
      rw [missing] at found
      cases found

/-- **A text passes the check exactly if it passes all its steps.** A line feed at the end is
left out for the characters and for the parts of the URI, but is no matter for the escapes. -/
theorem checkChars_eq_ok :
    checkChars cs = .ok () ↔
      (withoutLineEnd cs).all isUriChar = true ∧
        escapesAreWellFormed cs = true ∧
        checkParts (withoutLineEnd cs) = .ok () := by
  unfold checkChars
  rw [Except.bind_eq_ok]
  constructor
  · rintro ⟨⟨⟩, characters, parts⟩
    obtain ⟨allowed, escapes⟩ := checkCharacters_eq_ok.mp characters
    exact ⟨allowed, escapes, parts⟩
  · rintro ⟨allowed, escapes, parts⟩
    exact ⟨(), checkCharacters_eq_ok.mpr ⟨allowed, escapes⟩, parts⟩

/-! ## The text that was checked -/

variable {text uri : String}

/-- **What is accepted is the text itself.** -/
theorem request_eq_ok :
    request text = .ok uri ↔ uri = text ∧ checkChars text.toList = .ok () := by
  unfold request
  cases checkChars text.toList with
  | ok _ =>
    rw [Except.ok.injEq]
    exact ⟨fun same => ⟨same.symm, rfl⟩, fun h => h.1.symm⟩
  | error defect =>
    constructor
    · intro no
      cases no
    · rintro ⟨-, no⟩
      cases no

/-- **A text that is not accepted is named with its defect.** -/
theorem request_eq_error {failure : Failure} :
    request text = .error failure ↔
      ∃ defect, failure = .malformedRequestUri text defect ∧
        checkChars text.toList = .error defect := by
  unfold request
  cases checkChars text.toList with
  | ok _ =>
    constructor
    · intro no
      cases no
    · rintro ⟨defect, -, no⟩
      cases no
  | error defect =>
    constructor
    · intro h
      exact ⟨defect, (Except.error.inj h).symm, rfl⟩
    · rintro ⟨defect', rfl, same⟩
      rw [Except.error.inj same]

end GeoCatalogue.Uri
