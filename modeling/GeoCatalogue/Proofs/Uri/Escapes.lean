import GeoCatalogue.Uri.Percent

/-!
# Texts with whole escapes

In an encoded text every percent sign starts an escape, and all other
characters stand for themselves. Putting texts with whole escapes one after
the other gives such a text again: an escape that is complete does not look
beyond its two digits (`escapesAreWellFormed_append`). So encoded texts may be
put anywhere where escapes are not taken apart.
-/
namespace GeoCatalogue

/-! ## Hexadecimal digits -/

namespace Text

@[simp] theorem isHexDigit_capitalHexDigit {value : Nat} (h : value < 16) :
    isHexDigit (capitalHexDigit value) = true := by
  decide +revert

@[simp] theorem hexDigits_two (digit : Nat → Char) (value : Nat) :
    hexDigits digit 2 value = [digit (value / 16 % 16), digit (value % 16)] :=
  rfl

end Text

namespace Uri

open Text

/-- A hexadecimal digit stands for itself. -/
theorem isUnreserved_of_isHexDigit {c : Char} (h : isHexDigit c = true) :
    isUnreserved c = true := by
  unfold isHexDigit at h
  unfold isUnreserved isLetter isDigit
  simp only [Bool.or_eq_true, Bool.and_eq_true, decide_eq_true_eq] at h ⊢
  rcases h with (digit | capital) | small
  · exact .inl (.inl (.inl (.inl (.inr digit))))
  · refine .inl (.inl (.inl (.inl (.inl (.inl ⟨capital.1, ?_⟩)))))
    exact Char.le_trans capital.2 (by decide)
  · refine .inl (.inl (.inl (.inl (.inl (.inr ⟨small.1, ?_⟩)))))
    exact Char.le_trans small.2 (by decide)

/-- A character that stands for itself is a URI character. -/
theorem isUriChar_of_isUnreserved {c : Char} (h : isUnreserved c = true) :
    isUriChar c = true := by
  unfold isUriChar
  rw [h]
  rfl

/-- A character that stands for itself starts no escape. -/
theorem ne_percent_of_isUnreserved {c : Char} (h : isUnreserved c = true) :
    c ≠ '%' := by
  rintro rfl
  cases h

/-! ## Whole escapes -/

variable {cs ds : List Char}

/-- **A text starts with two hexadecimal digits.** -/
def HasDigitsInFront (cs : List Char) : Prop :=
  ∃ high low rest, cs = high :: low :: rest ∧
    isHexDigit high = true ∧ isHexDigit low = true

theorem HasDigitsInFront.append (h : HasDigitsInFront cs) (ds : List Char) :
    HasDigitsInFront (cs ++ ds) := by
  obtain ⟨high, low, rest, rfl, hhigh, hlow⟩ := h
  exact ⟨high, low, rest ++ ds, rfl, hhigh, hlow⟩

/-- A character other than the percent sign is passed over. -/
theorem escapesAreWellFormed_cons_of_ne {c : Char} (h : c ≠ '%') :
    escapesAreWellFormed (c :: cs) = escapesAreWellFormed cs := by
  rw [escapesAreWellFormed]
  exact h

/-- A percent sign needs two digits after it. -/
theorem escapesAreWellFormed_percent :
    escapesAreWellFormed ('%' :: cs) = true ↔
      HasDigitsInFront cs ∧ escapesAreWellFormed cs = true := by
  match cs with
  | [] =>
    constructor
    · intro no
      cases no
    · rintro ⟨⟨_, _, _, no, -⟩, -⟩
      cases no
  | [c] =>
    constructor
    · intro no
      cases no
    · rintro ⟨⟨_, _, _, no, -⟩, -⟩
      cases no
  | high :: low :: rest =>
    show (isHexDigit high && isHexDigit low &&
      escapesAreWellFormed (high :: low :: rest)) = true ↔ _
    rw [Bool.and_eq_true, Bool.and_eq_true]
    refine and_congr_left fun _ => ?_
    constructor
    · rintro ⟨hhigh, hlow⟩
      exact ⟨high, low, rest, rfl, hhigh, hlow⟩
    · rintro ⟨_, _, _, ⟨⟩, hhigh, hlow⟩
      exact ⟨hhigh, hlow⟩

/-- **Escapes are whole exactly if every percent sign has two hexadecimal
digits after it.** -/
theorem escapesAreWellFormed_iff :
    escapesAreWellFormed cs = true ↔
      ∀ front back, cs = front ++ '%' :: back → HasDigitsInFront back := by
  induction cs with
  | nil =>
    constructor
    · intro _ front back no
      exact absurd no.symm (List.append_ne_nil_of_right_ne_nil front
        (List.cons_ne_nil _ back))
    · intro _
      rfl
  | cons c cs ih =>
    have whole : escapesAreWellFormed (c :: cs) = true ↔
        (c = '%' → HasDigitsInFront cs) ∧ escapesAreWellFormed cs = true := by
      by_cases percent : c = '%'
      · subst percent
        simp only [escapesAreWellFormed_percent, forall_const]
      · rw [escapesAreWellFormed_cons_of_ne percent]
        exact ⟨fun h => ⟨fun same => absurd same percent, h⟩, And.right⟩
    rw [whole, ih]
    constructor
    · rintro ⟨first, rest⟩ front back same
      cases front with
      | nil =>
        obtain ⟨rfl, rfl⟩ := List.cons.inj same
        exact first rfl
      | cons d front => exact rest front back (List.cons.inj same).2
    · intro all
      refine ⟨?_, fun front back same => all (c :: front) back (by rw [same]; rfl)⟩
      rintro rfl
      exact all [] cs rfl

/-- **Texts with whole escapes, one after the other**, have whole escapes. -/
theorem escapesAreWellFormed_append (hcs : escapesAreWellFormed cs = true)
    (hds : escapesAreWellFormed ds = true) :
    escapesAreWellFormed (cs ++ ds) = true := by
  induction cs with
  | nil => exact hds
  | cons c cs ih =>
    rw [List.cons_append]
    by_cases percent : c = '%'
    · subst percent
      obtain ⟨digits, rest⟩ := escapesAreWellFormed_percent.mp hcs
      exact escapesAreWellFormed_percent.mpr ⟨digits.append ds, ih rest⟩
    · rw [escapesAreWellFormed_cons_of_ne percent] at hcs ⊢
      exact ih hcs

theorem escapesAreWellFormed_of_notMem (h : '%' ∉ cs) :
    escapesAreWellFormed cs = true := by
  refine escapesAreWellFormed_iff.mpr fun front back same => absurd ?_ h
  rw [same]
  exact List.mem_append_right _ List.mem_cons_self

/-! ## What may be put into a URI -/

/-- **A text that may stand anywhere in a URI behind its authority**: it has
URI characters and whole escapes. -/
structure IsInsert (cs : List Char) : Prop where
  /-- The characters. -/
  characters : ∀ c ∈ cs, isUriChar c = true
  /-- The escapes. -/
  escapes : escapesAreWellFormed cs = true

@[simp] theorem IsInsert.nil : IsInsert [] := ⟨nofun, rfl⟩

/-- **Two such texts, one after the other.** -/
theorem IsInsert.append (hcs : IsInsert cs) (hds : IsInsert ds) :
    IsInsert (cs ++ ds) where
  characters c hc :=
    (List.mem_append.mp hc).elim (hcs.characters c) (hds.characters c)
  escapes := escapesAreWellFormed_append hcs.escapes hds.escapes

theorem IsInsert.of_notMem (characters : ∀ c ∈ cs, isUriChar c = true)
    (h : '%' ∉ cs) : IsInsert cs :=
  ⟨characters, escapesAreWellFormed_of_notMem h⟩

theorem IsInsert.of_isUnreserved (h : ∀ c ∈ cs, isUnreserved c = true) :
    IsInsert cs :=
  .of_notMem (fun c hc => isUriChar_of_isUnreserved (h c hc))
    (fun percent => ne_percent_of_isUnreserved (h '%' percent) rfl)

/-- **The escape of an octet** is a percent sign and two digits. -/
theorem exists_escape_eq (octet : UInt8) :
    ∃ high low, escape octet = ['%', high, low] ∧
      isHexDigit high = true ∧ isHexDigit low = true := by
  have digit (value : Nat) :
      isHexDigit (capitalHexDigit (value % 16)) = true :=
    isHexDigit_capitalHexDigit (Nat.mod_lt value (by decide))
  exact ⟨_, _, by rw [escape, hexDigits_two], digit _, digit _⟩

theorem isInsert_escape (octet : UInt8) : IsInsert (escape octet) := by
  obtain ⟨high, low, same, hhigh, hlow⟩ := exists_escape_eq octet
  have digits : IsInsert [high, low] :=
    .of_isUnreserved (by simp [isUnreserved_of_isHexDigit, hhigh, hlow])
  rw [same]
  refine ⟨List.forall_mem_cons.mpr ⟨by decide, digits.characters⟩, ?_⟩
  exact escapesAreWellFormed_percent.mpr
    ⟨⟨high, low, [], rfl, hhigh, hlow⟩, digits.escapes⟩

/-- Many such texts, one after the other. -/
theorem IsInsert.flatMap {α : Type} {f : α → List Char} {as : List α}
    (h : ∀ a ∈ as, IsInsert (f a)) : IsInsert (as.flatMap f) := by
  induction as with
  | nil => exact .nil
  | cons a as ih =>
    rw [List.flatMap_cons]
    exact (h a List.mem_cons_self).append
      (ih fun b hb => h b (List.mem_cons_of_mem a hb))

theorem isInsert_encodeChar (c : Char) : IsInsert (encodeChar c) := by
  unfold encodeChar
  split
  · next plain =>
    refine .of_isUnreserved fun d hd => ?_
    rw [List.mem_singleton.mp hd]
    exact plain
  · exact .flatMap fun octet _ => isInsert_escape octet

/-- **An encoded text may be put anywhere.** -/
theorem isInsert_encode (text : String) : IsInsert (encode text).toList := by
  unfold encode encodeChars
  rw [String.toList_ofList]
  exact .flatMap fun c _ => isInsert_encodeChar c

end Uri

end GeoCatalogue
