import GeoCatalogue.Proofs.Text.Trim
import GeoCatalogue.Text.Upper

/-!
# What capitals are not

The table of capitals is long, and little of it matters where texts are
taken apart: whether a mark, a blank or a small letter can come out of it.
This module reads that off the table once. The code points of the capitals
lie in a few gaps between those characters (`capitalGaps`), so a text in
capitals has no small ASCII letters (`isAsciiSmall_of_mem_upper`), keeps its
marks (`countP_upper`) and does not come to end in a blank.
-/
namespace GeoCatalogue.Text

/-- Whether a character is one of the letters `a`–`z`. -/
def isAsciiSmall (c : Char) : Bool :=
  'a' ≤ c && c ≤ 'z'

theorem isAsciiSmall_iff {c : Char} :
    isAsciiSmall c = true ↔ 0x61 ≤ c.toNat ∧ c.toNat ≤ 0x7a := by
  unfold isAsciiSmall
  rw [Bool.and_eq_true, decide_eq_true_eq, decide_eq_true_eq]
  exact Iff.rfl

/-- **Where capitals are**: the stretches of code points, from the semicolon
on, that are free of small ASCII letters and of blanks. -/
def capitalGaps : List (Nat × Nat) := [
  (0x3b, 0x60), (0x7b, 0x84), (0x86, 0x9f), (0xa1, 0x167f),
  (0x1681, 0x1fff), (0x200b, 0x2027), (0x202a, 0x202e), (0x2030, 0x205e),
  (0x2060, 0x2fff), (0x3001, 0xd7ff), (0xe000, 0x10ffff)]

/-- Whether a code point may be that of a capital. -/
def IsCapitalCode (code : Nat) : Prop :=
  ∃ gap ∈ capitalGaps, gap.1 ≤ code ∧ code ≤ gap.2

instance (code : Nat) : Decidable (IsCapitalCode code) :=
  inferInstanceAs (Decidable (∃ gap ∈ capitalGaps, _))

/-! ## The tables -/

theorem capitals_upperExpansions :
    ∀ entry ∈ upperExpansions, 0x61 ≤ entry.1 ∧ entry.2 ≠ [] ∧
      ∀ code ∈ entry.2, IsCapitalCode code := by
  decide +kernel

/-- What the table of runs is about: each run of capitals lies in one
gap. -/
theorem capitals_upperRuns :
    ∀ run ∈ upperRuns, 0x61 ≤ run.1 ∧ ∃ gap ∈ capitalGaps,
      (gap.1 : Int) ≤ run.1 + run.2.2.2 ∧
        run.2.1 + run.2.2.2 ≤ (gap.2 : Int) := by
  decide +kernel

/-- The stretches of code points, one by one. -/
theorem isCapitalCode_iff {code : Nat} :
    IsCapitalCode code ↔
      (0x3b ≤ code ∧ code ≤ 0x60) ∨ (0x7b ≤ code ∧ code ≤ 0x84) ∨
        (0x86 ≤ code ∧ code ≤ 0x9f) ∨ (0xa1 ≤ code ∧ code ≤ 0x167f) ∨
        (0x1681 ≤ code ∧ code ≤ 0x1fff) ∨ (0x200b ≤ code ∧ code ≤ 0x2027) ∨
        (0x202a ≤ code ∧ code ≤ 0x202e) ∨ (0x2030 ≤ code ∧ code ≤ 0x205e) ∨
        (0x2060 ≤ code ∧ code ≤ 0x2fff) ∨ (0x3001 ≤ code ∧ code ≤ 0xd7ff) ∨
        (0xe000 ≤ code ∧ code ≤ 0x10ffff) := by
  unfold IsCapitalCode capitalGaps
  simp

/-- The code point of a capital is one of a character, and neither below
that of the semicolon nor that of a small ASCII letter. -/
theorem IsCapitalCode.bounds {code : Nat} (h : IsCapitalCode code) :
    code.isValidChar ∧ 0x3b ≤ code ∧ ¬(0x61 ≤ code ∧ code ≤ 0x7a) := by
  rw [isCapitalCode_iff] at h
  unfold Nat.isValidChar
  omega

/-- The code point of a capital is not that of a blank. -/
theorem IsCapitalCode.isBlank {c : Char} (h : IsCapitalCode c.toNat) :
    isBlank c = false := by
  rw [isCapitalCode_iff] at h
  rw [← Bool.not_eq_true, isBlank_iff]
  omega

@[simp] theorem toNat_ofNat_of_isValidChar {code : Nat} (h : code.isValidChar) :
    (Char.ofNat code).toNat = code := by
  unfold Char.ofNat
  rw [dif_pos h]
  rfl

/-! ## The capitals of a character -/

/-- The capitals of a character that is in the table of several. -/
theorem upperChar_of_lookup {c : Char} {capitals : List Nat}
    (h : upperExpansions.lookup c.toNat = some capitals) :
    upperChar c = capitals.map Char.ofNat ∧ 0x61 ≤ c.toNat ∧
      capitals ≠ [] ∧ ∀ code ∈ capitals, IsCapitalCode code := by
  refine ⟨?_, ?_⟩
  · unfold upperChar
    simp only [h]
  · obtain ⟨before, after, split, -⟩ := List.lookup_eq_some_iff.mp h
    refine capitals_upperExpansions (c.toNat, capitals) ?_
    rw [split]
    exact List.mem_append_right _ List.mem_cons_self

/-- The capital of a character that is in one of the runs. -/
theorem upperChar_of_find? {c : Char} {run : Nat × Nat × Nat × Int}
    (hlookup : upperExpansions.lookup c.toNat = none)
    (hfind : upperRuns.find? (fun (first, last, step, _) =>
      first ≤ c.toNat && c.toNat ≤ last && (c.toNat - first) % step == 0)
        = some run) :
    0x61 ≤ c.toNat ∧ ∃ code, IsCapitalCode code ∧
      upperChar c = [Char.ofNat code] := by
  obtain ⟨first, last, step, distance⟩ := run
  have within := List.find?_some hfind
  simp only [Bool.and_eq_true, decide_eq_true_eq] at within
  -- what is true of both ends of the run is true of `c` in between
  obtain ⟨hfirst, gap, hgap, low, high⟩ :=
    capitals_upperRuns _ (List.mem_of_find?_eq_some hfind)
  simp only at hfirst low high
  refine ⟨by omega, (c.toNat + distance).toNat, ⟨gap, hgap, ?_, ?_⟩, ?_⟩
  · omega
  · omega
  · unfold upperChar
    simp only [hlookup, hfind]

theorem beyond_upperExpansions : ∀ entry ∈ upperExpansions, 0x80 ≤ entry.1 := by
  decide

/-- A small ASCII letter has one capital, in the first run of the table. -/
theorem upperChar_of_isAsciiSmall {c : Char} (h : isAsciiSmall c = true) :
    upperChar c = [Char.ofNat (c.toNat - 32)] := by
  obtain ⟨low, high⟩ := isAsciiSmall_iff.mp h
  have single : upperExpansions.lookup c.toNat = none := by
    refine List.lookup_eq_none_iff.mpr fun entry hentry => ?_
    have beyond := beyond_upperExpansions entry hentry
    exact bne_iff_ne.mpr (by omega)
  have first : upperRuns.find? (fun (first, last, step, _) =>
      first ≤ c.toNat && c.toNat ≤ last && (c.toNat - first) % step == 0)
        = some (0x61, 0x7a, 1, -32) := by
    apply List.find?_cons_of_pos
    simp [low, high, Nat.mod_one]
  unfold upperChar
  simp only [single, first]
  congr 2
  omega

/-- **The capitals of a character** are the character itself, which then is
no small ASCII letter, or characters at the code points of capitals. -/
theorem upperChar_cases (c : Char) :
    upperChar c = [c] ∧ isAsciiSmall c = false ∨
      0x61 ≤ c.toNat ∧ upperChar c ≠ [] ∧
        ∀ d ∈ upperChar c, IsCapitalCode d.toNat := by
  cases hlookup : upperExpansions.lookup c.toNat with
  | some capitals =>
    obtain ⟨heq, hsmall, hnonempty, hcodes⟩ := upperChar_of_lookup hlookup
    refine .inr ⟨hsmall, ?_, ?_⟩
    · rw [heq]
      exact fun h => hnonempty (List.map_eq_nil_iff.mp h)
    · intro d hd
      rw [heq] at hd
      obtain ⟨code, hcode, rfl⟩ := List.mem_map.mp hd
      rw [toNat_ofNat_of_isValidChar (hcodes code hcode).bounds.1]
      exact hcodes code hcode
  | none =>
    cases hfind : upperRuns.find? (fun (first, last, step, _) =>
        first ≤ c.toNat && c.toNat ≤ last && (c.toNat - first) % step == 0)
      with
    | some run =>
      obtain ⟨hsmall, code, hcode, heq⟩ := upperChar_of_find? hlookup hfind
      refine .inr ⟨hsmall, ?_, ?_⟩
      · rw [heq]
        exact List.cons_ne_nil _ _
      · intro d hd
        rw [heq, List.mem_singleton] at hd
        rw [hd, toNat_ofNat_of_isValidChar hcode.bounds.1]
        exact hcode
    | none =>
      refine .inl ⟨?_, ?_⟩
      · unfold upperChar
        simp only [hlookup, hfind]
      · -- the letters `a`–`z` are the first run of the table
        have outside := List.find?_eq_none.mp hfind (0x61, 0x7a, 1, -32)
          List.mem_cons_self
        simp only [Bool.and_eq_true, decide_eq_true_eq, beq_iff_eq,
          Nat.mod_one, and_true] at outside
        rw [← Bool.not_eq_true, isAsciiSmall_iff]
        exact outside

/-- Nothing below the small ASCII letters has other capitals. -/
theorem upperChar_of_lt {c : Char} (h : c.toNat < 0x61) :
    upperChar c = [c] := by
  rcases upperChar_cases c with ⟨same, -⟩ | ⟨beyond, -⟩
  · exact same
  · omega

theorem upperChar_ne_nil (c : Char) : upperChar c ≠ [] := by
  rcases upperChar_cases c with ⟨same, -⟩ | ⟨-, nonempty, -⟩
  · rw [same]
    exact List.cons_ne_nil _ _
  · exact nonempty

/-- A mark below the semicolon is counted as often in the capitals of a
character as in the character itself. -/
theorem countP_upperChar {p : Char → Bool}
    (low : ∀ c, p c = true → c.toNat < 0x3b) (c : Char) :
    (upperChar c).countP p = [c].countP p := by
  rcases upperChar_cases c with ⟨same, -⟩ | ⟨beyond, -, codes⟩
  · rw [same]
  · have none_above (d : Char) (hd : 0x3b ≤ d.toNat) : ¬p d = true :=
      fun h => absurd (low d h) (Nat.not_lt.mpr hd)
    rw [List.countP_eq_zero.mpr fun d hd => none_above d (codes d hd).bounds.2.1,
      List.countP_eq_zero.mpr]
    intro d hd
    rw [List.mem_singleton.mp hd]
    exact none_above c (by omega)

/-! ## Texts in capitals -/

/-- **A text in capitals has no small ASCII letters.** -/
theorem isAsciiSmall_of_mem_upper {text : String} {d : Char}
    (h : d ∈ (upper text).toList) : isAsciiSmall d = false := by
  rw [upper, String.toList_ofList] at h
  obtain ⟨c, -, hd⟩ := List.mem_flatMap.mp h
  rcases upperChar_cases c with ⟨same, large⟩ | ⟨-, -, codes⟩
  · rw [same, List.mem_singleton] at hd
    rw [hd]
    exact large
  · rw [← Bool.not_eq_true, isAsciiSmall_iff]
    exact (codes d hd).bounds.2.2

/-- **Marks are kept in capitals.** -/
theorem countP_upper {p : Char → Bool}
    (low : ∀ c, p c = true → c.toNat < 0x3b) (text : String) :
    (upper text).toList.countP p = text.toList.countP p := by
  rw [upper, String.toList_ofList]
  induction text.toList with
  | nil => rfl
  | cons c cs ih =>
    rw [List.flatMap_cons, List.countP_append, ih, countP_upperChar low,
      ← List.countP_append]
    rfl

/-- A text of ASCII characters without small letters stays as it is. -/
theorem upper_eq_self {cs : List Char} (h : ∀ c ∈ cs, c.toNat < 0x61) :
    upper (String.ofList cs) = String.ofList cs := by
  rw [upper, String.toList_ofList]
  congr
  induction cs with
  | nil => rfl
  | cons c cs ih =>
    rw [List.flatMap_cons, upperChar_of_lt (h c List.mem_cons_self),
      ih fun d hd => h d (List.mem_cons_of_mem c hd)]
    rfl

/-- Capitals do not come to end in a blank. -/
theorem isBlank_of_mem_upperChar {c d : Char} (hc : isBlank c = false)
    (hd : d ∈ upperChar c) : isBlank d = false := by
  rcases upperChar_cases c with ⟨same, -⟩ | ⟨-, -, codes⟩
  · rw [same, List.mem_singleton] at hd
    rw [hd]
    exact hc
  · exact (codes d hd).isBlank

end GeoCatalogue.Text
