import GeoCatalogue.Proofs.Number.Reading
import Mathlib.Data.Nat.Digits.Defs

/-!
# Integers as they are written

An integer is written with a sign, perhaps, and with decimal digits of whichever
scripts, and an underscore may stand between two of the digits; there may be blanks
around it (`Number.Writes`). This says what a text is, and nothing of how it is read.

Reading first puts all characters into ASCII form. That loses nothing: what comes out
as a digit was a digit of the same value, and a sign or an underscore comes out of
itself only (`Number.eq_of_plainChar_eq`). So **a text is read as an integer exactly if
it is written for it** (`Number.readInteger?_trim_eq_some_iff`). In particular, an
integer that has been read once is read again from its decimal digits
(`Number.Writes.toString`).
-/
namespace GeoCatalogue.Number

open Text Json

/-! ## What is written -/

/-- **Digits as they are written**, with their values. -/
inductive WritesDigits : List Char → List ℕ → Prop where
  /-- The last digit. -/
  | last {c : Char} {v : ℕ} (digit : digitValue? c = some v) : WritesDigits [c] [v]
  /-- A digit in front of others. -/
  | next {c : Char} {v : ℕ} {cs : List Char} {vs : List ℕ}
      (digit : digitValue? c = some v) (rest : WritesDigits cs vs) :
      WritesDigits (c :: cs) (v :: vs)
  /-- A digit in front of others, with an underscore between them. -/
  | marked {c : Char} {v : ℕ} {cs : List Char} {vs : List ℕ}
      (digit : digitValue? c = some v) (rest : WritesDigits cs vs) :
      WritesDigits (c :: '_' :: cs) (v :: vs)

/-- **A sign**, and whether it is that of a negative number. -/
inductive WritesSign : List Char → Bool → Prop where
  /-- There is none. -/
  | absent : WritesSign [] false
  /-- The sign of a positive number. -/
  | plus : WritesSign ['+'] false
  /-- The sign of a negative number. -/
  | minus : WritesSign ['-'] true

/-- The integer with a sign and digits. -/
def signedValue (negative : Bool) (vs : List ℕ) : ℤ :=
  if negative then -(Nat.ofDigits 10 vs.reverse : ℕ) else (Nat.ofDigits 10 vs.reverse : ℕ)

/-- **A text is written for an integer**: a sign and digits, not too many, with blanks
around them. -/
inductive Writes (text : String) : ℤ → Prop where
  /-- The parts of the text. -/
  | parts {front sign digits back : List Char} {negative : Bool} {vs : List ℕ}
      (whole : text.toList = front ++ (sign ++ digits ++ back))
      (before : ∀ c ∈ front, isBlank c = true) (after : ∀ c ∈ back, isBlank c = true)
      (signed : WritesSign sign negative) (written : WritesDigits digits vs)
      (short : vs.length ≤ longestInteger) : Writes text (signedValue negative vs)

/-! ## Digits of all scripts -/

variable {c d : Char} {v : ℕ} {cs ds : List Char} {vs : List ℕ}

theorem exists_zero_of_digitValue? (h : digitValue? c = some v) :
    ∃ base ∈ digitZeros, v < 10 ∧ c.toNat = base + v := by
  obtain ⟨base, found, rfl⟩ := Option.map_eq_some_iff.mp h
  have range := List.find?_some found
  rw [Bool.and_eq_true, decide_eq_true_eq, decide_eq_true_eq] at range
  exact ⟨base, List.mem_of_find?_eq_some found, by omega, by omega⟩

/-- The digits of ASCII come first in the table. -/
theorem digitValue?_of_isAsciiDigit (h : isAsciiDigit c = true) :
    digitValue? c = some (c.toNat - 0x30) := by
  obtain ⟨low, high⟩ := isAsciiDigit_iff.mp h
  have first : (decide (0x30 ≤ c.toNat) && decide (c.toNat < 0x30 + 10)) = true := by
    rw [Bool.and_eq_true, decide_eq_true_eq, decide_eq_true_eq]
    omega
  unfold digitValue? digitZeros
  rw [List.find?_cons, first]
  rfl

@[simp] theorem toNat_digitChar (h : v < 10) : (digitChar v).toNat = 0x30 + v := by
  revert v
  decide

/-- No digit is blank. -/
theorem isBlank_of_digitValue? (h : digitValue? c = some v) : isBlank c = false := by
  obtain ⟨base, mem, small, place⟩ := exists_zero_of_digitValue? h
  -- ten places behind a zero there is no blank, and neither is there a run of blanks
  have apart : ∀ base ∈ digitZeros,
      (∀ blank ∈ [0x85, 0xa0, 0x1680, 0x2028, 0x2029, 0x202f, 0x205f, 0x3000],
        blank < base ∨ base + 10 ≤ blank) ∧ 0x20 < base ∧
      (base + 10 ≤ 0x2000 ∨ 0x200a < base) := by
    decide
  obtain ⟨single, low, run⟩ := apart base mem
  simp only [List.forall_mem_cons, List.not_mem_nil, false_imp_iff, implies_true,
    and_true] at single
  rw [← Bool.not_eq_true, isBlank_iff]
  omega

/-- **A digit comes out as the digit of its value.** -/
theorem plainChar_of_digitValue? (h : digitValue? c = some v) :
    plainChar c = digitChar v := by
  obtain ⟨base, mem, small, place⟩ := exists_zero_of_digitValue? h
  unfold plainChar
  split
  · next ascii =>
    have first : ∀ base ∈ digitZeros, base = 0x30 ∨ 0x7f ≤ base := by decide
    refine Char.toNat_inj.mp ?_
    rw [toNat_digitChar small, place]
    have := first base mem
    omega
  · rw [isBlank_of_digitValue? h, if_neg Bool.false_ne_true, h]

/-- **What comes out as a digit was one.** -/
theorem exists_digitValue?_of_plainChar (h : isAsciiDigit (plainChar c) = true) :
    ∃ v, digitValue? c = some v := by
  unfold plainChar at h
  split at h
  · exact ⟨_, digitValue?_of_isAsciiDigit h⟩
  · split at h
    · cases h
    · split at h
      · next found => exact ⟨_, found⟩
      · cases h

/-- **A sign or an underscore comes out of itself only.** -/
theorem eq_of_plainChar_eq (mark : d ∈ ['_', '+', '-']) (h : plainChar c = d) : c = d := by
  unfold plainChar at h
  split at h
  · exact h
  · split at h
    · rw [← h] at mark
      exact absurd mark (by decide)
    · split at h
      · next found =>
        obtain ⟨-, -, small, -⟩ := exists_zero_of_digitValue? found
        have digits : ∀ v < 10, digitChar v ∉ ['_', '+', '-'] := by decide
        rw [← h] at mark
        exact absurd mark (digits _ small)
      · rw [← h] at mark
        exact absurd mark (by decide)

/-- What is not blank does not come out as white space. -/
theorem isNumberSpace_plainChar (h : isBlank c = false) :
    isNumberSpace (plainChar c) = false := by
  rw [← Bool.not_eq_true, isBlank_iff] at h
  have visible (d : Char) (place : d.toNat ≠ 0x20)
      (line : ¬ (0x09 ≤ d.toNat ∧ d.toNat ≤ 0x0d)) : isNumberSpace d = false := by
    simp only [isNumberSpace, Bool.or_eq_false_iff, beq_eq_false_iff_ne,
      Bool.and_eq_false_iff, decide_eq_false_iff_not]
    refine ⟨fun same => place (same ▸ rfl), by omega⟩
  unfold plainChar
  split
  · exact visible c (by omega) (by omega)
  · split
    · next blank => exact absurd (isBlank_iff.mp blank) h
    · split
      · next found =>
        obtain ⟨-, -, small, -⟩ := exists_zero_of_digitValue? found
        have digit := toNat_digitChar small
        exact visible _ (by omega) (by omega)
      · rfl

/-! ## Underscores -/

theorem WritesDigits.lt_ten (h : WritesDigits cs vs) : ∀ v ∈ vs, v < 10 := by
  have below {c : Char} {v : ℕ} (digit : digitValue? c = some v) : v < 10 :=
    (exists_zero_of_digitValue? digit).elim fun _ found => found.2.1
  induction h with
  | last digit => exact List.forall_mem_singleton.mpr (below digit)
  | next digit _ ih => exact List.forall_mem_cons.mpr ⟨below digit, ih⟩
  | marked digit _ ih => exact List.forall_mem_cons.mpr ⟨below digit, ih⟩

/-- The digits of values below ten are ASCII digits. -/
theorem areDigits_map_digitChar (nonempty : vs ≠ []) (small : ∀ v ∈ vs, v < 10) :
    AreDigits (vs.map digitChar) := by
  refine ⟨mt List.map_eq_nil_iff.mp nonempty, fun c hc => ?_⟩
  obtain ⟨v, mem, rfl⟩ := List.mem_map.mp hc
  rw [isAsciiDigit_iff, toNat_digitChar (small v mem)]
  have := small v mem
  omega

theorem WritesDigits.exists_head (h : WritesDigits cs vs) :
    ∃ c cs' v vs', cs = c :: cs' ∧ vs = v :: vs' ∧ digitValue? c = some v := by
  cases h with
  | last digit => exact ⟨_, _, _, _, rfl, rfl, digit⟩
  | next digit _ => exact ⟨_, _, _, _, rfl, rfl, digit⟩
  | marked digit _ => exact ⟨_, _, _, _, rfl, rfl, digit⟩

theorem WritesDigits.ne_nil (h : WritesDigits cs vs) : vs ≠ [] := by
  cases h <;> exact List.cons_ne_nil _ _

/-- What comes out of a digit is an ASCII digit. -/
theorem isAsciiDigit_plainChar (h : digitValue? c = some v) :
    isAsciiDigit (plainChar c) = true ∧ plainChar c ≠ '_' := by
  obtain ⟨-, -, small, -⟩ := exists_zero_of_digitValue? h
  have digits : ∀ v < 10, isAsciiDigit (digitChar v) = true ∧ digitChar v ≠ '_' := by
    decide
  rw [plainChar_of_digitValue? h]
  exact digits v small

theorem withoutGroupMarks_cons (mark : c ≠ '_') (before : Char) (cs : List Char) :
    withoutGroupMarks before (c :: cs) = (withoutGroupMarks c cs).map (c :: ·) := by
  conv_lhs => unfold withoutGroupMarks
  rw [beq_eq_false_iff_ne.mpr mark, if_neg Bool.false_ne_true]

/-- An underscore between two digits goes. -/
theorem withoutGroupMarks_mark {before : Char} (hbefore : isAsciiDigit before = true)
    (hbehind : isAsciiDigit c = true) (cs : List Char) :
    withoutGroupMarks before ('_' :: c :: cs) = withoutGroupMarks '_' (c :: cs) := by
  conv_lhs => unfold withoutGroupMarks
  dsimp only
  rw [hbefore, hbehind]
  rfl

/-- An underscore that does not stand between two digits is refused. -/
theorem withoutGroupMarks_stray {before : Char}
    (stray : ∀ c, cs.head? = some c → (isAsciiDigit before && isAsciiDigit c) = false) :
    withoutGroupMarks before ('_' :: cs) = none := by
  unfold withoutGroupMarks
  cases cs with
  | nil => rfl
  | cons c cs => simp only [stray c rfl]; rfl

/-- **The underscores between digits are left out.** -/
theorem WritesDigits.withoutGroupMarks (h : WritesDigits cs vs) (before : Char) :
    withoutGroupMarks before (cs.map plainChar) = some (vs.map digitChar) := by
  induction h generalizing before with
  | last digit =>
    rw [List.map_singleton, withoutGroupMarks_cons (isAsciiDigit_plainChar digit).2,
      plainChar_of_digitValue? digit]
    rfl
  | next digit _ ih =>
    rw [List.map_cons, withoutGroupMarks_cons (isAsciiDigit_plainChar digit).2, ih,
      plainChar_of_digitValue? digit]
    rfl
  | marked digit rest ih =>
    obtain ⟨d, ds, w, ws, rfl, rfl, second⟩ := rest.exists_head
    rw [List.map_cons, withoutGroupMarks_cons (isAsciiDigit_plainChar digit).2,
      List.map_cons, List.map_cons, show plainChar '_' = '_' from rfl,
      withoutGroupMarks_mark (isAsciiDigit_plainChar digit).1
        (isAsciiDigit_plainChar second).1,
      ← List.map_cons (f := plainChar), ih, plainChar_of_digitValue? digit]
    rfl

/-- What starts with something else than an underscore leaves something behind. -/
theorem ne_nil_of_withoutGroupMarks {before : Char} (mark : c ≠ '_')
    (left : withoutGroupMarks before (c :: cs) = some ds) : ds ≠ [] := by
  rw [withoutGroupMarks_cons mark] at left
  obtain ⟨behind, -, rfl⟩ := Option.map_eq_some_iff.mp left
  exact List.cons_ne_nil _ _

/-- **Only digits leave digits behind**, and the underscores between them. -/
theorem exists_writesDigits {before : Char} (front : cs.head? ≠ some '_')
    (left : withoutGroupMarks before (cs.map plainChar) = some ds) (digits : AreDigits ds) :
    ∃ vs, WritesDigits cs vs ∧ ds = vs.map digitChar := by
  -- the first character, with what it leaves behind
  have split {c : Char} {cs ds : List Char} {before : Char} (front : c ≠ '_')
      (left : withoutGroupMarks before ((c :: cs).map plainChar) = some ds)
      (digits : AreDigits ds) :
      ∃ v behind, digitValue? c = some v ∧ ds = digitChar v :: behind ∧
        withoutGroupMarks (plainChar c) (cs.map plainChar) = some behind ∧
        ∀ d ∈ behind, isAsciiDigit d = true := by
    have mark : plainChar c ≠ '_' := fun same =>
      front (eq_of_plainChar_eq (by decide) same)
    rw [List.map_cons, withoutGroupMarks_cons mark] at left
    obtain ⟨behind, kept, rfl⟩ := Option.map_eq_some_iff.mp left
    obtain ⟨first, others⟩ := List.forall_mem_cons.mp digits.2
    obtain ⟨v, digit⟩ := exists_digitValue?_of_plainChar first
    exact ⟨v, behind, digit, by rw [plainChar_of_digitValue? digit], kept, others⟩
  induction cs using List.twoStepInduction generalizing before ds with
  | nil => exact absurd (Option.some.inj left).symm digits.1
  | singleton c =>
    obtain ⟨v, behind, digit, rfl, left, -⟩ := split (fun h => front (h ▸ rfl)) left digits
    obtain rfl := Option.some.inj left
    exact ⟨[v], .last digit, rfl⟩
  | cons_cons c d cs skipped ih =>
    obtain ⟨v, behind, digit, rfl, left, others⟩ :=
      split (fun h => front (h ▸ rfl)) left digits
    by_cases mark : d = '_'
    · subst mark
      -- an underscore is left out between digits only
      cases cs with
      | nil =>
        exact absurd (left.symm.trans (withoutGroupMarks_stray nofun)) (Option.some_ne_none _)
      | cons e cs =>
        have ascii : isAsciiDigit (plainChar e) = true := by
          by_contra other
          refine absurd (left.symm.trans (withoutGroupMarks_stray ?_)) (Option.some_ne_none _)
          rintro _ ⟨⟩
          rw [Bool.not_eq_true _ |>.mp other, Bool.and_false]
        obtain ⟨w, second⟩ := exists_digitValue?_of_plainChar ascii
        have plain := (isAsciiDigit_plainChar second).2
        rw [List.map_cons, List.map_cons, show plainChar '_' = '_' from rfl,
          withoutGroupMarks_mark (isAsciiDigit_plainChar digit).1 ascii] at left
        have first : e ≠ '_' := fun same => plain (congrArg plainChar same)
        obtain ⟨vs, written, rfl⟩ := skipped (fun h => first (Option.some.inj h)) left
          ⟨ne_nil_of_withoutGroupMarks plain left, others⟩
        exact ⟨v :: vs, .marked digit written, rfl⟩
    · have plain : plainChar d ≠ '_' := fun same => mark (eq_of_plainChar_eq (by decide) same)
      obtain ⟨vs, written, rfl⟩ := ih _ (fun h => mark (Option.some.inj h)) left
        ⟨ne_nil_of_withoutGroupMarks plain left, others⟩
      exact ⟨v :: vs, .next digit written, rfl⟩

/-! ## Values -/

/-- **The digits of values have the value of their positions.** -/
@[simp] theorem digitsValue_map_digitChar (small : ∀ v ∈ vs, v < 10) :
    digitsValue (vs.map digitChar) = Nat.ofDigits 10 vs.reverse := by
  induction vs using List.reverseRecOn with
  | nil => rfl
  | append_singleton vs v ih =>
    rw [List.forall_mem_append, List.forall_mem_singleton] at small
    have last : digitsValue [digitChar v] = v := by
      show 0 * 10 + ((digitChar v).toNat - 0x30) = v
      rw [toNat_digitChar small.2]
      omega
    rw [List.map_append, List.map_singleton, digitsValue_append, ih small.1, last,
      List.reverse_append, List.reverse_singleton, List.singleton_append,
      Nat.ofDigits_cons, List.length_singleton]
    omega

/-- The ASCII digits are written for their values. -/
theorem WritesDigits.exists_of_areDigits (h : AreDigits cs) :
    ∃ vs, WritesDigits cs vs ∧ cs = vs.map digitChar := by
  have plain : cs.map plainChar = cs :=
    (List.map_congr_left fun c hc => (plainChar_eq_self (.inl (h.2 c hc))).1).trans
      (List.map_id cs)
  have front : cs.head? ≠ some '_' := fun front =>
    absurd (h.2 '_' (List.mem_of_head? front)) (by decide)
  have left : Number.withoutGroupMarks ' ' (cs.map plainChar) = some cs := by
    rw [plain]
    exact withoutGroupMarks_eq_self
      (fun c hc => (plainChar_eq_self (.inl (h.2 c hc))).2.2) ' '
  exact exists_writesDigits front left h

/-! ## Reading -/

/-- A sign is in ASCII form, and it is split off. -/
theorem WritesSign.splitSign {sign : List Char} {negative : Bool}
    (h : WritesSign sign negative) (digits : AreDigits ds) :
    splitSign (sign ++ ds) = (negative, ds) := by
  cases h with
  | absent =>
    obtain ⟨nonempty, all⟩ := digits
    cases ds with
    | nil => exact absurd rfl nonempty
    | cons first rest => exact splitSign_digit (all first List.mem_cons_self) rest false
  | plus => rfl
  | minus => rfl

/-- An underscore at the front is refused. -/
theorem head?_ne_underscore {before : Char} (nodigit : isAsciiDigit before = false)
    (left : withoutGroupMarks before (cs.map plainChar) = some ds) :
    cs.head? ≠ some '_' := by
  intro front
  obtain ⟨rest, rfl⟩ := List.head?_eq_some_iff.mp front
  refine absurd (left.symm.trans (withoutGroupMarks_stray ?_)) (Option.some_ne_none _)
  intro c _
  rw [nodigit, Bool.false_and]

/-- **The parts of a number** leave its sign and its digits behind. -/
theorem WritesSign.withoutGroupMarks {sign : List Char} {negative : Bool}
    (signed : WritesSign sign negative) (written : WritesDigits cs vs) :
    withoutGroupMarks ' ' ((sign ++ cs).map plainChar) = some (sign ++ vs.map digitChar) := by
  cases signed with
  | absent => exact written.withoutGroupMarks ' '
  | plus =>
    rw [List.singleton_append, List.map_cons, show plainChar '+' = '+' from rfl,
      withoutGroupMarks_cons (by decide), written.withoutGroupMarks]
    rfl
  | minus =>
    rw [List.singleton_append, List.map_cons, show plainChar '-' = '-' from rfl,
      withoutGroupMarks_cons (by decide), written.withoutGroupMarks]
    rfl

/-- **Only a sign and digits leave a sign and digits behind.** -/
theorem exists_writes {out : List Char} {negative : Bool}
    (left : withoutGroupMarks ' ' (cs.map plainChar) = some out)
    (split : splitSign out = (negative, ds)) (digits : AreDigits ds) :
    ∃ sign body vs, cs = sign ++ body ∧ WritesSign sign negative ∧
      WritesDigits body vs ∧ ds = vs.map digitChar := by
  have front := head?_ne_underscore (by decide) left
  -- a sign comes out of itself, and no underscore stands behind it
  have behind {sign : Char} {rest : List Char}
      (left : withoutGroupMarks ' ' (cs.map plainChar) = some (sign :: rest))
      (mark : sign ∈ ['+', '-']) (digits : AreDigits rest) :
      ∃ body vs, cs = sign :: body ∧ WritesDigits body vs ∧ rest = vs.map digitChar := by
    have known : ∀ d ∈ ['+', '-'], d ∈ ['_', '+', '-'] ∧ isAsciiDigit d = false :=
      List.forall_mem_cons.mpr ⟨by decide, List.forall_mem_singleton.mpr (by decide)⟩
    obtain ⟨other, nodigit⟩ := known sign mark
    cases cs with
    | nil => cases left
    | cons c body =>
      have plain : plainChar c ≠ '_' := fun same =>
        front (congrArg some (eq_of_plainChar_eq (by decide) same))
      rw [List.map_cons, withoutGroupMarks_cons plain] at left
      obtain ⟨out, kept, same⟩ := Option.map_eq_some_iff.mp left
      obtain ⟨first, rfl⟩ := List.cons.inj same
      obtain rfl := eq_of_plainChar_eq other first
      rw [first] at kept
      obtain ⟨vs, written, rfl⟩ :=
        exists_writesDigits (head?_ne_underscore nodigit kept) kept digits
      exact ⟨body, vs, rfl, written, rfl⟩
  unfold splitSign at split
  split at split
  · obtain ⟨rfl, rfl⟩ := Prod.mk.inj split
    obtain ⟨body, vs, rfl, written, rfl⟩ := behind left (by decide) digits
    exact ⟨['-'], body, vs, rfl, .minus, written, rfl⟩
  · obtain ⟨rfl, rfl⟩ := Prod.mk.inj split
    obtain ⟨body, vs, rfl, written, rfl⟩ := behind left (by decide) digits
    exact ⟨['+'], body, vs, rfl, .plus, written, rfl⟩
  · obtain ⟨rfl, rfl⟩ := Prod.mk.inj split
    obtain ⟨vs, written, rfl⟩ := exists_writesDigits front left digits
    exact ⟨[], cs, vs, rfl, .absent, written, rfl⟩

/-- There are no blanks in a number. -/
theorem WritesSign.isBlank {sign : List Char} {negative : Bool}
    (signed : WritesSign sign negative) (written : WritesDigits cs vs) :
    ∀ c ∈ sign ++ cs, isBlank c = false := by
  have digits : ∀ c ∈ cs, Text.isBlank c = false := by
    induction written with
    | last digit => exact List.forall_mem_singleton.mpr (isBlank_of_digitValue? digit)
    | next digit _ ih => exact List.forall_mem_cons.mpr ⟨isBlank_of_digitValue? digit, ih⟩
    | marked digit _ ih =>
      exact List.forall_mem_cons.mpr
        ⟨isBlank_of_digitValue? digit, List.forall_mem_cons.mpr ⟨by decide, ih⟩⟩
  refine List.forall_mem_append.mpr ⟨?_, digits⟩
  cases signed with
  | absent => exact List.forall_mem_nil _
  | plus => exact List.forall_mem_singleton.mpr (by decide)
  | minus => exact List.forall_mem_singleton.mpr (by decide)

/-- What has been trimmed has no white space at its ends. -/
theorem trimList_plainForm_trim (text : String) :
    trimList isNumberSpace (plainForm (trim text))
      = (trimList Text.isBlank text.toList).map plainChar := by
  unfold plainForm trim
  rw [String.toList_ofList]
  refine trimList_eq_self (fun c hc => ?_) (fun c hc => ?_)
  · rw [List.head?_map] at hc
    obtain ⟨d, first, rfl⟩ := Option.map_eq_some_iff.mp hc
    exact isNumberSpace_plainChar (head?_trimList first)
  · rw [List.getLast?_map] at hc
    obtain ⟨d, last, rfl⟩ := Option.map_eq_some_iff.mp hc
    exact isNumberSpace_plainChar (getLast?_trimList last)

/-- Where there are only digits, all of them are split off. -/
theorem areDigits_iff_splitDigits :
    AreDigits cs ↔ (splitDigits cs).1 ≠ [] ∧ (splitDigits cs).2 = [] := by
  have all : (splitDigits cs).2 = [] ↔ ∀ c ∈ cs, isAsciiDigit c = true :=
    List.dropWhile_eq_nil_iff
  have whole : (splitDigits cs).1 ++ (splitDigits cs).2 = cs :=
    List.takeWhile_append_dropWhile
  unfold AreDigits
  rw [← all]
  refine and_congr_left fun nothing => ?_
  rw [nothing, List.append_nil] at whole
  rw [whole]

/-- **What is read are a sign and digits.** -/
theorem readInteger?_eq_some_iff {text : String} {n : ℤ} :
    readInteger? text = some n ↔
      ∃ out negative ds,
        withoutGroupMarks ' ' (trimList isNumberSpace (plainForm text)) = some out ∧
        splitSign out = (negative, ds) ∧ AreDigits ds ∧ ds.length ≤ longestInteger ∧
        n = if negative then -(digitsValue ds : ℤ) else digitsValue ds := by
  have digits {ds : List Char} : AreDigits ds → (splitDigits ds).1 = ds ∧
      (splitDigits ds).2 = [] := fun h => by
    have whole : (splitDigits ds).1 ++ (splitDigits ds).2 = ds :=
      List.takeWhile_append_dropWhile
    have nothing := (areDigits_iff_splitDigits.mp h).2
    rw [nothing, List.append_nil] at whole
    exact ⟨whole, nothing⟩
  have refused {ds : List Char} : ((splitDigits ds).1.isEmpty || !(splitDigits ds).2.isEmpty ||
      decide (longestInteger < (splitDigits ds).1.length)) = false ↔
      AreDigits ds ∧ ds.length ≤ longestInteger := by
    rw [Bool.or_eq_false_iff, Bool.or_eq_false_iff, Bool.not_eq_false', List.isEmpty_iff,
      List.isEmpty_eq_false_iff, decide_eq_false_iff_not, not_lt, ← areDigits_iff_splitDigits]
    exact and_congr_right fun h => by rw [(digits h).1]
  unfold readInteger?
  constructor
  · intro read
    obtain ⟨out, left, read⟩ := Option.bind_eq_some_iff.mp read
    dsimp only at read
    split at read
    · cases read
    · next fits =>
      obtain ⟨areDigits, short⟩ := refused.mp (Bool.eq_false_iff.mpr fits)
      rw [(digits areDigits).1] at read
      exact ⟨out, _, _, left, rfl, areDigits, short, (Option.some.inj read).symm⟩
  · rintro ⟨out, negative, ds, left, split, areDigits, short, rfl⟩
    rw [left, Option.bind_eq_bind, Option.bind_some]
    dsimp only
    rw [split, refused.mpr ⟨areDigits, short⟩, if_neg Bool.false_ne_true, (digits areDigits).1]

/-- **A text is read as an integer exactly if it is written for it**, blanks around it
aside. -/
theorem readInteger?_trim_eq_some_iff {text : String} {n : ℤ} :
    readInteger? (trim text) = some n ↔ Writes text n := by
  rw [readInteger?_eq_some_iff, trimList_plainForm_trim]
  constructor
  · rintro ⟨out, negative, ds, left, split, digits, short, rfl⟩
    obtain ⟨sign, body, vs, parts, signed, written, rfl⟩ := exists_writes left split digits
    obtain ⟨front, back, whole, before, after⟩ := exists_trimList_eq Text.isBlank text.toList
    rw [parts] at whole
    rw [List.length_map] at short
    rw [digitsValue_map_digitChar written.lt_ten]
    exact .parts whole before after signed written short
  · rintro ⟨whole, before, after, signed, written, short⟩
    have visible := signed.isBlank written
    have trimmed := trimList_eq_self (p := Text.isBlank)
      (fun c hc => visible c (List.mem_of_head? hc))
      (fun c hc => visible c (List.mem_of_getLast? hc))
    have digits := areDigits_map_digitChar written.ne_nil written.lt_ten
    rw [whole, trimList_between before after, trimmed]
    refine ⟨_, _, _, signed.withoutGroupMarks written, signed.splitSign digits, digits, ?_, ?_⟩
    · rwa [List.length_map]
    · rw [digitsValue_map_digitChar written.lt_ten]
      rfl

/-- **An integer is written by its decimal digits**, if they are not too many. -/
theorem writes_toString {n : ℤ} (short : (Nat.toDigits 10 n.natAbs).length ≤ longestInteger) :
    Writes (toString n) n := by
  obtain ⟨vs, written, same⟩ := WritesDigits.exists_of_areDigits (areDigits_toDigits n.natAbs)
  have value : Nat.ofDigits 10 vs.reverse = n.natAbs := by
    rw [← digitsValue_map_digitChar written.lt_ten, ← same, digitsValue_toDigits]
  have length : vs.length ≤ longestInteger := by
    rwa [same, List.length_map] at short
  have nothing : ∀ c ∈ ([] : List Char), isBlank c = true := nofun
  cases n with
  | ofNat n =>
    have whole : (toString (Int.ofNat n)).toList
        = [] ++ ([] ++ Nat.toDigits 10 (Int.ofNat n).natAbs ++ []) := by
      rw [List.append_nil]
      exact Nat.toList_repr
    have writes := Writes.parts whole nothing nothing .absent written length
    rwa [signedValue, value, if_neg Bool.false_ne_true] at writes
  | negSucc n =>
    have whole : (toString (Int.negSucc n)).toList
        = [] ++ (['-'] ++ Nat.toDigits 10 (Int.negSucc n).natAbs ++ []) := by
      rw [List.append_nil]
      show ("-" ++ (n + 1).repr).toList = _
      rw [String.toList_append, Nat.toList_repr]
      rfl
    have writes := Writes.parts whole nothing nothing .minus written length
    rwa [signedValue, value, if_pos rfl] at writes

/-- **What has been read once is read again from its decimal digits.** -/
theorem Writes.toString {text : String} {n : ℤ} (h : Writes text n) :
    Writes (toString n) n := by
  refine writes_toString ?_
  obtain ⟨whole, before, after, signed, written, short⟩ := h
  rename_i negative vs
  have value : (signedValue negative vs).natAbs = Nat.ofDigits 10 vs.reverse := by
    unfold signedValue
    split
    · rw [Int.natAbs_neg, Int.natAbs_natCast]
    · exact Int.natAbs_natCast _
  have bound : Nat.ofDigits 10 vs.reverse < 10 ^ vs.length := by
    rw [← List.length_reverse]
    exact Nat.ofDigits_lt_base_pow_length (by decide)
      fun v hv => written.lt_ten v (List.mem_reverse.mp hv)
  refine le_trans ?_ short
  rw [Nat.length_toDigits_le_iff (by decide) (List.length_pos_of_ne_nil written.ne_nil), value]
  exact bound

end GeoCatalogue.Number
