import GeoCatalogue.Json
import GeoCatalogue.Text.DecimalDigit
import Mathlib.Data.List.Basic
import Mathlib.Data.List.DropRight

/-!
# What is written as JSON is JSON

A JSON document is one value with white space around it (`Json.IsDocument`). The
grammar is stated for characters and says nothing of values, so that it does not
depend on how they are written here.

There is no JSON for an infinite or an undefined number. **Every other value is
written as a document** (`Json.isDocument_indented`): numbers of any size are laid
out as JSON numbers, positional or with an exponent (`Binary64.isNumber_chars`), and
a text is escaped so that nothing in it ends it (`Json.isText_quote`).
-/
namespace GeoCatalogue

open Text

/-! ## The grammar -/

namespace Json

/-- White space. -/
def AreSpaces (cs : List Char) : Prop :=
  ∀ c ∈ cs, c = ' ' ∨ c = '\t' ∨ c = '\n' ∨ c = '\r'

/-- Some digits, at least one. -/
def AreDigits (cs : List Char) : Prop :=
  cs ≠ [] ∧ ∀ c ∈ cs, isAsciiDigit c = true

/-- **The digits of a whole number**: zero, or digits that start with another. -/
inductive IsWhole : List Char → Prop where
  /-- Zero. -/
  | zero : IsWhole ['0']
  /-- A number without a zero in front. -/
  | positive {cs : List Char} (digits : AreDigits cs) (front : cs.head? ≠ some '0') :
      IsWhole cs

/-- **The part of a number behind the point**, if there is one. -/
inductive IsFraction : List Char → Prop where
  /-- There is none. -/
  | absent : IsFraction []
  /-- The point and some digits. -/
  | present {cs : List Char} (digits : AreDigits cs) : IsFraction ('.' :: cs)

/-- **The exponent of a number**, if there is one. -/
inductive IsExponent : List Char → Prop where
  /-- There is none. -/
  | absent : IsExponent []
  /-- The mark, perhaps a sign, and some digits. -/
  | present {mark : Char} {sign cs : List Char} (marked : mark = 'e' ∨ mark = 'E')
      (signed : sign ∈ [[], ['+'], ['-']]) (digits : AreDigits cs) :
      IsExponent (mark :: (sign ++ cs))

/-- **A number without a sign.** -/
inductive IsMagnitude : List Char → Prop where
  /-- The three parts. -/
  | parts {whole fraction exponent : List Char} (digits : IsWhole whole)
      (behind : IsFraction fraction) (power : IsExponent exponent) :
      IsMagnitude (whole ++ fraction ++ exponent)

/-- **A number.** -/
inductive IsNumber : List Char → Prop where
  /-- One without a sign. -/
  | plain {cs : List Char} (h : IsMagnitude cs) : IsNumber cs
  /-- A negative one. -/
  | negative {cs : List Char} (h : IsMagnitude cs) : IsNumber ('-' :: cs)

/-- **A piece of a text** between quotation marks. -/
inductive IsPiece : List Char → Prop where
  /-- A character that stands for itself. -/
  | plain {c : Char} (visible : 0x20 ≤ c.toNat) (unquoted : c ≠ '"')
      (unescaped : c ≠ '\\') : IsPiece [c]
  /-- A character behind a backslash. -/
  | escaped {c : Char} (known : c ∈ ['"', '\\', '/', 'b', 'f', 'n', 'r', 't']) :
      IsPiece ['\\', c]
  /-- A code unit. -/
  | unit {cs : List Char} (four : cs.length = 4)
      (digits : ∀ c ∈ cs, isHexDigit c = true) : IsPiece ('\\' :: 'u' :: cs)

/-- **A text**: pieces between quotation marks. -/
inductive IsText : List Char → Prop where
  /-- The pieces of the text. -/
  | quoted {pieces : List (List Char)} (each : ∀ piece ∈ pieces, IsPiece piece) :
      IsText ('"' :: pieces.flatten ++ ['"'])

/-- **The name of a member**: a text with white space around it. -/
inductive IsName : List Char → Prop where
  /-- The text. -/
  | spaced {front cs back : List Char} (before : AreSpaces front) (text : IsText cs)
      (after : AreSpaces back) : IsName (front ++ cs ++ back)

/-- **A document**: a value with white space around it. Members and items are
documents themselves, with commas between them. -/
inductive IsDocument : List Char → Prop where
  /-- Nothing. -/
  | null : IsDocument "null".toList
  /-- Truth. -/
  | true : IsDocument "true".toList
  /-- Falsehood. -/
  | false : IsDocument "false".toList
  /-- A number. -/
  | number {cs : List Char} (h : IsNumber cs) : IsDocument cs
  /-- A text. -/
  | text {cs : List Char} (h : IsText cs) : IsDocument cs
  /-- A list without items. -/
  | emptyList {cs : List Char} (spaces : AreSpaces cs) : IsDocument ('[' :: cs ++ [']'])
  /-- A list of items. -/
  | list {items : List (List Char)} (nonempty : items ≠ [])
      (each : ∀ item ∈ items, IsDocument item) :
      IsDocument ('[' :: [','].intercalate items ++ [']'])
  /-- An object without members. -/
  | emptyObject {cs : List Char} (spaces : AreSpaces cs) :
      IsDocument ('\x7b' :: cs ++ ['\x7d'])
  /-- An object with members. -/
  | object {members : List (List Char × List Char)} (nonempty : members ≠ [])
      (names : ∀ m ∈ members, IsName m.1) (each : ∀ m ∈ members, IsDocument m.2) :
      IsDocument ('\x7b' :: [','].intercalate (members.map fun m => m.1 ++ ':' :: m.2)
        ++ ['\x7d'])
  /-- More white space. -/
  | spaced {front cs back : List Char} (before : AreSpaces front) (value : IsDocument cs)
      (after : AreSpaces back) : IsDocument (front ++ cs ++ back)

end Json

/-! ## Numbers -/

/-- **The digits by their code points.** -/
theorem Text.isAsciiDigit_iff {c : Char} :
    isAsciiDigit c = true ↔ 0x30 ≤ c.toNat ∧ c.toNat ≤ 0x39 := by
  unfold isAsciiDigit
  rw [Bool.and_eq_true, decide_eq_true_eq, decide_eq_true_eq]
  exact Iff.rfl

open Json

theorem Json.AreDigits.append {cs ds : List Char} (h : AreDigits cs)
    (others : ∀ d ∈ ds, isAsciiDigit d = true) : AreDigits (cs ++ ds) := by
  refine ⟨List.append_ne_nil_of_left_ne_nil h.1 ds, fun c hc => ?_⟩
  rcases List.mem_append.mp hc with hc | hc
  · exact h.2 c hc
  · exact others c hc

theorem isAsciiDigit_of_mem_replicate {n : Nat} {c : Char}
    (h : c ∈ List.replicate n '0') : isAsciiDigit c = true := by
  rw [List.eq_of_mem_replicate h]
  rfl

theorem areDigits_toDigits (n : Nat) : AreDigits (Nat.toDigits 10 n) :=
  ⟨Nat.toDigits_ne_nil, fun _ hc => Nat.isDigit_of_mem_toDigits (by decide) (by decide) hc⟩

/-- A positive number is written without a zero in front. -/
theorem head?_toDigits {n : Nat} (h : n ≠ 0) : (Nat.toDigits 10 n).head? ≠ some '0' := by
  induction n using Nat.strongRecOn with
  | ind n ih =>
    rw [Nat.toDigits_eq_if (by decide)]
    split
    case isTrue small =>
      have digits : ∀ d < 10, d ≠ 0 → [Nat.digitChar d].head? ≠ some '0' := by decide
      exact digits n small h
    case isFalse large =>
      rw [List.head?_append_of_ne_nil _ Nat.toDigits_ne_nil]
      exact ih (n / 10) (by omega) (by omega)

theorem isWhole_toDigits (n : Nat) : IsWhole (Nat.toDigits 10 n) := by
  by_cases h : n = 0
  · rw [h]
    exact .zero
  · exact .positive (areDigits_toDigits n) (head?_toDigits h)

/-- **Integers are written as numbers.** -/
theorem isNumber_toString (n : Int) : IsNumber (toString n).toList := by
  have magnitude (m : Nat) : IsMagnitude m.repr.toList := by
    rw [Nat.toList_repr]
    simpa using IsMagnitude.parts (isWhole_toDigits m) .absent .absent
  cases n with
  | ofNat n => exact .plain (magnitude n)
  | negSucc n =>
    show IsNumber ("-" ++ (n + 1).repr).toList
    rw [String.toList_append]
    exact .negative (magnitude (n + 1))

namespace Decimal

variable {ds : List Char}

@[simp] theorem significantDigits_zero : significantDigits 0 = ['0'] := by
  decide

/-- **The digits that count of a positive number** are those in front of the zeros at
its end. -/
theorem significantDigits_eq_rdropWhile {n : Nat} (h : n ≠ 0) :
    (Nat.toDigits 10 n).rdropWhile (· == '0') ≠ [] ∧
      significantDigits n = (Nat.toDigits 10 n).rdropWhile (· == '0') := by
  have front := head?_toDigits h
  -- the first digit is no zero, so something is left when zeros are cut off
  have left : (Nat.toDigits 10 n).rdropWhile (· == '0') ≠ [] := by
    intro all
    obtain ⟨c, cs, split⟩ := List.exists_cons_of_ne_nil (areDigits_toDigits n).1
    rw [List.rdropWhile_eq_nil_iff] at all
    have zero := all c (by rw [split]; exact List.mem_cons_self)
    rw [split, List.head?_cons, beq_iff_eq.mp zero] at front
    exact front rfl
  refine ⟨left, ?_⟩
  unfold List.rdropWhile at left ⊢
  unfold significantDigits
  split
  case h_1 none =>
    rw [none] at left
    exact absurd rfl left
  case h_2 => rfl

/-- The digits that count of a positive number do not start with a zero. -/
theorem significantDigits_of_ne_zero {n : Nat} (h : n ≠ 0) :
    AreDigits (significantDigits n) ∧ (significantDigits n).head? ≠ some '0' := by
  have front := head?_toDigits h
  obtain ⟨left, same⟩ := significantDigits_eq_rdropWhile h
  obtain ⟨zeros, split⟩ := List.rdropWhile_prefix (· == '0') (Nat.toDigits 10 n)
  rw [same]
  refine ⟨⟨left, fun c hc => (areDigits_toDigits n).2 c ?_⟩, ?_⟩
  · rw [← split]
    exact List.mem_append_left zeros hc
  · rw [← split, List.head?_append_of_ne_nil _ left] at front
    exact front

/-- The digits that count are those of a whole number. -/
theorem isWhole_significantDigits (n : Nat) : IsWhole (significantDigits n) := by
  by_cases h : n = 0
  · rw [h, significantDigits_zero]
    exact .zero
  · exact .positive (significantDigits_of_ne_zero h).1 (significantDigits_of_ne_zero h).2

/-- A power of ten is an exponent. -/
theorem isExponent_exponentText (width : Nat) (power : Int) :
    IsExponent ('e' :: exponentText width power) := by
  have zeros (n : Nat) (m : Nat) : AreDigits (List.replicate n '0' ++ Nat.toDigits 10 m) := by
    refine ⟨List.append_ne_nil_of_right_ne_nil _ Nat.toDigits_ne_nil, fun c hc => ?_⟩
    rcases List.mem_append.mp hc with hc | hc
    · exact isAsciiDigit_of_mem_replicate hc
    · exact (areDigits_toDigits m).2 c hc
  have signed {cs : List Char} (sign : Char) (known : [sign] ∈ [[], ['+'], ['-']])
      (digits : AreDigits cs) : IsExponent ('e' :: sign :: cs) :=
    .present (.inl rfl) known digits
  unfold exponentText
  dsimp only
  split
  · exact signed '-' (by decide) (zeros _ _)
  · exact signed '+' (by decide) (zeros _ _)

/-- **Digits with an exponent** make a number. -/
theorem isMagnitude_scientific (layout : Layout) (digits : IsWhole ds) (power : Int) :
    IsMagnitude (scientific layout ds power) := by
  have exponent := isExponent_exponentText layout.exponentDigits power
  unfold scientific
  dsimp only
  split
  case h_1 first next rest =>
    cases digits with
    | positive digits front =>
      obtain ⟨-, each⟩ := digits
      rw [List.forall_mem_cons] at each
      have whole : IsWhole [first] :=
        .positive ⟨List.cons_ne_nil _ _, List.forall_mem_singleton.mpr each.1⟩ front
      exact .parts whole (.present ⟨List.cons_ne_nil next rest, each.2⟩) exponent
  case h_2 =>
    have number := IsMagnitude.parts digits .absent exponent
    rwa [List.append_nil] at number

theorem areDigits_zero : AreDigits ['0'] :=
  ⟨List.cons_ne_nil _ _, List.forall_mem_singleton.mpr rfl⟩

theorem areDigits_of_isWhole (h : IsWhole ds) : AreDigits ds := by
  cases h with
  | zero => exact areDigits_zero
  | positive digits front => exact digits

/-- **Digits with a point** make a number; zero has one digit in front of the
point. -/
theorem isMagnitude_positional (digits : IsWhole ds) {point : Int}
    (single : ds = ['0'] → point ≤ 1) : IsMagnitude (positional ds point) := by
  have each := areDigits_of_isWhole digits
  have zeros (n : Nat) : ∀ c ∈ List.replicate n '0', isAsciiDigit c = true :=
    fun c hc => isAsciiDigit_of_mem_replicate hc
  unfold positional
  split
  case isTrue small =>
    have fraction : AreDigits (List.replicate (-point).toNat '0' ++ ds) := by
      refine ⟨List.append_ne_nil_of_right_ne_nil _ each.1, fun c hc => ?_⟩
      rcases List.mem_append.mp hc with hc | hc
      · exact zeros _ c hc
      · exact each.2 c hc
    have number := IsMagnitude.parts .zero (.present fraction) .absent
    rwa [List.append_nil] at number
  case isFalse large =>
    dsimp only
    split
    case isTrue short =>
      have whole : IsWhole (ds ++ List.replicate (point.toNat - ds.length) '0') := by
        cases digits with
        | zero =>
          have none : point.toNat - ['0'].length = 0 := by
            have := single rfl
            rw [List.length_singleton]
            omega
          rw [none]
          exact .zero
        | positive digits front =>
          refine .positive (digits.append (zeros _)) ?_
          rwa [List.head?_append_of_ne_nil _ digits.1]
      have number := IsMagnitude.parts whole (.present areDigits_zero) .absent
      rwa [List.append_nil] at number
    case isFalse long =>
      have nonempty : ds.take point.toNat ≠ [] := by
        rw [ne_eq, List.take_eq_nil_iff, not_or]
        exact ⟨by omega, each.1⟩
      have whole : IsWhole (ds.take point.toNat) := by
        cases digits with
        | zero =>
          rw [List.length_singleton] at long
          omega
        | positive digits front =>
          refine .positive ⟨nonempty, fun c hc => digits.2 c (List.mem_of_mem_take hc)⟩ ?_
          rw [List.head?_take, if_neg (by omega)]
          exact front
      have fraction : AreDigits (ds.drop point.toNat) :=
        ⟨fun none => by
          rw [List.drop_eq_nil_iff] at none
          exact long none, fun c hc => each.2 c (List.mem_of_mem_drop hc)⟩
      have number := IsMagnitude.parts whole (.present fraction) .absent
      rwa [List.append_nil] at number

/-- **Decimals are laid out as numbers**, if one digit is positional. -/
theorem isMagnitude_chars (layout : Layout) (d : Decimal) :
    IsMagnitude (d.chars layout) := by
  have whole := isWhole_significantDigits d.digits
  unfold chars
  dsimp only
  generalize hpower : (if d.digits = 0 then (0 : Int)
    else (Nat.toDigits 10 d.digits).length + d.exponent - 1) = power
  split
  case isTrue =>
    refine isMagnitude_positional whole fun single => ?_
    by_cases zero : d.digits = 0
    · rw [if_pos zero] at hpower
      omega
    · have front := (significantDigits_of_ne_zero zero).2
      rw [single] at front
      exact absurd rfl front
  case isFalse => exact isMagnitude_scientific layout whole power

end Decimal

/-- **A number without a sign starts with a digit**, and holds few other characters. -/
theorem Json.IsMagnitude.digits {cs : List Char} (h : IsMagnitude cs) :
    (∃ c, cs.head? = some c ∧ isAsciiDigit c = true) ∧
      ∀ c ∈ cs, isAsciiDigit c = true ∨ c ∈ ['.', 'e', 'E', '+', '-'] := by
  obtain ⟨whole, behind, power⟩ := h
  obtain ⟨nonempty, digits⟩ := Decimal.areDigits_of_isWhole whole
  constructor
  · rw [List.append_assoc, List.head?_append_of_ne_nil _ nonempty,
      List.head?_eq_some_head nonempty]
    exact ⟨_, rfl, digits _ (List.head_mem nonempty)⟩
  · intro c hc
    rw [List.mem_append, List.mem_append, or_assoc] at hc
    rcases hc with hc | hc | hc
    · exact .inl (digits c hc)
    · cases behind with
      | absent => exact absurd hc List.not_mem_nil
      | present places =>
        rcases List.mem_cons.mp hc with rfl | hc
        · exact .inr (by decide)
        · exact .inl (places.2 c hc)
    · cases power with
      | absent => exact absurd hc List.not_mem_nil
      | present marked signed digits =>
        rcases List.mem_cons.mp hc with rfl | hc
        · exact .inr (by rcases marked with rfl | rfl <;> decide)
        · rcases List.mem_append.mp hc with hc | hc
          · have sign : ∀ sign ∈ [[], ['+'], ['-']], ∀ c ∈ sign,
                c ∈ ['.', 'e', 'E', '+', '-'] := by simp
            exact .inr (sign _ signed c hc)
          · exact .inl (digits.2 c hc)

theorem Json.IsNumber.characters {cs : List Char} (h : IsNumber cs) :
    ∀ c ∈ cs, isAsciiDigit c = true ∨ c ∈ ['.', 'e', 'E', '+', '-'] := by
  cases h with
  | plain h => exact h.digits.2
  | negative h => exact List.forall_mem_cons.mpr ⟨.inr (by decide), h.digits.2⟩

/-- **Finite numbers are written as numbers.** -/
theorem Binary64.isNumber_chars (x : Binary64) : IsNumber x.chars := by
  have magnitude := Decimal.isMagnitude_chars layout x.shortest
  unfold chars
  dsimp only
  split
  · exact .negative magnitude
  · exact .plain magnitude

/-! ## Texts -/

namespace Json

@[simp] theorem isHexDigit_smallHexDigit {value : Nat} (h : value < 16) :
    isHexDigit (smallHexDigit value) = true := by
  have digits : ∀ v < 16, isHexDigit (smallHexDigit v) = true := by decide
  exact digits value h

/-- A number in hexadecimal digits. -/
theorem hexDigits_spec (width value : Nat) :
    (hexDigits smallHexDigit width value).length = width ∧
      ∀ c ∈ hexDigits smallHexDigit width value, isHexDigit c = true := by
  induction width generalizing value with
  | zero => exact ⟨rfl, nofun⟩
  | succ width ih =>
    obtain ⟨length, each⟩ := ih (value / 16)
    rw [hexDigits, List.length_append, length]
    refine ⟨rfl, fun c hc => ?_⟩
    rcases List.mem_append.mp hc with hc | hc
    · exact each c hc
    · rw [List.mem_singleton.mp hc]
      exact isHexDigit_smallHexDigit (Nat.mod_lt value (by decide))

theorem isPiece_unitEscape (unit : Nat) : IsPiece (unitEscape unit) :=
  .unit (hexDigits_spec 4 unit).1 (hexDigits_spec 4 unit).2

/-- **A character between quotation marks** is one piece of a text, or two. -/
theorem exists_pieces_quoteChar (c : Char) :
    ∃ pieces : List (List Char), (∀ piece ∈ pieces, IsPiece piece) ∧
      quoteChar c = pieces.flatten := by
  have one {cs : List Char} (h : IsPiece cs) : ∃ pieces : List (List Char),
      (∀ piece ∈ pieces, IsPiece piece) ∧ cs = pieces.flatten :=
    ⟨[cs], List.forall_mem_singleton.mpr h, by simp⟩
  have two {cs ds : List Char} (h : IsPiece cs) (h' : IsPiece ds) :
      ∃ pieces : List (List Char),
        (∀ piece ∈ pieces, IsPiece piece) ∧ cs ++ ds = pieces.flatten :=
    ⟨[cs, ds], List.forall_mem_cons.mpr ⟨h, List.forall_mem_singleton.mpr h'⟩, by simp⟩
  unfold quoteChar
  split
  case isTrue mark =>
    rw [Bool.or_eq_true, beq_iff_eq, beq_iff_eq] at mark
    obtain rfl | rfl := mark
    · exact one (.escaped (by decide))
    · exact one (.escaped (by decide))
  case isFalse unmarked =>
    rw [Bool.or_eq_true, beq_iff_eq, beq_iff_eq, not_or] at unmarked
    repeat' split
    · exact one (.escaped (by decide))
    · exact one (.escaped (by decide))
    · exact one (.escaped (by decide))
    · exact one (.escaped (by decide))
    · exact one (.escaped (by decide))
    case isTrue printable =>
      rw [Bool.and_eq_true, decide_eq_true_eq] at printable
      exact one (.plain printable.1 unmarked.1 unmarked.2)
    case isFalse =>
      unfold codeEscape
      split
      · exact one (isPiece_unitEscape _)
      · exact two (isPiece_unitEscape _) (isPiece_unitEscape _)

/-- **Every text is quoted as one.** -/
theorem isText_quote (text : String) : IsText (quote text).toList := by
  have pieces (cs : List Char) : ∃ pieces : List (List Char),
      (∀ piece ∈ pieces, IsPiece piece) ∧ cs.flatMap quoteChar = pieces.flatten := by
    induction cs with
    | nil => exact ⟨[], nofun, rfl⟩
    | cons c cs ih =>
      obtain ⟨front, each, hfront⟩ := exists_pieces_quoteChar c
      obtain ⟨rest, others, hrest⟩ := ih
      refine ⟨front ++ rest, fun piece hpiece => ?_, ?_⟩
      · exact (List.mem_append.mp hpiece).elim (each piece) (others piece)
      · rw [List.flatMap_cons, hfront, hrest, List.flatten_append]
  obtain ⟨found, each, same⟩ := pieces text.toList
  unfold quote
  rw [String.toList_ofList, same]
  exact .quoted each

/-! ## Values -/

/-- **A value that JSON has a written form of**: all its numbers are finite. -/
inductive IsWritable : Json → Prop where
  | null : IsWritable .null
  | bool (value : Bool) : IsWritable (.bool value)
  | integer (value : Int) : IsWritable (.integer value)
  | real (value : Binary64) : IsWritable (.real (.finite value))
  | text (value : String) : IsWritable (.text value)
  | list {items : List Json} (each : ∀ item ∈ items, IsWritable item) :
      IsWritable (.list items)
  | object {members : List (String × Json)}
      (each : ∀ member ∈ members, IsWritable member.2) : IsWritable (.object members)

theorem areSpaces_lineStart (depth : Nat) : AreSpaces (lineStart depth).toList := by
  intro c hc
  unfold lineStart at hc
  simp only [String.toList_append, String.toList_ofList] at hc
  rcases List.mem_append.mp hc with hc | hc
  · exact .inr (.inr (.inl (List.mem_singleton.mp hc)))
  · exact .inl (List.eq_of_mem_replicate hc)

theorem areSpaces_nil : AreSpaces [] := nofun

theorem itemTexts_eq_map (depth : Nat) (items : List Json) :
    itemTexts depth items = items.map (textAt depth) := by
  induction items with
  | nil => rfl
  | cons item rest ih => rw [itemTexts, ih, List.map_cons]

/-- The members of an object are written one by one. -/
theorem memberTexts_eq_map (depth : Nat) (members : List (String × Json)) :
    memberTexts depth members
      = members.map fun m => quote m.1 ++ ": " ++ textAt depth m.2 := by
  induction members with
  | nil => rfl
  | cons member rest ih =>
    obtain ⟨name, value⟩ := member
    rw [memberTexts, ih, List.map_cons]

section Brackets

variable {P : List Char → Prop} {front back : String}

/-- **Members on lines of their own** are members with commas between them, each with
white space around it. -/
theorem exists_items {members : List String} (nonempty : members ≠ [])
    (before : AreSpaces front.toList) (after : AreSpaces back.toList)
    (padded : ∀ m ∈ members, ∀ before after, AreSpaces before → AreSpaces after →
      P (before ++ m.toList ++ after)) :
    ∃ items : List (List Char), items ≠ [] ∧ (∀ item ∈ items, P item) ∧
      (front ++ ("," ++ front).intercalate members ++ back).toList
        = [','].intercalate items := by
  induction members with
  | nil => exact absurd rfl nonempty
  | cons m rest ih =>
    have first := padded m List.mem_cons_self
    cases rest with
    | nil =>
      refine ⟨[front.toList ++ m.toList ++ back.toList], List.cons_ne_nil _ _,
        List.forall_mem_singleton.mpr (first _ _ before after), ?_⟩
      rw [String.intercalate_singleton, List.intercalate_singleton, String.toList_append,
        String.toList_append]
    | cons next rest =>
      obtain ⟨items, some, each, same⟩ := ih (List.cons_ne_nil _ _)
        fun m hm => padded m (List.mem_cons_of_mem _ hm)
      obtain ⟨item, others, rfl⟩ := List.exists_cons_of_ne_nil some
      refine ⟨(front.toList ++ m.toList) :: item :: others, List.cons_ne_nil _ _,
        List.forall_mem_cons.mpr ⟨?_, each⟩, ?_⟩
      · have spaced := first _ _ before areSpaces_nil
        rwa [List.append_nil] at spaced
      · rw [String.intercalate_cons_cons, List.intercalate_cons_cons, ← same]
        simp only [String.toList_append, List.append_assoc]
        rfl

/-- **Brackets around some members.** -/
theorem exists_bracketed {opening closing : String} {depth : Nat} {members : List String}
    (nonempty : members ≠ [])
    (padded : ∀ m ∈ members, ∀ before after, AreSpaces before → AreSpaces after →
      P (before ++ m.toList ++ after)) :
    ∃ items : List (List Char), items ≠ [] ∧ (∀ item ∈ items, P item) ∧
      (bracketed opening closing depth members).toList
        = opening.toList ++ [','].intercalate items ++ closing.toList := by
  obtain ⟨items, some, each, same⟩ := exists_items nonempty
    (areSpaces_lineStart (depth + 1)) (areSpaces_lineStart depth) padded
  refine ⟨items, some, each, ?_⟩
  unfold bracketed
  rw [if_neg (by rwa [List.isEmpty_iff]), ← same]
  simp only [String.toList_append, List.append_assoc]

end Brackets

/-- The written form of a list is a document if those of its items are. -/
theorem isDocument_list {depth : Nat} {texts : List String}
    (each : ∀ text ∈ texts, IsDocument text.toList) :
    IsDocument (bracketed "[" "]" depth texts).toList := by
  by_cases nonempty : texts = []
  · rw [nonempty]
    show IsDocument ("[" ++ "]").toList
    rw [String.toList_append]
    exact .emptyList areSpaces_nil
  · obtain ⟨items, some, documents, same⟩ := exists_bracketed (P := IsDocument) nonempty
      fun m hm before after front back => .spaced front (each m hm) back
    rw [same]
    exact .list some documents

/-- **A member of an object**: a name, a colon and a document. -/
def IsMember (cs : List Char) : Prop :=
  ∃ m : List Char × List Char, m.1 ++ ':' :: m.2 = cs ∧ IsName m.1 ∧ IsDocument m.2

/-- The written form of a member, with white space around it. -/
theorem isMember_spaced {name : String} {value before after : List Char}
    (h : IsDocument value) (front : AreSpaces before) (back : AreSpaces after) :
    IsMember (before ++ ((quote name).toList ++ [':', ' '] ++ value) ++ after) := by
  refine ⟨(before ++ (quote name).toList ++ [], [' '] ++ value ++ after), ?_,
    .spaced front (isText_quote name) areSpaces_nil, .spaced ?_ h back⟩
  · simp only [List.append_assoc, List.append_nil, List.cons_append, List.nil_append]
  · exact List.forall_mem_singleton.mpr (.inl rfl)

/-- Members are taken apart into names and documents. -/
theorem exists_pairs {items : List (List Char)} (h : ∀ item ∈ items, IsMember item) :
    ∃ pairs : List (List Char × List Char),
      pairs.map (fun m => m.1 ++ ':' :: m.2) = items ∧
        ∀ m ∈ pairs, IsName m.1 ∧ IsDocument m.2 := by
  induction items with
  | nil => exact ⟨[], rfl, nofun⟩
  | cons item items ih =>
    rw [List.forall_mem_cons] at h
    obtain ⟨⟨pair, rfl, parts⟩, rest⟩ := h
    obtain ⟨pairs, rfl, others⟩ := ih rest
    exact ⟨pair :: pairs, rfl, List.forall_mem_cons.mpr ⟨parts, others⟩⟩

/-- The written form of an object is a document if those of its members are
members. -/
theorem isDocument_object {depth : Nat} {texts : List String}
    (each : ∀ text ∈ texts, ∀ before after, AreSpaces before → AreSpaces after →
      IsMember (before ++ text.toList ++ after)) :
    IsDocument (bracketed "\x7b" "\x7d" depth texts).toList := by
  by_cases nonempty : texts = []
  · rw [nonempty]
    show IsDocument ("\x7b" ++ "\x7d").toList
    rw [String.toList_append]
    exact .emptyObject areSpaces_nil
  · obtain ⟨items, some, members, same⟩ := exists_bracketed nonempty each
    obtain ⟨pairs, rfl, parts⟩ := exists_pairs members
    rw [same]
    refine .object ?_ (fun m hm => (parts m hm).1) fun m hm => (parts m hm).2
    rintro rfl
    exact some rfl

/-- **A value without infinite or undefined numbers is written as a document.** The induction
is over the value, with the depth free, since what is inside stands one level deeper. -/
theorem isDocument_textAt {value : Json} (h : value.IsWritable) (depth : Nat) :
    IsDocument (textAt depth value).toList := by
  induction h generalizing depth with
  | null => exact .null
  | bool value =>
    cases value with
    | true => exact .true
    | false => exact .false
  | integer value => exact .number (isNumber_toString value)
  | real value =>
    show IsDocument (String.ofList value.chars).toList
    rw [String.toList_ofList]
    exact .number value.isNumber_chars
  | text value => exact .text (isText_quote value)
  | list each ih =>
    rw [textAt, itemTexts_eq_map]
    exact isDocument_list (List.forall_mem_map.mpr fun item hitem => ih item hitem _)
  | object each ih =>
    rw [textAt, memberTexts_eq_map]
    refine isDocument_object (List.forall_mem_map.mpr fun member hmember => ?_)
    intro before after front back
    rw [String.toList_append, String.toList_append]
    exact isMember_spaced (ih member hmember _) front back

/-- **What is printed of a value is one document**, and nothing behind it but the end
of the line. -/
theorem isDocument_indented {value : Json} (h : value.IsWritable) :
    IsDocument (value.indented ++ "\n").toList := by
  rw [String.toList_append]
  exact .spaced areSpaces_nil (isDocument_textAt h 0)
    (List.forall_mem_singleton.mpr (.inr (.inr (.inl rfl))))

end Json

end GeoCatalogue
