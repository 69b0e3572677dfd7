import GeoCatalogue.Number.Reading
import GeoCatalogue.Proofs.Json.Grammar
import GeoCatalogue.Proofs.Number.Shortest
import GeoCatalogue.Proofs.Text.Trim

/-!
# What is printed is read back

A printed number is a sign, digits with a point and perhaps a power of ten. Reading it
takes the same parts off again: the decimal that is read has the value of the one that
was laid out (`Number.readDecimal?_chars`), though not its digits, since zeros at the end
are left out and others are filled in. Decimals of one value are near one number, so
**every finite number is read back from its text**, its sign included
(`Extended.ofText?_text`).

Decimals far outside the format are not written out when they are read. That changes
nothing: `Number.nearestTo_eq` says so of all decimals.
-/
namespace GeoCatalogue

open Json Text

namespace Number

variable {ds rest : List Char}

/-! ## Digits -/

theorem digitsValue_eq (ds : List Char) : digitsValue ds = Nat.ofDigitChars 10 ds 0 := by
  unfold digitsValue Nat.ofDigitChars
  simp only [Nat.mul_comm 10]

theorem digitsValue_append (cs ds : List Char) :
    digitsValue (cs ++ ds) = digitsValue cs * 10 ^ ds.length + digitsValue ds := by
  rw [digitsValue_eq, digitsValue_eq, digitsValue_eq, Nat.ofDigitChars_append,
    Nat.ofDigitChars_eq_ofDigitChars_zero, Nat.mul_comm]

@[simp] theorem digitsValue_replicate (n : ℕ) : digitsValue (List.replicate n '0') = 0 := by
  rw [digitsValue_eq, Nat.ofDigitChars_replicate_zero, Nat.mul_zero]

/-- **The digits of a number have its value.** -/
@[simp] theorem digitsValue_toDigits (n : ℕ) : digitsValue (Nat.toDigits 10 n) = n := by
  rw [digitsValue_eq, Nat.ofDigitChars_toDigits (by decide) (by decide)]

/-- Digits in front are split off up to the first other character. -/
theorem splitDigits_append (digits : ∀ c ∈ ds, isAsciiDigit c = true)
    (stop : ∀ c, rest.head? = some c → isAsciiDigit c = false) :
    splitDigits (ds ++ rest) = (ds, rest) := by
  have none : rest.takeWhile isAsciiDigit = [] ∧ rest.dropWhile isAsciiDigit = rest := by
    cases rest with
    | nil => exact ⟨rfl, rfl⟩
    | cons c rest =>
      have := stop c rfl
      simp [this]
  unfold splitDigits
  rw [List.takeWhile_append_of_pos digits, List.dropWhile_append_of_pos digits, none.1,
    none.2, List.append_nil]

/-! ## The parts of a number -/

/-- A mark, a sign and digits make a power of ten. -/
theorem readPower?_signed (sign : Char) (negative : Bool)
    (signed : splitSign (sign :: ds) = (negative, ds)) (digits : AreDigits ds) :
    readPower? ('e' :: sign :: ds)
      = some (if negative then -(digitsValue ds : ℤ) else digitsValue ds) := by
  have split : splitDigits ds = (ds, []) := by
    have all : splitDigits (ds ++ []) = (ds, []) := splitDigits_append digits.2 nofun
    rwa [List.append_nil] at all
  have nonempty : ds.isEmpty = false := List.isEmpty_eq_false_iff.mpr digits.1
  simp only [readPower?, signed, split, nonempty]
  rfl

/-- **A power of ten is read back.** -/
@[simp] theorem readPower?_exponentText (width : ℕ) (power : ℤ) :
    readPower? ('e' :: Decimal.exponentText width power) = some power := by
  unfold Decimal.exponentText
  dsimp only
  generalize hzeros : List.replicate (width - (Nat.toDigits 10 power.natAbs).length) '0'
    = zeros
  have digits : AreDigits (zeros ++ Nat.toDigits 10 power.natAbs) := by
    refine ⟨List.append_ne_nil_of_right_ne_nil _ Nat.toDigits_ne_nil, fun c hc => ?_⟩
    rcases List.mem_append.mp hc with hc | hc
    · exact isAsciiDigit_of_mem_replicate (hzeros ▸ hc)
    · exact (areDigits_toDigits _).2 c hc
  have value : digitsValue (zeros ++ Nat.toDigits 10 power.natAbs) = power.natAbs := by
    rw [digitsValue_append, ← hzeros, digitsValue_replicate, digitsValue_toDigits,
      Nat.zero_mul, Nat.zero_add]
  split
  · next down =>
    have read := readPower?_signed '-' true rfl digits
    rw [value, if_pos rfl] at read
    refine read.trans (congrArg some ?_)
    omega
  · next up =>
    have read := readPower?_signed '+' false rfl digits
    rw [value, if_neg Bool.false_ne_true] at read
    refine read.trans (congrArg some ?_)
    omega

/-- Digits, a point and more digits. -/
theorem readDecimal?_pointed {whole places tail : List Char} {power : ℤ}
    (hwhole : AreDigits whole) (hplaces : ∀ c ∈ places, isAsciiDigit c = true)
    (stop : ∀ c, tail.head? = some c → isAsciiDigit c = false)
    (hpower : readPower? tail = some power) :
    readDecimal? (whole ++ '.' :: (places ++ tail))
      = some ⟨digitsValue (whole ++ places), power - places.length⟩ := by
  have point : ∀ c, ('.' :: (places ++ tail)).head? = some c → isAsciiDigit c = false := by
    rintro c ⟨⟩
    rfl
  have whole_ne : whole.isEmpty = false := List.isEmpty_eq_false_iff.mpr hwhole.1
  simp only [readDecimal?, splitDigits_append hwhole.2 point,
    splitDigits_append hplaces stop, hpower, whole_ne, Bool.false_and]
  rfl

/-- Digits without a point. -/
theorem readDecimal?_whole {whole tail : List Char} {power : ℤ}
    (hwhole : AreDigits whole)
    (stop : ∀ c, tail.head? = some c → isAsciiDigit c = false ∧ c ≠ '.')
    (hpower : readPower? tail = some power) :
    readDecimal? (whole ++ tail) = some ⟨digitsValue whole, power⟩ := by
  have whole_ne : whole.isEmpty = false := List.isEmpty_eq_false_iff.mpr hwhole.1
  simp only [readDecimal?, splitDigits_append hwhole.2 fun c hc => (stop c hc).1,
    whole_ne, Bool.false_and, Bool.false_eq_true, if_false]
  split
  · exact absurd rfl (stop '.' rfl).2
  · rw [hpower, List.append_nil]
    show some (Decimal.mk _ (power - (0 : ℕ))) = _
    rw [Nat.cast_zero, sub_zero]

/-! ## Layouts -/

theorem digitsValue_replicate_append (n : ℕ) (ds : List Char) :
    digitsValue (List.replicate n '0' ++ ds) = digitsValue ds := by
  rw [digitsValue_append, digitsValue_replicate, Nat.zero_mul, Nat.zero_add]

/-- **Digits with a point** have digits on both sides of it, as many behind it as its place
asks for, but one at least. All together have the value that the place gives the digits. -/
theorem exists_positional_eq (digits : AreDigits ds) (point : ℤ) :
    ∃ whole places, Decimal.positional ds point = whole ++ '.' :: places ∧
      AreDigits whole ∧ AreDigits places ∧
      places.length = max 1 (ds.length - point).toNat ∧
      (digitsValue (whole ++ places) : ℚ) * 10 ^ (-(places.length : ℤ))
        = digitsValue ds * 10 ^ (point - ds.length) := by
  have zeros (n : ℕ) : ∀ c ∈ List.replicate n '0', isAsciiDigit c = true :=
    fun c hc => isAsciiDigit_of_mem_replicate hc
  have nonempty := List.length_pos_of_ne_nil digits.1
  unfold Decimal.positional
  split
  · next small =>
    -- a zero in front of the point, and zeros behind it
    have value := digitsValue_replicate_append ((-point).toNat + 1) ds
    rw [List.replicate_succ] at value
    refine ⟨['0'], List.replicate (-point).toNat '0' ++ ds, rfl, Decimal.areDigits_zero,
      ⟨List.append_ne_nil_of_right_ne_nil _ digits.1,
        fun c hc => (List.mem_append.mp hc).elim (zeros _ c) (digits.2 c)⟩, ?_, ?_⟩
    · rw [List.length_append, List.length_replicate]
      omega
    · rw [List.singleton_append, ← List.cons_append, value, List.length_append,
        List.length_replicate]
      congr 2
      omega
  · next large =>
    dsimp only
    split
    · next short =>
      -- zeros up to the point, and one behind it
      have value : digitsValue (ds ++ List.replicate (point.toNat - ds.length) '0' ++ ['0'])
          = digitsValue ds * 10 ^ (point.toNat - ds.length + 1) := by
        rw [List.append_assoc, ← List.replicate_succ', digitsValue_append,
          digitsValue_replicate, List.length_replicate, Nat.add_zero]
      refine ⟨_, ['0'], rfl, digits.append (zeros _), Decimal.areDigits_zero, ?_, ?_⟩
      · rw [List.length_singleton]
        omega
      · rw [value, List.length_singleton, Nat.cast_mul, Nat.cast_pow, Nat.cast_ofNat,
          mul_assoc, ← zpow_natCast, ← zpow_add₀ (by norm_num)]
        congr 2
        omega
    · next long =>
      -- the point stands between the digits
      refine ⟨_, _, rfl, ⟨?_, fun c hc => digits.2 c (List.mem_of_mem_take hc)⟩,
        ⟨?_, fun c hc => digits.2 c (List.mem_of_mem_drop hc)⟩, ?_, ?_⟩
      · rw [ne_eq, List.take_eq_nil_iff, not_or]
        exact ⟨by omega, digits.1⟩
      · rw [ne_eq, List.drop_eq_nil_iff]
        exact long
      · rw [List.length_drop]
        omega
      · rw [List.take_append_drop, List.length_drop]
        congr 2
        omega

/-- **Digits with a point are read back**, with the value that the place of the point
gives them. -/
theorem readDecimal?_positional (digits : AreDigits ds) (point : ℤ) :
    ∃ d, readDecimal? (Decimal.positional ds point) = some d ∧
      d.value = digitsValue ds * (10 : ℚ) ^ (point - ds.length) := by
  obtain ⟨whole, places, split, hwhole, hplaces, -, value⟩ := exists_positional_eq digits point
  have nothing : ∀ c, [].head? = some c → isAsciiDigit c = false := nofun
  have read := readDecimal?_pointed hwhole hplaces.2 nothing rfl
  rw [List.append_nil, zero_sub] at read
  rw [split, ← value]
  exact ⟨_, read, rfl⟩

/-- **Digits with an exponent are read back.** -/
theorem readDecimal?_scientific (layout : Decimal.Layout) (digits : AreDigits ds)
    (power : ℤ) :
    ∃ d, readDecimal? (Decimal.scientific layout ds power) = some d ∧
      d.value = digitsValue ds * (10 : ℚ) ^ (power + 1 - ds.length) := by
  have exponent := readPower?_exponentText layout.exponentDigits power
  unfold Decimal.scientific
  dsimp only
  split
  · next first second rest =>
    obtain ⟨-, each⟩ := digits
    rw [List.forall_mem_cons] at each
    have whole : AreDigits [first] :=
      ⟨List.cons_ne_nil _ _, List.forall_mem_singleton.mpr each.1⟩
    have read := readDecimal?_pointed whole each.2 (by rintro c ⟨⟩; rfl) exponent
    refine ⟨_, read, ?_⟩
    show (digitsValue (first :: second :: rest) : ℚ)
      * 10 ^ (power - ((second :: rest).length : ℤ)) = _
    rw [List.length_cons (a := first)]
    congr 2
    omega
  · next single =>
    have read := readDecimal?_whole digits (by rintro c ⟨⟩; decide) exponent
    refine ⟨_, read, ?_⟩
    have length : ds.length = 1 := by
      match ds, digits.1, single with
      | [_], _, _ => rfl
      | first :: second :: rest, _, single => exact absurd rfl (single first second rest)
    rw [Decimal.value, length, Nat.cast_one, Int.add_sub_cancel]

/-- **The digits that count** are followed by zeros only. -/
theorem exists_toDigits_eq {n : ℕ} (hn : n ≠ 0) :
    ∃ zeros, Nat.toDigits 10 n
      = Decimal.significantDigits n ++ List.replicate zeros '0' := by
  have parts : (Nat.toDigits 10 n).rdropWhile (· == '0')
      ++ (Nat.toDigits 10 n).rtakeWhile (· == '0') = Nat.toDigits 10 n :=
    List.rdropWhile_append_rtakeWhile
  have zeros : ∀ c ∈ (Nat.toDigits 10 n).rtakeWhile (· == '0'), c = '0' := by
    intro c hc
    have zero := List.mem_rtakeWhile_imp hc
    exact beq_iff_eq.mp zero
  rw [← (Decimal.significantDigits_eq_rdropWhile hn).2,
    List.eq_replicate_of_mem zeros] at parts
  exact ⟨_, parts.symm⟩

/-- **A decimal that is laid out is read back** with its value. -/
theorem readDecimal?_chars (layout : Decimal.Layout) (d : Decimal) :
    ∃ c, readDecimal? (d.chars layout) = some c ∧ c.value = d.value := by
  have digits := Decimal.areDigits_of_isWhole (Decimal.isWhole_significantDigits d.digits)
  unfold Decimal.chars
  dsimp only
  generalize hpower : (if d.digits = 0 then (0 : ℤ)
    else (Nat.toDigits 10 d.digits).length + d.exponent - 1) = power
  have value : (digitsValue (Decimal.significantDigits d.digits) : ℚ)
      * 10 ^ (power + 1 - (Decimal.significantDigits d.digits).length) = d.value := by
    unfold Decimal.value
    by_cases zero : d.digits = 0
    · rw [zero, Decimal.significantDigits_zero]
      norm_num [digitsValue]
    · obtain ⟨zeros, split⟩ := exists_toDigits_eq zero
      have all := digitsValue_toDigits d.digits
      rw [split, digitsValue_append, digitsValue_replicate, List.length_replicate,
        Nat.add_zero] at all
      rw [if_neg zero, split, List.length_append, List.length_replicate] at hpower
      conv_rhs => rw [← all]
      rw [Nat.cast_mul, Nat.cast_pow, Nat.cast_ofNat, mul_assoc, ← zpow_natCast,
        ← zpow_add₀ (by norm_num)]
      congr 2
      push_cast at hpower
      omega
  split
  · obtain ⟨c, read, same⟩ := readDecimal?_positional digits (power + 1)
    exact ⟨c, read, same.trans value⟩
  · obtain ⟨c, read, same⟩ := readDecimal?_scientific layout digits power
    exact ⟨c, read, same.trans value⟩

/-! ## Decimals outside the format -/

/-- A decimal with digits lies between the powers of ten around its first place. -/
theorem digitCount_bounds {d : Decimal} (hd : d.digits ≠ 0) :
    (10 : ℚ) ^ ((digitCount 10 d.digits : ℤ) + d.exponent - 1) ≤ d.value ∧
      d.value < 10 ^ ((digitCount 10 d.digits : ℤ) + d.exponent) := by
  obtain ⟨low, high⟩ := pow_log_bounds 10 (by decide) (Nat.pos_of_ne_zero hd)
  have unit : (0 : ℚ) < 10 ^ d.exponent := zpow_pos (by norm_num) _
  rw [Nat.cast_ofNat] at low high
  rw [digitCount_eq (by decide), Nat.cast_add_one, zpow_add₀ (by norm_num),
    add_sub_right_comm, add_sub_cancel_right, zpow_add₀ (by norm_num)]
  unfold Decimal.value
  exact ⟨mul_le_mul_of_nonneg_right low unit.le, mul_lt_mul_of_pos_right high unit⟩

/-- A power of ten has at least three times as many binary digits. -/
theorem two_pow_le_ten_pow {m n : ℕ} (h : m ≤ 3 * n) : (2 : ℚ) ^ m ≤ 10 ^ n :=
  calc (2 : ℚ) ^ m ≤ 2 ^ (3 * n) := pow_le_pow_right₀ one_le_two h
    _ = 8 ^ n := by rw [pow_mul]; norm_num
    _ ≤ 10 ^ n := pow_le_pow_left₀ (by norm_num) (by norm_num) n

/-- **A decimal far outside the format** is read as it would be if it were written out. Its
power of ten is not worked out then, which could take any time: the digits and the exponent
tell that the number is infinite, or that it is zero. -/
theorem nearestTo_eq (negative : Bool) (d : Decimal) :
    nearestTo negative d = d.nearest negative := by
  unfold nearestTo
  dsimp only
  split
  · next zero =>
    refine (Extended.nearest_eq_of_eq (x := .zero negative) d.quotient_den_pos ?_).symm
    rw [d.quotient_div, Decimal.value, zero, Nat.cast_zero, zero_mul]
    exact (zero_mul _).symm
  · next digits =>
    obtain ⟨low, high⟩ := digitCount_bounds digits
    split
    · next large =>
      refine (Extended.nearest_eq_infinite d.quotient_den_pos ?_ negative).symm
      have power : (10 : ℚ) ^ (400 : ℕ) ≤ d.value := by
        rw [← zpow_natCast]
        exact le_trans (zpow_le_zpow_right₀ (by norm_num) (by omega)) low
      have last : (2 : ℚ) ^ (971 : ℤ) = 2 ^ 971 := zpow_natCast 2 971
      rw [d.quotient_div, last, ← pow_add]
      exact (two_pow_le_ten_pow (by norm_num)).trans power
    · split
      · next small =>
        have power : d.value < ((10 : ℚ) ^ 401)⁻¹ := by
          rw [← zpow_natCast, ← zpow_neg]
          exact lt_of_lt_of_le high (zpow_le_zpow_right₀ (by norm_num) (by omega))
        have positive : 0 ≤ d.value := le_trans (zpow_pos (by norm_num) _).le low
        have none : (Binary64.zero negative).magnitude = 0 := zero_mul _
        have gap : (Binary64.zero negative).gap = ((2 : ℚ) ^ 1074)⁻¹ := rfl
        refine (Extended.nearest_eq_of_abs_sub_lt (x := .zero negative)
          d.quotient_den_pos ?_).symm
        rw [d.quotient_div, none, gap, sub_zero, abs_of_nonneg positive]
        have tiny : ((10 : ℚ) ^ 401)⁻¹ ≤ (2 ^ (1074 + 1))⁻¹ :=
          inv_anti₀ (pow_pos two_pos _) (two_pow_le_ten_pow (by norm_num))
        rw [pow_succ 2 1074, mul_inv] at tiny
        generalize ((10 : ℚ) ^ 401)⁻¹ = bound at power tiny
        generalize ((2 : ℚ) ^ 1074)⁻¹ = unit at tiny ⊢
        linarith
      · rfl

end Number

/-! ## Texts -/

open Number

/-- The characters of printed numbers are in ASCII form, and no white space. -/
theorem Number.plainChar_eq_self {c : Char}
    (h : isAsciiDigit c = true ∨ c ∈ ['.', 'e', 'E', '+', '-']) :
    plainChar c = c ∧ isNumberSpace c = false ∧ c ≠ '_' := by
  rcases h with digit | mark
  · obtain ⟨low, high⟩ := isAsciiDigit_iff.mp digit
    refine ⟨if_pos (by omega), ?_, ?_⟩
    · have space : c ≠ ' ' := by
        rintro rfl
        exact absurd low (by decide)
      simp only [isNumberSpace, Bool.or_eq_false_iff, beq_eq_false_iff_ne,
        Bool.and_eq_false_iff, decide_eq_false_iff_not]
      exact ⟨space, .inr (by omega)⟩
    · rintro rfl
      exact absurd high (by decide)
  · have marks : ∀ c ∈ ['.', 'e', 'E', '+', '-'],
        plainChar c = c ∧ isNumberSpace c = false ∧ c ≠ '_' := by
      simp [plainChar, isNumberSpace]
    exact marks c mark

/-- A text without underscores is left as it is. -/
theorem Number.withoutGroupMarks_eq_self {cs : List Char} (h : ∀ c ∈ cs, c ≠ '_')
    (before : Char) : withoutGroupMarks before cs = some cs := by
  induction cs generalizing before with
  | nil => rfl
  | cons c cs ih =>
    rw [List.forall_mem_cons] at h
    have mark : (c == '_') = false := beq_eq_false_iff_ne.mpr h.1
    unfold withoutGroupMarks
    rw [mark, if_neg Bool.false_ne_true, ih h.2]
    rfl

/-- A number is read as it is written: there is nothing to put into ASCII form, to trim or to
leave out. -/
theorem Number.cleaned_eq_self {cs : List Char} (h : IsNumber cs) :
    plainForm (String.ofList cs) = cs ∧ trimList isNumberSpace cs = cs ∧
      withoutGroupMarks ' ' cs = some cs := by
  have each (c : Char) (hc : c ∈ cs) := plainChar_eq_self (h.characters c hc)
  refine ⟨?_, ?_, withoutGroupMarks_eq_self (fun c hc => (each c hc).2.2) ' '⟩
  · rw [plainForm, String.toList_ofList]
    exact (List.map_congr_left fun c hc => (each c hc).1).trans (List.map_id cs)
  · exact trimList_eq_self (fun c hc => (each c (List.mem_of_head? hc)).2.1)
      (fun c hc => (each c (List.mem_of_getLast? hc)).2.1)

/-- A minus sign is split off, and a digit is not. -/
theorem Number.splitSign_digit {first : Char} (digit : isAsciiDigit first = true)
    (rest : List Char) (negative : Bool) :
    splitSign (if negative then '-' :: first :: rest else first :: rest)
      = (negative, first :: rest) := by
  cases negative with
  | true => rfl
  | false =>
    rw [if_neg Bool.false_ne_true]
    unfold splitSign
    split
    · next minus =>
      rw [(List.cons.inj minus).1] at digit
      exact absurd digit (by decide)
    · next plus =>
      rw [(List.cons.inj plus).1] at digit
      exact absurd digit (by decide)
    · rfl

/-- What starts with a digit is no word, in small letters or others. -/
theorem Number.map_smallLetter_ne {first : Char} (digit : isAsciiDigit first = true)
    (rest : List Char) {word : String} (hword : 0x39 < (word.toList.headD ' ').toNat) :
    (String.ofList ((first :: rest).map smallLetter) == word) = false := by
  obtain ⟨-, high⟩ := isAsciiDigit_iff.mp digit
  have letter : smallLetter first = first := by
    refine if_neg ?_
    rw [Bool.and_eq_true, decide_eq_true_eq]
    rintro ⟨capital, -⟩
    have : 0x41 ≤ first.toNat := capital
    omega
  rw [beq_eq_false_iff_ne]
  rintro rfl
  rw [String.toList_ofList, List.map_cons, List.headD_cons, letter] at hword
  omega

/-- **A number without a word is read as a decimal** with its sign. -/
theorem Extended.ofText?_of_isMagnitude {cs : List Char} (h : IsMagnitude cs)
    (negative : Bool) :
    ofText? (String.ofList (if negative then '-' :: cs else cs))
      = (readDecimal? cs).map (nearestTo negative) := by
  obtain ⟨first, front, digit⟩ := h.digits.1
  obtain ⟨rest, rfl⟩ : ∃ rest, cs = first :: rest :=
    ⟨cs.tail, (List.cons_head?_tail front).symm⟩
  have sign := splitSign_digit digit rest negative
  generalize hall : (if negative then '-' :: first :: rest else first :: rest) = all at sign
  have number : IsNumber all := by
    rw [← hall]
    split
    · exact .negative h
    · exact .plain h
  obtain ⟨plain, trimmed, marks⟩ := cleaned_eq_self number
  unfold ofText?
  rw [plain, trimmed, marks, Option.bind_eq_bind, Option.bind_some, sign]
  dsimp only
  rw [map_smallLetter_ne digit rest (by decide), map_smallLetter_ne digit rest (by decide),
    map_smallLetter_ne digit rest (by decide)]
  rfl

/-- **A finite number is read back from its text.** -/
@[simp] theorem Extended.ofText?_text (x : Binary64) : ofText? x.text = some (.finite x) := by
  obtain ⟨c, read, value⟩ := readDecimal?_chars Binary64.layout x.shortest
  have magnitude := Decimal.isMagnitude_chars Binary64.layout x.shortest
  show ofText? (String.ofList x.chars) = _
  rw [Binary64.chars]
  rw [Extended.ofText?_of_isMagnitude magnitude, read, Option.map_some, nearestTo_eq,
    Decimal.nearest_congr value, x.nearest_shortest]

end GeoCatalogue
