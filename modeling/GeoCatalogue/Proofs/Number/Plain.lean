import GeoCatalogue.Proofs.Number.Places
import GeoCatalogue.Proofs.Number.Reading

/-!
# Plain decimal texts

A number is **plain** if it is written with digits, a point and up to six digits behind
it (`Number.IsPlain`). A number that is rounded to six places has a decimal of six places
near it, so the shortest decimal of it has no more (`Binary64.neg_six_le_exponent`); it
is plain unless an exponent is written. Numbers below `10 ^ -4` have one, and numbers
from `10 ^ 16` on, except for zero. Hence **which roundings are plain**
(`Binary64.isPlain_roundToPlaces_iff`): zero, whatever is rounded to a ten-thousandth or
more, and nothing in between.
-/
namespace GeoCatalogue

open Json Text

namespace Number

/-- **A plain decimal text**: perhaps a minus sign, then digits, a point and up to six
digits. -/
inductive IsPlain : List Char → Prop where
  /-- The parts. -/
  | parts {sign whole places : List Char} (signed : sign ∈ [[], ['-']])
      (digits : AreDigits whole) (behind : AreDigits places)
      (few : places.length ≤ 6) : IsPlain (sign ++ (whole ++ '.' :: places))

variable {ds : List Char} {d : Decimal}

/-- There is no mark of an exponent in a plain text. -/
theorem IsPlain.notMem {cs : List Char} (h : IsPlain cs) : 'e' ∉ cs := by
  obtain ⟨signed, digits, behind, -⟩ := h
  have letter : isAsciiDigit 'e' ≠ true := by decide
  rw [List.mem_append, List.mem_append, List.mem_cons]
  rintro (sign | whole | point | places)
  · have signs : ∀ sign ∈ [[], ['-']], 'e' ∉ sign := by decide
    exact signs _ signed sign
  · exact letter (digits.2 _ whole)
  · cases point
  · exact letter (behind.2 _ places)

/-- **Digits with a point are plain** if at most six stand behind the point. -/
theorem isPlain_positional {sign : List Char} (signed : sign ∈ [[], ['-']])
    (digits : AreDigits ds) {point : ℤ} (few : ds.length ≤ point + 6) :
    IsPlain (sign ++ Decimal.positional ds point) := by
  obtain ⟨whole, places, split, hwhole, hplaces, length, -⟩ := exists_positional_eq digits point
  rw [split]
  exact .parts signed hwhole hplaces (by omega)

theorem not_isPlain_scientific (layout : Decimal.Layout) (sign ds : List Char)
    (power : ℤ) : ¬ IsPlain (sign ++ Decimal.scientific layout ds power) := by
  intro h
  refine h.notMem ?_
  unfold Decimal.scientific
  exact List.mem_append_right _ (List.mem_append_right _ List.mem_cons_self)

theorem length_toDigits (n : ℕ) : (Nat.toDigits 10 n).length = digitCount 10 n := by
  rw [digitCount_eq (by decide)]
  induction n using Nat.strongRecOn with
  | ind n ih =>
    rw [Nat.toDigits_eq_if (by decide)]
    split
    · next small => rw [Nat.log_of_lt small, List.length_singleton]
    · next large =>
      rw [List.length_append, List.length_singleton, ih (n / 10) (by omega),
        Nat.log_of_one_lt_of_le (by decide) (not_lt.mp large)]

/-- **The first place of a decimal** says which powers of ten are not above it. -/
theorem pow_le_value_iff (hd : d.digits ≠ 0) {power : ℤ} :
    (10 : ℚ) ^ power ≤ d.value ↔
      power ≤ (digitCount 10 d.digits : ℤ) + d.exponent - 1 := by
  obtain ⟨low, high⟩ := digitCount_bounds hd
  constructor
  · intro le
    have := (zpow_lt_zpow_iff_right₀ (by norm_num)).mp (le.trans_lt high)
    omega
  · intro le
    exact (zpow_le_zpow_right₀ (by norm_num) le).trans low

/-- **A decimal of six places is plain** exactly if no exponent is written. -/
theorem isPlain_chars_iff {sign : List Char} (signed : sign ∈ [[], ['-']])
    (hd : d.digits ≠ 0) (places : (10 : ℚ) ^ (-4 : ℤ) ≤ d.value → -6 ≤ d.exponent) :
    IsPlain (sign ++ d.chars Binary64.layout) ↔
      (10 : ℚ) ^ (-4 : ℤ) ≤ d.value ∧ d.value < 10 ^ (16 : ℤ) := by
  rw [← not_le (b := d.value)]
  rw [pow_le_value_iff hd] at places ⊢
  rw [pow_le_value_iff hd, not_le]
  obtain ⟨zeros, split⟩ := exists_toDigits_eq hd
  have length := congrArg List.length split
  rw [length_toDigits, List.length_append, List.length_replicate] at length
  unfold Decimal.chars
  dsimp only
  rw [if_neg hd, length_toDigits]
  split
  · next within =>
    rw [Bool.and_eq_true, decide_eq_true_eq, decide_eq_true_eq] at within
    have few := places within.1
    exact iff_of_true
      (isPlain_positional signed (Decimal.significantDigits_of_ne_zero hd).1 (by omega)) within
  · next beyond =>
    rw [Bool.and_eq_true, decide_eq_true_eq, decide_eq_true_eq] at beyond
    exact iff_of_false (not_isPlain_scientific _ _ _ _) beyond

end Number

namespace Binary64

open Number

variable {x t : Binary64} {power : ℤ}

/-! ## Powers of ten -/

/-- A number from a power of ten on has its first place there, or further up. -/
theorem le_place (hx : x.significand ≠ 0) (h : (10 : ℚ) ^ power ≤ x.magnitude) :
    power ≤ x.place := by
  have above := (place_bounds hx).2
  have := (zpow_lt_zpow_iff_right₀ (by norm_num)).mp (h.trans_lt above)
  omega

/-- **Powers of ten below the shortest decimal** are those that the number itself is
near to or above. -/
theorem pow_le_shortest_iff {num den : ℕ} (hden : 0 < den)
    (quotient : (num : ℚ) / den = 10 ^ power)
    (near : Extended.nearest t.negative num den = .finite t)
    (above : (10 : ℚ) ^ power ≤ t.magnitude) (hx : x.significand ≠ 0) :
    (10 : ℚ) ^ power ≤ x.shortest.value ↔ t.magnitude ≤ x.magnitude := by
  constructor
  · intro le
    refine Extended.magnitude_le_of_nearest hden x.shortest.quotient_den_pos near
      x.nearest_shortest ?_
    rw [quotient, Decimal.quotient_div]
    exact le
  · intro le
    have place := le_place hx (above.trans le)
    exact (zpow_le_zpow_right₀ (by norm_num) place).trans (shortest_bounds hx).1

/-- **The number nearest to a ten-thousandth** is a little larger. -/
theorem exists_nearest_tenThousandth :
    ∃ t, Extended.nearest t.negative 100 (Nat.pow 10 6) = .finite t ∧
      (10 : ℚ) ^ (-4 : ℤ) ≤ t.magnitude := by
  refine ⟨⟨false, 7378697629483821, -66, by decide⟩, by decide +kernel, ?_⟩
  norm_num [magnitude]

/-- **The number ten to the sixteenth**, from which on the even whole numbers are of the
format. -/
theorem exists_nearest_sixteen :
    ∃ t, Extended.nearest t.negative (Nat.pow 10 16) 1 = .finite t ∧
      t.magnitude = (10 : ℚ) ^ (16 : ℤ) ∧ t.gap = 2 := by
  refine ⟨⟨false, 5000000000000000, 1, by decide⟩, by decide +kernel, ?_, ?_⟩
  · norm_num [magnitude]
  · norm_num [gap]

/-! ## Rounded numbers -/

@[simp] theorem unitsOfPlace_eq_zero_iff {places : ℕ} :
    x.unitsOfPlace places = 0 ↔ x.magnitude * 10 ^ places ≤ 1 / 2 := by
  have near := (abs_le.mp (abs_unitsOfPlace_sub_le places x)).1
  constructor
  · intro none
    rw [none, Nat.cast_zero] at near
    linarith
  · intro small
    rw [← units_quotient] at small
    have le : x.unitsOfPlace places ≤ Number.roundHalfEven 1 2 :=
      Number.roundHalfEven_mono x.quotient_den_pos two_pos (by exact_mod_cast small)
    exact Nat.le_zero.mp le

/-- There are a hundred units from one half below a hundred on. -/
theorem hundred_le_unitsOfPlace_iff {places : ℕ} :
    100 ≤ x.unitsOfPlace places ↔ 199 / 2 ≤ x.magnitude * 10 ^ places := by
  have near := (abs_le.mp (abs_unitsOfPlace_sub_le places x)).2
  constructor
  · intro many
    have : (100 : ℚ) ≤ x.unitsOfPlace places := by exact_mod_cast many
    linarith
  · intro large
    rw [← units_quotient] at large
    have le : Number.roundHalfEven 199 2 ≤ x.unitsOfPlace places :=
      Number.roundHalfEven_mono two_pos x.quotient_den_pos (by exact_mod_cast large)
    exact le

/-- A number is rounded to zero if there are no units. -/
@[simp] theorem significand_roundToPlaces_eq_zero_iff {places : ℕ} :
    (x.roundToPlaces places).significand = 0 ↔ x.unitsOfPlace places = 0 := by
  constructor
  · intro zero
    have near := (abs_le.mp (abs_unitsOfPlace_sub_roundToPlaces_le places x)).2
    rw [magnitude, zero, Nat.cast_zero, zero_mul, zero_mul, sub_zero] at near
    have : (x.unitsOfPlace places : ℚ) < 1 := lt_of_le_of_lt near (by norm_num)
    exact Nat.lt_one_iff.mp (by exact_mod_cast this)
  · intro none
    have zero : Extended.nearest x.negative 0 (Nat.pow 10 places)
        = .finite (.zero x.negative) := by
      refine Extended.nearest_eq_of_eq (x := .zero x.negative) (pow_places_pos places) ?_
      rw [Nat.cast_zero, zero_div]
      exact (zero_mul _).symm
    have rounded := nearest_unitsOfPlace places x
    rw [none, zero] at rounded
    exact congrArg significand (Extended.finite.inj rounded).symm

/-- **A number rounded to six places has six places** in its shortest decimal, unless it
starts further down. -/
theorem neg_six_le_exponent (hx : (x.roundToPlaces 6).significand ≠ 0)
    (place : -6 ≤ (x.roundToPlaces 6).place) :
    -6 ≤ (x.roundToPlaces 6).shortest.exponent := by
  refine le_exponent_shortest (d := ⟨x.unitsOfPlace 6, -6⟩) hx place ?_ ?_
  · have near := abs_unitsOfPlace_sub_roundToPlaces_le 6 x
    show |(x.unitsOfPlace 6 : ℚ) - _ / (10 ^ 6)⁻¹| < 1
    rw [div_inv_eq_mul]
    exact near.trans_lt (by norm_num)
  · rw [negative_roundToPlaces]
    exact nearest_unitsOfPlace 6 x

/-- The shortest decimal of a rounded number reaches a ten-thousandth with a hundred
units. -/
theorem le_shortest_roundToPlaces_iff (hx : (x.roundToPlaces 6).significand ≠ 0) :
    (10 : ℚ) ^ (-4 : ℤ) ≤ (x.roundToPlaces 6).shortest.value ↔
      100 ≤ x.unitsOfPlace 6 := by
  obtain ⟨t, near, above⟩ := exists_nearest_tenThousandth
  have quotient : ((100 : ℕ) : ℚ) / (Nat.pow 10 6 : ℕ) = 10 ^ (-4 : ℤ) := by norm_num
  rw [pow_le_shortest_iff (pow_places_pos 6) quotient near above hx]
  constructor
  · intro le
    by_contra few
    have units : (x.unitsOfPlace 6 : ℚ) ≤ 99 := by
      exact_mod_cast Nat.le_of_lt_succ (not_le.mp few)
    have small := (abs_le.mp (abs_unitsOfPlace_sub_roundToPlaces_le 6 x)).1
    norm_num at above
    linarith
  · intro many
    refine Extended.magnitude_le_of_nearest (pow_places_pos 6) (pow_places_pos 6) near
      (nearest_unitsOfPlace 6 x) ?_
    gcongr

/-- The shortest decimal of a rounded number reaches ten to the sixteenth if the number
does. -/
theorem shortest_roundToPlaces_lt_iff (hx : (x.roundToPlaces 6).significand ≠ 0) :
    (x.roundToPlaces 6).shortest.value < (10 : ℚ) ^ (16 : ℤ) ↔
      x.magnitude < 10 ^ (16 : ℤ) := by
  obtain ⟨t, near, same, gap⟩ := exists_nearest_sixteen
  have quotient : ((Nat.pow 10 16 : ℕ) : ℚ) / (1 : ℕ) = 10 ^ (16 : ℤ) := by norm_num
  rw [← not_le, ← not_le,
    pow_le_shortest_iff Nat.one_pos quotient near same.ge hx, ← same]
  refine not_congr ⟨fun le => ?_, fun le => ?_⟩
  · -- the numbers below keep a distance of two, so rounding does not bridge it
    by_contra below
    have apart := gap_le_abs_sub (not_le.mp below).ne
    have moved := abs_value_roundToPlaces_sub_le 6 x
    rw [abs_value_sub (negative_roundToPlaces 6 x)] at moved
    rw [abs_of_neg (sub_neg.mpr (not_le.mp below)), gap] at apart
    have := (abs_le.mp moved).2
    norm_num at this
    linarith
  · have own : t.roundToPlaces 6 = t := by
      refine roundToPlaces_eq_self ?_
      rw [gap]
      norm_num
    rw [← own]
    exact magnitude_roundToPlaces_le le 6

/-- The characters of a number are those of its shortest decimal, with a sign. -/
theorem exists_sign_chars (x : Binary64) :
    ∃ sign ∈ [[], ['-']], x.chars = sign ++ x.shortest.chars layout := by
  unfold chars
  dsimp only
  split
  · exact ⟨['-'], by decide, rfl⟩
  · exact ⟨[], by decide, rfl⟩

/-- **Which numbers are plain when they are rounded to six places**: those that become
zero, and those from a ten-thousandth up to below `10 ^ 16`. -/
theorem isPlain_roundToPlaces_iff (x : Binary64) :
    IsPlain (x.roundToPlaces 6).chars ↔
      |x.value| ≤ 1 / 2 / 10 ^ 6 ∨
        (199 / 2 / 10 ^ 6 ≤ |x.value| ∧ |x.value| < 10 ^ 16) := by
  have unit : (0 : ℚ) < 10 ^ 6 := by norm_num
  rw [abs_value, le_div_iff₀ unit, div_le_iff₀ unit, ← unitsOfPlace_eq_zero_iff,
    ← hundred_le_unitsOfPlace_iff, ← significand_roundToPlaces_eq_zero_iff]
  obtain ⟨sign, signed, chars⟩ := exists_sign_chars (x.roundToPlaces 6)
  rw [chars]
  by_cases hx : (x.roundToPlaces 6).significand = 0
  · have zero : (x.roundToPlaces 6).shortest = ⟨0, 0⟩ := if_pos hx
    have plain : IsPlain (sign ++ Decimal.positional ['0'] 1) :=
      isPlain_positional signed Decimal.areDigits_zero (by decide)
    rw [zero]
    exact iff_of_true plain (.inl hx)
  · have digits : (x.roundToPlaces 6).shortest.digits ≠ 0 := by
      intro none
      have above := (shortest_bounds hx).1
      rw [Decimal.value, none, Nat.cast_zero, zero_mul] at above
      exact absurd above (not_le.mpr (zpow_pos (by norm_num) _))
    have places (le : (10 : ℚ) ^ (-4 : ℤ) ≤ (x.roundToPlaces 6).shortest.value) :
        -6 ≤ (x.roundToPlaces 6).shortest.exponent := by
      have power := (zpow_le_zpow_iff_right₀ (by norm_num)).mp
        (le.trans (shortest_bounds hx).2)
      exact neg_six_le_exponent hx (by omega)
    rw [isPlain_chars_iff signed digits places, le_shortest_roundToPlaces_iff hx,
      shortest_roundToPlaces_lt_iff hx, or_iff_right hx]
    rfl

end Binary64

end GeoCatalogue
