import GeoCatalogue.Number.Decimal
import GeoCatalogue.Proofs.Number.Nearest

/-!
# Numbers rounded to decimal places

Rounding to decimal places rounds twice: to a whole number of units of the last place,
and then to the number of the format nearest to that decimal. The second rounding cannot
do more harm than the first, since the number itself is of the format. So **a number
moves by one unit of the last place at most** (`Binary64.abs_value_roundToPlaces_sub_le`),
and the order is kept (`Binary64.roundToPlaces_le_roundToPlaces`).

**Rounding to six places is done once and for all** (`Binary64.roundToPlaces_six`). Where
the numbers are closer to one another than a millionth, the decimal is found again; where
they are not, a number keeps away from all decimals near it but its own.
-/
namespace GeoCatalogue.Binary64

variable {x y : Binary64} {places : ℕ}

/-! ## Units of the last place -/

/-- A number in units of a decimal place, as a quotient. -/
theorem units_quotient (places : ℕ) (x : Binary64) :
    ((x.quotient.1 * Nat.pow 10 places : ℕ) : ℚ) / x.quotient.2
      = x.magnitude * 10 ^ places := by
  rw [Nat.pow_eq, Nat.cast_mul, Nat.cast_pow, Nat.cast_ofNat, mul_div_right_comm,
    quotient_div]

/-- The units of the last place are rounded by a half at most. -/
theorem abs_unitsOfPlace_sub_le (places : ℕ) (x : Binary64) :
    |(x.unitsOfPlace places : ℚ) - x.magnitude * 10 ^ places| ≤ 1 / 2 := by
  rw [← units_quotient]
  exact Number.abs_roundHalfEven_sub_le _ x.quotient_den_pos

theorem unitsOfPlace_le_unitsOfPlace (h : x.magnitude ≤ y.magnitude) (places : ℕ) :
    x.unitsOfPlace places ≤ y.unitsOfPlace places := by
  refine Number.roundHalfEven_mono x.quotient_den_pos y.quotient_den_pos ?_
  rw [units_quotient, units_quotient]
  gcongr

/-- A whole number of units nearer than half a unit is the rounding. -/
theorem unitsOfPlace_eq_of_abs_sub_lt {n : ℕ}
    (h : |(n : ℚ) - x.magnitude * 10 ^ places| < 1 / 2) : x.unitsOfPlace places = n := by
  refine Number.roundHalfEven_eq_of_abs_sub_lt x.quotient_den_pos ?_
  rwa [units_quotient]

/-- A number that is a whole number of units keeps it. -/
theorem unitsOfPlace_eq_of_eq {n : ℕ} (h : x.magnitude * 10 ^ places = n) :
    x.unitsOfPlace places = n := by
  refine unitsOfPlace_eq_of_abs_sub_lt ?_
  rw [h, sub_self, abs_zero]
  exact one_half_pos

theorem pow_places_pos (places : ℕ) : 0 < Nat.pow 10 places :=
  Nat.pow_pos (by decide)

/-- The decimal of the units is near the number. -/
theorem abs_decimal_sub_le (places : ℕ) (x : Binary64) :
    |(x.unitsOfPlace places : ℚ) / (Nat.pow 10 places : ℕ) - x.magnitude|
      ≤ 1 / 10 ^ places / 2 := by
  have unit : (0 : ℚ) < 10 ^ places := pow_pos (by norm_num) _
  have near := abs_unitsOfPlace_sub_le places x
  rw [Nat.pow_eq, Nat.cast_pow, Nat.cast_ofNat]
  rw [abs_sub_comm, Extended.abs_mul_sub _ _ unit, abs_sub_comm] at near
  rwa [div_right_comm, le_div_iff₀ unit]

/-! ## The rounded number -/

/-- **Rounding to decimal places gives a finite number**, the one nearest to the decimal
of the units. -/
theorem nearest_unitsOfPlace (places : ℕ) (x : Binary64) :
    Extended.nearest x.negative (x.unitsOfPlace places) (Nat.pow 10 places)
      = .finite (x.roundToPlaces places) := by
  have near := (abs_le.mp (abs_decimal_sub_le places x)).2
  have small : (1 : ℚ) / 10 ^ places / 2 ≤ 1 / 2 := by
    have : (1 : ℚ) ≤ 10 ^ places := one_le_pow₀ (by norm_num)
    gcongr
    exact div_le_one_of_le₀ this (by positivity)
  have within : (x.unitsOfPlace places : ℚ) / (Nat.pow 10 places : ℕ)
      < (2 ^ 53 - 1 / 2) * 2 ^ (971 : ℤ) := by
    have largest := x.magnitude_le
    have unit : (1 : ℚ) < 2 ^ (971 : ℤ) := one_lt_zpow₀ one_lt_two (by decide)
    generalize (2 : ℚ) ^ (971 : ℤ) = last at largest unit ⊢
    linarith
  obtain ⟨r, hr⟩ := Extended.exists_nearest_eq_finite
    (pow_places_pos places) within x.negative
  unfold roundToPlaces
  rw [hr]

@[simp] theorem negative_roundToPlaces (places : ℕ) (x : Binary64) :
    (x.roundToPlaces places).negative = x.negative := by
  have rounded := nearest_unitsOfPlace places x
  rw [Extended.nearest_eq_ofDigits] at rounded
  exact (Extended.ofDigits_eq_finite rounded).1

/-- The rounded number is as near to the decimal as the number itself. -/
theorem abs_magnitude_roundToPlaces_sub_le (places : ℕ) (x : Binary64) :
    |(x.roundToPlaces places).magnitude
        - (x.unitsOfPlace places : ℚ) / (Nat.pow 10 places : ℕ)|
      ≤ 1 / 10 ^ places / 2 := by
  refine (Extended.abs_sub_le_of_nearest (pow_places_pos places)
    (nearest_unitsOfPlace places x) x).trans ?_
  rw [abs_sub_comm]
  exact abs_decimal_sub_le places x

/-- The units are those of the rounded number, too, up to one half. -/
theorem abs_unitsOfPlace_sub_roundToPlaces_le (places : ℕ) (x : Binary64) :
    |(x.unitsOfPlace places : ℚ) - (x.roundToPlaces places).magnitude * 10 ^ places|
      ≤ 1 / 2 := by
  have unit : (0 : ℚ) < 10 ^ places := pow_pos (by norm_num) _
  have near := abs_magnitude_roundToPlaces_sub_le places x
  rw [Nat.pow_eq, Nat.cast_pow, Nat.cast_ofNat, div_right_comm, le_div_iff₀ unit] at near
  rwa [abs_sub_comm, Extended.abs_mul_sub _ _ unit]

/-- Numbers of one sign are as far from each other as their magnitudes. -/
theorem abs_value_sub (h : x.negative = y.negative) :
    |x.value - y.value| = |x.magnitude - y.magnitude| := by
  rw [value_eq, value_eq, h]
  split
  · rw [neg_sub_neg, abs_sub_comm]
  · rfl

/-- **A number moves by one unit of the last place** at most. -/
theorem abs_value_roundToPlaces_sub_le (places : ℕ) (x : Binary64) :
    |(x.roundToPlaces places).value - x.value| ≤ 1 / 10 ^ places := by
  rw [abs_value_sub (negative_roundToPlaces places x)]
  have first := abs_decimal_sub_le places x
  have second := abs_magnitude_roundToPlaces_sub_le places x
  have triangle := abs_sub_le (x.roundToPlaces places).magnitude
    ((x.unitsOfPlace places : ℚ) / (Nat.pow 10 places : ℕ)) x.magnitude
  linarith

@[simp] theorem magnitude_roundToPlaces_of_eq_zero (h : x.magnitude = 0) (places : ℕ) :
    (x.roundToPlaces places).magnitude = 0 := by
  have none : x.unitsOfPlace places = 0 := by
    refine unitsOfPlace_eq_of_eq ?_
    rw [h, zero_mul, Nat.cast_zero]
  have near := Extended.abs_sub_le_of_nearest (pow_places_pos places)
    (nearest_unitsOfPlace places x) x
  rw [none, Nat.cast_zero, zero_div, sub_zero, h, sub_zero, abs_zero] at near
  exact abs_nonpos_iff.mp near

/-- The magnitude of a larger number is rounded to a larger one. -/
theorem magnitude_roundToPlaces_le (h : x.magnitude ≤ y.magnitude) (places : ℕ) :
    (x.roundToPlaces places).magnitude ≤ (y.roundToPlaces places).magnitude := by
  refine Extended.magnitude_le_of_nearest (pow_places_pos places)
    (pow_places_pos places) (nearest_unitsOfPlace places x)
    (nearest_unitsOfPlace places y) ?_
  have := unitsOfPlace_le_unitsOfPlace h places
  gcongr

/-- **Rounding to decimal places keeps the order.** -/
theorem roundToPlaces_le_roundToPlaces (h : x ≤ y) (places : ℕ) :
    x.roundToPlaces places ≤ y.roundToPlaces places := by
  have order : x.value ≤ y.value := h
  show (x.roundToPlaces places).value ≤ (y.roundToPlaces places).value
  have hx := x.magnitude_nonneg
  have hy := y.magnitude_nonneg
  have hx' := (x.roundToPlaces places).magnitude_nonneg
  have hy' := (y.roundToPlaces places).magnitude_nonneg
  rw [value_eq, value_eq] at order ⊢
  rw [negative_roundToPlaces, negative_roundToPlaces]
  cases negX : x.negative <;> cases negY : y.negative <;>
    simp only [negX, negY, if_true, if_false, Bool.false_eq_true] at order ⊢
  case false.false => exact magnitude_roundToPlaces_le order places
  case true.true =>
    exact neg_le_neg (magnitude_roundToPlaces_le (neg_le_neg_iff.mp order) places)
  case true.false => linarith
  case false.true =>
    -- only the zeros are equal across the signs
    have zeroX := magnitude_roundToPlaces_of_eq_zero (x := x) (by linarith) places
    have zeroY := magnitude_roundToPlaces_of_eq_zero (x := y) (by linarith) places
    rw [zeroX, zeroY, neg_zero]

/-! ## Six places -/

/-- Rounding again to the same units changes nothing. -/
theorem roundToPlaces_eq_of_unitsOfPlace_eq (sign : x.negative = y.negative)
    (h : x.unitsOfPlace places = y.unitsOfPlace places) :
    x.roundToPlaces places = y.roundToPlaces places := by
  have rounded := nearest_unitsOfPlace places x
  rw [h, sign, nearest_unitsOfPlace] at rounded
  exact (Extended.finite.inj rounded).symm

/-- A number near the decimal of its units is its own rounding. -/
theorem roundToPlaces_eq_self (h : 1 / 10 ^ places < x.gap) :
    x.roundToPlaces places = x := by
  have rounded := nearest_unitsOfPlace places x
  have near := abs_decimal_sub_le places x
  rw [Extended.nearest_eq_of_abs_sub_lt (pow_places_pos places) (by linarith)]
    at rounded
  exact (Extended.finite.inj rounded).symm

/-- A whole number of units is its own rounding. -/
theorem roundToPlaces_eq_self_of_eq {n : ℕ} (h : x.magnitude * 10 ^ places = n) :
    x.roundToPlaces places = x := by
  have rounded := nearest_unitsOfPlace places x
  have unit : (10 : ℚ) ^ places ≠ 0 := pow_ne_zero _ (by norm_num)
  rw [Extended.nearest_eq_of_eq (pow_places_pos places) ?_] at rounded
  · exact (Extended.finite.inj rounded).symm
  · rw [unitsOfPlace_eq_of_eq h, Nat.pow_eq, Nat.cast_pow, Nat.cast_ofNat, ← h,
      mul_div_cancel_right₀ _ unit]

/-- **Rounding to six places twice** is rounding once. -/
@[simp] theorem roundToPlaces_six (x : Binary64) :
    (x.roundToPlaces 6).roundToPlaces 6 = x.roundToPlaces 6 := by
  generalize hr : x.roundToPlaces 6 = r
  rcases le_or_gt r.exponent (-20) with fine | coarse
  · -- the grid is finer than the decimals, so the same units are found again
    have near := Extended.abs_sub_le_half (pow_places_pos 6) (nearest_unitsOfPlace 6 x)
    rw [hr, Nat.pow_eq, Nat.cast_pow, Nat.cast_ofNat] at near
    have power : (2 : ℚ) ^ r.exponent ≤ 2 ^ (-20 : ℤ) :=
      zpow_le_zpow_right₀ one_le_two fine
    have units : r.unitsOfPlace 6 = x.unitsOfPlace 6 := by
      refine unitsOfPlace_eq_of_abs_sub_lt ?_
      rw [abs_sub_comm, Extended.abs_mul_sub _ _ (pow_pos (by norm_num) 6)]
      calc |r.magnitude - x.unitsOfPlace 6 / 10 ^ 6| * 10 ^ 6
          ≤ 2 ^ (-20 : ℤ) / 2 * 10 ^ 6 := by
            gcongr
            exact near.trans (by gcongr)
        _ < 1 / 2 := by norm_num
    have sign : r.negative = x.negative := hr ▸ negative_roundToPlaces 6 x
    rw [roundToPlaces_eq_of_unitsOfPlace_eq sign units, hr]
  · by_cases whole : r.significand = 2 ^ 52 ∧ -1074 < r.exponent
    · -- a power of two of this size is a whole number of units
      obtain ⟨k, hk⟩ := Int.eq_ofNat_of_zero_le (show 0 ≤ 52 + r.exponent by omega)
      refine roundToPlaces_eq_self_of_eq (n := 2 ^ k * 10 ^ 6) ?_
      have power : r.magnitude = 2 ^ k := by
        rw [magnitude, whole.1, Nat.cast_pow, Nat.cast_ofNat, ← zpow_natCast,
          ← zpow_add₀ two_ne_zero, ← zpow_natCast]
        exact congrArg _ hk
      rw [power]
      push_cast
      rfl
    · -- the gap around the number is wider than a unit
      refine roundToPlaces_eq_self ?_
      have power : (2 : ℚ) ^ (-19 : ℤ) ≤ 2 ^ r.exponent :=
        zpow_le_zpow_right₀ one_le_two (by omega)
      rw [gap, if_neg whole]
      refine lt_of_lt_of_le ?_ power
      norm_num

end GeoCatalogue.Binary64
