import GeoCatalogue.Number.Binary64
import GeoCatalogue.Proofs.Number.Quotient

/-!
# Magnitudes

The value of a finite number of the format is its **magnitude** with its sign, and the
magnitude is a whole number of units of every power of two that is not above its
exponent. A number is its sign and its magnitude (`Binary64.eq_of_magnitude_eq`), and
around it there is a **gap** without other magnitudes (`Binary64.gap_le_abs_sub`): the
unit of its last digit, or half of that below a power of two.
-/
namespace GeoCatalogue.Binary64

variable {x y : Binary64}

/-- **The magnitude of a number**, which is its value without the sign. -/
def magnitude (x : Binary64) : ℚ :=
  x.significand * (2 : ℚ) ^ x.exponent

@[simp] theorem magnitude_nonneg (x : Binary64) : 0 ≤ x.magnitude := by
  unfold magnitude
  positivity

theorem quotient_den_pos (x : Binary64) : 0 < x.quotient.2 :=
  (Number.power_quotient two_pos x.significand x.exponent rfl).1

/-- **The quotient of a number is its magnitude.** -/
@[simp] theorem quotient_div (x : Binary64) : (x.quotient.1 : ℚ) / x.quotient.2 = x.magnitude :=
  (Number.power_quotient two_pos x.significand x.exponent rfl).2

/-- **The value of a number is its magnitude with its sign.** -/
theorem value_eq (x : Binary64) :
    x.value = if x.negative then -x.magnitude else x.magnitude := by
  have magnitude : mkRat x.quotient.1 x.quotient.2 = x.magnitude := by
    rw [Rat.mkRat_eq_div, Int.cast_natCast, quotient_div]
  unfold value
  dsimp only
  rw [magnitude]

@[simp] theorem abs_value (x : Binary64) : |x.value| = x.magnitude := by
  rw [value_eq]
  split
  · rw [abs_neg, abs_of_nonneg x.magnitude_nonneg]
  · exact abs_of_nonneg x.magnitude_nonneg

/-! ## Digits and exponents -/

theorem significand_lt (x : Binary64) : x.significand < 2 ^ 53 :=
  x.canonical.1

theorem le_exponent (x : Binary64) : -1074 ≤ x.exponent :=
  x.canonical.2.1

theorem exponent_le (x : Binary64) : x.exponent ≤ 971 :=
  x.canonical.2.2.1

theorem le_significand (h : -1074 < x.exponent) : 2 ^ 52 ≤ x.significand :=
  x.canonical.2.2.2.resolve_right (by omega)

/-- The significand is a whole number below `2 ^ 53`. -/
theorem significand_le (x : Binary64) : (x.significand : ℚ) ≤ 2 ^ 53 - 1 := by
  have := Nat.cast_le (α := ℚ).mpr (Nat.succ_le_of_lt x.significand_lt)
  push_cast at this
  linarith

/-- **A magnitude is a whole number of units** of every grid that is not coarser than
its exponent. -/
theorem magnitude_eq_mul (x : Binary64) {grid : ℤ} (h : grid ≤ x.exponent) :
    x.magnitude
      = (x.significand * 2 ^ (x.exponent - grid).toNat : ℕ) * (2 : ℚ) ^ grid := by
  have power : (2 : ℚ) ^ x.exponent = 2 ^ (x.exponent - grid).toNat * 2 ^ grid := by
    rw [← zpow_natCast, ← zpow_add₀ two_ne_zero]
    congr 1
    omega
  rw [magnitude, power, Nat.cast_mul, Nat.cast_pow, Nat.cast_ofNat, mul_assoc]

/-- **A number of a smaller exponent** lies below all those with a leading digit, by a
unit of its own grid or more. -/
theorem magnitude_le_of_exponent_lt {grid : ℤ} (h : x.exponent < grid) :
    x.magnitude ≤ 2 ^ 52 * 2 ^ grid - 2 ^ (grid - 1) := by
  have digits := x.significand_le
  have power : (2 : ℚ) ^ x.exponent ≤ 2 ^ (grid - 1) :=
    zpow_le_zpow_right₀ one_le_two (by omega)
  have split : (2 : ℚ) ^ grid = 2 * 2 ^ (grid - 1) := by
    rw [mul_comm, ← zpow_add_one₀ two_ne_zero, sub_add_cancel]
  calc x.magnitude ≤ (2 ^ 53 - 1) * 2 ^ (grid - 1) := by
        unfold magnitude
        gcongr
    _ = 2 ^ 52 * 2 ^ grid - 2 ^ (grid - 1) := by
        rw [split]
        ring

/-- A magnitude is below the power of two that has one digit more. -/
theorem magnitude_lt (x : Binary64) : x.magnitude < 2 ^ 53 * 2 ^ x.exponent := by
  have digits : (x.significand : ℚ) < 2 ^ 53 := by exact_mod_cast x.significand_lt
  unfold magnitude
  gcongr

theorem le_magnitude (h : -1074 < x.exponent) : 2 ^ 52 * 2 ^ x.exponent ≤ x.magnitude := by
  have digits : (2 : ℚ) ^ 52 ≤ x.significand := by exact_mod_cast le_significand h
  unfold magnitude
  gcongr

/-- **No finite number is larger** than `2 ^ 1024 - 2 ^ 971`. -/
theorem magnitude_le (x : Binary64) : x.magnitude ≤ (2 ^ 53 - 1) * 2 ^ (971 : ℤ) := by
  have digits := x.significand_le
  have power : (2 : ℚ) ^ x.exponent ≤ 2 ^ (971 : ℤ) :=
    zpow_le_zpow_right₀ one_le_two x.exponent_le
  exact mul_le_mul digits power (zpow_nonneg two_pos.le _)
    (x.significand.cast_nonneg.trans digits)

/-- **A number is its sign and its magnitude.** -/
theorem eq_of_magnitude_eq (sign : x.negative = y.negative)
    (h : x.magnitude = y.magnitude) : x = y := by
  wlog le : x.exponent ≤ y.exponent generalizing x y
  · exact (this sign.symm h.symm (by omega)).symm
  have digits : x.significand = y.significand * 2 ^ (y.exponent - x.exponent).toNat := by
    rw [y.magnitude_eq_mul le, magnitude,
      mul_left_inj' (zpow_ne_zero _ two_ne_zero)] at h
    exact_mod_cast h
  -- with a leading digit on the coarser grid there is no room on the finer one
  have same : x.exponent = y.exponent := by
    by_contra different
    have full := le_significand (x := y) (by have := x.le_exponent; omega)
    have double : 2 ≤ 2 ^ (y.exponent - x.exponent).toNat :=
      Nat.le_self_pow (by omega) 2
    have := x.significand_lt
    have := Nat.mul_le_mul full double
    omega
  obtain ⟨sx, mx, ex, cx⟩ := x
  obtain ⟨sy, my, ey, cy⟩ := y
  dsimp only at same sign digits
  subst same sign
  rw [Int.sub_self, Int.toNat_zero, Nat.pow_zero, Nat.mul_one] at digits
  subst digits
  rfl

/-! ## Gaps -/

/-- **The distance that other magnitudes keep from a number**: a unit of its last digit,
or half of that if the number is a power of two, because the grid below is finer. -/
def gap (x : Binary64) : ℚ :=
  if x.significand = 2 ^ 52 ∧ -1074 < x.exponent then 2 ^ (x.exponent - 1)
  else 2 ^ x.exponent

/-- The gap is not wider than a unit of the last digit. -/
theorem gap_le (x : Binary64) : x.gap ≤ 2 ^ x.exponent := by
  unfold gap
  split
  · exact zpow_le_zpow_right₀ one_le_two (by omega)
  · exact le_refl _

theorem gap_pos (x : Binary64) : 0 < x.gap := by
  unfold gap
  split
  · exact zpow_pos two_pos _
  · exact zpow_pos two_pos _

/-- **No other magnitude lies in the gap around a number.** -/
theorem gap_le_abs_sub (h : y.magnitude ≠ x.magnitude) :
    x.gap ≤ |y.magnitude - x.magnitude| := by
  rcases le_or_gt x.exponent y.exponent with coarser | finer
  · -- both are whole numbers of units of the grid of `x`
    refine x.gap_le.trans ?_
    rw [y.magnitude_eq_mul coarser] at h ⊢
    rw [magnitude] at h ⊢
    have units : y.significand * 2 ^ (y.exponent - x.exponent).toNat ≠ x.significand := by
      intro same
      rw [same] at h
      exact h rfl
    have apart := Number.one_le_abs_sub (Nat.cast_injective.ne units)
    rw [Int.cast_natCast, Int.cast_natCast] at apart
    have unit := zpow_pos (two_pos (α := ℚ)) x.exponent
    rw [← sub_mul, abs_mul, abs_of_pos unit]
    exact le_mul_of_one_le_left unit.le apart
  · -- `y` has a finer grid, and lies below all numbers with a leading digit
    have normal : -1074 < x.exponent := lt_of_le_of_lt y.le_exponent finer
    have below := magnitude_le_of_exponent_lt finer
    have full := le_magnitude normal
    rw [abs_sub_comm]
    refine le_trans ?_ (le_abs_self _)
    unfold gap
    split
    · linarith
    · next unlike =>
      have more : (2 : ℚ) ^ 52 + 1 ≤ x.significand := by
        have := le_significand normal
        exact_mod_cast (by omega : 2 ^ 52 + 1 ≤ x.significand)
      have : (2 ^ 52 + 1) * (2 : ℚ) ^ x.exponent ≤ x.magnitude := by
        unfold magnitude
        gcongr
      have := zpow_pos (two_pos (α := ℚ)) (x.exponent - 1)
      linarith

end GeoCatalogue.Binary64
