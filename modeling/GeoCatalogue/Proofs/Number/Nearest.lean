import GeoCatalogue.Number.Extended
import GeoCatalogue.Proofs.Number.Magnitude

/-!
# The number nearest to a quotient

A quotient is rounded on the grid of its size, which leaves at most fifty-three bits. So
it becomes a finite number of the format unless it is too large
(`Extended.exists_nearest_eq_finite`).

The grid is only a means: **no number of the format is nearer** to the quotient than
what comes of it (`Extended.abs_sub_le_of_nearest`), whatever grid that number is on.
From this follows all else that is needed of rounding: it keeps the order
(`Extended.magnitude_le_of_nearest`), and a quotient nearer to a number than half of the
gap around it is rounded to that number (`Extended.nearest_eq_of_abs_sub_lt`).
-/
namespace GeoCatalogue.Extended

variable {num den : ℕ}

/-! ## The grid -/

/-- The significand of a quotient in units of its grid. -/
def rounded (grid : ℤ) (num den : ℕ) : ℕ :=
  Number.roundHalfEven (Number.overPower 2 grid num den).1
    (Number.overPower 2 grid num den).2

/-- **The exponent of the grid of a quotient**; zero is on the finest grid. -/
def grid (num den : ℕ) : ℤ :=
  if num = 0 then -1074 else gridExponent num den

/-- On a grid, a quotient is rounded by half a unit at most. -/
theorem abs_rounded_sub_le (num : ℕ) (hden : 0 < den) (grid : ℤ) :
    |(rounded grid num den : ℚ) - num / den / 2 ^ grid| ≤ 1 / 2 := by
  have near := Number.abs_roundHalfEven_sub_le (Number.overPower 2 grid num den).1
    (Number.overPower_den_pos num two_pos hden grid)
  rwa [Number.overPower_div two_pos, Nat.cast_ofNat] at near

/-- On a grid, nothing is nearer to a quotient than its rounding. -/
theorem abs_rounded_sub_le_abs (num : ℕ) (hden : 0 < den) (grid n : ℤ) :
    |(rounded grid num den : ℚ) - num / den / 2 ^ grid|
      ≤ |n - (num : ℚ) / den / 2 ^ grid| := by
  have near := Number.abs_roundHalfEven_sub_le_abs (Number.overPower 2 grid num den).1
    (Number.overPower_den_pos num two_pos hden grid) n
  rwa [Number.overPower_div two_pos, Nat.cast_ofNat] at near

theorem pow_div_grid (grid : ℤ) (bits : ℕ) :
    (2 : ℚ) ^ (grid + bits) / (2 : ℕ) ^ grid = (2 ^ bits : ℕ) := by
  rw [zpow_add₀ two_ne_zero, Nat.cast_ofNat,
    mul_div_cancel_left₀ _ (zpow_ne_zero grid two_ne_zero), zpow_natCast,
    Nat.cast_pow, Nat.cast_ofNat]

/-- A quotient up to a power of two has a significand of so many bits. -/
theorem rounded_le (hden : 0 < den) {grid : ℤ} {bits : ℕ}
    (h : (num : ℚ) / den ≤ 2 ^ (grid + bits)) :
    rounded grid num den ≤ 2 ^ bits := by
  refine Number.roundHalfEven_le (Number.overPower_den_pos num two_pos hden grid) ?_
  rw [Number.overPower_div two_pos, ← pow_div_grid grid bits]
  gcongr

/-- A quotient from a power of two on has a significand of more bits. -/
theorem le_rounded (hden : 0 < den) {grid : ℤ} {bits : ℕ}
    (h : (2 : ℚ) ^ (grid + bits) ≤ num / den) :
    2 ^ bits ≤ rounded grid num den := by
  refine Number.le_roundHalfEven (Number.overPower_den_pos num two_pos hden grid) ?_
  rw [Number.overPower_div two_pos, ← pow_div_grid grid bits]
  gcongr

/-- **The grid has the size of the quotient**: fifty-three bits are enough for it, and
no fewer unless the grid is the finest. -/
theorem grid_spec (num : ℕ) (hden : 0 < den) :
    -1074 ≤ grid num den ∧ (num : ℚ) / den < 2 ^ (grid num den + 53) ∧
      (-1074 < grid num den → (2 : ℚ) ^ (grid num den + 52) ≤ num / den) := by
  unfold grid
  split
  · next zero =>
    refine ⟨le_refl _, ?_, fun no => absurd no (lt_irrefl _)⟩
    rw [zero, Nat.cast_zero, zero_div]
    exact zpow_pos two_pos _
  · next positive =>
    have hnum := Nat.pos_of_ne_zero positive
    have quotient : (0 : ℚ) < num / den :=
      div_pos (Nat.cast_pos.mpr hnum) (Nat.cast_pos.mpr hden)
    have below := Int.lt_zpow_succ_log_self one_lt_two ((num : ℚ) / den)
    have above := Int.zpow_log_le_self one_lt_two quotient
    rw [Nat.cast_ofNat] at below above
    rw [gridExponent, Number.floorLog_eq one_lt_two hnum hden]
    generalize Int.log 2 ((num : ℚ) / den) = log at below above
    refine ⟨le_max_left _ _, below.trans_le ?_, fun coarser => le_trans ?_ above⟩
    · exact zpow_le_zpow_right₀ one_le_two (by omega)
    · exact zpow_le_zpow_right₀ one_le_two (by omega)

/-- Equal quotients have the same grid. -/
theorem grid_congr {num' den' : ℕ} (hden : 0 < den) (hden' : 0 < den')
    (h : (num : ℚ) / den = num' / den') : grid num den = grid num' den' := by
  have zero (n : ℕ) {d : ℕ} (hd : 0 < d) : n = 0 ↔ (n : ℚ) / d = 0 := by
    rw [div_eq_zero_iff, Nat.cast_eq_zero, Nat.cast_eq_zero, or_iff_left hd.ne']
  have zeros : num = 0 ↔ num' = 0 := by
    rw [zero num hden, zero num' hden', h]
  unfold grid
  by_cases hnum : num = 0
  · rw [if_pos hnum, if_pos (zeros.mp hnum)]
  · have hnum' := zeros.not.mp hnum
    rw [if_neg hnum, if_neg hnum', gridExponent, gridExponent,
      Number.floorLog_eq one_lt_two (Nat.pos_of_ne_zero hnum) hden,
      Number.floorLog_eq one_lt_two (Nat.pos_of_ne_zero hnum') hden', h]

/-! ## Digits on a grid -/

variable {negative : Bool} {digits : ℕ} {x : Binary64}

/-- **The number with rounded digits on a grid**; a carry into the fifty-fourth bit goes
to the exponent. -/
def ofDigits (negative : Bool) (digits : ℕ) (grid : ℤ) : Extended :=
  let significand := if digits = Nat.pow 2 53 then Nat.pow 2 52 else digits
  let exponent := if digits = Nat.pow 2 53 then grid + 1 else grid
  if fits : Binary64.Canonical significand exponent then
    .finite ⟨negative, significand, exponent, fits⟩
  else .infinite negative

/-- A carry stays a number of the format, unless there is no next exponent. -/
theorem exists_ofDigits_eq {grid : ℤ} (low : -1074 ≤ grid) (top : grid ≤ 971)
    (bits : digits ≤ 2 ^ 53) (full : 2 ^ 52 ≤ digits ∨ grid = -1074)
    (last : grid = 971 → digits ≠ 2 ^ 53) (negative : Bool) :
    ∃ x, ofDigits negative digits grid = .finite x := by
  refine ⟨_, dif_pos ?_⟩
  show Binary64.Canonical (if digits = Nat.pow 2 53 then Nat.pow 2 52 else digits)
    (if digits = Nat.pow 2 53 then grid + 1 else grid)
  split
  · next carry =>
    have room : grid ≠ 971 := fun no => last no carry
    exact ⟨by decide, by omega, by omega, .inl (by decide)⟩
  · next unlike => exact ⟨lt_of_le_of_ne bits unlike, low, top, full⟩

/-- **A quotient is rounded on its grid.** -/
theorem nearest_eq_ofDigits (negative : Bool) (num den : ℕ) :
    nearest negative num den
      = ofDigits negative (rounded (grid num den) num den) (grid num den) := rfl

/-- A finite number has its digits on the grid, up to a carry. -/
theorem ofDigits_eq_finite {grid : ℤ} (h : ofDigits negative digits grid = .finite x) :
    x.negative = negative ∧ grid ≤ x.exponent ∧ x.magnitude = digits * 2 ^ grid := by
  unfold ofDigits at h
  by_cases carry : digits = Nat.pow 2 53
  · simp only [if_pos carry] at h
    split at h
    · obtain rfl := finite.inj h
      refine ⟨rfl, (Int.lt_succ grid).le, ?_⟩
      show ((Nat.pow 2 52 : ℕ) : ℚ) * 2 ^ (grid + 1) = _
      rw [carry, zpow_add_one₀ two_ne_zero]
      push_cast [Nat.pow_eq]
      ring
    · cases h
  · simp only [if_neg carry] at h
    split at h
    · obtain rfl := finite.inj h
      exact ⟨rfl, le_refl _, rfl⟩
    · cases h

/-! ## Quotients that the format can hold -/

/-- **Every quotient below `2 ^ 1024 - 2 ^ 970` is near a finite number.** -/
theorem exists_nearest_eq_finite (hden : 0 < den)
    (h : (num : ℚ) / den < (2 ^ 53 - 1 / 2) * 2 ^ (971 : ℤ)) (negative : Bool) :
    ∃ x, nearest negative num den = .finite x := by
  obtain ⟨low, below, above⟩ := grid_spec num hden
  have unit : (0 : ℚ) < 2 ^ (971 : ℤ) := zpow_pos two_pos _
  refine exists_ofDigits_eq low ?_ (rounded_le hden below.le) ?_ ?_ negative
  · by_contra high
    have size := above (by omega)
    have power : (2 : ℚ) ^ (53 + 971 : ℤ) ≤ 2 ^ (grid num den + 52) :=
      zpow_le_zpow_right₀ one_le_two (by omega)
    rw [zpow_add₀ two_ne_zero] at power
    generalize (2 : ℚ) ^ (971 : ℤ) = largest at h power unit
    linarith
  · rcases low.lt_or_eq with coarser | finest
    · exact .inl (le_rounded hden (above coarser))
    · exact .inr finest.symm
  · intro last carry
    have near := (abs_le.mp (abs_rounded_sub_le num hden 971)).2
    rw [last] at carry
    rw [← div_lt_iff₀ unit] at h
    rw [carry, Nat.cast_pow, Nat.cast_ofNat] at near
    generalize (num : ℚ) / den / 2 ^ (971 : ℤ) = scaled at near h
    linarith only [near, h]

/-- **No quotient from `2 ^ 1024` on is near a finite number.** -/
theorem nearest_eq_infinite (hden : 0 < den)
    (h : 2 ^ 53 * (2 : ℚ) ^ (971 : ℤ) ≤ num / den) (negative : Bool) :
    nearest negative num den = .infinite negative := by
  obtain ⟨-, below, -⟩ := grid_spec num hden
  rw [nearest_eq_ofDigits]
  generalize hdigits : rounded (grid num den) num den = digits
  -- the grid of such a quotient is above that of every number
  refine dif_neg fun fits => ?_
  obtain ⟨-, -, top, -⟩ := fits
  have power : (2 : ℚ) ^ (grid num den + 53) ≤ 2 ^ (53 + 971 : ℤ) := by
    refine zpow_le_zpow_right₀ one_le_two ?_
    split at top <;> omega
  rw [zpow_add₀ two_ne_zero 53] at power
  generalize (2 : ℚ) ^ (971 : ℤ) = largest at h power
  have := below.trans_le power
  linarith

/-- **Every rational number below `2 ^ 1023` is near a finite number.** -/
theorem isFinite_ofRat {q : ℚ} (h : |q| < 2 ^ (1023 : ℤ)) :
    (ofRat q).isFinite = true := by
  have quotient : ((q.num.natAbs : ℕ) : ℚ) / q.den = |q| := by
    rw [Nat.cast_natAbs, Int.cast_abs]
    conv_rhs => rw [← q.num_div_den, abs_div, Nat.abs_cast]
  have small : ((q.num.natAbs : ℕ) : ℚ) / q.den < (2 ^ 53 - 1 / 2) * 2 ^ (971 : ℤ) := by
    have power : (2 : ℚ) ^ (1023 : ℤ) = 2 ^ 52 * 2 ^ (971 : ℤ) := by
      rw [← zpow_natCast, ← zpow_add₀ two_ne_zero]
      rfl
    have unit : (0 : ℚ) < 2 ^ (971 : ℤ) := zpow_pos two_pos _
    rw [power, ← quotient] at h
    generalize (2 : ℚ) ^ (971 : ℤ) = largest at h unit ⊢
    linarith
  obtain ⟨x, hx⟩ := exists_nearest_eq_finite q.den_pos small (decide (q < 0))
  unfold ofRat
  rw [hx]
  rfl

/-! ## Nothing is nearer -/

theorem abs_mul_sub (n q : ℚ) {unit : ℚ} (h : 0 < unit) :
    |n * unit - q| = |n - q / unit| * unit := by
  rw [← abs_of_pos h, ← abs_mul, abs_of_pos h, sub_mul, div_mul_cancel₀ _ h.ne']

/-- **Rounding moves a quotient by half a unit of the last digit** at most. -/
theorem abs_sub_le_half (hden : 0 < den) (h : nearest negative num den = .finite x) :
    |x.magnitude - num / den| ≤ 2 ^ x.exponent / 2 := by
  rw [nearest_eq_ofDigits] at h
  obtain ⟨-, fine, digits⟩ := ofDigits_eq_finite h
  have near := abs_rounded_sub_le num hden (grid num den)
  have unit : (2 : ℚ) ^ grid num den ≤ 2 ^ x.exponent :=
    zpow_le_zpow_right₀ one_le_two fine
  have positive : (0 : ℚ) < 2 ^ grid num den := zpow_pos two_pos _
  calc |x.magnitude - num / den|
      = |(rounded (grid num den) num den : ℚ) - num / den / 2 ^ grid num den|
          * 2 ^ grid num den := by rw [digits, abs_mul_sub _ _ positive]
    _ ≤ 1 / 2 * 2 ^ grid num den := by gcongr
    _ ≤ 2 ^ x.exponent / 2 := by linarith

/-- **No number of the format is nearer to a quotient** than the one it is rounded
to. -/
theorem abs_sub_le_of_nearest (hden : 0 < den)
    (h : nearest negative num den = .finite x) (y : Binary64) :
    |x.magnitude - num / den| ≤ |y.magnitude - num / den| := by
  rw [nearest_eq_ofDigits] at h
  obtain ⟨-, -, digits⟩ := ofDigits_eq_finite h
  have units (n : ℤ) : |x.magnitude - num / den|
      ≤ |(n : ℚ) * 2 ^ grid num den - num / den| := by
    have near := abs_rounded_sub_le_abs num hden (grid num den) n
    have positive : (0 : ℚ) < 2 ^ grid num den := zpow_pos two_pos _
    rw [digits, abs_mul_sub _ _ positive, abs_mul_sub _ _ positive]
    gcongr
  rcases le_or_gt (grid num den) y.exponent with coarser | finer
  · -- `y` is a whole number of units of the grid itself
    rw [y.magnitude_eq_mul coarser]
    exact_mod_cast units (y.significand * 2 ^ (y.exponent - grid num den).toNat : ℕ)
  · -- `y` lies below the least number with a leading digit on the grid
    obtain ⟨-, -, above⟩ := grid_spec num hden
    have least := above (lt_of_le_of_lt y.le_exponent finer)
    have below := Binary64.magnitude_le_of_exponent_lt finer
    have positive : (0 : ℚ) < 2 ^ (grid num den - 1) := zpow_pos two_pos _
    have power : (2 : ℚ) ^ (grid num den + 52) = 2 ^ 52 * 2 ^ grid num den := by
      rw [zpow_add₀ two_ne_zero, mul_comm]
      rfl
    refine (units (2 ^ 52)).trans ?_
    rw [Int.cast_pow, Int.cast_ofNat, ← power]
    rw [← power] at below
    rw [abs_of_nonpos (by linarith), abs_of_nonpos (by linarith)]
    linarith

section Quotients

variable {num' den' : ℕ}

/-- Equal quotients have the same digits. -/
theorem rounded_congr (hden : 0 < den) (hden' : 0 < den')
    (h : (num : ℚ) / den = num' / den') :
    rounded (grid num den) num den = rounded (grid num' den') num' den' := by
  rw [grid_congr hden hden' h]
  refine Number.roundHalfEven_congr (Number.overPower_den_pos num two_pos hden _)
    (Number.overPower_den_pos num' two_pos hden' _) ?_
  rw [Number.overPower_div two_pos, Number.overPower_div two_pos, h]

/-- **The nearest number depends on the quotient alone.** -/
theorem nearest_congr (hden : 0 < den) (hden' : 0 < den')
    (h : (num : ℚ) / den = num' / den') (negative : Bool) :
    nearest negative num den = nearest negative num' den' := by
  rw [nearest_eq_ofDigits, nearest_eq_ofDigits, rounded_congr hden hden' h,
    grid_congr hden hden' h]

/-- The larger of two numbers is the nearer one only to what is not below their
middle. -/
theorem add_le_of_abs_sub_le {a b q : ℚ} (h : b < a) (near : |a - q| ≤ |b - q|) :
    a + b ≤ 2 * q := by
  have squares := sq_le_sq.mpr near
  nlinarith

/-- The smaller of two numbers is the nearer one only to what is not above their
middle. -/
theorem le_add_of_abs_sub_le {a b q : ℚ} (h : b < a) (near : |b - q| ≤ |a - q|) :
    2 * q ≤ a + b := by
  have squares := sq_le_sq.mpr near
  nlinarith

/-- **Rounding keeps the order**, whatever the signs. -/
theorem magnitude_le_of_nearest {negative' : Bool} {y : Binary64}
    (hden : 0 < den) (hden' : 0 < den') (hx : nearest negative num den = .finite x)
    (hy : nearest negative' num' den' = .finite y)
    (h : (num : ℚ) / den ≤ num' / den') : x.magnitude ≤ y.magnitude := by
  by_contra exchanged
  have below := add_le_of_abs_sub_le (not_le.mp exchanged)
    (abs_sub_le_of_nearest hden hx y)
  have above := le_add_of_abs_sub_le (not_le.mp exchanged)
    (abs_sub_le_of_nearest hden' hy x)
  -- both quotients are the middle of `x` and `y`, so they have the same digits
  have same : (num : ℚ) / den = num' / den' := by linarith
  rw [nearest_eq_ofDigits] at hx hy
  obtain ⟨-, -, digits⟩ := ofDigits_eq_finite hx
  obtain ⟨-, -, digits'⟩ := ofDigits_eq_finite hy
  rw [digits, digits', rounded_congr hden hden' same, grid_congr hden hden' same]
    at exchanged
  exact exchanged (le_refl _)

end Quotients

/-! ## Numbers that are read back -/

/-- **A quotient is rounded to a number** if it is nearer to it than half of the gap
around it. -/
theorem nearest_eq_of_abs_sub_lt (hden : 0 < den)
    (h : 2 * |(num : ℚ) / den - x.magnitude| < x.gap) :
    nearest x.negative num den = .finite x := by
  have within : (num : ℚ) / den < (2 ^ 53 - 1 / 2) * 2 ^ (971 : ℤ) := by
    have above := le_abs_self ((num : ℚ) / den - x.magnitude)
    have unit : x.gap ≤ 2 ^ (971 : ℤ) :=
      x.gap_le.trans (zpow_le_zpow_right₀ one_le_two x.exponent_le)
    have largest := x.magnitude_le
    generalize (2 : ℚ) ^ (971 : ℤ) = last at unit largest ⊢
    linarith
  obtain ⟨y, hy⟩ := exists_nearest_eq_finite hden within x.negative
  rw [hy, finite.injEq]
  rw [nearest_eq_ofDigits] at hy
  refine Binary64.eq_of_magnitude_eq (ofDigits_eq_finite hy).1 ?_
  by_contra different
  have apart := Binary64.gap_le_abs_sub different
  have nearer := abs_sub_le_of_nearest hden hy x
  have triangle := abs_sub_le y.magnitude ((num : ℚ) / den) x.magnitude
  rw [abs_sub_comm x.magnitude] at nearer
  linarith

/-- **A number is nearest to its own magnitude.** -/
theorem nearest_eq_of_eq (hden : 0 < den) (h : (num : ℚ) / den = x.magnitude) :
    nearest x.negative num den = .finite x := by
  refine nearest_eq_of_abs_sub_lt hden ?_
  rw [h, sub_self, abs_zero, mul_zero]
  exact x.gap_pos

end GeoCatalogue.Extended
