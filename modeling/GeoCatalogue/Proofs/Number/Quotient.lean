import GeoCatalogue.Number.Quotient
import Mathlib.Algebra.Order.Field.Power
import Mathlib.Data.Int.Log
import Mathlib.Data.Rat.Floor
import Mathlib.Tactic.Linarith

/-!
# Quotients as rational numbers

What is done with pairs of natural numbers, said of the quotients that they stand
for: dividing by a power of the base, the exponent of the largest power that is
not exceeded, and rounding, which does not leave an interval between natural
numbers and goes to the nearest of them.

* `Number.digitCount_eq` – a number has one digit more than its logarithm says;
* `Number.overPower_div` – the quotient is divided by the power;
* `Number.floorLog_eq` – the exponent is the logarithm of the quotient;
* `Number.le_roundHalfEven`, `Number.roundHalfEven_le` – rounding keeps natural
  bounds;
* `Number.abs_roundHalfEven_sub_le_abs` – no whole number is nearer;
* `Number.roundHalfEven_congr` – the pair does not matter, only the quotient.
-/
namespace GeoCatalogue.Number

variable {base num den : ℕ}

/-! ## Powers -/

/-- Digits are counted to the end if the bound is large enough. -/
theorem digitCountWithin_eq (hbase : 1 < base) {bound n : ℕ}
    (h : Nat.log base n ≤ bound) :
    digitCountWithin base bound n = Nat.log base n + 1 := by
  induction bound generalizing n with
  | zero =>
    rw [Nat.le_zero.mp h]
    rfl
  | succ bound ih =>
    rw [digitCountWithin]
    split
    · next small => rw [Nat.log_of_lt small]
    · next large =>
      have step := Nat.log_of_one_lt_of_le hbase (Nat.le_of_not_lt large)
      rw [ih (by omega), step]

/-- **A number has one digit more than its logarithm says.** -/
theorem digitCount_eq (hbase : 1 < base) (n : ℕ) :
    digitCount base n = Nat.log base n + 1 := by
  have bound : Nat.log base n ≤ Nat.log2 n + 1 := by
    have := Nat.log_anti_left (n := n) Nat.one_lt_two hbase
    rw [Nat.log2_eq_log_two]
    omega
  exact digitCountWithin_eq hbase bound

/-- The quotient divided by a power still has a denominator. -/
theorem overPower_den_pos (num : ℕ) (hbase : 0 < base) (hden : 0 < den) (power : ℤ) :
    0 < (overPower base power num den).2 := by
  unfold overPower
  split
  · exact Nat.mul_pos hden (Nat.pow_pos hbase)
  · exact hden

/-- **A quotient is divided by a power of the base.** -/
theorem overPower_div (hbase : 0 < base) (power : ℤ) (num den : ℕ) :
    ((overPower base power num den).1 : ℚ) / (overPower base power num den).2
      = num / den / (base : ℚ) ^ power := by
  have nonzero : (base : ℚ) ≠ 0 := Nat.cast_ne_zero.mpr hbase.ne'
  unfold overPower
  split
  · next up =>
    obtain ⟨k, rfl⟩ := Int.eq_ofNat_of_zero_le up
    simp only [Int.toNat_natCast, Nat.pow_eq, Nat.cast_mul, Nat.cast_pow,
      zpow_natCast]
    rw [div_div]
  · next down =>
    obtain ⟨k, hk⟩ := Int.eq_ofNat_of_zero_le (show 0 ≤ -power by omega)
    obtain rfl : power = -(k : ℤ) := by omega
    simp only [neg_neg, Int.toNat_natCast, Nat.pow_eq, Nat.cast_mul,
      Nat.cast_pow, zpow_neg, zpow_natCast, div_inv_eq_mul]
    rw [div_mul_eq_mul_div]

/-- **Digits times a power of the base**, written as a quotient. -/
theorem power_quotient (hbase : 0 < base) (digits : ℕ) (power : ℤ) {q : ℕ × ℕ}
    (h : q = if 0 ≤ power then (digits * Nat.pow base power.toNat, 1)
      else (digits, Nat.pow base (-power).toNat)) :
    0 < q.2 ∧ (q.1 : ℚ) / q.2 = digits * (base : ℚ) ^ power := by
  rw [h]
  split
  · next up =>
    obtain ⟨k, rfl⟩ := Int.eq_ofNat_of_zero_le up
    refine ⟨Nat.one_pos, ?_⟩
    rw [Int.toNat_natCast, zpow_natCast, Nat.pow_eq, Nat.cast_mul, Nat.cast_pow,
      Nat.cast_one, div_one]
  · next down =>
    obtain ⟨k, hk⟩ := Int.eq_ofNat_of_zero_le (show 0 ≤ -power by omega)
    refine ⟨Nat.pow_pos hbase, ?_⟩
    rw [hk, Int.toNat_natCast, Nat.pow_eq, Nat.cast_pow, div_eq_mul_inv,
      ← zpow_natCast, ← zpow_neg, ← hk, neg_neg]

/-- A number lies between the powers of its logarithm and of the next one. -/
theorem pow_log_bounds (base : ℕ) (hbase : 1 < base) {n : ℕ} (hn : 0 < n) :
    (base : ℚ) ^ (Nat.log base n : ℤ) ≤ n ∧
      (n : ℚ) < (base : ℚ) ^ ((Nat.log base n : ℤ) + 1) := by
  constructor
  · have low := Nat.pow_log_le_self base hn.ne'
    exact_mod_cast low
  · have high := Nat.lt_pow_succ_log_self hbase n
    exact_mod_cast high

/-- **The logarithm of a quotient is that of its parts**, or less by one. -/
theorem log_div_bounds (hbase : 1 < base) (hnum : 0 < num) (hden : 0 < den) :
    (base : ℚ) ^ ((Nat.log base num : ℤ) - Nat.log base den - 1) ≤ num / den ∧
      (num : ℚ) / den
        < (base : ℚ) ^ ((Nat.log base num : ℤ) - Nat.log base den + 1) := by
  have positive : (0 : ℚ) < base := Nat.cast_pos.mpr (Nat.zero_lt_of_lt hbase)
  have hden' : (0 : ℚ) < den := Nat.cast_pos.mpr hden
  obtain ⟨numLow, numHigh⟩ := pow_log_bounds base hbase hnum
  obtain ⟨denLow, denHigh⟩ := pow_log_bounds base hbase hden
  rw [le_div_iff₀ hden', div_lt_iff₀ hden']
  constructor
  · calc (base : ℚ) ^ ((Nat.log base num : ℤ) - Nat.log base den - 1) * den
        ≤ (base : ℚ) ^ ((Nat.log base num : ℤ) - Nat.log base den - 1)
            * (base : ℚ) ^ ((Nat.log base den : ℤ) + 1) := by gcongr
      _ = (base : ℚ) ^ (Nat.log base num : ℤ) := by
        rw [← zpow_add₀ positive.ne']
        congr 1
        omega
      _ ≤ num := numLow
  · calc (num : ℚ) < (base : ℚ) ^ ((Nat.log base num : ℤ) + 1) := numHigh
      _ = (base : ℚ) ^ ((Nat.log base num : ℤ) - Nat.log base den + 1)
            * (base : ℚ) ^ (Nat.log base den : ℤ) := by
        rw [← zpow_add₀ positive.ne']
        congr 1
        omega
      _ ≤ (base : ℚ) ^ ((Nat.log base num : ℤ) - Nat.log base den + 1)
            * den := by gcongr

/-- A power that a quotient lies at, below the next one, is that of its
logarithm. -/
theorem log_eq_of_bounds (hbase : 1 < base) {q : ℚ} {power : ℤ}
    (low : (base : ℚ) ^ power ≤ q) (high : q < (base : ℚ) ^ (power + 1)) :
    Int.log base q = power := by
  have positive : (0 : ℚ) < base := Nat.cast_pos.mpr (Nat.zero_lt_of_lt hbase)
  have hq : 0 < q := lt_of_lt_of_le (zpow_pos positive power) low
  have above := (Int.zpow_le_iff_le_log hbase hq).mp low
  have below := (Int.lt_zpow_iff_log_lt hbase hq).mp high
  omega

/-- **The largest power that does not exceed a quotient** is that of its
logarithm. -/
theorem floorLog_eq (hbase : 1 < base) (hnum : 0 < num) (hden : 0 < den) :
    floorLog base num den = Int.log base ((num : ℚ) / den) := by
  have hbase₀ : 0 < base := Nat.zero_lt_of_lt hbase
  have positive : (0 : ℚ) < base := Nat.cast_pos.mpr hbase₀
  obtain ⟨low, high⟩ := log_div_bounds hbase hnum hden
  have guess : (digitCount base num : ℤ) - digitCount base den
      = (Nat.log base num : ℤ) - Nat.log base den := by
    rw [digitCount_eq hbase, digitCount_eq hbase]
    omega
  unfold floorLog
  rw [guess]
  generalize (Nat.log base num : ℤ) - Nat.log base den = power at low high
  dsimp only
  -- the test compares the quotient with the power that was guessed
  have test : (overPower base power num den).1 < (overPower base power num den).2
      ↔ (num : ℚ) / den < (base : ℚ) ^ power := by
    have pos : 0 < (overPower base power num den).2 :=
      overPower_den_pos num hbase₀ hden power
    rw [← div_lt_one (zpow_pos positive power), ← overPower_div hbase₀,
      div_lt_one (Nat.cast_pos.mpr pos), Nat.cast_lt]
  split
  · next below =>
    refine (log_eq_of_bounds hbase low ?_).symm
    rw [sub_add_cancel]
    exact test.mp below
  · next above =>
    exact (log_eq_of_bounds hbase (not_lt.mp (test.not.mp above)) high).symm

/-! ## Rounding -/

/-- Rounding goes to one of the two neighbours: to the lower one only if half a unit or
less is left over, and to the upper one only if half a unit or more is. -/
theorem roundHalfEven_cases (num den : ℕ) :
    roundHalfEven num den = num / den ∧ 2 * (num % den) ≤ den ∨
      roundHalfEven num den = num / den + 1 ∧ den ≤ 2 * (num % den) := by
  unfold roundHalfEven
  dsimp only
  split
  · next below => exact .inl ⟨rfl, below.le⟩
  · next half =>
    have atLeast := not_lt.mp half
    split
    · exact .inr ⟨rfl, atLeast⟩
    · next tie =>
      split
      · exact .inl ⟨rfl, not_lt.mp tie⟩
      · exact .inr ⟨rfl, atLeast⟩

/-- **Rounding keeps a natural number below.** -/
theorem le_roundHalfEven (hden : 0 < den) {n : ℕ}
    (h : (n : ℚ) ≤ num / den) : n ≤ roundHalfEven num den := by
  rw [le_div_iff₀ (Nat.cast_pos.mpr hden)] at h
  have floor : n ≤ num / den :=
    (Nat.le_div_iff_mul_le hden).mpr (by exact_mod_cast h)
  rcases roundHalfEven_cases num den with ⟨down, -⟩ | ⟨up, -⟩
  · omega
  · omega

/-- **Rounding keeps a natural number above.** -/
theorem roundHalfEven_le (hden : 0 < den) {n : ℕ}
    (h : (num : ℚ) / den ≤ n) : roundHalfEven num den ≤ n := by
  rw [div_le_iff₀ (Nat.cast_pos.mpr hden)] at h
  have bound : num ≤ n * den := by exact_mod_cast h
  have floor : num / den ≤ n := Nat.div_le_of_le_mul (by rwa [Nat.mul_comm])
  rcases roundHalfEven_cases num den with ⟨down, -⟩ | ⟨up, rest⟩
  · omega
  · -- a quotient with something left over is not the bound itself
    have below : num / den ≠ n := by
      rintro rfl
      have := Nat.div_add_mod' num den
      omega
    omega

/-- **Rounding moves a quotient by half a unit at most.** -/
theorem abs_roundHalfEven_sub_le (num : ℕ) (hden : 0 < den) :
    |(roundHalfEven num den : ℚ) - num / den| ≤ 1 / 2 := by
  have hden' : (0 : ℚ) < den := Nat.cast_pos.mpr hden
  have whole : (num : ℚ) / den = (num / den : ℕ) + ((num % den : ℕ) : ℚ) / den := by
    rw [add_div' _ _ _ hden'.ne', div_left_inj' hden'.ne']
    exact_mod_cast (Nat.div_add_mod' num den).symm
  have nonneg : (0 : ℚ) ≤ ((num % den : ℕ) : ℚ) / den := by positivity
  have small : ((num % den : ℕ) : ℚ) / den ≤ 1 := by
    rw [div_le_one hden']
    exact_mod_cast (Nat.mod_lt num hden).le
  rw [whole]
  rcases roundHalfEven_cases num den with ⟨down, half⟩ | ⟨up, half⟩
  · have rest : ((num % den : ℕ) : ℚ) / den ≤ 1 / 2 := by
      rw [div_le_div_iff₀ hden' two_pos]
      exact_mod_cast (by omega : num % den * 2 ≤ 1 * den)
    rw [down, abs_le]
    constructor <;> linarith
  · have rest : (1 : ℚ) / 2 ≤ ((num % den : ℕ) : ℚ) / den := by
      rw [div_le_div_iff₀ two_pos hden']
      exact_mod_cast (by omega : 1 * den ≤ num % den * 2)
    rw [up, Nat.cast_add, Nat.cast_one, abs_le]
    constructor <;> linarith

theorem one_le_abs_sub {m n : ℤ} (h : m ≠ n) : (1 : ℚ) ≤ |(m : ℚ) - n| := by
  exact_mod_cast Int.one_le_abs (sub_ne_zero.mpr h)

/-- Another whole number than the rounding is half a unit away, or more. -/
theorem half_le_abs_sub (hden : 0 < den) {n : ℤ}
    (h : (roundHalfEven num den : ℤ) ≠ n) : 1 / 2 ≤ |n - (num : ℚ) / den| := by
  have apart := one_le_abs_sub h
  have near := abs_roundHalfEven_sub_le num hden
  have triangle := abs_sub_le (roundHalfEven num den : ℚ) ((num : ℚ) / den) n
  rw [Int.cast_natCast] at apart
  rw [abs_sub_comm ((num : ℚ) / den) n] at triangle
  linarith

/-- **No whole number is nearer to a quotient than its rounding.** -/
theorem abs_roundHalfEven_sub_le_abs (num : ℕ) (hden : 0 < den) (n : ℤ) :
    |(roundHalfEven num den : ℚ) - num / den| ≤ |n - (num : ℚ) / den| := by
  by_cases same : (roundHalfEven num den : ℤ) = n
  · rw [← same, Int.cast_natCast]
  · exact (abs_roundHalfEven_sub_le num hden).trans (half_le_abs_sub hden same)

/-- A whole number nearer than half a unit is the rounding. -/
theorem roundHalfEven_eq_of_abs_sub_lt (hden : 0 < den) {n : ℕ}
    (h : |(n : ℚ) - num / den| < 1 / 2) : roundHalfEven num den = n := by
  by_contra different
  have apart : 1 / 2 ≤ |((n : ℤ) : ℚ) - num / den| :=
    half_le_abs_sub hden (Nat.cast_injective.ne different)
  rw [Int.cast_natCast] at apart
  exact absurd h (not_lt.mpr apart)

/-- A quotient of multiples is rounded as that of the parts. -/
@[simp] theorem roundHalfEven_mul (num den : ℕ) {k : ℕ} (hk : 0 < k) :
    roundHalfEven (num * k) (den * k) = roundHalfEven num den := by
  have below : 2 * (num % den * k) < den * k ↔ 2 * (num % den) < den := by
    rw [← Nat.mul_assoc, Nat.mul_lt_mul_right hk]
  have above : den * k < 2 * (num % den * k) ↔ den < 2 * (num % den) := by
    rw [← Nat.mul_assoc, Nat.mul_lt_mul_right hk]
  unfold roundHalfEven
  rw [Nat.mul_div_mul_right _ _ hk, Nat.mul_mod_mul_right]
  simp only [below, above]

/-- **Rounding depends on the quotient alone.** -/
theorem roundHalfEven_congr {num' den' : ℕ} (hden : 0 < den) (hden' : 0 < den')
    (h : (num : ℚ) / den = num' / den') :
    roundHalfEven num den = roundHalfEven num' den' := by
  have cross : num * den' = num' * den := by
    rw [div_eq_div_iff (Nat.cast_pos.mpr hden).ne' (Nat.cast_pos.mpr hden').ne'] at h
    exact_mod_cast h
  rw [← roundHalfEven_mul num den hden', ← roundHalfEven_mul num' den' hden, cross,
    Nat.mul_comm den' den]

/-- **Rounding keeps the order** of quotients. -/
theorem roundHalfEven_mono {num' den' : ℕ} (hden : 0 < den) (hden' : 0 < den')
    (h : (num : ℚ) / den ≤ num' / den') :
    roundHalfEven num den ≤ roundHalfEven num' den' := by
  by_contra exchanged
  have apart : (roundHalfEven num' den' : ℚ) + 1 ≤ roundHalfEven num den := by
    exact_mod_cast Nat.succ_le_of_lt (not_le.mp exchanged)
  have near := abs_le.mp (abs_roundHalfEven_sub_le num hden)
  have near' := abs_le.mp (abs_roundHalfEven_sub_le num' hden')
  -- both quotients are the middle of the two roundings, so they have the same one
  have same : (num : ℚ) / den = num' / den' := by linarith
  exact exchanged (roundHalfEven_congr hden hden' same).le

end GeoCatalogue.Number
