import GeoCatalogue.Number.Decimal
import GeoCatalogue.Proofs.Number.Nearest
import Mathlib.Algebra.Order.Floor.Semifield

/-!
# The shortest decimal of a number

Counts of digits are tried from one on, with the two decimals around the number for each
count, until one reads back as the number. Seventeen digits are enough: they are finer
than half of the gap around every number (`Binary64.exists_neighbour_seventeen`). So
**the shortest decimal reads back** (`Binary64.nearest_shortest`), it is one of the
neighbours of its count (`Binary64.shortest_spec`), and a decimal that is near the number
and reads back is not longer than it (`Binary64.le_exponent_shortest`).
-/
namespace GeoCatalogue

/-! ## Decimals as rational numbers -/

namespace Decimal

/-- **The value of a decimal.** -/
def value (d : Decimal) : ℚ :=
  d.digits * (10 : ℚ) ^ d.exponent

theorem quotient_den_pos (d : Decimal) : 0 < d.quotient.2 :=
  (Number.power_quotient (Nat.succ_pos 9) d.digits d.exponent rfl).1

/-- **The quotient of a decimal is its value.** -/
@[simp] theorem quotient_div (d : Decimal) : (d.quotient.1 : ℚ) / d.quotient.2 = d.value :=
  (Number.power_quotient (Nat.succ_pos 9) d.digits d.exponent rfl).2

/-- Decimals of the same value are near the same number. -/
theorem nearest_congr {c d : Decimal} (h : c.value = d.value) (negative : Bool) :
    c.nearest negative = d.nearest negative :=
  Extended.nearest_congr c.quotient_den_pos d.quotient_den_pos
    (by rw [quotient_div, quotient_div, h]) negative

end Decimal

namespace Binary64

variable {x : Binary64} {d : Decimal} {count : ℕ}

/-- **The place of the first digit of a number**, which is not zero. -/
def place (x : Binary64) : ℤ :=
  Int.log 10 x.magnitude

theorem magnitude_pos (hx : x.significand ≠ 0) : 0 < x.magnitude :=
  mul_pos (Nat.cast_pos.mpr (Nat.pos_of_ne_zero hx)) (zpow_pos two_pos _)

/-- **A number lies between the powers of ten** of its first place and of the next. -/
theorem place_bounds (hx : x.significand ≠ 0) :
    (10 : ℚ) ^ x.place ≤ x.magnitude ∧ x.magnitude < 10 ^ (x.place + 1) := by
  have low := Int.zpow_log_le_self (b := 10) (by decide) (magnitude_pos hx)
  have high := Int.lt_zpow_succ_log_self (b := 10) (by decide) x.magnitude
  exact ⟨low, high⟩

/-! ## Neighbours -/

/-- **The neighbours of a number** are the two multiples of a power of ten around it. -/
theorem mem_neighbours (hx : x.significand ≠ 0) :
    d ∈ x.neighbours count ↔
      d.exponent = x.place + 1 - count ∧
        (d.digits = ⌊x.magnitude / 10 ^ d.exponent⌋₊ ∨
          d.digits = ⌊x.magnitude / 10 ^ d.exponent⌋₊ + 1) := by
  obtain ⟨digits, exponent⟩ := d
  have hnum : 0 < x.quotient.1 := by
    have positive := magnitude_pos hx
    rw [← quotient_div] at positive
    refine Nat.pos_of_ne_zero fun zero => ?_
    rw [zero, Nat.cast_zero, zero_div] at positive
    exact lt_irrefl _ positive
  have place : Number.floorLog 10 x.quotient.1 x.quotient.2 = x.place := by
    rw [Number.floorLog_eq (by decide) hnum x.quotient_den_pos, quotient_div]
    rfl
  have below (power : ℤ) :
      (Number.overPower 10 power x.quotient.1 x.quotient.2).1
          / (Number.overPower 10 power x.quotient.1 x.quotient.2).2
        = ⌊x.magnitude / 10 ^ power⌋₊ := by
    rw [← Nat.floor_div_eq_div (K := ℚ), Number.overPower_div (by decide), quotient_div,
      Nat.cast_ofNat]
  have nearer (power : ℤ) := Number.roundHalfEven_cases
    (Number.overPower 10 power x.quotient.1 x.quotient.2).1
    (Number.overPower 10 power x.quotient.1 x.quotient.2).2
  unfold neighbours
  simp only [place, below] at nearer ⊢
  rw [List.mem_pair, Decimal.mk.injEq, Decimal.mk.injEq]
  specialize nearer (x.place + 1 - count)
  generalize Number.roundHalfEven _ _ = chosen at nearer ⊢
  rw [← or_and_right, and_comm]
  refine and_congr_right fun same => ?_
  rw [← same] at nearer ⊢
  rcases nearer with ⟨down, -⟩ | ⟨up, -⟩
  · rw [down, if_pos rfl]
  · rw [up, if_neg (Nat.succ_ne_self _), or_comm]

/-- A whole number less than a unit away from a quotient is one of the two around it. -/
theorem eq_floor_or_eq {q : ℚ} {n : ℕ} (hq : 0 ≤ q) (h : |(n : ℚ) - q| < 1) :
    n = ⌊q⌋₊ ∨ n = ⌊q⌋₊ + 1 := by
  have low := Nat.floor_le hq
  have high := Nat.lt_floor_add_one q
  obtain ⟨below, above⟩ := abs_lt.mp h
  have : n < ⌊q⌋₊ + 2 := by
    have : (n : ℚ) < ⌊q⌋₊ + 2 := by linarith
    exact_mod_cast this
  have : ⌊q⌋₊ < n + 1 := by
    have : (⌊q⌋₊ : ℚ) < n + 1 := by linarith
    exact_mod_cast this
  omega

/-- **A decimal less than a unit of its last digit away** from a number is a neighbour
of it. -/
theorem mem_neighbours_of_abs_sub_lt (hx : x.significand ≠ 0)
    (exponent : d.exponent = x.place + 1 - count)
    (h : |(d.digits : ℚ) - x.magnitude / 10 ^ d.exponent| < 1) :
    d ∈ x.neighbours count := by
  have positive : 0 ≤ x.magnitude / 10 ^ d.exponent :=
    div_nonneg x.magnitude_nonneg (zpow_pos (by norm_num) _).le
  exact (mem_neighbours hx).mpr ⟨exponent, eq_floor_or_eq positive h⟩

/-- **Neighbours have the place of the number**, or are the next power of ten. -/
theorem value_bounds_of_mem (hx : x.significand ≠ 0) (h : d ∈ x.neighbours (count + 1)) :
    (10 : ℚ) ^ x.place ≤ d.value ∧ d.value ≤ 10 ^ (x.place + 1) := by
  obtain ⟨low, high⟩ := place_bounds hx
  obtain ⟨exponent, digits⟩ := (mem_neighbours hx).mp h
  have unit : (0 : ℚ) < 10 ^ d.exponent := zpow_pos (by norm_num) _
  have units (k : ℕ) : (10 : ℚ) ^ (d.exponent + k) = (10 ^ k : ℕ) * 10 ^ d.exponent := by
    rw [zpow_add₀ (by norm_num), zpow_natCast, mul_comm, Nat.cast_pow, Nat.cast_ofNat]
  have first : (10 : ℚ) ^ x.place = (10 ^ count : ℕ) * 10 ^ d.exponent := by
    rw [← units]
    congr 1
    omega
  have next : (10 : ℚ) ^ (x.place + 1) = (10 ^ (count + 1) : ℕ) * 10 ^ d.exponent := by
    rw [← units]
    congr 1
    push_cast
    omega
  rw [first, ← le_div_iff₀ unit] at low
  rw [next, ← div_lt_iff₀ unit] at high
  have lowest : 10 ^ count ≤ ⌊x.magnitude / 10 ^ d.exponent⌋₊ := Nat.le_floor low
  have highest : ⌊x.magnitude / 10 ^ d.exponent⌋₊ < 10 ^ (count + 1) :=
    (Nat.floor_lt' (Nat.pow_pos (by decide)).ne').mpr high
  have least : 10 ^ count ≤ d.digits := by omega
  have greatest : d.digits ≤ 10 ^ (count + 1) := by omega
  rw [first, next]
  unfold Decimal.value
  constructor
  · gcongr
  · gcongr

/-! ## Seventeen digits -/

theorem readsBack_iff : x.readsBack d = true ↔ d.nearest x.negative = .finite x :=
  beq_iff_eq

/-- **Seventeen digits are finer than the gap** around a number: a unit of the seventeenth is
below it, since sixteen decimal digits tell more than fifty-three binary ones. So with
seventeen digits one of the neighbours is always near enough to be read back. -/
theorem pow_place_lt_gap (hx : x.significand ≠ 0) : (10 : ℚ) ^ (x.place - 16) < x.gap := by
  obtain ⟨low, -⟩ := place_bounds hx
  have power : (10 : ℚ) ^ (x.place - 16) = 10 ^ x.place / 10 ^ 16 := by
    rw [zpow_sub₀ (by norm_num)]
    rfl
  have unit : (0 : ℚ) < 2 ^ (x.exponent - 1) := zpow_pos two_pos _
  have double : (2 : ℚ) ^ x.exponent = 2 ^ (x.exponent - 1) * 2 := by
    rw [← zpow_add_one₀ two_ne_zero, sub_add_cancel]
  rw [power, div_lt_iff₀ (by norm_num)]
  refine low.trans_lt ?_
  unfold gap
  split
  · next two =>
    rw [magnitude, two.1, double]
    push_cast
    linarith
  · have := x.magnitude_lt
    rw [double] at this ⊢
    linarith

/-- **A neighbour with seventeen digits reads back.** -/
theorem exists_neighbour_seventeen (hx : x.significand ≠ 0) :
    ∃ d ∈ x.neighbours 17, x.readsBack d = true := by
  have unit : (0 : ℚ) < 10 ^ (x.place - 16) := zpow_pos (by norm_num) _
  generalize hn : ⌊x.magnitude / 10 ^ (x.place - 16) + 1 / 2⌋₊ = n
  have near : |(n : ℚ) - x.magnitude / 10 ^ (x.place - 16)| ≤ 1 / 2 := by
    have positive := div_nonneg x.magnitude_nonneg unit.le
    have low := Nat.floor_le (add_nonneg positive (one_half_pos (α := ℚ)).le)
    have high := Nat.lt_floor_add_one (x.magnitude / 10 ^ (x.place - 16) + 1 / 2)
    rw [hn] at low high
    rw [abs_le]
    constructor <;> linarith
  have exponent : x.place - 16 = x.place + 1 - (17 : ℕ) := by
    push_cast
    ring
  refine ⟨⟨n, x.place - 16⟩, mem_neighbours_of_abs_sub_lt hx exponent ?_, ?_⟩
  · exact near.trans_lt (by norm_num)
  · refine readsBack_iff.mpr
      (Extended.nearest_eq_of_abs_sub_lt (Decimal.quotient_den_pos _) ?_)
    rw [Decimal.quotient_div, Decimal.value, Extended.abs_mul_sub _ _ unit]
    refine lt_of_le_of_lt ?_ (pow_place_lt_gap hx)
    calc 2 * (|(n : ℚ) - x.magnitude / 10 ^ (x.place - 16)| * 10 ^ (x.place - 16))
        ≤ 2 * (1 / 2 * 10 ^ (x.place - 16)) := by gcongr
      _ = 10 ^ (x.place - 16) := by ring

/-! ## The search -/

/-- **A search through the numbers up to a bound** finds the first hit. -/
theorem exists_findSome?_range {α : Type} {f : ℕ → Option α} {n : ℕ}
    (hit : ∃ k < n, f k ≠ none) :
    ∃ k < n, ∃ a, f k = some a ∧ (List.range n).findSome? f = some a ∧
      ∀ i < k, f i = none := by
  induction n with
  | zero =>
    obtain ⟨k, no, -⟩ := hit
    exact absurd no (Nat.not_lt_zero k)
  | succ n ih =>
    rw [List.range_succ, List.findSome?_append]
    by_cases earlier : ∃ k < n, f k ≠ none
    · obtain ⟨k, hk, a, found, first, misses⟩ := ih earlier
      exact ⟨k, by omega, a, found, by rw [first, Option.some_or], misses⟩
    · have misses (i : ℕ) (hi : i < n) : f i = none :=
        not_ne_iff.mp fun no => earlier ⟨i, hi, no⟩
      obtain ⟨k, hk, found⟩ := hit
      obtain rfl : k = n := by
        by_contra different
        exact found (misses k (by omega))
      obtain ⟨a, ha⟩ := Option.ne_none_iff_exists'.mp found
      refine ⟨k, hk, a, ha, ?_, misses⟩
      rw [List.findSome?_eq_none_iff.mpr fun i hi => misses i (List.mem_range.mp hi),
        Option.none_or, List.findSome?_singleton, ha]

/-- **The shortest decimal is a neighbour that reads back**, and no count of digits before its
own has one. It is the first hit of a search through the counts of digits up to seventeen,
and that this comes to a hit at all is `exists_neighbour_seventeen`. -/
theorem shortest_spec (hx : x.significand ≠ 0) :
    ∃ k < 17, x.shortest ∈ x.neighbours (k + 1) ∧ x.readsBack x.shortest = true ∧
      ∀ j, ∀ d ∈ x.neighbours (j + 1), x.readsBack d = true → k ≤ j := by
  have hit : ∃ k < 17, (x.neighbours (k + 1)).find? x.readsBack ≠ none := by
    obtain ⟨d, neighbour, reads⟩ := exists_neighbour_seventeen hx
    exact ⟨16, by decide, fun no => List.find?_eq_none.mp no d neighbour reads⟩
  obtain ⟨k, hk, d, found, first, misses⟩ := exists_findSome?_range hit
  have same : x.shortest = d := by
    unfold shortest
    rw [if_neg hx, first, Option.getD_some]
  rw [same]
  refine ⟨k, hk, List.mem_of_find?_eq_some found, List.find?_some found, ?_⟩
  intro j c neighbour reads
  by_contra earlier
  exact List.find?_eq_none.mp (misses j (by omega)) c neighbour reads

/-- **The shortest decimal reads back** as the number. -/
@[simp] theorem nearest_shortest (x : Binary64) :
    x.shortest.nearest x.negative = .finite x := by
  by_cases hx : x.significand = 0
  · have none : x.shortest = ⟨0, 0⟩ := if_pos hx
    rw [none]
    refine Extended.nearest_eq_of_eq (Decimal.quotient_den_pos _) ?_
    rw [Decimal.quotient_div, Decimal.value, magnitude, hx, Nat.cast_zero, zero_mul,
      zero_mul]
  · obtain ⟨k, -, -, reads, -⟩ := shortest_spec hx
    exact readsBack_iff.mp reads

/-- The shortest decimal has the place of the number, or is the next power of ten. -/
theorem shortest_bounds (hx : x.significand ≠ 0) :
    (10 : ℚ) ^ x.place ≤ x.shortest.value ∧ x.shortest.value ≤ 10 ^ (x.place + 1) := by
  obtain ⟨k, -, neighbour, -⟩ := shortest_spec hx
  exact value_bounds_of_mem hx neighbour

/-- **A decimal near a number that reads back** is not longer than the shortest. -/
theorem le_exponent_shortest (hx : x.significand ≠ 0) (place : d.exponent ≤ x.place)
    (near : |(d.digits : ℚ) - x.magnitude / 10 ^ d.exponent| < 1)
    (reads : d.nearest x.negative = .finite x) : d.exponent ≤ x.shortest.exponent := by
  obtain ⟨k, -, neighbour, -, first⟩ := shortest_spec hx
  obtain ⟨j, hj⟩ := Int.eq_ofNat_of_zero_le (sub_nonneg.mpr place)
  have exponent : d.exponent = x.place + 1 - (j + 1 : ℕ) := by
    push_cast
    omega
  have count := first j d (mem_neighbours_of_abs_sub_lt hx exponent near)
    (readsBack_iff.mpr reads)
  rw [exponent, ((mem_neighbours hx).mp neighbour).1]
  push_cast
  omega

end Binary64

end GeoCatalogue
