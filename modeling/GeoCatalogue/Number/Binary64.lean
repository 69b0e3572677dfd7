/-!
# Finite binary numbers

Coordinates are stored in the binary interchange format of 64 bits. A
finite number of the format is a sign, a **significand** below `2 ^ 53`
and an **exponent** between `-1074` and `971`, and stands for
`± significand · 2 ^ exponent`. The significand is as large as the
exponents allow (`Binary64.Canonical`), so a number is written in one
way only – except for zero, which has two signs of equal value.

Order and equality of values are those of the rational numbers
(`Binary64.value`), so they are exact and can be reasoned about; the
structural equality of the type tells the two zeros apart as well.
-/
namespace GeoCatalogue

/-- **A significand and an exponent that the format can hold**: the
leading bit of the significand is set, unless the exponent is the least
one. -/
def Binary64.Canonical (significand : Nat) (exponent : Int) : Prop :=
  significand < Nat.pow 2 53 ∧ -1074 ≤ exponent ∧ exponent ≤ 971 ∧
    (Nat.pow 2 52 ≤ significand ∨ exponent = -1074)

instance (significand : Nat) (exponent : Int) :
    Decidable (Binary64.Canonical significand exponent) := by
  unfold Binary64.Canonical; infer_instance

/-- **A finite number of the 64-bit format.** -/
structure Binary64 where
  /-- Whether the sign bit is set. -/
  negative : Bool
  /-- The digits, as a natural number. -/
  significand : Nat
  /-- The power of two that the digits are multiplied by. -/
  exponent : Int
  /-- The number is written in the one way of the format. -/
  canonical : Binary64.Canonical significand exponent
deriving DecidableEq

namespace Binary64

/-- The zero of a sign. -/
def zero (negative : Bool) : Binary64 :=
  ⟨negative, 0, -1074, by decide⟩

/-- The magnitude of a number as a quotient of natural numbers. -/
def quotient (x : Binary64) : Nat × Nat :=
  if 0 ≤ x.exponent then (x.significand * Nat.pow 2 x.exponent.toNat, 1)
  else (x.significand, Nat.pow 2 (-x.exponent).toNat)

/-- **The value of a number**, exactly. -/
def value (x : Binary64) : Rat :=
  let magnitude := mkRat x.quotient.1 x.quotient.2
  if x.negative then -magnitude else magnitude

instance : LE Binary64 := ⟨fun x y => x.value ≤ y.value⟩
instance : LT Binary64 := ⟨fun x y => x.value < y.value⟩

instance (x y : Binary64) : Decidable (x ≤ y) :=
  inferInstanceAs (Decidable (x.value ≤ y.value))

instance (x y : Binary64) : Decidable (x < y) :=
  inferInstanceAs (Decidable (x.value < y.value))

/-- Whether two numbers have the same value; the two zeros have. -/
def sameValue (x y : Binary64) : Bool :=
  x.value == y.value

/-- The smaller of two numbers, the first of two equal ones. -/
def smaller (x y : Binary64) : Binary64 :=
  if y < x then y else x

/-- The larger of two numbers, the first of two equal ones. -/
def larger (x y : Binary64) : Binary64 :=
  if x < y then y else x

end Binary64

end GeoCatalogue
