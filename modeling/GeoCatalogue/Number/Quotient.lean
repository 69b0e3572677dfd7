/-!
# Quotients of natural numbers

Numbers are read and written exactly: a decimal text and a binary number
are both a quotient of two natural numbers, and what is printed or
stored is that quotient rounded on some grid. The rule for rounding is
the same everywhere: to the nearest, and **a half goes to the even
neighbour**.

* `roundHalfEven` – a quotient rounded to a natural number;
* `overPower` – a quotient divided by a power of a base, positive or
  negative;
* `floorLog` – the largest power of a base that does not exceed a
  positive quotient.
-/
namespace GeoCatalogue.Number

/-- **A quotient rounded to the nearest natural number**, a half to the
even one. -/
def roundHalfEven (num den : Nat) : Nat :=
  let floor := num / den
  let twice := 2 * (num % den)
  if twice < den then floor
  else if den < twice then floor + 1
  else if floor % 2 = 0 then floor else floor + 1

/-- **A quotient divided by a power of a base**, as a quotient again. -/
def overPower (base : Nat) (power : Int) (num den : Nat) : Nat × Nat :=
  if 0 ≤ power then (num, den * Nat.pow base power.toNat)
  else (num * Nat.pow base (-power).toNat, den)

/-- The digits of a number in a base, counted at most `bound` times. -/
def digitCountWithin (base : Nat) : Nat → Nat → Nat
  | 0, _ => 1
  | bound + 1, n =>
    if n < base then 1 else digitCountWithin base bound (n / base) + 1

/-- How many digits a natural number has in a base of at least two; zero
has one. No base needs more digits than base two. -/
def digitCount (base n : Nat) : Nat :=
  digitCountWithin base (Nat.log2 n + 1) n

/-- **The exponent of the largest power of a base that is at most a
positive quotient.** -/
def floorLog (base num den : Nat) : Int :=
  let guess : Int := (digitCount base num : Int) - digitCount base den
  let scaled := overPower base guess num den
  if scaled.1 < scaled.2 then guess - 1 else guess

end GeoCatalogue.Number
