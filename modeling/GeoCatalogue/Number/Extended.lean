import GeoCatalogue.Number.Binary64
import GeoCatalogue.Number.Quotient

/-!
# Numbers with infinities

Reading a text or transforming a coordinate may leave the finite numbers
of the format: `Extended` adds the two infinities and the undefined
number.

`Extended.nearest` is the one place where an exact quotient becomes a
number of the format. It takes the grid of the quotient's size –
fifty-three bits, or the multiples of `2 ^ -1074` for the smallest
numbers – and rounds half to even on it; a quotient whose rounding the
format cannot hold becomes infinite.
-/
namespace GeoCatalogue

/-- **A number of the 64-bit format**, finite or not. -/
inductive Extended where
  /-- A finite number. -/
  | finite (number : Binary64)
  /-- An infinity and its sign. -/
  | infinite (negative : Bool)
  /-- The result of an operation that has none. -/
  | undefined
deriving DecidableEq

namespace Extended

/-- The exponent of the grid on which a positive quotient is rounded. -/
def gridExponent (num den : Nat) : Int :=
  max (-1074) (Number.floorLog 2 num den - 52)

/-- **The number nearest to a quotient**, with the given sign; a half
goes to the even significand. -/
def nearest (negative : Bool) (num den : Nat) : Extended :=
  let grid := if num = 0 then -1074 else gridExponent num den
  let scaled := Number.overPower 2 grid num den
  let rounded := Number.roundHalfEven scaled.1 scaled.2
  let significand := if rounded = Nat.pow 2 53 then Nat.pow 2 52 else rounded
  let exponent := if rounded = Nat.pow 2 53 then grid + 1 else grid
  if fits : Binary64.Canonical significand exponent then
    .finite ⟨negative, significand, exponent, fits⟩
  else .infinite negative

/-- The number nearest to an integer. -/
def ofInt (n : Int) : Extended :=
  nearest (n < 0) n.natAbs 1

/-- The number nearest to a rational. -/
def ofRat (q : Rat) : Extended :=
  nearest (q < 0) q.num.natAbs q.den

/-- The finite number, if it is one. -/
def finite? : Extended → Option Binary64
  | finite x => some x
  | _ => none

/-- Whether a number is finite. -/
def isFinite (x : Extended) : Bool :=
  x.finite?.isSome

end Extended

end GeoCatalogue
