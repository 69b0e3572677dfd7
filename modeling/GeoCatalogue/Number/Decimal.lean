import GeoCatalogue.Number.Extended

/-!
# Decimal texts of binary numbers

A finite number of the 64-bit format is printed with **the fewest
decimal digits that read back** as the same number; among those, the
decimal nearest to it. `Binary64.shortest` tries one digit, two digits
and so on: the multiples of the power of ten around the number are the
only candidates of their length, and the first that reads back is taken.

How the digits are laid out is one value, `Binary64.layout`: positional
notation from `10 ^ -4` up to below `10 ^ 16`, always with a fractional
part, and otherwise a mantissa and an exponent with a sign and at least
two digits.

* `Binary64.text`, `Extended.text` – the printed number;
* `Binary64.fixed` – a number with a fixed count of decimal places;
* `Binary64.roundToPlaces` – the number of the format nearest to the
  decimal of so many places that is nearest to a number.
-/
namespace GeoCatalogue

/-- **A decimal**: digits and the power of ten they are multiplied by. -/
structure Decimal where
  /-- The digits, as a natural number. -/
  digits : Nat
  /-- The power of ten. -/
  exponent : Int
deriving DecidableEq

namespace Decimal

/-- A decimal as a quotient of natural numbers. -/
def quotient (d : Decimal) : Nat × Nat :=
  if 0 ≤ d.exponent then (d.digits * Nat.pow 10 d.exponent.toNat, 1)
  else (d.digits, Nat.pow 10 (-d.exponent).toNat)

/-- The number of the 64-bit format nearest to a decimal. -/
def nearest (negative : Bool) (d : Decimal) : Extended :=
  Extended.nearest negative d.quotient.1 d.quotient.2

/-- **How the digits of a decimal are laid out.** -/
structure Layout where
  /-- The least power of ten that is written without an exponent. -/
  leastPositional : Int
  /-- The power of ten from which on an exponent is written. -/
  exponentFrom : Int
  /-- The least number of digits of an exponent. -/
  exponentDigits : Nat

/-- The digit characters of a number, without the zeros at its end. -/
def significantDigits (n : Nat) : List Char :=
  match (Nat.toDigits 10 n).reverse.dropWhile (· == '0') with
  | [] => ['0']
  | ds => ds.reverse

/-- Digits with a point after so many of them, zeros filling the gaps. -/
def positional (ds : List Char) (point : Int) : List Char :=
  if point ≤ 0 then
    '0' :: '.' :: List.replicate (-point).toNat '0' ++ ds
  else
    let whole := point.toNat
    if ds.length ≤ whole then
      ds ++ List.replicate (whole - ds.length) '0' ++ ['.', '0']
    else ds.take whole ++ '.' :: ds.drop whole

/-- A power of ten with a sign and at least so many digits. -/
def exponentText (width : Nat) (power : Int) : List Char :=
  let ds := Nat.toDigits 10 power.natAbs
  (if power < 0 then '-' else '+') ::
    List.replicate (width - ds.length) '0' ++ ds

/-- Digits with a point after the first, and a power of ten. -/
def scientific (layout : Layout) (ds : List Char) (power : Int) : List Char :=
  let mantissa :=
    match ds with
    | first :: rest@(_ :: _) => first :: '.' :: rest
    | _ => ds
  mantissa ++ 'e' :: exponentText layout.exponentDigits power

/-- The characters of a decimal in a layout. -/
def chars (layout : Layout) (d : Decimal) : List Char :=
  let ds := significantDigits d.digits
  let power : Int :=
    if d.digits = 0 then 0
    else (Nat.toDigits 10 d.digits).length + d.exponent - 1
  if layout.leastPositional ≤ power && power < layout.exponentFrom then
    positional ds (power + 1)
  else scientific layout ds power

end Decimal

namespace Binary64

/-- **The layout of printed numbers.** -/
def layout : Decimal.Layout := ⟨-4, 16, 2⟩

/-- Whether a decimal reads back as a number, given its sign. -/
def readsBack (x : Binary64) (d : Decimal) : Bool :=
  d.nearest x.negative == .finite x

/-- **The decimals of a digit count around a number**, the nearer one
first; of two equally near ones the even one is first. -/
def neighbours (x : Binary64) (count : Nat) : List Decimal :=
  let (num, den) := x.quotient
  let exponent := Number.floorLog 10 num den + 1 - count
  let scaled := Number.overPower 10 exponent num den
  let below := scaled.1 / scaled.2
  let nearer := Number.roundHalfEven scaled.1 scaled.2
  let other := if nearer = below then below + 1 else below
  [⟨nearer, exponent⟩, ⟨other, exponent⟩]

/-- The number written out with all its decimal digits. -/
def exactDecimal (x : Binary64) : Decimal :=
  if 0 ≤ x.exponent then ⟨x.significand * Nat.pow 2 x.exponent.toNat, 0⟩
  else ⟨x.significand * Nat.pow 5 (-x.exponent).toNat, x.exponent⟩

/-- **The shortest decimal that reads back as a number**, up to its
sign. Seventeen digits are enough for every number of the format. -/
def shortest (x : Binary64) : Decimal :=
  if x.significand = 0 then ⟨0, 0⟩
  else
    ((List.range 17).findSome? fun k =>
      (x.neighbours (k + 1)).find? x.readsBack).getD x.exactDecimal

/-- The characters of a printed number. -/
def chars (x : Binary64) : List Char :=
  let magnitude := x.shortest.chars layout
  if x.negative then '-' :: magnitude else magnitude

/-- **The printed number.** -/
def text (x : Binary64) : String :=
  String.ofList x.chars

/-- The magnitude of a number in units of the last of so many decimal
places, rounded half to even. -/
def unitsOfPlace (places : Nat) (x : Binary64) : Nat :=
  Number.roundHalfEven (x.quotient.1 * Nat.pow 10 places) x.quotient.2

/-- **A number with a fixed count of decimal places**; a zero has no
sign. -/
def fixed (places : Nat) (x : Binary64) : String :=
  let units := x.unitsOfPlace places
  let ds := Nat.toDigits 10 units
  let padded := List.replicate (places + 1 - ds.length) '0' ++ ds
  let whole := padded.length - places
  let magnitude := padded.take whole ++
    (if places = 0 then [] else '.' :: padded.drop whole)
  String.ofList
    (if x.negative && units != 0 then '-' :: magnitude else magnitude)

/-- **A number rounded to so many decimal places**, as a number of the
format again. A number too large to have such places is its own
rounding. -/
def roundToPlaces (places : Nat) (x : Binary64) : Binary64 :=
  match Extended.nearest x.negative (x.unitsOfPlace places) (Nat.pow 10 places) with
  | .finite rounded => rounded
  | _ => x

end Binary64

namespace Extended

/-- **The printed number**, with words for the ones that are not
finite. -/
def text : Extended → String
  | finite x => x.text
  | infinite negative => if negative then "-inf" else "inf"
  | undefined => "nan"

end Extended

end GeoCatalogue
