import GeoCatalogue.Number.Extended

/-!
# Machine numbers

Map projections are computed with the floating-point unit. A number goes
there and comes back by its sixty-four bits, so nothing is lost on
either way: the sign bit, eleven bits of exponent and fifty-two bits of
significand.
-/
namespace GeoCatalogue

/-- The bits of a finite number. -/
def Binary64.bits (x : Binary64) : UInt64 :=
  let sign : Nat := if x.negative then Nat.pow 2 63 else 0
  let magnitude : Nat :=
    if Nat.pow 2 52 ≤ x.significand then
      (x.exponent + 1075).toNat * Nat.pow 2 52 +
        (x.significand - Nat.pow 2 52)
    else x.significand
  UInt64.ofNat (sign + magnitude)

/-- A finite number as a machine number. -/
def Binary64.toFloat (x : Binary64) : Float :=
  Float.ofBits x.bits

/-- The number of a sign, an exponent field and a fraction field. -/
def Extended.ofFields (negative : Bool) (field fraction : Nat) : Extended :=
  if field = 2047 then
    if fraction = 0 then .infinite negative else .undefined
  else
    let significand := if field = 0 then fraction else fraction + Nat.pow 2 52
    let exponent : Int := if field = 0 then -1074 else (field : Int) - 1075
    if fits : Binary64.Canonical significand exponent then
      .finite ⟨negative, significand, exponent, fits⟩
    else .undefined

/-- A machine number as a number of the format. -/
def Extended.ofFloat (x : Float) : Extended :=
  let bits := x.toBits.toNat
  .ofFields (Nat.pow 2 63 ≤ bits) (bits / Nat.pow 2 52 % Nat.pow 2 11)
    (bits % Nat.pow 2 52)

end GeoCatalogue
