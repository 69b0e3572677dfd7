import GeoCatalogue.Number.Reading

/-!
# Quantities in settings

A quantity may be given as a whole number, as a number with a fraction or
as a truth value, which counts as one or zero. It keeps the form in which
it was given; comparisons look at the value alone, and **none of them
holds of the undefined number**.
-/
namespace GeoCatalogue

/-- **A quantity.** -/
inductive Quantity where
  /-- A truth value, one if it is true. -/
  | flag (value : Bool)
  /-- A whole number. -/
  | whole (value : Int)
  /-- A number with a fraction. -/
  | real (value : Extended)
deriving DecidableEq

namespace Quantity

/-- The printed quantity. -/
def text : Quantity → String
  | flag value => if value then "True" else "False"
  | whole value => toString value
  | real value => value.text

/-- Whether a quantity has a printed form. -/
def isPrintable : Quantity → Bool
  | whole value => Number.isPrintable value
  | flag _ | real _ => true

/-- **Whether a quantity is at most a whole number.** -/
def isAtMost (q : Quantity) (n : Int) : Bool :=
  match q with
  | flag value => (if value then 1 else 0) ≤ n
  | whole value => value ≤ n
  | real (.finite value) => value.value ≤ n
  | real (.infinite negative) => negative
  | real .undefined => false

/-- **Whether a quantity is at least a whole number.** -/
def isAtLeast (q : Quantity) (n : Int) : Bool :=
  match q with
  | flag value => n ≤ if value then 1 else 0
  | whole value => n ≤ value
  | real (.finite value) => (n : Rat) ≤ value.value
  | real (.infinite negative) => !negative
  | real .undefined => false

end Quantity

end GeoCatalogue
