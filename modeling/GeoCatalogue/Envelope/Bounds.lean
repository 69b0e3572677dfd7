import GeoCatalogue.Number.Decimal

/-!
# Positions and bounds

A **position** is a pair of coordinates in the axis order of some
coordinate reference system; the **bounds** of an area are its lower and
its upper corner. Both are kept for any kind of number: finite ones in
an envelope, extended ones for what a document or a transformation
gives before it is checked.
-/
namespace GeoCatalogue

/-- **A pair of coordinates**, in axis order. -/
structure Position (α : Type) where
  /-- The coordinate on the first axis. -/
  first : α
  /-- The coordinate on the second axis. -/
  second : α
deriving DecidableEq

namespace Position

variable {α β : Type}

/-- A position with both coordinates mapped. -/
def map (f : α → β) (p : Position α) : Position β :=
  ⟨f p.first, f p.second⟩

/-- The coordinates in order. -/
def toList (p : Position α) : List α :=
  [p.first, p.second]

/-- The finite position, if both coordinates are finite. -/
def finite? (p : Position Extended) : Option (Position Binary64) := do
  some ⟨← p.first.finite?, ← p.second.finite?⟩

/-- A finite position among the extended ones. -/
def extended (p : Position Binary64) : Position Extended :=
  p.map .finite

/-- The printed position, in parentheses. -/
def text (p : Position Extended) : String :=
  "(" ++ p.first.text ++ ", " ++ p.second.text ++ ")"

/-- The position with its coordinates exchanged. -/
def swap (p : Position α) : Position α :=
  ⟨p.second, p.first⟩

end Position

/-- **The corners of an area.** -/
structure Bounds (α : Type) where
  /-- The lower corner. -/
  lower : Position α
  /-- The upper corner. -/
  upper : Position α
deriving DecidableEq

namespace Bounds

variable {α β : Type}

/-- Bounds with all coordinates mapped. -/
def map (f : α → β) (b : Bounds α) : Bounds β :=
  ⟨b.lower.map f, b.upper.map f⟩

/-- The four coordinates, lower corner first. -/
def toList (b : Bounds α) : List α :=
  b.lower.toList ++ b.upper.toList

/-- The finite bounds, if all coordinates are finite. -/
def finite? (b : Bounds Extended) : Option (Bounds Binary64) := do
  some ⟨← b.lower.finite?, ← b.upper.finite?⟩

/-- Finite bounds among the extended ones. -/
def extended (b : Bounds Binary64) : Bounds Extended :=
  b.map .finite

/-- The printed bounds, in parentheses. -/
def text (b : Bounds Extended) : String :=
  "(" ++ ", ".intercalate (b.toList.map Extended.text) ++ ")"

/-- The bounds with the two axes exchanged. -/
def swap (b : Bounds α) : Bounds α :=
  ⟨b.lower.swap, b.upper.swap⟩

/-- **Bounds are ordered** when the lower corner is below the upper one
on both axes; they may touch. -/
def Ordered (b : Bounds Binary64) : Prop :=
  b.lower.first ≤ b.upper.first ∧ b.lower.second ≤ b.upper.second

instance (b : Bounds Binary64) : Decidable b.Ordered := by
  unfold Ordered; infer_instance

end Bounds

end GeoCatalogue
