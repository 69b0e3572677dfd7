import GeoCatalogue.Crs.System

/-!
# Envelopes

An **envelope** is an area between two corners in a coordinate reference
system. Its coordinates are finite and in the axis order of the system;
its lower corner is at most the upper one on both axes, and the two may
coincide on one axis or on both. The system is kept by its identifier.

* `Envelope.ofBounds` – the envelope of corners and a reference;
* `Envelope.sameAs` – equality, by the values of the coordinates;
* `Envelope.shape` – the points of an envelope as a geometry;
* `Envelope.Holds` – the points themselves.
-/
namespace GeoCatalogue

/-- **An area between two corners.** -/
structure Envelope where
  /-- The corners. -/
  bounds : Bounds Binary64
  /-- The identifier of the coordinate reference system. -/
  crs : String
  /-- The lower corner is at most the upper one. -/
  ordered : bounds.Ordered

/-- **A geometry.** -/
inductive Shape where
  /-- A point. -/
  | point (place : Position Binary64)
  /-- The segment between two points. -/
  | segment (start stop : Position Binary64)
  /-- A rectangle, by its corners all around; the last is the first. -/
  | rectangle (corners : List (Position Binary64))

namespace Envelope

/-- **The envelope of corners and a reference.** The reference is looked
at first, then whether the coordinates are finite, then their order. -/
def ofBounds (bounds : Bounds Extended) (reference : Option String) :
    Except Failure Envelope := do
  let crs ← Crs.normalize reference
  match bounds.finite? with
  | none => .error (.malformedEnvelope (.nonFinite bounds))
  | some corners =>
    if ordered : corners.Ordered then .ok ⟨corners, crs, ordered⟩
    else .error (.malformedEnvelope (.cornersExchanged corners crs))

/-- Whether two envelopes are equal: in the same system, with corners of
the same values. -/
def sameAs (e f : Envelope) : Bool :=
  e.bounds.lower.first.sameValue f.bounds.lower.first &&
    e.bounds.lower.second.sameValue f.bounds.lower.second &&
    e.bounds.upper.first.sameValue f.bounds.upper.first &&
    e.bounds.upper.second.sameValue f.bounds.upper.second &&
    e.crs == f.crs

/-- Whether an envelope has no width on the first axis. -/
def isFlatFirst (e : Envelope) : Bool :=
  e.bounds.lower.first.sameValue e.bounds.upper.first

/-- Whether an envelope has no width on the second axis. -/
def isFlatSecond (e : Envelope) : Bool :=
  e.bounds.lower.second.sameValue e.bounds.upper.second

/-- Whether an envelope has no width on some axis. -/
def isDegenerate (e : Envelope) : Bool :=
  e.isFlatFirst || e.isFlatSecond

/-- **The geometry of an envelope**: a point, a segment or a rectangle. The
corners of a rectangle start at the end of the first axis. -/
def shape (e : Envelope) : Shape :=
  let lower := e.bounds.lower
  let upper := e.bounds.upper
  if e.isFlatFirst && e.isFlatSecond then .point lower
  else if e.isDegenerate then .segment lower upper
  else .rectangle [⟨upper.first, lower.second⟩, upper,
    ⟨lower.first, upper.second⟩, lower, ⟨upper.first, lower.second⟩]

/-- **The points of an envelope**: those between its corners. -/
def Holds (e : Envelope) (x y : Rat) : Prop :=
  e.bounds.lower.first.value ≤ x ∧ x ≤ e.bounds.upper.first.value ∧
    e.bounds.lower.second.value ≤ y ∧ y ≤ e.bounds.upper.second.value

/-- The printed envelope. -/
def text (e : Envelope) : String :=
  "Envelope(" ++ e.bounds.lower.extended.text ++ " " ++
    e.bounds.upper.extended.text ++ ", " ++ e.crs ++ ")"

end Envelope

/-- The printed name of the kind of a geometry. -/
def Shape.kind : Shape → String
  | point _ => "Point"
  | segment .. => "LineString"
  | rectangle _ => "Polygon"

/-- The points that a geometry is written down with. -/
def Shape.points : Shape → List (Position Binary64)
  | point p => [p]
  | segment start stop => [start, stop]
  | rectangle corners => corners

end GeoCatalogue
