import GeoCatalogue.Envelope.Basic

/-!
# Envelopes in other systems

An envelope is brought to another system by transforming its bounds, if
there is an operation between the two systems. In the same system it keeps
its coordinates. What a transformation gives is checked: it has to be finite,
and its corners have to be in order – if they are not, the image of a
geographic system reaches past the longitude of 180 degrees, and no envelope
describes it.

* `Envelope.toCrs` – an envelope in another system;
* `Envelope.union` – the smallest envelope that holds two, in the system
  of the first;
* `Envelope.boxParam` – the bounds as the value of a box parameter.
-/
namespace GeoCatalogue

namespace Binary64

theorem smaller_le_left (x y : Binary64) : smaller x y ≤ x := by
  unfold smaller
  split
  · rename_i h
    exact Rat.le_of_lt h
  · exact Rat.le_refl

/-- A number is at most the larger of it and another. -/
theorem left_le_larger (x y : Binary64) : x ≤ larger x y := by
  unfold larger
  split
  · rename_i h
    exact Rat.le_of_lt h
  · exact Rat.le_refl

/-- The smaller of two numbers is at most the larger of two others, if
the first of them are in order. -/
theorem smaller_le_larger {x y : Binary64} (h : x ≤ y) (v w : Binary64) :
    smaller x v ≤ larger y w :=
  Rat.le_trans (smaller_le_left x v) (Rat.le_trans h (left_le_larger y w))

end Binary64

namespace Bounds

/-- **The smallest bounds that hold two.** -/
def hull (b c : Bounds Binary64) : Bounds Binary64 :=
  ⟨⟨b.lower.first.smaller c.lower.first,
      b.lower.second.smaller c.lower.second⟩,
    ⟨b.upper.first.larger c.upper.first,
      b.upper.second.larger c.upper.second⟩⟩

theorem ordered_hull {b : Bounds Binary64} (h : b.Ordered)
    (c : Bounds Binary64) : (b.hull c).Ordered :=
  ⟨Binary64.smaller_le_larger h.1 _ _, Binary64.smaller_le_larger h.2 _ _⟩

end Bounds

namespace Envelope

/-- The reason why corners in a system are not in order. -/
def invertedDefect (target : ReferenceSystem) (result : Bounds Extended) :
    TransformDefect :=
  if target.isGeographic then .crossesAntimeridian result
  else .inverted result

/-- **The envelope of transformed bounds**, if they are finite and in
order. -/
def ofTransformed (target : ReferenceSystem) (crs : String)
    (result : Bounds Extended) : Except TransformDefect Envelope :=
  match result.finite? with
  | none => .error (.nonFinite result)
  | some corners =>
    if ordered : corners.Ordered then .ok ⟨corners, crs, ordered⟩
    else .error (invertedDefect target result)

/-- The bounds of an envelope in another system, checked. -/
def transformed (g : Geodesy) (e : Envelope)
    (source target : ReferenceSystem) (crs : String) :
    Except TransformDefect Envelope :=
  match g.transformBounds source target e.bounds with
  | .error explanation => .error (.projection explanation)
  | .ok result => ofTransformed target crs result

/-- **An envelope in another system.** -/
def toCrs (g : Geodesy) (e : Envelope) (reference : Option String) :
    Except Failure Envelope := do
  let same ← Crs.same g (some e.crs) reference
  let crs ← Crs.normalize reference
  if same then .ok { e with crs := crs }
  else
    let (source, target) ← Crs.systems g (some e.crs) reference
    match e.transformed g source target crs with
    | .ok image => .ok image
    | .error defect =>
      .error (.transformFailure e.crs (reference.getD "") defect)

/-- **The smallest envelope that holds two**, in the system of the
first. -/
def union (g : Geodesy) (e f : Envelope) : Except Failure Envelope := do
  let other ← f.toCrs g (some e.crs)
  let crs ← Crs.normalize (some e.crs)
  .ok ⟨e.bounds.hull other.bounds, crs, Bounds.ordered_hull e.ordered _⟩

/-- How many decimal places a box parameter has at most. -/
def boxParamPlaces : Nat := 6

/-- **Bounds as the value of a box parameter**: the rounded coordinates,
divided by commas. -/
def boxParamText (b : Bounds Binary64) : String :=
  ",".intercalate
    (b.toList.map fun x => (x.roundToPlaces boxParamPlaces).text)

/-- **An envelope as the value of a box parameter** in a system. -/
def boxParam (g : Geodesy) (e : Envelope) (reference : Option String) :
    Except Failure String := do
  let image ← e.toCrs g reference
  .ok (boxParamText image.bounds)

end Envelope

end GeoCatalogue
