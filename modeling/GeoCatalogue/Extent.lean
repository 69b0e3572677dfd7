import GeoCatalogue.Box.Basic
import GeoCatalogue.Journal.Record

/-!
# Extents

The **extent** of several areas is the smallest envelope that holds all of
them, in a common system. Areas are added one by one; one that cannot be
brought to the common system is refused and changes nothing.

* `Merger` – the areas added so far, as one envelope;
* `coalesce`, `coalesceBoxes` – the extent of envelopes, and of boxes;
* `intersects` – whether two envelopes have a point in common;
* `checkIntersections` – the same for many envelopes.
-/
namespace GeoCatalogue

/-- **What has been added so far**, in a common system. -/
structure Merger where
  /-- The reference to the common system. -/
  reference : Option String
  /-- The smallest envelope of all areas, absent before the first. -/
  merged : Option Envelope := none

namespace Merger

/-- The envelope of what was there and one more, both in the common
system. -/
def join (g : Geodesy) (merged : Option Envelope) (e : Envelope) :
    Except Failure Envelope :=
  match merged with
  | none => .ok e
  | some before => before.union g e

/-- **The areas with one more.** -/
def add (g : Geodesy) (m : Merger) (e : Envelope) :
    Except Failure Merger := do
  let image ← e.toCrs g m.reference
  let joined ← join g m.merged image
  .ok { m with merged := some joined }

/-- The areas with the area of a box. -/
def addBox (g : Geodesy) (m : Merger) (box : Box) :
    Except Failure Merger := do
  let e ← box.normalize
  m.add g e

/-- **The extent**, or the failure that there is nothing to take the
extent of. -/
def extent (m : Merger) : Except Failure Envelope :=
  match m.merged with
  | some e => .ok e
  | none => .error .noExtentData

end Merger

/-- **The extent of envelopes** in the system of a reference. -/
def coalesce (g : Geodesy) (reference : Option String)
    (envelopes : List Envelope) : Except Failure Envelope := do
  let m ← envelopes.foldlM (Merger.add g) ⟨reference, none⟩
  m.extent

/-- The areas of boxes, added one after the other. -/
def mergeBoxes (g : Geodesy) (reference : Option String)
    (boxes : List Box) : Except Failure Merger :=
  boxes.foldlM (Merger.addBox g) ⟨reference, none⟩

/-- **The extent of boxes** in the system of a reference. -/
def coalesceBoxes (g : Geodesy) (reference : Option String)
    (boxes : List Box) : Except Failure Envelope := do
  let m ← mergeBoxes g reference boxes
  m.extent

namespace Shape

/-- The bounds of the points that a geometry is written down with. -/
def extent : Shape → Option (Bounds Binary64)
  | point p => some ⟨p, p⟩
  | segment start stop => some (hullOf ⟨start, start⟩ [stop])
  | rectangle [] => none
  | rectangle (first :: rest) => some (hullOf ⟨first, first⟩ rest)
where
  /-- Bounds with some more points. -/
  hullOf (b : Bounds Binary64) (points : List (Position Binary64)) :
      Bounds Binary64 :=
    points.foldl (fun hull p => hull.hull ⟨p, p⟩) b

end Shape

namespace Bounds

/-- Whether two bounds have a point in common; touching counts. -/
def meet (b c : Bounds Binary64) : Bool :=
  b.lower.first ≤ c.upper.first && c.lower.first ≤ b.upper.first &&
    b.lower.second ≤ c.upper.second && c.lower.second ≤ b.upper.second

end Bounds

/-- **Whether two geometries have a point in common.** Their sides are
parallel to the axes, so this is seen from their extents. -/
def Shape.intersects (s t : Shape) : Bool :=
  match s.extent, t.extent with
  | some b, some c => b.meet c
  | _, _ => false

/-- A candidate in the system of a reference envelope. -/
def inSystemOf (g : Geodesy) (reference candidate : Envelope) :
    Except Failure Envelope := do
  let same ← Crs.same g (some reference.crs) (some candidate.crs)
  if same then .ok candidate
  else candidate.toCrs g (some reference.crs)

/-- **Whether an envelope has a point in common with a reference
envelope**, in the system of the latter. -/
def intersects (g : Geodesy) (reference candidate : Envelope) :
    Except Failure Bool := do
  let image ← inSystemOf g reference candidate
  .ok (reference.shape.intersects image.shape)

/-- **Which of some envelopes have a point in common with a reference
envelope.** -/
def checkIntersections (g : Geodesy) (reference : Envelope)
    (candidates : List Envelope) :
    Except Failure (List (Envelope × Bool)) :=
  candidates.mapM fun candidate => do
    let found ← intersects g reference candidate
    .ok (candidate, found)

/-- The record of an envelope without a common point. -/
def missNotice (reference candidate : Envelope) : Journal.Record :=
  ⟨.info, .extent,
    candidate.text ++ " does not intersect " ++ reference.text⟩

/-- **The records of checking envelopes**: one for each envelope without
a common point, up to the first that fails. -/
def intersectionNotices (g : Geodesy) (reference : Envelope) :
    List Envelope → List Journal.Record
  | [] => []
  | candidate :: rest =>
    match intersects g reference candidate with
    | .error _ => []
    | .ok found =>
      (if found then [] else [missNotice reference candidate]) ++
        intersectionNotices g reference rest

end GeoCatalogue
