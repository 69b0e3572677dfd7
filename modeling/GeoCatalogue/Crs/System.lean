import GeoCatalogue.Crs.Reference
import GeoCatalogue.Envelope.Bounds

/-!
# Coordinate reference systems

A **system** is known by a name; it has axes that point somewhere, and a
method by which its coordinates are related to longitude and latitude.
What there is to know about systems comes from a `Geodesy`: it finds the
system of an identifier, it says whether there is an operation from one
system to another, and it transforms bounds by that operation. There may be
none, as between systems of different celestial bodies. The rules of this
library hold for every geodesy.

* `Geodesy` – the three services;
* `Crs.find` – the system of a reference;
* `Crs.systems` – the systems of two references, with an operation between
  them;
* `Crs.same` – whether two references denote the same system;
* `Crs.axisOrder`, `Crs.isLatLon` – where the first two axes point.
-/
namespace GeoCatalogue

/-- **Where an axis points.** -/
inductive Direction where
  | north
  | south
  | east
  | west
  | up
  | geocentricX
  | geocentricY
  | geocentricZ
deriving DecidableEq, Repr

/-- The printed name of a direction. -/
def Direction.text : Direction → String
  | north => "north"
  | south => "south"
  | east => "east"
  | west => "west"
  | up => "up"
  | geocentricX => "geocentricx"
  | geocentricY => "geocentricy"
  | geocentricZ => "geocentricz"

/-- **How coordinates are related to longitude and latitude.** -/
inductive Method where
  /-- They are longitude and latitude, in the order of the axes. -/
  | geographic
  /-- The Mercator projection of a sphere. -/
  | sphericalMercator
  /-- The Mercator projection of the ellipsoid, its central meridian in
  degrees. -/
  | mercator (meridian : Int)
  /-- The transverse Mercator projection of a zone of six degrees. -/
  | transverseMercator (zone : Nat) (southern : Bool)
  /-- Some other method, for which nothing can be computed. -/
  | other
deriving DecidableEq, Repr

/-- **A coordinate reference system.** -/
structure ReferenceSystem where
  /-- The name; systems of different names are different. -/
  name : String
  /-- Where the axes point, in order. -/
  axes : List Direction
  /-- Whether the coordinates are longitude and latitude. -/
  isGeographic : Bool
  /-- The method of the system. -/
  method : Method
deriving DecidableEq, Repr

/-- **What is known about systems.** -/
structure Geodesy where
  /-- The system of an identifier, or why there is none. -/
  find : String → Except String ReferenceSystem
  /-- The bounds of the image of an area in another system, or why there
  is none. -/
  transformBounds : ReferenceSystem → ReferenceSystem → Bounds Binary64 →
    Except String (Bounds Extended)
  /-- Whether there is an operation from one system to another, or why
  there is none. -/
  operation : ReferenceSystem → ReferenceSystem → Except String Unit :=
    fun _ _ => .ok ()

namespace Crs

/-- **The system of a reference.** -/
def find (g : Geodesy) (reference : Option String) :
    Except Failure ReferenceSystem := do
  let identifier ← normalize reference
  match g.find identifier with
  | .ok system => .ok system
  | .error explanation =>
    .error (.unsupportedCrs reference (.unknown explanation))

/-- **The systems of two references**, the first with an operation to the
second. -/
def systems (g : Geodesy) (source target : Option String) :
    Except Failure (ReferenceSystem × ReferenceSystem) := do
  let first ← find g source
  let second ← find g target
  match g.operation first second with
  | .ok () => .ok (first, second)
  | .error explanation => .error (.noOperation explanation)

/-- **Whether two references denote the same system**: their identifiers
are equal, or the systems are. -/
def same (g : Geodesy) (a b : Option String) : Except Failure Bool := do
  let first ← normalize a
  let second ← normalize b
  if first = second then .ok true
  else
    let left ← find g a
    let right ← find g b
    .ok (left == right)

/-- **Where the first two axes of a system point.** -/
def axisOrder (g : Geodesy) (reference : Option String) :
    Except Failure (Direction × Direction) := do
  let system ← find g reference
  match system.axes with
  | first :: second :: _ => .ok (first, second)
  | axes => .error (.unsupportedCrs reference (.tooFewAxes axes.length))

/-- **Whether the first axis of a system runs north or south.** -/
def isLatLon (g : Geodesy) (reference : Option String) :
    Except Failure Bool := do
  let (first, _) ← axisOrder g reference
  .ok (first == .north || first == .south)

end Crs

end GeoCatalogue
