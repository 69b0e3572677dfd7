import GeoCatalogue.Geodesy.Projection
import GeoCatalogue.Number.Native

/-!
# Bounds in another system

The bounds of an area in another system are those of its boundary: the
four sides are divided into equal parts, the points of division are
transformed one by one, and the smallest and largest coordinates are
taken. If one point has no image, there is no result.

Two things are special when the result is in longitude and latitude. The
boundary may cross the longitude of 180 degrees, on the ring of points
seen as a jump; the smallest longitude is then taken on one side of it
and the largest on the other. And a pole may lie inside the area; the
result then reaches around the globe and up to the pole.
-/
namespace GeoCatalogue.Geodesy

/-- A pair of machine numbers in axis order. -/
abbrev Coordinates := Position Float

/-- How many parts a side is divided into. -/
def parts : Nat := 22

/-- **The points of division of a boundary**, all around. -/
def ring (b : Bounds Float) : List Coordinates :=
  let dx := (b.upper.first - b.lower.first) / parts.toFloat
  let dy := (b.upper.second - b.lower.second) / parts.toFloat
  let side (point : Float → Coordinates) :=
    (List.range parts).map fun i => point i.toFloat
  side (fun i => ⟨b.lower.first, b.upper.second - i * dy⟩) ++
    side (fun i => ⟨b.lower.first + i * dx, b.lower.second⟩) ++
    side (fun i => ⟨b.upper.first, b.lower.second + i * dy⟩) ++
    side (fun i => ⟨b.upper.first - i * dx, b.upper.second⟩)

/-- Whether the first axis of a system is that of the latitude. -/
def latitudeFirst (system : ReferenceSystem) : Bool :=
  system.axes.head? == some .north

/-- The place at coordinates of a system. -/
def placeAt? (system : ReferenceSystem) (c : Coordinates) : Option Place :=
  match system.method with
  | .geographic =>
    if latitudeFirst system then
      some ⟨radians c.second, radians c.first⟩
    else some ⟨radians c.first, radians c.second⟩
  | method => inverse? method ⟨c.first, c.second⟩

/-- The coordinates of a place in a system of plane coordinates. -/
def planeAt? (system : ReferenceSystem) (place : Place) :
    Option Coordinates :=
  (forward? system.method place).map fun point => ⟨point.x, point.y⟩

/-- The smaller of two machine numbers. -/
def least (a b : Float) : Float := if b < a then b else a

/-- The larger of two machine numbers. -/
def greatest (a b : Float) : Float := if a < b then b else a

/-- The smallest and the largest of some numbers. -/
def range (values : List Float) : Float × Float :=
  match values with
  | [] => (0.0, 0.0)
  | first :: rest => (rest.foldl least first, rest.foldl greatest first)

/-- **What is known of the longitudes on a part of the ring**: the
longitude before, the best bound so far, the bound on the far side of a
jump, how many jumps there were and whether the far side is being
looked at. -/
structure Crossing where
  previous : Float
  best : Float
  far : Float
  count : Nat
  beyond : Bool

/-- One more longitude in the search of a bound. `jump` is the difference
to the longitude before, counted so that a large one leaves the far
side. -/
def Crossing.next (better : Float → Float → Float) (jump : Float)
    (state : Crossing) (longitude : Float) : Crossing :=
  let left := 200.0 ≤ jump
  let entered := jump ≤ -200.0
  let far := if left && state.count = 0 then state.best else state.far
  let count := if left || entered then state.count + 1 else state.count
  let beyond := entered || (state.beyond && !left)
  ⟨longitude, better state.best longitude,
    if beyond then better far longitude else far, count, beyond⟩

/-- The bound that the search has found: the far side's after two jumps,
the end of the range after four, and else the best one. -/
def Crossing.result (limit : Float) (state : Crossing) : Float :=
  if state.count = 2 then state.far
  else if state.count = 4 then limit
  else state.best

/-- **The western bound of a ring of longitudes**, in degrees. -/
def western (longitudes : List Float) : Float :=
  let infinity := 1.0 / 0.0
  let start : Crossing :=
    ⟨longitudes.getLast?.getD 0.0, infinity, infinity, 0, false⟩
  let final := longitudes.foldl
    (fun state longitude =>
      state.next least (state.previous - longitude) longitude) start
  final.result (-180.0)

/-- **The eastern bound of a ring of longitudes**, in degrees. -/
def eastern (longitudes : List Float) : Float :=
  let infinity := 1.0 / 0.0
  let start : Crossing :=
    ⟨longitudes.getLast?.getD 0.0, -infinity, -infinity, 0, false⟩
  let final := longitudes.foldl
    (fun state longitude =>
      state.next greatest (longitude - state.previous) longitude) start
  final.result 180.0

/-- Whether a pole, north or south, has an image that lies in an area. -/
def holdsPole (system : ReferenceSystem) (b : Bounds Float)
    (latitude : Float) : Bool :=
  match planeAt? system ⟨0.0, radians latitude⟩ with
  | some c =>
    b.lower.first ≤ c.first && c.first ≤ b.upper.first &&
      b.lower.second ≤ c.second && c.second ≤ b.upper.second
  | none => false

/-- Bounds in longitude and latitude, in the axis order of a system. -/
def inAxisOrder (system : ReferenceSystem)
    (west south east north : Float) : Bounds Float :=
  let bounds : Bounds Float := ⟨⟨west, south⟩, ⟨east, north⟩⟩
  if latitudeFirst system then bounds.swap else bounds

/-- **The bounds of the image of an area in a system of plane
coordinates.** -/
def planeBounds? (source target : ReferenceSystem) (b : Bounds Float) :
    Option (Bounds Float) := do
  let image ← (ring b).mapM fun c => do
    planeAt? target (← placeAt? source c)
  let (left, right) := range (image.map (·.first))
  let (bottom, top) := range (image.map (·.second))
  some ⟨⟨left, bottom⟩, ⟨right, top⟩⟩

/-- **The bounds of the image of an area in longitude and latitude.** -/
def globeBounds? (source target : ReferenceSystem) (b : Bounds Float) :
    Option (Bounds Float) := do
  let image ← (ring b).mapM (placeAt? source)
  let longitudes := image.map fun place => degrees place.longitude
  let (south, north) := range (image.map fun place => degrees place.latitude)
  let holdsNorth := holdsPole source b 90.0
  let holdsSouth := holdsPole source b (-90.0)
  let around := holdsNorth || holdsSouth
  some (inAxisOrder target
    (if around then -180.0 else western longitudes)
    (if holdsSouth then -90.0 else south)
    (if around then 180.0 else eastern longitudes)
    (if holdsNorth then 90.0 else north))

end GeoCatalogue.Geodesy
