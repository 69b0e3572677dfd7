import GeoCatalogue.Geodesy.Ring

/-!
# The standard geodesy

The systems that this library knows by itself, with the names that the
registers of their authorities give them, and the transformations between
those on the ellipsoid of WGS 84. A register may list one system under
several names. One of the systems is none of the earth, and no operation
leads to it or away from it.

Between longitude and latitude in the two orders, a transformation is the
exchange of the axes, whatever the values are; only the extent of an area
has to be a number of the format.
-/
namespace GeoCatalogue.Geodesy

/-- A system of longitude and latitude. -/
def geographic (name : String) (axes : List Direction)
    (method : Method := .other) : ReferenceSystem :=
  ⟨name, axes, true, method⟩

/-- A system of plane coordinates. -/
def projected (name : String) (axes : List Direction)
    (method : Method := .other) : ReferenceSystem :=
  ⟨name, axes, false, method⟩

/-- **Longitude and latitude of WGS 84**, the latitude first. -/
def wgs84 : ReferenceSystem :=
  geographic "EPSG:4326" [.north, .east] .geographic

/-- **Longitude and latitude of WGS 84**, the longitude first. -/
def crs84 : ReferenceSystem :=
  geographic "OGC:CRS84" [.east, .north] .geographic

/-- The Mercator projection used for maps on screens. -/
def webMercator : ReferenceSystem :=
  projected "EPSG:3857" [.east, .north] .sphericalMercator

/-- Longitude and latitude of the moon. -/
def moon : ReferenceSystem :=
  geographic "ESRI:104903" [.east, .north]

/-- **The systems and the identifiers they are found under.** -/
def systems : List (List String × ReferenceSystem) := [
  (["EPSG:4326", "EPSG:04326", "EPSG:4326.0"], wgs84),
  (["OGC:CRS84", "OGC:84"], crs84),
  (["EPSG:3857", "ESRI:102100"], webMercator),
  (["EPSG:4979"], geographic "EPSG:4979" [.north, .east, .up]),
  (["EPSG:4258"], geographic "EPSG:4258" [.north, .east]),
  (["EPSG:4269"], geographic "EPSG:4269" [.north, .east]),
  (["OGC:CRS83"], geographic "OGC:CRS83" [.east, .north]),
  (["OGC:CRS27"], geographic "OGC:CRS27" [.east, .north]),
  (["EPSG:3832"],
    projected "EPSG:3832" [.east, .north] (.mercator 150)),
  (["EPSG:27700"], projected "EPSG:27700" [.east, .north]),
  (["EPSG:2193"], projected "EPSG:2193" [.north, .east]),
  (["EPSG:3035"], projected "EPSG:3035" [.north, .east]),
  (["EPSG:32661"], projected "EPSG:32661" [.south, .south]),
  (["EPSG:3031"], projected "EPSG:3031" [.north, .north]),
  (["EPSG:4978"], projected "EPSG:4978"
    [.geocentricX, .geocentricY, .geocentricZ]),
  (["EPSG:2065"], projected "EPSG:2065" [.south, .west]),
  (["EPSG:2053"], projected "EPSG:2053" [.west, .south]),
  (["EPSG:5773"], projected "EPSG:5773" [.up]),
  (["ESRI:104903"], moon)]

/-- The identifier of a zone of six degrees. -/
def zoneIdentifier (zone : Nat) (southern : Bool) : String :=
  "EPSG:32" ++ (if southern then "7" else "6") ++
    (if zone < 10 then "0" else "") ++ toString zone

/-- The system of a zone of six degrees. -/
def zoneSystem (zone : Nat) (southern : Bool) : ReferenceSystem :=
  projected (zoneIdentifier zone southern) [.east, .north]
    (.transverseMercator zone southern)

/-- The systems of the sixty zones on both hemispheres. -/
def zoneSystems : List ReferenceSystem :=
  (List.range 60).flatMap fun index =>
    [zoneSystem (index + 1) false, zoneSystem (index + 1) true]

/-- **The system of an identifier.** -/
def find? (identifier : String) : Option ReferenceSystem :=
  match systems.find? fun entry => entry.1.contains identifier with
  | some entry => some entry.2
  | none => zoneSystems.find? (·.name == identifier)

/-- Whether the extent of bounds is a number of the format. -/
def hasExtent (b : Bounds Binary64) : Bool :=
  (Extended.ofRat (b.upper.first.value - b.lower.first.value)).isFinite &&
    (Extended.ofRat (b.upper.second.value - b.lower.second.value)).isFinite

/-- Bounds without a single defined coordinate. -/
def undefinedBounds : Bounds Extended :=
  ⟨⟨.undefined, .undefined⟩, ⟨.undefined, .undefined⟩⟩

/-- Bounds between longitude and latitude in the two orders. -/
def exchangeAxes (source target : ReferenceSystem) (b : Bounds Binary64) :
    Bounds Extended :=
  if !hasExtent b then undefinedBounds
  else if source.axes = target.axes then b.extended
  else b.swap.extended

/-- **Bounds in another system**, if the transformation is known and all
points have an image. -/
def transform? (source target : ReferenceSystem) (b : Bounds Binary64) :
    Option (Bounds Extended) :=
  let machine := b.map Binary64.toFloat
  match source.method, target.method with
  | .other, _ | _, .other => none
  | .geographic, .geographic => some (exchangeAxes source target b)
  | _, .geographic =>
    (globeBounds? source target machine).map (·.map Extended.ofFloat)
  | _, _ =>
    (planeBounds? source target machine).map (·.map Extended.ofFloat)

/-- Whether two systems are of the same celestial body. -/
def sameBody (source target : ReferenceSystem) : Bool :=
  (source == moon) == (target == moon)

/-- **The standard geodesy**, with the words that explain an unknown
identifier, a missing operation and a point without an image. -/
def standard (explanation : String) : Geodesy where
  find identifier :=
    match find? identifier with
    | some system => .ok system
    | none => .error explanation
  transformBounds source target b :=
    match transform? source target b with
    | some result => .ok result
    | none => .error explanation
  operation source target :=
    if sameBody source target then .ok () else .error explanation

end GeoCatalogue.Geodesy
