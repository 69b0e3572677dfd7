import GeoCatalogue.Crs.System
import GeoCatalogue.Geodesy.Ellipsoid

/-!
# Map projections

A projection maps longitude and latitude to plane coordinates. There are
three of them: the Mercator projection of a sphere, that of the
ellipsoid, and the transverse Mercator projection of the ellipsoid in
zones of six degrees, computed by the series of Krüger up to the sixth
power of the third flattening.

* `Method.forward?`, `Method.inverse?` – the two directions. A point
  beyond a pole has no image, and neither has one so far from the central
  meridian of a zone that the series does not describe it.
-/
namespace GeoCatalogue.Geodesy

/-- **A place on the globe**, in radians. -/
structure Place where
  /-- The longitude. -/
  longitude : Float
  /-- The latitude. -/
  latitude : Float

/-- **A point of the plane**, in metres. -/
structure PlanePoint where
  /-- The easting. -/
  x : Float
  /-- The northing. -/
  y : Float

/-- The sum of a series of sines, or of cosines, of the multiples of
twice a complex angle: its real and its imaginary part. -/
def complexSines (coefficients : List Float) (real imaginary : Float) :
    Float × Float :=
  let terms := coefficients.mapIdx fun index coefficient =>
    let factor := 2.0 * (index + 1).toFloat
    (coefficient * (factor * real).sin * (factor * imaginary).cosh,
      coefficient * (factor * real).cos * (factor * imaginary).sinh)
  terms.foldr (fun term sum => (term.1 + sum.1, term.2 + sum.2)) (0.0, 0.0)

/-- A polynomial in the third flattening, its coefficients in ascending
order from the first power on. -/
def inThirdFlattening (coefficients : List Float) : Float :=
  thirdFlattening *
    coefficients.foldr (fun c sum => c + thirdFlattening * sum) 0.0

/-- The coefficients of the series from the sphere to the ellipsoid. -/
def toEllipsoid : List Float :=
  [inThirdFlattening [1.0 / 2.0, -2.0 / 3.0, 5.0 / 16.0, 41.0 / 180.0,
      -127.0 / 288.0, 7891.0 / 37800.0],
    inThirdFlattening [0.0, 13.0 / 48.0, -3.0 / 5.0, 557.0 / 1440.0,
      281.0 / 630.0, -1983433.0 / 1935360.0],
    inThirdFlattening [0.0, 0.0, 61.0 / 240.0, -103.0 / 140.0,
      15061.0 / 26880.0, 167603.0 / 181440.0],
    inThirdFlattening [0.0, 0.0, 0.0, 49561.0 / 161280.0, -179.0 / 168.0,
      6601661.0 / 7257600.0],
    inThirdFlattening [0.0, 0.0, 0.0, 0.0, 34729.0 / 80640.0,
      -3418889.0 / 1995840.0],
    inThirdFlattening [0.0, 0.0, 0.0, 0.0, 0.0,
      212378941.0 / 319334400.0]]

/-- The coefficients of the series from the ellipsoid to the sphere. -/
def toSphere : List Float :=
  [inThirdFlattening [1.0 / 2.0, -2.0 / 3.0, 37.0 / 96.0, -1.0 / 360.0,
      -81.0 / 512.0, 96199.0 / 604800.0],
    inThirdFlattening [0.0, 1.0 / 48.0, 1.0 / 15.0, -437.0 / 1440.0,
      46.0 / 105.0, -1118711.0 / 3870720.0],
    inThirdFlattening [0.0, 0.0, 17.0 / 480.0, -37.0 / 840.0,
      -209.0 / 4480.0, 5569.0 / 90720.0],
    inThirdFlattening [0.0, 0.0, 0.0, 4397.0 / 161280.0, -11.0 / 504.0,
      -830251.0 / 7257600.0],
    inThirdFlattening [0.0, 0.0, 0.0, 0.0, 4583.0 / 161280.0,
      -108847.0 / 3991680.0],
    inThirdFlattening [0.0, 0.0, 0.0, 0.0, 0.0,
      20648693.0 / 638668800.0]]

/-- The radius of the circle with the circumference of a meridian, scaled
by the factor of the zones. -/
def zoneRadius : Float :=
  let n := thirdFlattening
  0.9996 * semiMajor / (1.0 + n) *
    (1.0 + n * n / 4.0 + n * n * n * n / 64.0 +
      n * n * n * n * n * n / 256.0)

/-- The easting of the central meridian of a zone. -/
def falseEasting : Float := 500000.0

/-- The northing of the equator in a zone. -/
def falseNorthing (southern : Bool) : Float :=
  if southern then 10000000.0 else 0.0

/-- How far from its central meridian the series describe a zone. -/
def zoneLimit : Float := 2.623395162778

/-- The central meridian of a zone. -/
def zoneMeridian (zone : Nat) : Float :=
  radians (Float.ofInt (6 * (zone : Int) - 183))

/-- The transverse Mercator projection; the longitude counts from the
central meridian. -/
def transverseForward? (southern : Bool) (place : Place) :
    Option PlanePoint :=
  let tangent := conformalTangent place.latitude.tan
  let cosine := place.longitude.cos
  let north := Float.atan2 tangent cosine
  let east := (place.longitude.sin /
    (tangent * tangent + cosine * cosine).sqrt).asinh
  let change := complexSines toEllipsoid north east
  let easting := east + change.2
  if easting.abs ≤ zoneLimit then
    some ⟨falseEasting + zoneRadius * easting,
      falseNorthing southern + zoneRadius * (north + change.1)⟩
  else none

/-- The transverse Mercator projection backwards. -/
def transverseInverse? (southern : Bool) (point : PlanePoint) :
    Option Place :=
  let easting := (point.x - falseEasting) / zoneRadius
  let northing := (point.y - falseNorthing southern) / zoneRadius
  if easting.abs ≤ zoneLimit then
    let change := complexSines toSphere northing easting
    let north := northing - change.1
    let east := easting - change.2
    let cosine := north.cos
    let tangent := north.sin /
      (east.sinh * east.sinh + cosine * cosine).sqrt
    some ⟨Float.atan2 east.sinh cosine, (geodeticTangent tangent).atan⟩
  else none

/-- The Mercator projection of the ellipsoid. -/
def mercatorForward (place : Place) : PlanePoint :=
  ⟨semiMajor * place.longitude,
    semiMajor * (conformalTangent place.latitude.tan).asinh⟩

/-- The Mercator projection of the ellipsoid backwards. -/
def mercatorInverse (point : PlanePoint) : Place :=
  ⟨point.x / semiMajor,
    (geodeticTangent (point.y / semiMajor).sinh).atan⟩

/-- The Mercator projection of the sphere. -/
def sphericalForward (place : Place) : PlanePoint :=
  ⟨semiMajor * place.longitude, semiMajor * place.latitude.tan.asinh⟩

/-- The Mercator projection of the sphere backwards. -/
def sphericalInverse (point : PlanePoint) : Place :=
  ⟨point.x / semiMajor, (point.y / semiMajor).sinh.atan⟩

/-- The central meridian of a method. -/
def centralMeridian : Method → Float
  | .mercator meridian => radians (Float.ofInt meridian)
  | .transverseMercator zone _ => zoneMeridian zone
  | _ => 0.0

/-- A place with the longitude counted from a meridian. -/
def Place.from (meridian : Float) (place : Place) : Place :=
  ⟨wrapLongitude (place.longitude - meridian), place.latitude⟩

/-- A place with the longitude counted from zero again. -/
def Place.to (meridian : Float) (place : Place) : Place :=
  ⟨wrapLongitude (place.longitude + meridian), place.latitude⟩

/-- The greatest latitude, a quarter of a turn, and the greatest
longitude that is accepted. -/
def isOnGlobe (place : Place) : Bool :=
  place.latitude.abs ≤ pi / 2.0 + 1e-12 && place.longitude.abs ≤ 10.0

/-- **The image of a place**, if it has one. -/
def forward? (method : Method) (place : Place) : Option PlanePoint :=
  if isOnGlobe place then
    let relative := place.from (centralMeridian method)
    match method with
    | .sphericalMercator => some (sphericalForward relative)
    | .mercator _ => some (mercatorForward relative)
    | .transverseMercator _ southern => transverseForward? southern relative
    | _ => none
  else none

/-- **The place with a given image**, if there is one. -/
def inverse? (method : Method) (point : PlanePoint) : Option Place :=
  let relative? :=
    match method with
    | .sphericalMercator => some (sphericalInverse point)
    | .mercator _ => some (mercatorInverse point)
    | .transverseMercator _ southern => transverseInverse? southern point
    | _ => none
  relative?.map (Place.to (centralMeridian method))

end GeoCatalogue.Geodesy
