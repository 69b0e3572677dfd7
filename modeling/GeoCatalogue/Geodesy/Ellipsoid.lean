/-!
# The ellipsoid

The figure of the Earth of WGS 84, and the passage between the geodetic
latitude on the ellipsoid and the **conformal latitude** on a sphere, on
which the Mercator projections are built. Latitudes are given and taken
by their tangents, which keeps the passage accurate near the poles.
-/
namespace GeoCatalogue.Geodesy

/-- The ratio of a circle's circumference to its diameter. -/
def pi : Float := 3.141592653589793

/-- The semi-major axis in metres. -/
def semiMajor : Float := 6378137.0

/-- The flattening. -/
def flattening : Float := 1.0 / 298.257223563

/-- The square of the eccentricity. -/
def eccentricitySquared : Float := flattening * (2.0 - flattening)

/-- The eccentricity. -/
def eccentricity : Float := eccentricitySquared.sqrt

/-- The third flattening, the parameter of the series. -/
def thirdFlattening : Float := flattening / (2.0 - flattening)

/-- Degrees as radians. -/
def radians (degrees : Float) : Float :=
  degrees * (pi / 180.0)

/-- Radians as degrees. -/
def degrees (radians : Float) : Float :=
  radians * (180.0 / pi)

/-- The secant of an angle with a given tangent. -/
def secant (tangent : Float) : Float :=
  (1.0 + tangent * tangent).sqrt

/-- **The tangent of the conformal latitude**, from that of the geodetic
latitude. -/
def conformalTangent (tangent : Float) : Float :=
  let sine := tangent / secant tangent
  let sigma := (eccentricity * (eccentricity * sine).atanh).sinh
  tangent * secant sigma - sigma * secant tangent

/-- One step of Newton's method towards a geodetic latitude with a given
conformal one. -/
def refineTangent (conformal tangent : Float) : Float :=
  let complement := 1.0 - eccentricitySquared
  let reached := conformalTangent tangent
  tangent + (conformal - reached) / secant reached *
    (1.0 + complement * tangent * tangent) /
    (complement * secant tangent)

/-- How many steps of Newton's method are taken; each doubles the number
of correct digits. -/
def newtonSteps : Nat := 6

/-- **The tangent of the geodetic latitude**, from that of the conformal
latitude. -/
def geodeticTangent (conformal : Float) : Float :=
  newtonSteps.repeat (refineTangent conformal)
    (conformal / (1.0 - eccentricitySquared))

/-- **The difference of two longitudes brought to half a turn** on either
side of zero; one that is there already stays as it is. -/
def wrapLongitude (longitude : Float) : Float :=
  if longitude.abs < pi + 1e-12 then longitude
  else
    let shifted := longitude + pi
    shifted - 2.0 * pi * (shifted / (2.0 * pi)).floor - pi

end GeoCatalogue.Geodesy
