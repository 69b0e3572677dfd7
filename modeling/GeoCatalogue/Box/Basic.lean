import GeoCatalogue.Envelope.Transformation
import GeoCatalogue.Number.Reading

/-!
# Bounding boxes

Catalogue documents write the area of a record in four ways: as a
bounding box with a reference to a system, as a bounding box of WGS 84
with the longitude first, as a GeoRSS box with the latitude first, and as
a GML envelope. A **box** holds the texts of one of them;
`Box.normalize` makes an envelope of it.

The texts hold numbers divided by blanks. A token that is no finite
number is reported first, then a wrong count of numbers, and only then
what is wrong with the reference or the corners.
-/
namespace GeoCatalogue

/-- **A bounding box as it is written.** -/
inductive Box where
  /-- A bounding box with a reference to its system. -/
  | generic (lower upper : String) (crs : Option String)
  /-- A bounding box of WGS 84, the longitude first. -/
  | wgs84 (lower upper : String)
  /-- A GeoRSS box, the latitude first. -/
  | geoRss (text : String)
  /-- A GML envelope: its corners and a reference to its system. -/
  | gml (corners : List String) (srsName : Option String)
deriving DecidableEq, Repr

namespace Box

open Text

/-- The reference to the system of a bounding box of WGS 84. -/
def wgs84Reference : String := "urn:ogc:def:crs:OGC:1.3:CRS84"

/-- The reference to the system of a GeoRSS box. -/
def geoRssReference : String := "EPSG:4326"

/-- The finite number a token stands for, if any. -/
def finite? (token : String) : Option Binary64 :=
  (Extended.ofText? token).bind Extended.finite?

/-- **The numbers in a text**, divided by blanks. -/
def numbers (source text : String) : Except Failure (List Binary64) :=
  (words text).mapM fun token =>
    match finite? token with
    | some x => .ok x
    | none => .error (.invalidCoordinate token source)

/-- **The position that a text holds.** -/
def position (source text : String) :
    Except Failure (Position Extended) := do
  let values ← numbers source text
  match values with
  | [x, y] => .ok ⟨.finite x, .finite y⟩
  | _ =>
    let defect := .coordinateCount source values.length text
    .error (.malformedEnvelope defect)

/-- The envelope of two corner texts. -/
def ofCorners (lowerSource upperSource lower upper : String)
    (reference : Option String) : Except Failure Envelope := do
  let low ← position lowerSource lower
  let high ← position upperSource upper
  Envelope.ofBounds ⟨low, high⟩ reference

/-- The envelope of a text with both corners. -/
def ofBoxText (text : String) : Except Failure Envelope := do
  let values ← numbers "georss:box" text
  match values with
  | [a, b, c, d] =>
    Envelope.ofBounds ⟨⟨.finite a, .finite b⟩, ⟨.finite c, .finite d⟩⟩
      (some geoRssReference)
  | _ => .error (.malformedEnvelope (.boxText text))

/-- **The envelope of a box.** -/
def normalize : Box → Except Failure Envelope
  | generic lower upper crs =>
    ofCorners "ows:LowerCorner" "ows:UpperCorner" lower upper crs
  | wgs84 lower upper =>
    ofCorners "ows:LowerCorner" "ows:UpperCorner" lower upper
      (some wgs84Reference)
  | geoRss text => ofBoxText text
  | gml [lower, upper] srsName =>
    ofCorners "gml:lowerCorner" "gml:upperCorner" lower upper srsName
  | gml corners _ =>
    .error (.malformedEnvelope (.cornerCount corners.length))

/-- The printed name of the kind of a box. -/
def kindText : Box → String
  | generic .. => "ows:BoundingBox"
  | wgs84 .. => "ows:WGS84BoundingBox"
  | geoRss _ => "georss:box"
  | gml .. => "gml:Envelope"

end Box

end GeoCatalogue
