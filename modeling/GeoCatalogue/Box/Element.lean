import GeoCatalogue.Box.Basic
import GeoCatalogue.Fault
import GeoCatalogue.Vocabulary
import GeoCatalogue.Xml.Nodes

/-!
# Boxes in documents

Which elements of a document are boxes, and what is read from them.

* `Box.isBox` – the elements that are boxes: bounding boxes of both
  versions of OWS, GeoRSS boxes and GML envelopes of both namespaces;
* `Box.read` – the box that an element holds;
* `Box.upgraded` – an envelope of GML 3.1 written in GML 3.2.
-/
namespace GeoCatalogue.Box

open Xml

/-- The namespaces of OGC Web Services Common. -/
def owsNamespaces : List String := [Vocabulary.ows, Vocabulary.ows11]

/-- The namespaces of GeoRSS. -/
def geoRssNamespaces : List String :=
  [Vocabulary.geoRss, Vocabulary.geoRssLegacy]

/-- The namespaces of GML. -/
def gmlNamespaces : List String := [Vocabulary.gml, Vocabulary.gml31]

/-- **The names of the elements that are boxes.** -/
def boxNames : List QName :=
  owsNamespaces.map (⟨·, "BoundingBox"⟩) ++
    owsNamespaces.map (⟨·, "WGS84BoundingBox"⟩) ++
    geoRssNamespaces.map (⟨·, "box"⟩) ++
    gmlNamespaces.map (⟨·, "Envelope"⟩)

/-- Whether an element is a box. -/
def isBox (e : Element) : Bool :=
  boxNames.contains e.name

/-- **The text of a corner element** of a box, in the namespace of the
box itself. -/
def cornerText (e : Element) (corner : String) : Except Failure String :=
  match e.childNamed? ⟨e.name.namespaceName, corner⟩ with
  | some child => .ok child.text
  | none =>
    .error (.malformedEnvelope (.missingCorner corner e.name.localName))

/-- The corners of a GML envelope: a lower and an upper one, or, if
neither is there, all positions. -/
def gmlCorners (e : Element) : List String :=
  let named (localName : String) : QName := ⟨e.name.namespaceName, localName⟩
  let corners := (e.childNamed? (named "lowerCorner")).toList ++
    (e.childNamed? (named "upperCorner")).toList
  let found :=
    if corners.isEmpty then e.childrenNamed (named "pos") else corners
  found.map Element.text

/-- A bounding box with a reference to its system. -/
def readGeneric (e : Element) : Except Failure Box := do
  let lower ← cornerText e "LowerCorner"
  let upper ← cornerText e "UpperCorner"
  .ok (.generic lower upper (e.attribute? "crs"))

/-- A bounding box of WGS 84. -/
def readWgs84 (e : Element) : Except Failure Box := do
  let lower ← cornerText e "LowerCorner"
  let upper ← cornerText e "UpperCorner"
  .ok (.wgs84 lower upper)

/-- **The box that an element holds.** -/
def read (e : Element) : Except Fault Box :=
  let space := e.name.namespaceName
  match e.name.localName with
  | "BoundingBox" =>
    if owsNamespaces.contains space then Fault.lift (readGeneric e)
    else .error (.unsupportedBox e.name.tag)
  | "WGS84BoundingBox" =>
    if owsNamespaces.contains space then Fault.lift (readWgs84 e)
    else .error (.unsupportedBox e.name.tag)
  | "box" =>
    if geoRssNamespaces.contains space then .ok (.geoRss e.text)
    else .error (.unsupportedBox e.name.tag)
  | "Envelope" =>
    if gmlNamespaces.contains space then
      .ok (.gml (gmlCorners e) (e.attribute? "srsName"))
    else .error (.unsupportedBox e.name.tag)
  | _ => .error (.unsupportedBox e.name.tag)

/-- A corner element of GML 3.2 with a text, and what comes after it. -/
def gmlCorner (scope : Bindings) (corner text : String)
    (after : Content) : Content :=
  .element ⟨⟨Vocabulary.gml, corner⟩, [], scope⟩
    (Nodes.withText text .nothing) after

/-- **An envelope of GML 3.1 written in GML 3.2**; nothing comes of an
element of another namespace. -/
def upgraded (e : Element) : Except Failure (Option Element) :=
  if e.name.namespaceName ≠ Vocabulary.gml31 then .ok none
  else do
    let lower ← cornerText e "lowerCorner"
    let upper ← cornerText e "upperCorner"
    let scope : Bindings := [(some "gml", Vocabulary.gml)]
    let reference := (e.attribute? "srsName").getD ""
    let tag : Tag :=
      ⟨⟨Vocabulary.gml, "Envelope"⟩, [(⟨"", "srsName"⟩, reference)], scope⟩
    .ok (some ⟨tag, gmlCorner scope "lowerCorner" lower
      (gmlCorner scope "upperCorner" upper .nothing)⟩)

end GeoCatalogue.Box
