import GeoCatalogue.Box.Search
import GeoCatalogue.Command.Activity
import GeoCatalogue.Command.Arguments
import GeoCatalogue.Dataset

/-!
# The tasks of the command

What each verb of the command does, and what it prints as JSON.

* `describeTemplates` – the templates of a description with their
  parameters;
* `buildUris` – the URIs of the requests that values of parameters give
  with the templates selected;
* `extentOf` – the extent of sample data, null if it has none;
* `checkBoxes` – the boxes of a response, and whether each of them has a
  point in common with an area.
-/
namespace GeoCatalogue.Command

open Journal Activity

/-! ## Templates -/

/-- Whether a description is fetched from a service. -/
def isAddress (source : String) : Bool :=
  source.startsWith "http://" || source.startsWith "https://"

/-- The description of the service at an address. -/
def fetchDescription (s : Surroundings) (url : String) :
    Activity Description := do
  let client : Client := { url := url, settings := ← settings }
  ask (client.describe s.service false)

/-- The description in a document. -/
def readDescription (s : Surroundings) (source : String) :
    Activity Description := do
  let root ← give (s.files.document source)
  note (Description.notices root)
  work (Description.ofElement 0 0 root)

/-- **The description that a text leads to**: the address of a service, a
document or the path of a file. -/
def description (s : Surroundings) (source : String) :
    Activity Description :=
  if isAddress source then fetchDescription s source
  else readDescription s source

/-- A default as JSON. -/
def defaultJson : DefaultValue → Json
  | .text value => .text value
  | .number value => .integer value

/-- A parameter as JSON. -/
def parameterJson (p : Parameter) : Json :=
  .object [("name", .text p.name.text), ("required", .bool p.required),
    ("type", .text p.valueType.text),
    ("default", defaultJson p.defaultValue)]

/-- A template of a description as JSON. -/
def templateJson (d : Description) (t : UrlTemplate) : Json :=
  .object [("template", .text t.template), ("type", .text t.mediaType),
    ("rel", .text t.rel), ("parameters",
      .list ((d.registry.parameters t).map parameterJson))]

/-- **The templates of a description.** -/
def describeTemplates (s : Surroundings) (source : String) :
    Activity Json := do
  let d ← description s source
  return .list (d.templates.map (templateJson d))

/-! ## Request URIs -/

/-- The bindings for names that are given to the command: those of the
template, or else the standard ones. -/
def bindingsFor (t : UrlTemplate) : Bindings :=
  Vocabulary.standardBindings ++ t.bindings

/-- **The name and the value in a text**, which an equals sign divides. -/
def valueOf (t : UrlTemplate) (param : String) :
    Except Fault (QName × String) :=
  match nameAndValue param.toList with
  | (_, none) => .error (.parameterText param)
  | (name, some value) => do
    let resolved ← Fault.lift
      (Token.resolve (bindingsFor t) (String.ofList name))
    .ok (resolved, value)

/-- Whether a template declares the parameter asked for, if one is. -/
def isSelected (d : Description) (withParam : Option String)
    (t : UrlTemplate) : Except Failure Bool :=
  match withParam with
  | none | some "" => .ok true
  | some token => do
    let name ← Token.resolve (bindingsFor t) token
    .ok (d.registry.declares name t)

/-- The templates with the media type asked for, if one is. -/
def templatesFor (d : Description) : Option String → List UrlTemplate
  | none | some "" => d.templates
  | some mediaType => d.forType mediaType

/-- The URI that a template gives. -/
def buildUri (d : Description) (params : List String)
    (t : UrlTemplate) : Activity String := do
  let values ← give (params.mapM (valueOf t))
  note (d.registry.buildNotices t values)
  work (d.registry.build t values)

/-- The URIs that templates give, without those that are not selected. -/
def buildSelected (d : Description) (params : List String)
    (withParam : Option String) : List UrlTemplate → Activity (List String)
  | [] => return []
  | t :: rest => do
    if ← work (isSelected d withParam t) then
      let uri ← buildUri d params t
      return uri :: (← buildSelected d params withParam rest)
    else buildSelected d params withParam rest

/-- **The URIs of requests.** -/
def buildUris (s : Surroundings) (source : String)
    (params : List String) (withParam mediaType : Option String) :
    Activity Json := do
  let d ← description s source
  let uris ← buildSelected d params withParam (templatesFor d mediaType)
  if uris.isEmpty then
    note [⟨.warning, .command, "No matching URL templates"⟩]
  return .list (uris.map .text)

/-! ## Extents -/

/-- A position as JSON. -/
def positionJson (p : Position Binary64) : Json :=
  .list (p.toList.map fun x => .real (.finite x))

/-- The members of an envelope as JSON. -/
def envelopeMembers (e : Envelope) : List (String × Json) :=
  [("lower", positionJson e.bounds.lower),
    ("upper", positionJson e.bounds.upper), ("crs", .text e.crs)]

/-- An extent as JSON. -/
def extentJson : Option Envelope → Json
  | some e => .object (envelopeMembers e)
  | none => .null

/-- Adds the area of a box. -/
def mergeBox (g : Geodesy) (m : Merger) (box : Box) : Activity Merger := do
  let e ← work box.normalize
  prepareOperation g (some e.crs) m.reference
  work (m.add g e)

/-- The extent of boxes in the system that a setting names. -/
def mergeAll (g : Geodesy) (setting : Json) (boxes : List Box) :
    Activity (Option Envelope) := do
  if Settings.isReference setting then
    let m ← boxes.foldlM (mergeBox g) ⟨Settings.reference? setting, none⟩
    return m.merged
  else give (Dataset.withoutReference boxes)

/-- **The extent of sample data.** -/
def extentOf (s : Surroundings) (path : String) : Activity Json := do
  let d ← give (Dataset.ofFile s.files path)
  note d.notices
  let setting := (← settings).canonicalCrs
  note (Box.notices d.boxes)
  return extentJson (← mergeAll s.geodesy setting (← give d.boxes))

/-! ## Intersections -/

/-- The boxes in a response. -/
def boxesIn (s : Surroundings) (source : String) :
    Activity (List Box) := do
  let root ← give (s.files.document source)
  let boxes := Box.findAll root Box.everywhere
  note (Box.notices boxes)
  give boxes

/-- Whether an envelope has a point in common with a reference envelope,
as JSON. -/
def checkEnvelope (g : Geodesy) (reference candidate : Envelope) :
    Activity Json := do
  prepareOperation g (some candidate.crs) (some reference.crs)
  let found ← work (intersects g reference candidate)
  unless found do note [missNotice reference candidate]
  return .object (envelopeMembers candidate ++ [("intersects", .bool found)])

/-- **The boxes of a response, checked against an area.** -/
def checkBoxes (s : Surroundings) (source : String)
    (bounds : Bounds Extended) (crs : String) : Activity Json := do
  let reference ← work (Envelope.ofBounds bounds (some crs))
  let boxes ← boxesIn s source
  let candidates ← work (boxes.mapM Box.normalize)
  return .list (← candidates.mapM (checkEnvelope s.geodesy reference))

/-- **What a task gives.** -/
def Task.perform (s : Surroundings) : Task → Activity Json
  | templates source => describeTemplates s source
  | buildUri source params withParam mediaType =>
    buildUris s source params withParam mediaType
  | extent path => extentOf s path
  | intersects source bounds crs => checkBoxes s source bounds crs

end GeoCatalogue.Command
