import GeoCatalogue.Box.Search
import GeoCatalogue.Extent
import GeoCatalogue.Files
import GeoCatalogue.Settings.Basic

/-!
# Sample data

The sample data of a catalogue is a document with records. Its **extent**
is the smallest envelope that holds the first boxes of all records. It is
worked out when it is first asked for and kept from then on – also when
there are no boxes, and so no extent; a failure is not kept.

* `Dataset.ofFile` – the data in a file;
* `Dataset.extentIn` – the extent of a document;
* `Dataset.extentUnder` – the extent in the system that a setting names;
* `Dataset.access` – the extent, worked out or kept, and the data
  afterwards;
* `Dataset.values` – the texts of the elements of a name.
-/
namespace GeoCatalogue

open Xml XPath

/-- **Sample data.** -/
structure Dataset where
  /-- The document element. -/
  root : Element
  /-- The extent, once it has been worked out. -/
  kept : Option (Option Envelope) := none

namespace Dataset

/-- **The data in a file.** -/
def ofFile (files : Files) (path : String) : Except Fault Dataset :=
  match files.content? path with
  | none => .error (.missingData (Path.absolute files.directory path))
  | some content => do
    let root ← Files.parse content
    .ok ⟨root, none⟩

/-- The record of a document with another document element. -/
def notices (d : Dataset) : List Journal.Record :=
  let found := d.root.name.localName
  if found = "GetRecordsResponse" then []
  else
    [⟨.warning, .dataset,
      "File does not contain a GetRecords response: " ++ found⟩]

/-- The first boxes of the records. -/
def boxes (d : Dataset) : Except Fault (List Box) :=
  Box.findAll d.root Box.ofRecords

/-- **The extent of the records** in the system of a reference; absent if
there are no boxes. -/
def extentIn (g : Geodesy) (reference : Option String) (d : Dataset) :
    Except Fault (Option Envelope) := do
  let found ← d.boxes
  let merger ← Fault.lift (mergeBoxes g reference found)
  .ok merger.merged

/-- What comes of boxes if the setting in the place of a reference is none.
Nobody looks at it before the first box has to be brought to its system, and
by then that box is an envelope with an identifier. -/
def withoutReference : List Box → Except Fault (Option Envelope)
  | [] => .ok none
  | box :: _ => do
    let e ← Fault.lift box.normalize
    let _ ← Fault.lift (Crs.normalize (some e.crs))
    .error .notAReference

/-- **The extent of the records** in the system that a setting names. -/
def extentUnder (g : Geodesy) (setting : Json) (d : Dataset) :
    Except Fault (Option Envelope) :=
  if Settings.isReference setting then
    d.extentIn g (Settings.reference? setting)
  else do
    let found ← d.boxes
    withoutReference found

/-- **The extent, worked out or kept**, and the data afterwards. -/
def access (g : Geodesy) (reference : Option String) (d : Dataset) :
    Except Fault (Option Envelope) × Dataset :=
  match d.kept with
  | some extent => (.ok extent, d)
  | none =>
    match d.extentIn g reference with
    | .ok extent => (.ok extent, { d with kept := some extent })
    | .error fault => (.error fault, d)

/-- The text of something that a search has found. -/
def valueOf : Selected → String
  | .element e => Text.trim e.leadingText
  | .text value => Text.trim value
  | _ => ""

/-- **The texts of the elements of a name**, wherever they are. -/
def values (d : Dataset) (label localName : String) :
    Except Fault (List String) := do
  let found ← searchFor Vocabulary.standardBindings d.root
    (.anywhere label localName)
  .ok (found.map valueOf)

/-- The identifiers of the records. -/
def identifiers (d : Dataset) : Except Fault (List String) :=
  d.values "dc" "identifier"

/-- The titles of the records. -/
def titles (d : Dataset) : Except Fault (List String) :=
  d.values "dc" "title"

/-- The topics of the records. -/
def topics (d : Dataset) : Except Fault (List String) :=
  d.values "dc" "subject"

end Dataset

end GeoCatalogue
