import GeoCatalogue.Box.Element
import GeoCatalogue.Journal.Record
import GeoCatalogue.XPath.Selection

/-!
# The boxes of a document

Boxes are looked for with a path expression and read in the order in
which they are found; the first one that cannot be read makes the search
fail.

* `Box.everywhere` – the expression for the boxes of a response;
* `Box.ofRecords` – the expression for the first boxes of the records of
  a response: the first of each kind;
* `Box.findAll` – the boxes that an expression leads to.
-/
namespace GeoCatalogue.Box

open XPath

/-- **The boxes of a response**, wherever they are. -/
def everywhere : Expr :=
  [Expr.anywhere "ows" "WGS84BoundingBox",
    .anywhere "ows11" "BoundingBox", .anywhere "ows11" "WGS84BoundingBox",
    .anywhere "georss" "box", .anywhere "gml" "Envelope",
    .anywhere "gml31" "Envelope"].foldl .union
    (.anywhere "ows" "BoundingBox")

/-- The first box of a kind of every record. -/
def firstOfRecords (localName : String) : Expr :=
  ((Expr.anywhere "csw" "Record").inside "ows" localName).first

/-- **The first boxes of the records of a response**, one of each
kind. -/
def ofRecords : Expr :=
  .union (firstOfRecords "BoundingBox") (firstOfRecords "WGS84BoundingBox")

/-- The box at something that a search has found. -/
def readSelected : Selected → Except Fault Box
  | .element e => read e
  | _ => .error .notAnElement

/-- **The boxes that an expression leads to.** -/
def findAll (root : Xml.Element) (expr : Expr) : Except Fault (List Box) := do
  let found ← searchFor Vocabulary.standardBindings root expr
  found.mapM readSelected

/-- The boxes that a written expression leads to. -/
def findBy (root : Xml.Element) (text : String) :
    Except Fault (List Box) := do
  let found ← search root text []
  found.mapM readSelected

/-- The records of a search for boxes. -/
def notices (boxes : Except Fault (List Box)) : List Journal.Record :=
  match boxes with
  | .ok found =>
    [⟨.debug, .boxes, "Found " ++ toString found.length ++
      " bounding boxes"⟩]
  | .error _ => []

end GeoCatalogue.Box
