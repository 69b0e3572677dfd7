import GeoCatalogue.Xml.Nodes

/-!
# Nodes of a document

A **node** is a part of a document – the document itself, an element, an
attribute, a text or a remark – together with its place in document
order. The places number the nodes of the document one after the other:
an element comes before its attributes, and those before what is inside.

* `Node.ofDocument` – the document with a given document element;
* `Node.children`, `Node.descendants`, `Node.attributes` – where steps
  lead;
* `Node.text` – the text of a node;
* `inOrder` – nodes in document order, each once.
-/
namespace GeoCatalogue.XPath

open Xml

/-- **What a node is.** -/
inductive Item where
  | document (content : Content)
  | element (element : Element)
  | attribute (name : QName) (value : String)
  | text (value : String)
  | remark

/-- **A node**: its place in document order and what it is. -/
structure Node where
  /-- The place in document order. -/
  place : Nat
  /-- What is at that place. -/
  item : Item

namespace Node

/-- How many places a content takes. -/
def extent : Content → Nat
  | .nothing => 0
  | .element tag inside after =>
    1 + tag.attributes.length + extent inside + extent after
  | .text _ after => 1 + extent after
  | .remark after => 1 + extent after

/-- The nodes on the first level of a content that starts at a place. -/
def firstLevel (place : Nat) : Content → List Node
  | .nothing => []
  | .element tag inside after =>
    ⟨place, .element ⟨tag, inside⟩⟩ ::
      firstLevel (place + 1 + tag.attributes.length + extent inside) after
  | .text value after =>
    ⟨place, .text value⟩ :: firstLevel (place + 1) after
  | .remark after => ⟨place, .remark⟩ :: firstLevel (place + 1) after

/-- The nodes on all levels of a content that starts at a place. -/
def allLevels (place : Nat) : Content → List Node
  | .nothing => []
  | .element tag inside after =>
    ⟨place, .element ⟨tag, inside⟩⟩ ::
      (allLevels (place + 1 + tag.attributes.length) inside ++
        allLevels (place + 1 + tag.attributes.length + extent inside) after)
  | .text value after =>
    ⟨place, .text value⟩ :: allLevels (place + 1) after
  | .remark after => ⟨place, .remark⟩ :: allLevels (place + 1) after

/-- **The document** with a document element. -/
def ofDocument (root : Element) : Node :=
  ⟨0, .document (.element root.tag root.inside .nothing)⟩

/-- The document element, as a node of its document. -/
def ofRoot (root : Element) : Node :=
  ⟨1, .element root⟩

/-- The nodes one level below a node, in document order. -/
def children (node : Node) : List Node :=
  match node.item with
  | .document content => firstLevel (node.place + 1) content
  | .element e =>
    firstLevel (node.place + 1 + e.tag.attributes.length) e.inside
  | _ => []

/-- The nodes on all levels below a node, in document order. -/
def descendants (node : Node) : List Node :=
  match node.item with
  | .document content => allLevels (node.place + 1) content
  | .element e =>
    allLevels (node.place + 1 + e.tag.attributes.length) e.inside
  | _ => []

/-- The attributes of a node, in order. -/
def attributes (node : Node) : List Node :=
  match node.item with
  | .element e =>
    e.tag.attributes.mapIdx fun index (name, value) =>
      ⟨node.place + 1 + index, .attribute name value⟩
  | _ => []

/-- **The text of a node.** -/
def text (node : Node) : String :=
  match node.item with
  | .document content => content.allText
  | .element e => e.inside.allText
  | .attribute _ value => value
  | .text value => value
  | .remark => ""

/-- The name of a node, if it has one. -/
def name? (node : Node) : Option QName :=
  match node.item with
  | .element e => some e.name
  | .attribute name _ => some name
  | _ => none

/-- Whether a node is a text. -/
def isText (node : Node) : Bool :=
  match node.item with
  | .text _ => true
  | _ => false

end Node

/-- A list of nodes in document order without the ones whose place is
that of the node in front. -/
def withoutRepeats : List Node → List Node
  | [] => []
  | node :: rest =>
    match withoutRepeats rest with
    | next :: others =>
      if next.place = node.place then node :: others
      else node :: next :: others
    | [] => [node]

/-- **Nodes in document order**, each place once. -/
def inOrder (nodes : List Node) : List Node :=
  withoutRepeats (nodes.mergeSort fun a b => a.place ≤ b.place)

end GeoCatalogue.XPath
