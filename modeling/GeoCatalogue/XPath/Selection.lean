import GeoCatalogue.Fault
import GeoCatalogue.Vocabulary
import GeoCatalogue.XPath.Reading

/-!
# Searching documents

A document is searched by the written form of a path expression. The
labels of the standard vocabularies can be used in it as they are; other
bindings may be added or take their place.

* `Selected` – what a search finds: elements, or texts of attributes and
  text nodes, or the one value of a function;
* `search` – all that a written expression finds.
-/
namespace GeoCatalogue.XPath

open Xml

/-- **Something that a search finds.** -/
inductive Selected where
  /-- An element. -/
  | element (element : Element)
  /-- A text. -/
  | text (value : String)
  /-- A number. -/
  | number (value : Rat)
  /-- A truth value. -/
  | truth (value : Bool)

/-- What a search finds at a node; documents and remarks are passed
over. -/
def Node.selected? (node : Node) : Option Selected :=
  match node.item with
  | .element e => some (.element e)
  | .attribute _ value => some (.text value)
  | .text value => some (.text value)
  | .document _ | .remark => none

/-- **What a value consists of.** -/
def Value.selected (value : Value) : List Selected :=
  match value with
  | .nodes groups => (inOrder groups.flatten).filterMap Node.selected?
  | .number value => [.number value]
  | .text value => [.text value]
  | .truth value => [.truth value]

/-- **What an expression finds in a document.** -/
def searchFor (bindings : Bindings) (root : Element) (expr : Expr) :
    Except Fault (List Selected) :=
  match select bindings root expr with
  | .ok value => .ok value.selected
  | .error defect => .error (.expression defect)

/-- Whether some binding has no label. -/
def hasBindingWithoutLabel (bindings : Bindings) : Bool :=
  bindings.any fun entry => entry.1 = none || entry.1 = some ""

/-- **What a written expression finds in a document**, under bindings that
are added to the standard ones. -/
def search (root : Element) (text : String) (added : Bindings) :
    Except Fault (List Selected) :=
  if hasBindingWithoutLabel added then .error .bindingWithoutLabel
  else
    match Expr.read? text with
    | none => .error (.expression .form)
    | some expr =>
      searchFor (Vocabulary.standardBindings ++ added) root expr

end GeoCatalogue.XPath
