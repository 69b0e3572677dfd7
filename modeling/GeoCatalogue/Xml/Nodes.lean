import GeoCatalogue.Name.Bindings
import GeoCatalogue.Name.Qualified
import GeoCatalogue.Text.Blank

/-!
# XML trees

The content of an element is a sequence of nodes: elements, texts and
remarks – comments and processing instructions, which are kept only
because they part one text from the next. `Nodes` writes the sequence
down node by node, so a tree is one inductive type and every function on
it is a recursion on the tree.

* `Xml.Tag` – the name of an element, its attributes and the namespace
  bindings in scope;
* `Xml.Element` – a tag with the content below it;
* `Nodes.children`, `Nodes.descendants` – the elements of a content, on
  its first level and on all levels, in document order;
* `Element.text`, `Element.leadingText` – the text of an element.

A namespace that is the empty text stands for no namespace.
-/
namespace GeoCatalogue

/-- The printed name of an element: its namespace in braces, if it has
one, and its local name. -/
def QName.tag (name : QName) : String :=
  if name.namespaceName = "" then name.localName else name.text

namespace Xml

/-- **A sequence of nodes**, whose elements have tags of a kind. -/
inductive Nodes (τ : Type) where
  /-- No nodes. -/
  | nothing
  /-- An element: its tag, what is inside and what comes after. -/
  | element (tag : τ) (inside after : Nodes τ)
  /-- A text and what comes after. -/
  | text (value : String) (after : Nodes τ)
  /-- A comment or a processing instruction and what comes after. -/
  | remark (after : Nodes τ)

/-- **The tag of an element.** -/
structure Tag where
  /-- The name of the element. -/
  name : QName
  /-- The names and values of the attributes, in order. -/
  attributes : List (QName × String)
  /-- The namespace bindings that hold at the element. -/
  scope : Bindings

/-- The content of an element. -/
abbrev Content := Nodes Tag

/-- **An element**: its tag and what is inside. -/
structure Element where
  /-- The tag. -/
  tag : Tag
  /-- The content. -/
  inside : Content

namespace Nodes

variable {τ : Type}

/-- A sequence with a text in front, joined with a text that already
stands there. -/
def withText (value : String) : Nodes τ → Nodes τ
  | text next after => text (value ++ next) after
  | nodes => if value = "" then nodes else text value nodes

/-- **All text in a content**, on all levels, in document order. -/
def allText : Nodes τ → String
  | nothing => ""
  | element _ inside after => inside.allText ++ after.allText
  | text value after => value ++ after.allText
  | remark after => after.allText

/-- The text in front of the first element or remark of a content. -/
def leadingText : Nodes τ → String
  | text value after => value ++ after.leadingText
  | _ => ""

end Nodes

/-- **The elements on the first level** of a content. -/
def Nodes.children : Content → List Element
  | .nothing => []
  | .element tag inside after => ⟨tag, inside⟩ :: after.children
  | .text _ after => after.children
  | .remark after => after.children

/-- **The elements on all levels** of a content, in document order. -/
def Nodes.descendants : Content → List Element
  | .nothing => []
  | .element tag inside after =>
    ⟨tag, inside⟩ :: (inside.descendants ++ after.descendants)
  | .text _ after => after.descendants
  | .remark after => after.descendants

namespace Element

open Text

/-- The name of an element. -/
def name (e : Element) : QName :=
  e.tag.name

/-- **The value of an attribute**, given its local name; the attribute
has no namespace. -/
def attribute? (e : Element) (localName : String) : Option String :=
  e.tag.attributes.lookup ⟨"", localName⟩

/-- **The text of an element**: all text below it, without the blanks at
its two ends. -/
def text (e : Element) : String :=
  trim e.inside.allText

/-- The text in front of the first element or remark inside. -/
def leadingText (e : Element) : String :=
  e.inside.leadingText

/-- The elements below an element, itself included, in document order. -/
def withDescendants (e : Element) : List Element :=
  e :: e.inside.descendants

/-- The elements on the first level with a name. -/
def childrenNamed (e : Element) (name : QName) : List Element :=
  e.inside.children.filter (·.name == name)

/-- The first element on the first level with a name. -/
def childNamed? (e : Element) (name : QName) : Option Element :=
  e.inside.children.find? (·.name == name)

/-- The elements below an element with a name, in document order. -/
def descendantsNamed (e : Element) (name : QName) : List Element :=
  e.inside.descendants.filter (·.name == name)

end Element

end Xml

end GeoCatalogue
