/-!
# Path expressions

A catalogue document is searched by **path expressions**, the part of
XPath 1.0 that selects nodes step by step: axes, name tests and
conditions in brackets, unions, and the functions `count`, `boolean`,
`not` and `string`.

A path is written from its last step backwards: it is a start followed
by steps, and a condition belongs to the step in front of it.
-/
namespace GeoCatalogue.XPath

/-- **Where a step goes** from a node. -/
inductive Axis where
  /-- To the node itself. -/
  | self
  /-- To the nodes one level below. -/
  | child
  /-- To the nodes on all levels below. -/
  | descendant
  /-- To the node itself and the nodes on all levels below. -/
  | descendantOrSelf
  /-- To the attributes. -/
  | attributes
deriving DecidableEq, Repr

/-- **Which of the nodes a step selects.** -/
inductive NodeTest where
  /-- All nodes. -/
  | node
  /-- Texts. -/
  | text
  /-- Elements, or attributes on their axis. -/
  | anyName
  /-- Those in the namespace of a label. -/
  | anyIn (label : String)
  /-- Those with a name, under a label or without a namespace. -/
  | named (label : Option String) (localName : String)
deriving DecidableEq, Repr

/-- **An expression.** -/
inductive Expr where
  /-- The path to the document. -/
  | document
  /-- The path to the node that the expression is evaluated at. -/
  | context
  /-- A path with one more step. -/
  | step (path : Expr) (axis : Axis) (test : NodeTest)
  /-- A path with a condition on its last step. -/
  | condition (path predicate : Expr)
  /-- The nodes of two expressions together. -/
  | union (left right : Expr)
  /-- How many nodes there are. -/
  | count (argument : Expr)
  /-- Whether there are nodes, or whether a value is not empty. -/
  | boolean (argument : Expr)
  /-- Whether there are no nodes, or whether a value is empty. -/
  | negation (argument : Expr)
  /-- The text of a value. -/
  | string (argument : Expr)
  /-- A number. -/
  | number (value : Rat)
deriving DecidableEq, Repr

/-- The path to all elements of a name, wherever they are. -/
def Expr.anywhere (label localName : String) : Expr :=
  .step (.step .document .descendantOrSelf .node) .child
    (.named (some label) localName)

/-- The path to the elements of a name below a path. -/
def Expr.inside (path : Expr) (label localName : String) : Expr :=
  .step path .child (.named (some label) localName)

/-- The first node of each group that the last step of a path selects. -/
def Expr.first (path : Expr) : Expr :=
  .condition path (.number 1)

end GeoCatalogue.XPath
