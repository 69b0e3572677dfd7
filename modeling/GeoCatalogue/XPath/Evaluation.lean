import GeoCatalogue.Number.Decimal
import GeoCatalogue.XPath.Expr
import GeoCatalogue.XPath.Node

/-!
# Evaluation of path expressions

An expression is evaluated at a node of a document, under bindings of
the labels in it. A step selects a **group** of nodes for each node that
the path leads to so far, a condition is tested within its group – a
number is the position of a node in the group – and the value of the
whole path is all groups together, in document order.

* `Value` – what an expression gives;
* `Expr.evaluate` – the value of an expression at a node;
* `select` – the value of an expression at the document element.
-/
namespace GeoCatalogue.XPath

open Xml

/-- **Why an expression has no value.** -/
inductive Defect where
  /-- The text is no expression. -/
  | form
  /-- A label that stands for no namespace. -/
  | undefinedLabel (label : String)
  /-- Nodes are needed, and something else is given. -/
  | notNodes
deriving DecidableEq, Repr

/-- **The value of an expression.** -/
inductive Value where
  /-- Nodes, in the groups that the last step has selected. -/
  | nodes (groups : List (List Node))
  /-- A number. -/
  | number (value : Rat)
  /-- A text. -/
  | text (value : String)
  /-- A truth value. -/
  | truth (value : Bool)

namespace Value

/-- The nodes of a value, in document order. -/
def nodes? : Value → Option (List Node)
  | nodes groups => some (inOrder groups.flatten)
  | _ => none

/-- Whether a value holds: it is true, not zero, or not empty. -/
def holds : Value → Bool
  | nodes groups => groups.any (!·.isEmpty)
  | number value => value != 0
  | text value => value != ""
  | truth value => value

/-- The text of a number, without decimal places if it is whole. -/
def numberText (value : Rat) : String :=
  if value.den = 1 then toString value.num else (Extended.ofRat value).text

/-- The text of a value; of nodes, it is that of the first one. -/
def asText : Value → String
  | nodes groups => ((inOrder groups.flatten).head?.map Node.text).getD ""
  | number value => numberText value
  | text value => value
  | truth value => if value then "true" else "false"

end Value

/-- The namespace of a label. -/
def namespaceOf (bindings : Bindings) (label : String) :
    Except Defect String :=
  match bindings.get? (some label) with
  | some namespaceName => .ok namespaceName
  | none => .error (.undefinedLabel label)

/-- **Whether a node passes a test**, as a function of the node; the
labels in the test are looked up first. -/
def NodeTest.passes (bindings : Bindings) :
    NodeTest → Except Defect (Node → Bool)
  | node => .ok fun _ => true
  | text => .ok Node.isText
  | anyName => .ok fun n => n.name?.isSome
  | anyIn label => do
    let namespaceName ← namespaceOf bindings label
    .ok fun n => n.name?.any (·.namespaceName == namespaceName)
  | named none localName => .ok fun n => n.name? == some ⟨"", localName⟩
  | named (some label) localName => do
    let namespaceName ← namespaceOf bindings label
    .ok fun n => n.name? == some ⟨namespaceName, localName⟩

/-- The nodes on an axis, in document order. -/
def Axis.nodes (node : Node) : Axis → List Node
  | self => [node]
  | child => node.children
  | descendant => node.descendants
  | descendantOrSelf => node :: node.descendants
  | attributes => node.attributes

/-- Whether a condition keeps the node at a position of its group. -/
def keeps (position : Nat) : Value → Bool
  | .number value => value == position
  | value => value.holds

/-- The nodes of a group that a condition keeps; the first of them stands
at the given position. -/
def keepNodes (condition : Node → Except Defect Value) (position : Nat) :
    List Node → Except Defect (List Node)
  | [] => .ok []
  | node :: rest => do
    let value ← condition node
    let others ← keepNodes condition (position + 1) rest
    .ok (if keeps position value then node :: others else others)

/-- The nodes of a value that has to be nodes. -/
def Value.needNodes (value : Value) : Except Defect (List Node) :=
  match value.nodes? with
  | some found => .ok found
  | none => .error .notNodes

/-- The groups of a value that has to be nodes. -/
def Value.needGroups : Value → Except Defect (List (List Node))
  | .nodes groups => .ok groups
  | _ => .error .notNodes

/-- **The value of an expression at a node** of a document. -/
def Expr.evaluate (bindings : Bindings) (document : Node) :
    Expr → Node → Except Defect Value
  | .document, _ => .ok (.nodes [[document]])
  | .context, node => .ok (.nodes [[node]])
  | .step path axis test, node => do
    let starts ← (← path.evaluate bindings document node).needNodes
    let passes ← test.passes bindings
    .ok (.nodes (starts.map fun start => (axis.nodes start).filter passes))
  | .condition path predicate, node => do
    let groups ← (← path.evaluate bindings document node).needGroups
    let kept ← groups.mapM
      (keepNodes (predicate.evaluate bindings document) 1)
    .ok (.nodes kept)
  | .union left right, node => do
    let leftNodes ← (← left.evaluate bindings document node).needNodes
    let rightNodes ← (← right.evaluate bindings document node).needNodes
    .ok (.nodes [leftNodes ++ rightNodes])
  | .count argument, node => do
    let nodes ← (← argument.evaluate bindings document node).needNodes
    .ok (.number nodes.length)
  | .boolean argument, node => do
    .ok (.truth (← argument.evaluate bindings document node).holds)
  | .negation argument, node => do
    .ok (.truth !(← argument.evaluate bindings document node).holds)
  | .string argument, node => do
    .ok (.text (← argument.evaluate bindings document node).asText)
  | .number value, _ => .ok (.number value)

/-- **The value of an expression at the document element.** -/
def select (bindings : Bindings) (root : Element) (expr : Expr) :
    Except Defect Value :=
  expr.evaluate bindings (.ofDocument root) (.ofRoot root)

end GeoCatalogue.XPath
