import GeoCatalogue.Number.Reading
import GeoCatalogue.Xml.Character
import GeoCatalogue.XPath.Expr

/-!
# Reading path expressions

The written form of an expression: steps divided by slashes, a double
slash for any number of levels, an at sign for attributes, a full stop
for the node itself, names with labels, the star for any name, conditions
in brackets, the bar for unions, and function calls. White space may
stand between all of these.

`Expr.read?` gives the expression that a text stands for, if any.
-/
namespace GeoCatalogue.XPath

open Xml

namespace Reading

/-- **Scanning**: taking something from the front of a text. -/
abbrev Scan (α : Type) := StateT (List Char) Option α

/-- Drops the white space at the front. -/
def space : Scan Unit :=
  modify (·.dropWhile isXmlSpace)

/-- The text after a mark, if the text starts with it. -/
def afterMark? : List Char → List Char → Option (List Char)
  | [], cs => some cs
  | _ :: _, [] => none
  | m :: mark, c :: cs => if m = c then afterMark? mark cs else none

/-- Whether a mark stands at the front, white space ignored; if so, it is
taken. -/
def takeMark (mark : String) : Scan Bool := do
  space
  match afterMark? mark.toList (← get) with
  | some after => set after; return true
  | none => return false

/-- A mark that has to stand at the front. -/
def expect (mark : String) : Scan Unit := do
  if !(← takeMark mark) then failure

/-- The characters of a class at the front. -/
def takeAll (p : Char → Bool) : Scan (List Char) := do
  let cs ← get
  set (cs.dropWhile p)
  return cs.takeWhile p

/-- A name without a colon at the front. -/
def takeName : Scan String := do
  let name ← takeAll isNameChar
  if isPlainName name then return String.ofList name else failure

/-- Whether the text starts with a character of a class. -/
def startsWith (p : Char → Bool) : Scan Bool :=
  return (← get).head?.any p

/-- The first character that is no white space. -/
def next? : Scan (Option Char) := do
  space
  return (← get).head?

/-- Whether a text at the front is the name of a call: an opening
parenthesis follows. -/
def isCall : Scan Bool :=
  return (← next?) == some '('

/-- **A test of a step.** -/
def takeTest : Scan NodeTest := do
  if ← takeMark "*" then return .anyName
  let name ← takeName
  if ← startsWith (· == ':') then
    modify (·.drop 1)
    if ← startsWith (· == '*') then
      modify (·.drop 1)
      return .anyIn name
    else return .named (some name) (← takeName)
  else if ← isCall then
    expect "("
    expect ")"
    if name == "text" then return .text
    else if name == "node" then return .node
    else failure
  else return .named none name

/-- The axis that is written out at the front, the axis of attributes for
an at sign, and else that of the children. -/
def takeAxis : Scan Axis := do
  if ← takeMark "@" then return .attributes
  else if ← takeMark "child::" then return .child
  else if ← takeMark "descendant-or-self::" then return .descendantOrSelf
  else if ← takeMark "descendant::" then return .descendant
  else if ← takeMark "attribute::" then return .attributes
  else if ← takeMark "self::" then return .self
  else return .child

/-- The number that digits, a full stop and more digits stand for. -/
def takeNumber : Scan Rat := do
  let whole ← takeAll Text.isAsciiDigit
  if ← startsWith (· == '.') then
    modify (·.drop 1)
    let places ← takeAll Text.isAsciiDigit
    return mkRat (Number.digitsValue (whole ++ places)) (Nat.pow 10 places.length)
  else return mkRat (Number.digitsValue whole) 1

/-- The function of a name, if there is one. -/
def function? (name : String) : Option (Expr → Expr) :=
  [("count", Expr.count), ("boolean", .boolean), ("not", .negation),
    ("string", .string)].lookup name

/-- Whether the text starts with a name and an opening parenthesis, the
name being that of a function. -/
def startsWithCall : Scan Bool := do
  let saved ← get
  let name ← takeAll isNameChar
  let called ← isCall
  set saved
  return called && (function? (String.ofList name)).isSome

/-- Whether a step can start at the front. -/
def startsStep : Scan Bool := do
  match ← next? with
  | some c => return isNameStart c || c == '*' || c == '@' || c == '.'
  | none => return false

/-- The double slash as a step. -/
def throughAllLevels (path : Expr) : Expr :=
  .step path .descendantOrSelf .node

mutual

/-- A step on a path, with its conditions. -/
def takeStep : Nat → Expr → Scan Expr
  | 0, _ => failure
  | bound + 1, path => do
    if ← takeMark "." then return .step path .self .node
    else
      let axis ← takeAxis
      space
      let test ← takeTest
      takeConditions bound (.step path axis test)

/-- The conditions that follow a step. -/
def takeConditions : Nat → Expr → Scan Expr
  | 0, _ => failure
  | bound + 1, path => do
    if ← takeMark "[" then
      let predicate ← takeUnion bound
      expect "]"
      takeConditions bound (.condition path predicate)
    else return path

/-- The steps that follow a path. -/
def takeSteps : Nat → Expr → Scan Expr
  | 0, _ => failure
  | bound + 1, path => do
    if ← takeMark "//" then
      takeSteps bound (← takeStep bound (throughAllLevels path))
    else if ← takeMark "/" then takeSteps bound (← takeStep bound path)
    else return path

/-- A path, a number or a call. -/
def takePath : Nat → Scan Expr
  | 0 => failure
  | bound + 1 => do
    space
    if ← takeMark "//" then
      takeSteps bound (← takeStep bound (throughAllLevels .document))
    else if ← takeMark "/" then
      if ← startsStep then takeSteps bound (← takeStep bound .document)
      else return .document
    else if ← startsWith Text.isAsciiDigit then return .number (← takeNumber)
    else if ← startsWithCall then
      let name ← takeName
      expect "("
      match function? name with
      | some function =>
        if name == "string" && (← takeMark ")") then
          return function .context
        else
          let argument ← takeUnion bound
          expect ")"
          return function argument
      | none => failure
    else takeSteps bound (← takeStep bound .context)

/-- One path or several, divided by bars. -/
def takeUnion : Nat → Scan Expr
  | 0 => failure
  | bound + 1 => do
    let first ← takePath bound
    takeFurther bound first

/-- The paths after a bar. -/
def takeFurther : Nat → Expr → Scan Expr
  | 0, _ => failure
  | bound + 1, left => do
    if ← takeMark "|" then
      let right ← takePath bound
      takeFurther bound (.union left right)
    else return left

end

end Reading

open Reading in
/-- **The expression a text stands for.** No expression is nested deeper
than its text is long. -/
def Expr.read? (text : String) : Option Expr := do
  let cs := text.toList
  let (expr, rest) ← (takeUnion (4 * cs.length + 4)).run cs
  if (rest.dropWhile isXmlSpace).isEmpty then some expr else none

end GeoCatalogue.XPath
