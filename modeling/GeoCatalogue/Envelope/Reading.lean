import GeoCatalogue.Envelope.Basic
import GeoCatalogue.Fault
import GeoCatalogue.Json
import GeoCatalogue.Number.Reading

/-!
# Coordinates as values

Where coordinates are given as values rather than in a document, a number
is taken as it is, a text is read as a number, and a truth value counts
as one or zero. A position is a list of two of them, or a text of two
digits; bounds are a list of four.
-/
namespace GeoCatalogue

/-- **The number that a value stands for.** -/
def Json.coordinate : Json → Except NumberDefect Extended
  | .integer value =>
    match Extended.ofInt value with
    | .finite x => .ok (.finite x)
    | _ => .error .tooLarge
  | .real value => .ok value
  | .bool value => .ok (Extended.ofInt (if value then 1 else 0))
  | .text value =>
    match Extended.ofText? value with
    | some x => .ok x
    | none => .error .text
  | _ => .error .kind

/-- The values that a list, or the single characters that a text consists
of. -/
def Json.items : Json → Except NumberDefect (List Json)
  | .list items => .ok items
  | .text value =>
    .ok (value.toList.map fun c => .text (String.ofList [c]))
  | .object members => .ok (members.map fun (name, _) => .text name)
  | _ => .error .kind

/-- **The position that a value stands for.** -/
def Json.position (value : Json) :
    Except NumberDefect (Position Extended) := do
  let items ← value.items
  match items with
  | [x, y] => do
    let first ← x.coordinate
    let second ← y.coordinate
    .ok ⟨first, second⟩
  | _ => .error .count

/-- **The bounds of a lower and an upper corner.** -/
def Json.corners (lower upper : Json) :
    Except NumberDefect (Bounds Extended) := do
  let low ← lower.position
  let high ← upper.position
  .ok ⟨low, high⟩

/-- **The bounds that a list of four stands for.** -/
def Json.bounds (value : Json) : Except NumberDefect (Bounds Extended) := do
  let items ← value.items
  match items with
  | [a, b, c, d] => Json.corners (.list [a, b]) (.list [c, d])
  | _ => .error .count

end GeoCatalogue
