import GeoCatalogue.Json
import GeoCatalogue.Number.Reading
import GeoCatalogue.Text.Quoted

/-!
# Values in messages

How the values of settings, and the arguments of messages, are shown: the
kind of a value by its name, and the value itself with texts in quotes.

A whole number is printed only if it is not too long. The limit is the one
for reading whole numbers, and a single number beyond it is enough for a
list or an object to have no printed form.
-/
namespace GeoCatalogue

open Text

/-- The name of the kind of a value. -/
def Json.kindText : Json → String
  | .null => "NoneType"
  | .bool _ => "bool"
  | .integer _ => "int"
  | .real _ => "float"
  | .text _ => "str"
  | .list _ => "list"
  | .object _ => "dict"

mutual

/-- **The printed form of a value** in a message. -/
def Json.display : Json → String
  | .null => "None"
  | .bool value => if value then "True" else "False"
  | .integer value => toString value
  | .real value => value.text
  | .text value => quoted value
  | .list items => "[" ++ ", ".intercalate (Json.displayItems items) ++ "]"
  | .object members =>
    "\x7b" ++ ", ".intercalate (Json.displayMembers members) ++ "\x7d"

/-- The printed items of a list. -/
def Json.displayItems : List Json → List String
  | [] => []
  | item :: rest => item.display :: Json.displayItems rest

/-- The printed members of an object. -/
def Json.displayMembers : List (String × Json) → List String
  | [] => []
  | (name, value) :: rest =>
    (quoted name ++ ": " ++ value.display) :: Json.displayMembers rest

end

mutual

/-- **Whether a value has a printed form.** -/
def Json.isPrintable : Json → Bool
  | .integer value => Number.isPrintable value
  | .list items => Json.arePrintable items
  | .object members => Json.membersArePrintable members
  | _ => true

/-- Whether the items of a list have printed forms. -/
def Json.arePrintable : List Json → Bool
  | [] => true
  | item :: rest => item.isPrintable && Json.arePrintable rest

/-- Whether the members of an object have printed forms. -/
def Json.membersArePrintable : List (String × Json) → Bool
  | [] => true
  | (_, value) :: rest => value.isPrintable && Json.membersArePrintable rest

end

end GeoCatalogue
