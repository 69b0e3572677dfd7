import GeoCatalogue.Number.Decimal
import GeoCatalogue.Text.Hexadecimal

/-!
# JSON

The values of JavaScript Object Notation, whole numbers and numbers with
a fraction told apart, and their written form: members on lines of their
own, two spaces further in than what holds them, and every character
outside the printable ASCII range escaped by its UTF-16 code units.

* `Json` – values;
* `Json.quote` – a text between quotation marks;
* `Json.indented` – the written form of a value;
* `Json.inline` – the written form on one line.
-/
namespace GeoCatalogue

/-- **A JSON value.** -/
inductive Json where
  | null
  | bool (value : Bool)
  | integer (value : Int)
  | real (value : Extended)
  | text (value : String)
  | list (items : List Json)
  | object (members : List (String × Json))

namespace Json

open Text

/-- The escape of a UTF-16 code unit. -/
def unitEscape (unit : Nat) : List Char :=
  '\\' :: 'u' :: hexDigits smallHexDigit 4 unit

/-- The escapes of a character by its UTF-16 code units: one, or two
beyond the basic plane. -/
def codeEscape (code : Nat) : List Char :=
  if code < 0x10000 then unitEscape code
  else
    unitEscape (0xd800 + (code - 0x10000) / 0x400) ++
      unitEscape (0xdc00 + (code - 0x10000) % 0x400)

/-- A character between quotation marks. -/
def quoteChar (c : Char) : List Char :=
  if c == '"' || c == '\\' then ['\\', c]
  else if c == '\n' then ['\\', 'n']
  else if c == '\r' then ['\\', 'r']
  else if c == '\t' then ['\\', 't']
  else if c.toNat == 8 then ['\\', 'b']
  else if c.toNat == 12 then ['\\', 'f']
  else if ' ' ≤ c && c ≤ '~' then [c]
  else codeEscape c.toNat

/-- **A text between quotation marks.** -/
def quote (text : String) : String :=
  String.ofList ('"' :: text.toList.flatMap quoteChar ++ ['"'])

/-- The start of a line at a depth. -/
def lineStart (depth : Nat) : String :=
  "\n" ++ String.ofList (List.replicate (2 * depth) ' ')

/-- Members between brackets, on lines of their own. -/
def bracketed (opening closing : String) (depth : Nat)
    (members : List String) : String :=
  if members.isEmpty then opening ++ closing
  else
    opening ++ lineStart (depth + 1) ++
      (("," ++ lineStart (depth + 1)).intercalate members) ++
      lineStart depth ++ closing

mutual

/-- A value that stands at a depth. -/
def textAt (depth : Nat) : Json → String
  | null => "null"
  | bool value => if value then "true" else "false"
  | integer value => toString value
  | real value => value.text
  | text value => quote value
  | list items => bracketed "[" "]" depth (itemTexts (depth + 1) items)
  | object members =>
    bracketed "\x7b" "\x7d" depth (memberTexts (depth + 1) members)

/-- The items of a list at a depth. -/
def itemTexts (depth : Nat) : List Json → List String
  | [] => []
  | item :: rest => textAt depth item :: itemTexts depth rest

/-- The members of an object at a depth. -/
def memberTexts (depth : Nat) : List (String × Json) → List String
  | [] => []
  | (name, value) :: rest =>
    (quote name ++ ": " ++ textAt depth value) :: memberTexts depth rest

end

/-- **The written form of a value.** -/
def indented (value : Json) : String :=
  textAt 0 value

mutual

/-- **The written form of a value on one line.** -/
def inline : Json → String
  | null => "null"
  | bool value => if value then "true" else "false"
  | integer value => toString value
  | real value => value.text
  | text value => quote value
  | list items => "[" ++ ", ".intercalate (inlineItems items) ++ "]"
  | object members =>
    "\x7b" ++ ", ".intercalate (inlineMembers members) ++ "\x7d"

/-- The items of a list on one line. -/
def inlineItems : List Json → List String
  | [] => []
  | item :: rest => inline item :: inlineItems rest

/-- The members of an object on one line. -/
def inlineMembers : List (String × Json) → List String
  | [] => []
  | (name, value) :: rest =>
    (quote name ++ ": " ++ inline value) :: inlineMembers rest

end

end Json

end GeoCatalogue
