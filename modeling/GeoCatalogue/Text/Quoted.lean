import GeoCatalogue.Text.Hexadecimal
import GeoCatalogue.Text.Printable

/-!
# Quoted text

Messages show a text between quotes, in a form that can be read without
ambiguity. Single quotes are used, unless the text holds a single quote
and no double quote. The quote in use and the backslash are escaped by a
backslash; line feed, carriage return and tab have escapes of their own;
any other unprintable character is escaped by its code point, in two,
four or eight hexadecimal digits.
-/
namespace GeoCatalogue.Text

/-- **The quote a text is put into.** -/
def quoteMark (cs : List Char) : Char :=
  if cs.contains '\'' && !cs.contains '"' then '"' else '\''

/-- A code point as an escape: two digits, or four, or eight. -/
def codePointEscape (code : Nat) : List Char :=
  if code < 0x100 then '\\' :: 'x' :: hexDigits smallHexDigit 2 code
  else if code < 0x10000 then '\\' :: 'u' :: hexDigits smallHexDigit 4 code
  else '\\' :: 'U' :: hexDigits smallHexDigit 8 code

/-- One character between quotes of a given kind. -/
def quotedChar (mark c : Char) : List Char :=
  if c == mark || c == '\\' then ['\\', c]
  else if c == '\n' then ['\\', 'n']
  else if c == '\r' then ['\\', 'r']
  else if c == '\t' then ['\\', 't']
  else if isPrintable c then [c]
  else codePointEscape c.toNat

/-- **A text in quotes.** -/
def quoted (text : String) : String :=
  let cs := text.toList
  let mark := quoteMark cs
  String.ofList (mark :: cs.flatMap (quotedChar mark) ++ [mark])

/-- A text in quotes, or the word for an absent one. -/
def quotedOption : Option String → String
  | some text => quoted text
  | none => "None"

end GeoCatalogue.Text
