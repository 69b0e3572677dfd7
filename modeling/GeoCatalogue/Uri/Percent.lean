import GeoCatalogue.Text.Hexadecimal
import GeoCatalogue.Uri.Character

/-!
# Percent escapes

An octet is escaped by a percent sign and its two hexadecimal digits.
`encode` escapes every octet of the UTF-8 form of a text, except for the
unreserved characters; `escapesAreWellFormed` says that every percent sign
of a text starts an escape.
-/
namespace GeoCatalogue.Uri

open Text

/-- The escape of an octet, with capital digits. -/
def escape (octet : UInt8) : List Char :=
  '%' :: hexDigits capitalHexDigit 2 octet.toNat

/-- A character in an escaped text. -/
def encodeChar (c : Char) : List Char :=
  if isUnreserved c then [c]
  else (String.utf8EncodeChar c).flatMap escape

/-- The characters of an escaped text. -/
def encodeChars (cs : List Char) : List Char :=
  cs.flatMap encodeChar

/-- **A text with everything escaped but the unreserved characters.** -/
def encode (text : String) : String :=
  String.ofList (encodeChars text.toList)

/-- **Whether every percent sign is followed by two hexadecimal
digits.** -/
def escapesAreWellFormed : List Char → Bool
  | [] => true
  | '%' :: rest =>
    (match rest with
      | high :: low :: _ => isHexDigit high && isHexDigit low
      | _ => false) && escapesAreWellFormed rest
  | _ :: rest => escapesAreWellFormed rest

end GeoCatalogue.Uri
