/-!
# Hexadecimal digits

Escapes write code points and octets with a fixed number of hexadecimal
digits, in small letters or in capitals.
-/
namespace GeoCatalogue.Text

/-- Whether a character is one of the digits `0`–`9`, `A`–`F`, `a`–`f`. -/
def isHexDigit (c : Char) : Bool :=
  ('0' ≤ c && c ≤ '9') || ('A' ≤ c && c ≤ 'F') || ('a' ≤ c && c ≤ 'f')

/-- The value of a hexadecimal digit, absent on any other character. -/
def hexValue? (c : Char) : Option Nat :=
  if '0' ≤ c && c ≤ '9' then some (c.toNat - '0'.toNat)
  else if 'A' ≤ c && c ≤ 'F' then some (c.toNat - 'A'.toNat + 10)
  else if 'a' ≤ c && c ≤ 'f' then some (c.toNat - 'a'.toNat + 10)
  else none

/-- The digit of a value below sixteen, in small letters. -/
def smallHexDigit (value : Nat) : Char :=
  if value < 10 then Char.ofNat ('0'.toNat + value)
  else Char.ofNat ('a'.toNat + (value - 10))

/-- The digit of a value below sixteen, in capitals. -/
def capitalHexDigit (value : Nat) : Char :=
  if value < 10 then Char.ofNat ('0'.toNat + value)
  else Char.ofNat ('A'.toNat + (value - 10))

/-- **A number in a fixed count of hexadecimal digits**, the most
significant first; higher digits are cut off. -/
def hexDigits (digit : Nat → Char) : Nat → Nat → List Char
  | 0, _ => []
  | width + 1, value => hexDigits digit width (value / 16) ++ [digit (value % 16)]

end GeoCatalogue.Text
