import GeoCatalogue.Number.Decimal
import GeoCatalogue.Text.Blank
import GeoCatalogue.Text.DecimalDigit

/-!
# Numbers in texts

Coordinates and offsets arrive as texts. The two grammars share their
lexical rules:

* the digits of every script count as digits, and every blank outside
  the ASCII range as a space (`plainForm`);
* white space around the number is ignored;
* an underscore may stand between two digits (`withoutGroupMarks`).

`readInteger?` then takes a sign and digits, at most
`longestInteger` of them. `Extended.ofText?` takes a sign and either
digits with an optional point and an optional power of ten, or one of
the words `inf`, `infinity` and `nan` in any letter case, and gives the
number of the 64-bit format nearest to what is written.
-/
namespace GeoCatalogue

namespace Number

open Text

/-- The ASCII form of a character: its digit, a space for a blank, and a
question mark for any other character outside ASCII. -/
def plainChar (c : Char) : Char :=
  if c.toNat < 127 then c
  else if isBlank c then ' '
  else match digitValue? c with
    | some value => digitChar value
    | none => '?'

/-- A text in its ASCII form. -/
def plainForm (text : String) : List Char :=
  text.toList.map plainChar

/-- White space around a number in ASCII form. -/
def isNumberSpace (c : Char) : Bool :=
  c == ' ' || (0x09 ≤ c.toNat && c.toNat ≤ 0x0d)

/-- **A text without its underscores**, if each of them stands between
two digits; `before` is the character in front of the text. -/
def withoutGroupMarks (before : Char) : List Char → Option (List Char)
  | [] => some []
  | c :: rest =>
    if c == '_' then
      match rest with
      | next :: _ =>
        if isAsciiDigit before && isAsciiDigit next then
          withoutGroupMarks c rest
        else none
      | [] => none
    else (withoutGroupMarks c rest).map (c :: ·)

/-- The value of a list of digits. -/
def digitsValue (ds : List Char) : Nat :=
  ds.foldl (fun value d => value * 10 + (d.toNat - '0'.toNat)) 0

/-- The sign in front of a text, if any, and the text after it. -/
def splitSign : List Char → Bool × List Char
  | '-' :: rest => (true, rest)
  | '+' :: rest => (false, rest)
  | cs => (false, cs)

/-- The digits at the front of a text, and the rest. -/
def splitDigits (cs : List Char) : List Char × List Char :=
  (cs.takeWhile isAsciiDigit, cs.dropWhile isAsciiDigit)

/-- The greatest number of digits of an integer text. -/
def longestInteger : Nat := 4300

/-- **Whether an integer has a printed form**: one that is read again. -/
def isPrintable (value : Int) : Bool :=
  value.natAbs < Nat.pow 10 longestInteger

/-- **The integer a text stands for.** -/
def readInteger? (text : String) : Option Int := do
  let cs ← withoutGroupMarks ' ' (trimList isNumberSpace (plainForm text))
  let (negative, body) := splitSign cs
  let (digits, rest) := splitDigits body
  if digits.isEmpty || !rest.isEmpty || longestInteger < digits.length then
    none
  else
    let magnitude : Int := digitsValue digits
    some (if negative then -magnitude else magnitude)

/-- The power of ten after the mantissa of a number: nothing, or the
letter `e`, a sign and digits. -/
def readPower? : List Char → Option Int
  | [] => some 0
  | mark :: rest =>
    if mark == 'e' || mark == 'E' then
      let (negative, body) := splitSign rest
      let (digits, after) := splitDigits body
      if digits.isEmpty || !after.isEmpty then none
      else
        let magnitude : Int := digitsValue digits
        some (if negative then -magnitude else magnitude)
    else none

/-- **The decimal a text without a sign stands for.** -/
def readDecimal? (cs : List Char) : Option Decimal := do
  let (whole, afterWhole) := splitDigits cs
  let (places, afterPlaces) :=
    match afterWhole with
    | '.' :: rest => splitDigits rest
    | rest => ([], rest)
  if whole.isEmpty && places.isEmpty then none
  else
    let power ← readPower? afterPlaces
    some ⟨digitsValue (whole ++ places), power - places.length⟩

/-- The number nearest to a decimal. A decimal whose first digit stands
at the place of `10 ^ 400` or above is infinite, and one that is below
`10 ^ -400` is zero; neither is written out. -/
def nearestTo (negative : Bool) (d : Decimal) : Extended :=
  let top := (digitCount 10 d.digits : Int) + d.exponent
  if d.digits = 0 then .finite (.zero negative)
  else if 400 < top then .infinite negative
  else if top < -400 then .finite (.zero negative)
  else d.nearest negative

/-- The small letter of a capital. -/
def smallLetter (c : Char) : Char :=
  if 'A' ≤ c && c ≤ 'Z' then Char.ofNat (c.toNat + 32) else c

end Number

open Number Text in
/-- **The number a text stands for**, correctly rounded. -/
def Extended.ofText? (text : String) : Option Extended := do
  let cs ← withoutGroupMarks ' ' (trimList isNumberSpace (plainForm text))
  let (negative, body) := splitSign cs
  let word := String.ofList (body.map smallLetter)
  if word == "inf" || word == "infinity" then some (.infinite negative)
  else if word == "nan" then some .undefined
  else (readDecimal? body).map (nearestTo negative)

end GeoCatalogue
