import GeoCatalogue.Failure
import GeoCatalogue.Text.Blank
import GeoCatalogue.Text.DecimalDigit
import GeoCatalogue.Text.Upper

/-!
# References to coordinate reference systems

Documents refer to a coordinate reference system in several forms; all
of them are brought to the short form of an **identifier**: the name of
an authority in capitals, a colon and a code.

* `urn:ogc:def:crs:AUTHORITY:VERSION:CODE`, also with `x-ogc`; the
  version may be empty;
* `http://www.opengis.net/def/crs/AUTHORITY/VERSION/CODE`, also with
  `https`;
* `AUTHORITY:CODE`, the code of ASCII letters, digits and full stops;
* `http://www.opengis.net/gml/srs/epsg.xml#CODE`, also with `https`, for
  codes of digits.

Except for the short form, letters are compared without regard to case
(`folded`). The codes of the OGC are put into capitals as well.
-/
namespace GeoCatalogue.Crs

open Text

/-- **A character without its letter case.** The long s, the two forms of
the letter i that only Turkish has and the kelvin sign are forms of
ASCII letters. -/
def folded (c : Char) : Char :=
  if 'A' ≤ c && c ≤ 'Z' then Char.ofNat (c.toNat + 32)
  else if c.toNat = 0x17f then 's'
  else if c.toNat = 0x130 || c.toNat = 0x131 then 'i'
  else if c.toNat = 0x212a then 'k'
  else c

/-- Whether a character is an ASCII letter in some form. -/
def isFoldedLetter (c : Char) : Bool :=
  'a' ≤ folded c && folded c ≤ 'z'

/-- Whether a character is one of the letters `A`–`Z`, `a`–`z`. -/
def isAsciiLetter (c : Char) : Bool :=
  ('A' ≤ c && c ≤ 'Z') || ('a' ≤ c && c ≤ 'z')

/-- **What follows a fixed text**, if a text starts with it in some letter
case; the fixed text has small letters. -/
def afterFixed? : List Char → List Char → Option (List Char)
  | [], cs => some cs
  | _ :: _, [] => none
  | f :: fixed, c :: cs =>
    if folded c = f then afterFixed? fixed cs else none

/-- What follows the first of several fixed texts that fits. -/
def afterAnyFixed? (fixed : List String) (cs : List Char) :
    Option (List Char) :=
  fixed.findSome? fun text => afterFixed? text.toList cs

/-- A text divided at the first occurrence of a character. -/
def divideAt? (mark : Char) (cs : List Char) :
    Option (List Char × List Char) :=
  match cs.dropWhile (· != mark) with
  | [] => none
  | _ :: after => some (cs.takeWhile (· != mark), after)

/-- An authority, which is some letters of a class. -/
def isAuthority (letter : Char → Bool) (cs : List Char) : Bool :=
  !cs.isEmpty && cs.all letter

/-- **An authority, a version and a code** between two marks. -/
def authorityAndCode? (mark : Char) (emptyVersion : Bool)
    (cs : List Char) : Option (List Char × List Char) := do
  let (authority, afterAuthority) ← divideAt? mark cs
  let (version, code) ← divideAt? mark afterAuthority
  if isAuthority isFoldedLetter authority &&
      (emptyVersion || !version.isEmpty) &&
      !code.isEmpty && !code.contains mark then
    some (authority, code)
  else none

/-- The authority and the code of a reference in URN form. -/
def ofUrn? (cs : List Char) : Option (List Char × List Char) := do
  let body ←
    afterAnyFixed? ["urn:ogc:def:crs:", "urn:x-ogc:def:crs:"] cs
  authorityAndCode? ':' true body

/-- The authority and the code of a reference in URL form. -/
def ofUrl? (cs : List Char) : Option (List Char × List Char) := do
  let body ← afterAnyFixed? ["http://www.opengis.net/def/crs/",
    "https://www.opengis.net/def/crs/"] cs
  authorityAndCode? '/' false body

/-- Whether a character may stand in the code of the short form. -/
def isShortCodeChar (c : Char) : Bool :=
  isAsciiLetter c || isAsciiDigit c || c == '.'

/-- The authority and the code of a reference in short form. -/
def ofShort? (cs : List Char) : Option (List Char × List Char) := do
  let (authority, code) ← divideAt? ':' cs
  if isAuthority isAsciiLetter authority && !code.isEmpty &&
      code.all isShortCodeChar then
    some (authority, code)
  else none

/-- The code of a reference in the form of GML. -/
def gmlCode? (cs : List Char) : Option (List Char) := do
  let code ← afterAnyFixed? ["http://www.opengis.net/gml/srs/epsg.xml#",
    "https://www.opengis.net/gml/srs/epsg.xml#"] cs
  if !code.isEmpty && code.all isDecimalDigit then some code else none

/-- **The identifier of an authority and a code.** -/
def identifier (authority code : List Char) : String :=
  let name := upper (String.ofList authority)
  let code := String.ofList code
  name ++ ":" ++ (if name = "OGC" then upper code else code)

/-- The identifier of a reference without blanks around it, if the
reference has one of the forms. -/
def identifier? (cs : List Char) : Option String :=
  match (ofUrn? cs).or ((ofUrl? cs).or (ofShort? cs)) with
  | some (authority, code) => some (identifier authority code)
  | none => (gmlCode? cs).map fun code => "EPSG:" ++ String.ofList code

/-- **The identifier that a reference is brought to.** -/
def normalize (reference : Option String) : Except Failure String :=
  match reference with
  | none => .error (.unsupportedCrs none .noReference)
  | some text =>
    if isBlankText text then
      .error (.unsupportedCrs (some text) .noReference)
    else
      match identifier? (trimList isBlank text.toList) with
      | some found => .ok found
      | none => .error (.unsupportedCrs (some text) .unrecognized)

end GeoCatalogue.Crs
