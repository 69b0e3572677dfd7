/-!
# Blank characters

Names, coordinates and references in catalogue documents are written
with white space around them. **Blank** are the characters that Unicode
calls white space, together with the four information separators
`U+001C` to `U+001F`; the zero-width space and the byte order mark are
not among them.

* `trim` – a text without the blanks at its two ends;
* `words` – the maximal runs of characters that are not blank.
-/
namespace GeoCatalogue.Text

/-- **Blank characters.** -/
def isBlank (c : Char) : Bool :=
  let code := c.toNat
  (0x09 ≤ code && code ≤ 0x0d) || (0x1c ≤ code && code ≤ 0x20) ||
    code == 0x85 || code == 0xa0 || code == 0x1680 ||
    (0x2000 ≤ code && code ≤ 0x200a) || code == 0x2028 ||
    code == 0x2029 || code == 0x202f || code == 0x205f || code == 0x3000

/-- A list without the elements of a class at its front. -/
def dropFront (p : Char → Bool) (cs : List Char) : List Char :=
  cs.dropWhile p

/-- A list without the elements of a class at its end. -/
def dropBack (p : Char → Bool) (cs : List Char) : List Char :=
  (cs.reverse.dropWhile p).reverse

/-- A list without the elements of a class at its two ends. -/
def trimList (p : Char → Bool) (cs : List Char) : List Char :=
  dropBack p (dropFront p cs)

/-- **A text without the blanks at its two ends.** -/
def trim (text : String) : String :=
  String.ofList (trimList isBlank text.toList)

/-- Whether a text holds nothing but blanks. -/
def isBlankText (text : String) : Bool :=
  text.toList.all isBlank

/-- The maximal runs of characters outside a class, in order. -/
def runsOutside (p : Char → Bool) : List Char → List (List Char)
  | [] => []
  | c :: rest =>
    if p c then runsOutside p rest
    else
      match rest, runsOutside p rest with
      | d :: _, run :: runs =>
        if p d then [c] :: run :: runs else (c :: run) :: runs
      | _, runs => [c] :: runs

/-- **The words of a text**: its maximal runs of characters that are not
blank. -/
def words (text : String) : List String :=
  (runsOutside isBlank text.toList).map String.ofList

end GeoCatalogue.Text
