/-!
# Characters of XML documents

The character classes of XML 1.0, fifth edition: the characters that a
document may hold at all, white space, and the characters of names. The
colon is left out of the name classes, since it divides a qualified name
into its label and its local name.
-/
namespace GeoCatalogue.Xml

/-- Whether a code point lies in one of a list of closed ranges. -/
def inRanges (ranges : List (Nat × Nat)) (c : Char) : Bool :=
  ranges.any fun range => range.1 ≤ c.toNat && c.toNat ≤ range.2

/-- **Characters that a document may hold.** -/
def isXmlChar (c : Char) : Bool :=
  c == '\t' || c == '\n' || c == '\r' ||
    inRanges [(0x20, 0xd7ff), (0xe000, 0xfffd), (0x10000, 0x10ffff)] c

/-- **White space.** -/
def isXmlSpace (c : Char) : Bool :=
  c == ' ' || c == '\t' || c == '\n' || c == '\r'

/-- **Characters that a name may start with**, the colon excepted. -/
def isNameStart (c : Char) : Bool :=
  c == '_' || inRanges [
    (0x41, 0x5a), (0x61, 0x7a), (0xc0, 0xd6), (0xd8, 0xf6), (0xf8, 0x2ff),
    (0x370, 0x37d), (0x37f, 0x1fff), (0x200c, 0x200d), (0x2070, 0x218f),
    (0x2c00, 0x2fef), (0x3001, 0xd7ff), (0xf900, 0xfdcf),
    (0xfdf0, 0xfffd), (0x10000, 0xeffff)] c

/-- **Characters of names**, the colon excepted. -/
def isNameChar (c : Char) : Bool :=
  isNameStart c || c == '-' || c == '.' ||
    inRanges [(0x30, 0x39), (0xb7, 0xb7), (0x300, 0x36f),
      (0x203f, 0x2040)] c

/-- Whether a text is a name without a colon. -/
def isPlainName : List Char → Bool
  | [] => false
  | c :: rest => isNameStart c && rest.all isNameChar

end GeoCatalogue.Xml
