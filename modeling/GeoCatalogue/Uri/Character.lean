/-!
# Characters of URIs

A URI is written with a fixed set of ASCII characters: the **unreserved**
ones, which stand for themselves everywhere, the **reserved** ones, which
divide a URI into its parts, and the percent sign, which starts an
escape.
-/
namespace GeoCatalogue.Uri

/-- Whether a character is one of the letters `A`–`Z`, `a`–`z`. -/
def isLetter (c : Char) : Bool :=
  ('A' ≤ c && c ≤ 'Z') || ('a' ≤ c && c ≤ 'z')

/-- Whether a character is one of the digits `0`–`9`. -/
def isDigit (c : Char) : Bool :=
  '0' ≤ c && c ≤ '9'

/-- **Characters that stand for themselves.** -/
def isUnreserved (c : Char) : Bool :=
  isLetter c || isDigit c || c == '-' || c == '.' || c == '_' || c == '~'

/-- **Characters that divide a URI.** -/
def isReserved (c : Char) : Bool :=
  [':', '/', '?', '#', '[', ']', '@', '!', '$', '&', '\'', '(', ')', '*',
    '+', ',', ';', '='].contains c

/-- **Characters of URIs.** -/
def isUriChar (c : Char) : Bool :=
  isUnreserved c || isReserved c || c == '%'

/-- The small form of a letter. -/
def lowered (c : Char) : Char :=
  if 'A' ≤ c && c ≤ 'Z' then Char.ofNat (c.toNat + 32) else c

end GeoCatalogue.Uri
