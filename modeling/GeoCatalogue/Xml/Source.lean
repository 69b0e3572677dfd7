import GeoCatalogue.Uri.Character
import GeoCatalogue.Xml.Character
import GeoCatalogue.Xml.Defect

/-!
# Sources of XML documents

A document is stored in the octets of UTF-8. They are read in the
encoding that the document declares: UTF-8 itself, US-ASCII, or
ISO 8859-1, in which every octet is a character of its own. A byte order
mark at the front overrules the declaration. The declaration of XML is
not part of the document; of the rest, every line end becomes a line
feed and every character has to be one of XML.

* `Source.declaration?` – the declaration of XML at the front;
* `Source.decode` – the text in the declared encoding;
* `Source.body` – the characters of the document.
-/
namespace GeoCatalogue.Xml.Source

/-- The text after a mark, if the text starts with it. -/
def afterMark? : List Char → List Char → Option (List Char)
  | [], cs => some cs
  | _ :: _, [] => none
  | m :: mark, c :: cs => if m = c then afterMark? mark cs else none

/-- **A text divided at the first occurrence of a mark**, which is in
neither part. -/
def divideAt? (mark : List Char) : List Char → Option (List Char × List Char)
  | [] => if mark.isEmpty then some ([], []) else none
  | c :: rest =>
    match afterMark? mark (c :: rest) with
    | some after => some ([], after)
    | none => (divideAt? mark rest).map fun (before, after) =>
      (c :: before, after)

/-- A text without the white space at its front. -/
def dropSpace (cs : List Char) : List Char :=
  cs.dropWhile isXmlSpace

/-- A text between quotes at the front, and what follows. -/
def quotedAtFront? : List Char → Option (List Char × List Char)
  | mark :: rest =>
    if mark = '"' ∨ mark = '\'' then divideAt? [mark] rest else none
  | [] => none

/-- The value of a setting at the front of a declaration – white space,
the name, an equals sign and a quoted value – and what follows. -/
def settingAtFront? (name : String) (cs : List Char) :
    Option (List Char × List Char) := do
  if cs.head?.all (!isXmlSpace ·) then none
  else
    let afterName ← afterMark? name.toList (dropSpace cs)
    let afterSign ← afterMark? ['='] (dropSpace afterName)
    quotedAtFront? (dropSpace afterSign)

/-- A setting that may be left out. -/
def optionalSetting (name : String) (cs : List Char) :
    Option (List Char) × List Char :=
  match settingAtFront? name cs with
  | some (value, rest) => (some value, rest)
  | none => (none, cs)

/-- Whether a version is one of XML 1; the digits behind the point may be
missing. -/
def isVersion (version : List Char) : Bool :=
  (afterMark? ['1', '.'] version).any fun minor => minor.all Uri.isDigit

/-- Whether a text may name an encoding. -/
def isEncodingName : List Char → Bool
  | [] => false
  | c :: rest => Uri.isLetter c && rest.all fun d =>
    Uri.isLetter d || Uri.isDigit d || d == '.' || d == '_' || d == '-'

/-- **The settings in a declaration of XML**: the declared encoding, if
any. -/
def declaredEncoding (settings : List Char) :
    Except Defect (Option (List Char)) :=
  match settingAtFront? "version" settings with
  | none => .error .declaration
  | some (version, afterVersion) =>
    let (encoding, afterEncoding) := optionalSetting "encoding" afterVersion
    let (standalone, rest) := optionalSetting "standalone" afterEncoding
    let known := standalone.all fun value =>
      value = "yes".toList ∨ value = "no".toList
    if isVersion version && encoding.all isEncodingName && known &&
        (dropSpace rest).isEmpty then
      .ok encoding
    else .error .declaration

/-- **The declaration of XML at the front of a text**, and the text after
it. -/
def declaration? (cs : List Char) :
    Except Defect (Option (List Char) × List Char) :=
  match afterMark? "<?xml".toList cs with
  | some rest =>
    if rest.head?.any isXmlSpace then
      match divideAt? "?>".toList rest with
      | some (settings, after) => do
        let encoding ← declaredEncoding settings
        .ok (encoding, after)
      | none => .error .declaration
    else .ok (none, cs)
  | none => .ok (none, cs)

/-- The octets of a text, each as a character. -/
def octets (cs : List Char) : List Char :=
  cs.flatMap fun c =>
    (String.utf8EncodeChar c).map fun octet => Char.ofNat octet.toNat

/-- **A text that is stored in UTF-8, read in an encoding.** -/
def decode (encoding : List Char) (cs : List Char) :
    Except Defect (List Char) :=
  let name := String.ofList (encoding.map Uri.lowered)
  if ["utf-8", "utf8"].contains name then .ok cs
  else if ["iso-8859-1", "iso-latin-1", "latin1"].contains name then
    .ok (octets cs)
  else if ["us-ascii", "ascii"].contains name then
    if cs.all (·.toNat < 128) then .ok cs else .error .encoding
  else .error .encoding

/-- A text with a line feed for every line end. -/
def normalizeLines : List Char → List Char
  | [] => []
  | '\r' :: '\n' :: rest => '\n' :: normalizeLines rest
  | '\r' :: rest => '\n' :: normalizeLines rest
  | c :: rest => c :: normalizeLines rest

/-- The character that marks a text as UTF-8. -/
def byteOrderMark : Char := Char.ofNat 0xfeff

/-- **The characters of a document** without its declaration. -/
def body (source : String) : Except Defect (List Char) := do
  let chars := source.toList
  let marked := chars.head? == some byteOrderMark
  let (encoding, rest) ←
    declaration? (if marked then chars.drop 1 else chars)
  let decoded ←
    match encoding with
    | some name => if marked then .ok rest else decode name rest
    | none => .ok rest
  let lines := normalizeLines decoded
  if lines.all isXmlChar then .ok lines else .error .character

end GeoCatalogue.Xml.Source
