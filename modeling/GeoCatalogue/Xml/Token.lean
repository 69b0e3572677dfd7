import GeoCatalogue.Text.Hexadecimal
import GeoCatalogue.Xml.Source

/-!
# Tokens of XML documents

A document is cut into **tokens**: tags, stretches of text, references,
remarks and the document type declaration. Escaped characters – numeric
references, the five predefined entities and character data sections –
are resolved at once; a reference to an entity of the document stays a
token, since what it stands for may hold tags.

* `Token` – the tokens;
* `Token.ofChars` – the tokens of a document.
-/
namespace GeoCatalogue.Xml

/-- **A piece of an attribute value**: a character, or a reference to an
entity of the document. -/
inductive Piece where
  /-- A character. -/
  | char (c : Char)
  /-- A reference to an entity. -/
  | reference (name : List Char)

/-- An attribute as it is written: its name and the pieces of its
value. -/
abbrev RawAttribute := List Char × List Piece

/-- **A token of a document.** -/
inductive Token where
  /-- A start tag, or a tag that is closed at once. -/
  | opening (name : List Char) (attributes : List RawAttribute)
    (closed : Bool)
  /-- An end tag. -/
  | closing (name : List Char)
  /-- Text that is written as it is. -/
  | text (cs : List Char)
  /-- Text that is escaped. -/
  | escaped (cs : List Char)
  /-- A reference to an entity of the document. -/
  | reference (name : List Char)
  /-- A comment or a processing instruction. -/
  | remark
  /-- A document type declaration with the entities it declares. -/
  | doctype (entities : List (List Char × List Char))

namespace Token

open Source Text

/-- **Scanning**: taking something from the front of a text. -/
abbrev Scan (α : Type) := StateT (List Char) (Except Defect) α

/-- The characters of a class at the front. -/
def takeAll (p : Char → Bool) : Scan (List Char) := do
  let cs ← get
  set (cs.dropWhile p)
  return cs.takeWhile p

/-- White space at the front, and whether there is any. -/
def space : Scan Bool := do
  let blanks ← takeAll isXmlSpace
  return !blanks.isEmpty

/-- Whether a mark stands at the front; if so, it is taken. -/
def takeMark (mark : String) : Scan Bool := do
  match afterMark? mark.toList (← get) with
  | some after => set after; return true
  | none => return false

/-- A mark that has to stand at the front. -/
def expect (mark : String) (defect : Defect) : Scan Unit := do
  if !(← takeMark mark) then throw defect

/-- The characters up to a mark, which is taken as well. -/
def takeUpTo (mark : String) (defect : Defect) : Scan (List Char) := do
  match divideAt? mark.toList (← get) with
  | some (before, after) => set after; return before
  | none => throw defect

/-- A name at the front, with its colons. -/
def takeName (defect : Defect) : Scan (List Char) := do
  let name ← takeAll fun c => isNameChar c || c == ':'
  match name with
  | c :: _ => if isNameStart c || c == ':' then return name else throw defect
  | [] => throw defect

/-- The number that hexadecimal or decimal digits stand for. -/
def digitsNumber? (base : Nat) (digits : List Char) : Option Nat :=
  if digits.isEmpty then none
  else
    digits.foldl
      (fun number c => do
        let value ← hexValue? c
        if value < base then some ((← number) * base + value) else none)
      (some 0)

/-- The character of a code point, if documents may hold it. -/
def charOfCode? (code : Nat) : Option Char :=
  if code < 0x110000 && (Char.ofNat code).toNat = code then
    if isXmlChar (Char.ofNat code) then some (Char.ofNat code) else none
  else none

/-- The entities that need no declaration. -/
def predefined? (name : List Char) : Option Char :=
  [("lt", '<'), ("gt", '>'), ("amp", '&'), ("quot", '"'),
    ("apos", '\'')].lookup (String.ofList name)

/-- The number of a numeric reference, after its number sign. -/
def takeCharCode : Scan Char := do
  let hexadecimal ← takeMark "x"
  let digits ← takeUpTo ";" .reference
  match (digitsNumber? (if hexadecimal then 16 else 10) digits).bind
      charOfCode? with
  | some c => return c
  | none => throw .reference

/-- **A reference**, after its ampersand. -/
def takeReference : Scan Piece := do
  if ← takeMark "#" then return .char (← takeCharCode)
  else
    let name ← takeName .reference
    expect ";" .reference
    match predefined? name with
    | some c => return .char c
    | none => return .reference name

/-- The pieces of an attribute value up to its closing quote, which is
not taken; at most so many pieces are read. -/
def takePieces (mark : Char) : Nat → Scan (List Piece)
  | 0 => throw .attributes
  | bound + 1 => do
    match ← get with
    | [] => throw .attributes
    | c :: after =>
      if c = mark then return []
      else if c = '<' then throw .attributes
      else
        set after
        let piece ←
          if c = '&' then takeReference
          else pure (.char (if isXmlSpace c then ' ' else c))
        return piece :: (← takePieces mark bound)

/-- An attribute: a name, an equals sign and a quoted value. -/
def takeAttribute : Scan RawAttribute := do
  let name ← takeName .attributes
  let _ ← space
  expect "=" .attributes
  let _ ← space
  match ← get with
  | mark :: after =>
    if mark = '"' ∨ mark = '\'' then
      set after
      let pieces ← takePieces mark (after.length + 1)
      modify (·.drop 1)
      return (name, pieces)
    else throw .attributes
  | [] => throw .attributes

/-- The attributes of a tag and its end, at most so many; white space has
to stand in front of each attribute. -/
def takeAttributes : Nat → Scan (List RawAttribute × Bool)
  | 0 => throw .attributes
  | bound + 1 => do
    let spaced ← space
    if ← takeMark ">" then return ([], false)
    else if ← takeMark "/>" then return ([], true)
    else if !spaced then throw .tag
    else
      let attr ← takeAttribute
      let (others, closed) ← takeAttributes bound
      return (attr :: others, closed)

/-- A start tag, after its angle bracket. -/
def takeOpening : Scan Token := do
  let name ← takeName .tag
  let (attributes, closed) ← takeAttributes ((← get).length + 1)
  return .opening name attributes closed

/-- An end tag, after its slash. -/
def takeClosing : Scan Token := do
  let name ← takeName .tag
  let _ ← space
  expect ">" .tag
  return .closing name

/-- A comment, after its opening: two hyphens end it. -/
def takeComment : Scan Unit := do
  let _ ← takeUpTo "--" .remark
  expect ">" .remark

/-- A processing instruction, after its opening. Its target is a name
without a colon, and not the name of XML in any letter case. -/
def takeInstruction : Scan Unit := do
  let target ← takeName .remark
  if !isPlainName target || target.map Uri.lowered == ['x', 'm', 'l'] then
    throw .declaration
  else
    let spaced ← space
    let content ← takeUpTo "?>" .remark
    if !spaced && !content.isEmpty then throw .remark

/-- The text that an entity value stands for: numeric references are
resolved, other references stay. A percent sign has no meaning here. -/
def entityText : Nat → List Char → Except Defect (List Char)
  | 0, _ => .error .doctype
  | _ + 1, [] => .ok []
  | bound + 1, c :: cs =>
    match c, cs with
    | '%', _ => .error .doctype
    | '&', '#' :: after => do
      let (resolved, later) ← takeCharCode.run after
      .ok (resolved :: (← entityText bound later))
    | '&', after => do
      let (name, later) ← (takeName .doctype).run after
      match later with
      | ';' :: rest =>
        .ok ('&' :: name ++ ';' :: (← entityText bound rest))
      | _ => .error .doctype
    | c, cs => do .ok (c :: (← entityText bound cs))

/-- The declaration of an entity, after its opening; absent for an entity
that is kept elsewhere. -/
def takeEntity : Scan (Option (List Char × List Char)) := do
  let _ ← space
  let parameter ← takeMark "%"
  let _ ← space
  let name ← takeName .doctype
  let _ ← space
  match quotedAtFront? (← get) with
  | some (value, after) =>
    set after
    let _ ← space
    expect ">" .doctype
    let text ← entityText (value.length + 1) value
    return if parameter then none else some (name, text)
  | none =>
    let _ ← takeUpTo ">" .doctype
    return none

/-- The declarations in brackets of a document type, up to the closing
bracket, at most so many. -/
def takeDeclarations : Nat → Scan (List (List Char × List Char))
  | 0 => throw .doctype
  | bound + 1 => do
    let _ ← space
    if ← takeMark "]" then return []
    else
      let declared ←
        if ← takeMark "<!--" then do takeComment; pure none
        else if ← takeMark "<?" then do takeInstruction; pure none
        else if ← takeMark "<!ENTITY" then takeEntity
        else if ← takeMark "<!" then do
          let _ ← takeUpTo ">" .doctype
          pure none
        else throw .doctype
      return declared.toList ++ (← takeDeclarations bound)

/-- A document type declaration, after its opening. -/
def takeDoctype : Scan Token := do
  if !(← space) then throw .doctype
  let _ ← takeName .doctype
  let _ ← takeAll fun c => c != '[' && c != '>'
  let entities ←
    if ← takeMark "[" then takeDeclarations ((← get).length + 1)
    else pure []
  let _ ← space
  expect ">" .doctype
  return .doctype entities

/-- A token that starts with an angle bracket, after that bracket. -/
def takeMarkup : Scan Token := do
  if ← takeMark "!--" then takeComment; return .remark
  else if ← takeMark "![CDATA[" then
    return .escaped (← takeUpTo "]]>" .text)
  else if ← takeMark "!DOCTYPE" then takeDoctype
  else if ← takeMark "?" then takeInstruction; return .remark
  else if ← takeMark "/" then takeClosing
  else takeOpening

/-- **The token at the front of a text.** -/
def take : Scan Token := do
  if ← takeMark "<" then takeMarkup
  else if ← takeMark "&" then
    match ← takeReference with
    | .char c => return .escaped [c]
    | .reference name => return .reference name
  else
    let cs ← takeAll fun c => c != '<' && c != '&'
    if (divideAt? "]]>".toList cs).isSome then throw .text
    return .text cs

/-- The tokens of a text, at most so many. -/
def takeTokens : Nat → Scan (List Token)
  | 0 => throw .text
  | bound + 1 => do
    if (← get).isEmpty then return []
    else
      let token ← take
      return token :: (← takeTokens bound)

/-- **The tokens of a text.** Every token takes at least one
character. -/
def ofChars (cs : List Char) : Except Defect (List Token) := do
  let (tokens, _) ← (takeTokens (cs.length + 1)).run cs
  .ok tokens

end Token

end GeoCatalogue.Xml
