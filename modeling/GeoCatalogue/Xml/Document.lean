import GeoCatalogue.Uri.Percent
import GeoCatalogue.Xml.Nodes
import GeoCatalogue.Xml.Token

/-!
# XML documents

A text becomes a tree in four steps: it is cut into tokens, the entities
that the document declares are replaced by the tokens of their texts, the
tokens are put together to nodes from the last to the first, and the
names are expanded by the namespace bindings in scope.

* `Document.places` – tags, texts and declarations stand only where a
  document has them, and elements are nested at most `deepestNesting`
  levels deep;
* `Document.assemble` – the nodes that tokens form;
* `Document.resolve` – the tree with expanded names;
* `Element.parse` – the document element of a text.
-/
namespace GeoCatalogue.Xml

/-- A tag as it is written, with the references in its attribute values
replaced. -/
structure RawTag where
  /-- The name, with its label. -/
  name : List Char
  /-- The attributes, with their labels. -/
  attributes : List (List Char × String)

namespace Document

/-! ## Entities -/

/-- The entities of a document type declaration. -/
def entities (tokens : List Token) : List (List Char × List Char) :=
  tokens.flatMap fun
    | .doctype declared => declared
    | _ => []

/-- The text of an entity; the first declaration of a name counts. -/
def entity (declared : List (List Char × List Char)) (name : List Char) :
    Except Defect (List Char) :=
  match declared.lookup name with
  | some text => .ok text
  | none => .error .reference

/-- The characters of an attribute value, its references replaced. An
entity that is nested deeper than there are entities refers to itself. -/
def valueChars (declared : List (List Char × List Char)) :
    Nat → List Piece → Except Defect (List Char)
  | _, [] => .ok []
  | depth, .char c :: rest => do
    .ok (c :: (← valueChars declared depth rest))
  | 0, .reference _ :: _ => .error .reference
  | depth + 1, .reference name :: rest => do
    let text ← entity declared name
    if text.contains '<' then .error .attributes
    else
      let (pieces, _) ← (Token.takePieces '<' (text.length + 1)).run (text ++ ['<'])
      let front ← valueChars declared depth pieces
      let back ← valueChars declared (depth + 1) rest
      .ok (front ++ back)
termination_by depth pieces => (depth, pieces.length)

/-- **Whether tokens close what they open**, and nothing else, given how
many elements are open. -/
def isBalanced : Nat → List Token → Bool
  | depth, [] => depth == 0
  | depth, .opening _ _ false :: rest => isBalanced (depth + 1) rest
  | depth, .closing _ :: rest => depth != 0 && isBalanced (depth - 1) rest
  | depth, _ :: rest => isBalanced depth rest

/-- The tokens with all references replaced by the tokens of what they
stand for, which have to be balanced. -/
def expand (declared : List (List Char × List Char)) :
    Nat → List Token → Except Defect (List Token)
  | _, [] => .ok []
  | 0, .reference _ :: _ => .error .reference
  | depth + 1, .reference name :: rest => do
    let tokens ← Token.ofChars (← entity declared name)
    let front ← expand declared depth tokens
    let back ← expand declared (depth + 1) rest
    if isBalanced 0 front then .ok (front ++ back) else .error .nesting
  | depth, token :: rest => do
    .ok (token :: (← expand declared depth rest))
termination_by depth tokens => (depth, tokens.length)

/-! ## Places -/

/-- How many elements may be open at once. -/
def deepestNesting : Nat := 257

/-- **Whether tokens stand where a document has them**, given how many
elements are open, whether the document element has been opened, and
whether a document type has been declared. -/
def places : Nat → Bool → Bool → List Token → Except Defect Unit
  | depth, rooted, _, [] =>
    if depth ≠ 0 then .error .nesting
    else if !rooted then .error .root
    else .ok ()
  | depth, rooted, typed, token :: rest =>
    match token with
    | .opening _ _ closed =>
      if depth = 0 && rooted then .error .root
      else if deepestNesting ≤ depth then .error .nesting
      else places (if closed then depth else depth + 1) true typed rest
    | .closing _ =>
      if depth = 0 then .error .nesting
      else places (depth - 1) rooted typed rest
    | .text cs =>
      if depth = 0 && !cs.all isXmlSpace then .error .text
      else places depth rooted typed rest
    | .escaped _ =>
      if depth = 0 then .error .text else places depth rooted typed rest
    | .reference _ =>
      if depth = 0 then .error .reference
      else places depth rooted typed rest
    | .remark => places depth rooted typed rest
    | .doctype _ =>
      if rooted || typed then .error .doctype
      else places depth rooted true rest

/-! ## Nodes -/

/-- The elements that are still to be opened, seen from the end of a
document: their names and what has been found inside; last the nodes
outside all elements. -/
structure Frames where
  /-- The elements, the innermost first. -/
  inner : List (List Char × Nodes RawTag)
  /-- The nodes that the innermost element, or the document, holds. -/
  outer : Nodes RawTag

namespace Frames

/-- The nodes found on the innermost level, changed. -/
def onInnermost (f : Nodes RawTag → Nodes RawTag) (frames : Frames) :
    Frames :=
  match frames.inner with
  | (name, inside) :: rest => ⟨(name, f inside) :: rest, frames.outer⟩
  | [] => ⟨[], f frames.outer⟩

/-- **The frames with one more token in front**; a start tag comes with
its references replaced. -/
def withToken (raw : Option RawTag) (frames : Frames) :
    Token → Except Defect Frames
  | .opening _ _ true =>
    match raw with
    | some tag => .ok (frames.onInnermost (.element tag .nothing))
    | none => .error .tag
  | .opening name _ false =>
    match raw, frames.inner with
    | some tag, (expected, inside) :: rest =>
      if name = expected then
        .ok (onInnermost (.element tag inside) ⟨rest, frames.outer⟩)
      else .error .nesting
    | _, _ => .error .nesting
  | .closing name =>
    .ok ⟨(name, .nothing) :: frames.inner, frames.outer⟩
  | .text cs | .escaped cs =>
    .ok (frames.onInnermost (·.withText (String.ofList cs)))
  | .remark => .ok (frames.onInnermost .remark)
  | .reference _ | .doctype _ => .ok frames

end Frames

/-- A start tag with the references in its attribute values replaced. -/
def rawTag? (declared : List (List Char × List Char)) :
    Token → Except Defect (Option RawTag)
  | .opening name attributes _ => do
    let values ← attributes.mapM fun (key, pieces) => do
      let chars ← valueChars declared declared.length pieces
      .ok (key, String.ofList chars)
    .ok (some ⟨name, values⟩)
  | _ => .ok none

/-- **The nodes that tokens form**, put together from the last token to
the first. -/
def assemble (declared : List (List Char × List Char)) :
    List Token → Except Defect Frames
  | [] => .ok ⟨[], .nothing⟩
  | token :: rest => do
    let frames ← assemble declared rest
    let raw ← rawTag? declared token
    frames.withToken raw token

/-! ## Namespaces -/

/-- The namespace that the label `xml` always stands for. -/
def xmlNamespace : String := "http://www.w3.org/XML/1998/namespace"

/-- The namespace of namespace declarations. -/
def declarationNamespace : String := "http://www.w3.org/2000/xmlns/"

/-- **A written name divided into its label, if any, and its local
name.** -/
def divideName (name : List Char) :
    Except Defect (Option String × String) :=
  match name.dropWhile (· != ':') with
  | [] => .ok (none, String.ofList name)
  | _ :: localName =>
    let label := name.takeWhile (· != ':')
    if isPlainName label && isPlainName localName then
      .ok (some (String.ofList label), String.ofList localName)
    else .error .namespaceBinding

/-- Whether a text can be the name of a namespace: it is written as a
URI or a part of one. -/
def isNamespaceName (name : String) : Bool :=
  let cs := name.toList
  cs.all (fun c => Uri.isUriChar c && c != '[' && c != ']') &&
    Uri.escapesAreWellFormed cs && cs.count '#' ≤ 1

/-- **The binding that an attribute declares**, if it is a declaration;
one of the label `xml` declares nothing new. -/
def binding? (name : Option String × String) (value : String) :
    Except Defect (Option (Option String × String)) :=
  match name with
  | (none, "xmlns") =>
    if value = xmlNamespace || value = declarationNamespace ||
        !isNamespaceName value then
      .error .namespaceBinding
    else .ok (some (none, value))
  | (some "xmlns", label) =>
    if label = "xml" then
      if value = xmlNamespace then .ok none else .error .namespaceBinding
    else if label = "xmlns" || value = "" || value = xmlNamespace ||
        value = declarationNamespace || !isNamespaceName value then
      .error .namespaceBinding
    else .ok (some (some label, value))
  | _ => .ok none

/-- Whether a name is that of a namespace declaration. -/
def isDeclaration : Option String × String → Bool
  | (none, localName) => localName == "xmlns"
  | (some label, _) => label == "xmlns"

/-- **A divided name expanded by the bindings in scope**; `bare` is the
namespace of names without a label. -/
def expandName (scope : Bindings) (bare : String) :
    Option String × String → Except Defect QName
  | (none, localName) => .ok ⟨bare, localName⟩
  | (some "xml", localName) => .ok ⟨xmlNamespace, localName⟩
  | (some label, localName) =>
    match scope.get? (some label) with
    | some namespaceName => .ok ⟨namespaceName, localName⟩
    | none => .error .namespaceBinding

/-- **A tag with its names expanded**, under the bindings of the element
around it. -/
def resolveTag (scope : Bindings) (raw : RawTag) : Except Defect Tag := do
  let divided ← raw.attributes.mapM fun (name, value) => do
    .ok (← divideName name, value)
  let (declarations, plain) := divided.partition (isDeclaration ·.1)
  let bindings ← declarations.filterMapM fun (name, value) =>
    binding? name value
  let inner := scope ++ bindings
  let name ← divideName raw.name
  let expanded ← expandName inner ((inner.get? none).getD "") name
  let attributes ← plain.mapM fun (name, value) => do
    .ok (← expandName inner "" name, value)
  if (divided.map Prod.fst).eraseDups.length ≠ divided.length ||
      (attributes.map Prod.fst).eraseDups.length ≠ attributes.length then
    .error .attributes
  else .ok ⟨expanded, attributes, Table.settled inner⟩

/-- **The tree with expanded names**, under the bindings of the element
around it. -/
def resolve (scope : Bindings) : Nodes RawTag → Except Defect Content
  | .nothing => .ok .nothing
  | .element raw inside after => do
    let tag ← resolveTag scope raw
    let inside ← resolve tag.scope inside
    let after ← resolve scope after
    .ok (.element tag inside after)
  | .text value after => do .ok (.text value (← resolve scope after))
  | .remark after => do .ok (.remark (← resolve scope after))

/-- **The content of a document**: what its tokens form. -/
def content (tokens : List Token) : Except Defect Content := do
  let declared := entities tokens
  places 0 false false tokens
  let expanded ← expand declared (declared.length + 1) tokens
  let frames ← assemble declared expanded
  if frames.inner.isEmpty then resolve [] frames.outer else .error .nesting

end Document

/-- **The document element of a text.** -/
def Element.parse (source : String) : Except Defect Element := do
  let body ← Source.body source
  let tokens ← Token.ofChars body
  let nodes ← Document.content tokens
  match nodes.children with
  | [root] => .ok root
  | _ => .error .root

end GeoCatalogue.Xml
