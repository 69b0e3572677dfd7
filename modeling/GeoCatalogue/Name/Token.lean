import GeoCatalogue.Failure
import GeoCatalogue.Text.Blank
import GeoCatalogue.Vocabulary

/-!
# Names in templates

Inside a template, a parameter is named by a **token**: an optional
label and a colon, a local name, and a question mark at the end when the
parameter may be left out. White space around the token is ignored.

* `Token.isOptional` – whether the marker is present;
* `Token.splitLabel` – a name divided at its first colon;
* `Token.resolve` – the qualified name a token stands for. A token
  without a colon is in the OpenSearch namespace, whatever the default
  namespace of the document is.
-/
namespace GeoCatalogue.Token

open Text

/-- Whether a token ends in the marker of optional parameters. -/
def isOptional (token : String) : Bool :=
  (trimList isBlank token.toList).getLast? == some '?'

/-- **The name in a token**: without the blanks around it and without
one marker at its end. -/
def name (token : String) : List Char :=
  let trimmed := trimList isBlank token.toList
  if trimmed.getLast? == some '?' then trimmed.dropLast else trimmed

/-- **A name divided at its first colon**, absent if it has none. -/
def splitLabel : List Char → Option (List Char × List Char)
  | [] => none
  | c :: rest =>
    if c == ':' then some ([], rest)
    else (splitLabel rest).map fun (label, localName) =>
      (c :: label, localName)

/-- **The qualified name a token stands for** under namespace
bindings. -/
def resolve (bindings : Bindings) (token : String) : Except Failure QName :=
  let chars := name token
  match splitLabel chars with
  | none => .ok ⟨Vocabulary.openSearch, String.ofList chars⟩
  | some (label, localName) =>
    match bindings.namespaceOf? (String.ofList label) with
    | some namespaceName => .ok ⟨namespaceName, String.ofList localName⟩
    | none => .error (.unresolvedPrefix (String.ofList label) token)

end GeoCatalogue.Token
