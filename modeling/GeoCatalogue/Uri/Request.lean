import GeoCatalogue.Failure
import GeoCatalogue.Uri.Authority
import GeoCatalogue.Uri.Percent

/-!
# URIs of requests

A text is accepted as the URI of a request when it is written with URI
characters and well-formed escapes, has a scheme, has an acceptable
authority if it has one, and names one if the scheme is `http` or
`https`. The first defect in the order of `Uri.defect?` is reported.

One line feed at the end of the text is let through, and is not part of
the URI that the checks after the second look at.
-/
namespace GeoCatalogue.Uri

/-- Whether a character may stand in a scheme. -/
def isSchemeChar (c : Char) : Bool :=
  isLetter c || isDigit c || c == '+' || c == '-' || c == '.'

/-- **The scheme of a URI and what follows its colon**, if there is a
scheme: a letter and further scheme characters. -/
def scheme? (cs : List Char) : Option (List Char × List Char) :=
  let label := before ':' cs
  if cs.contains ':' && label.head?.any isLetter && label.all isSchemeChar
  then some (label, after ':' cs)
  else none

/-- **The authority in the part of a URI after the scheme**: after two
slashes, up to the next slash, question mark or number sign. -/
def authority : List Char → List Char
  | '/' :: '/' :: rest =>
    rest.takeWhile fun c => c != '/' && c != '?' && c != '#'
  | _ => []

/-- Whether a scheme needs an authority. -/
def needsHost (scheme : List Char) : Bool :=
  let name := scheme.map lowered
  name == ['h', 't', 't', 'p'] || name == ['h', 't', 't', 'p', 's']

/-- A text without one line feed at its end. -/
def withoutLineEnd (cs : List Char) : List Char :=
  if cs.getLast? == some '\n' then cs.dropLast else cs

/-- The characters of a text that no URI has, each once and in ascending
order; a line feed is not among them. -/
def illegalCharacters (cs : List Char) : List Char :=
  ((cs.filter fun c => !isUriChar c && c != '\n').eraseDups).mergeSort
    (· ≤ ·)

/-- The check of the characters and the escapes of a text. -/
def checkCharacters (cs : List Char) : Except Defect Unit :=
  if !(withoutLineEnd cs).all isUriChar then
    .error (.illegalCharacters (illegalCharacters cs))
  else if !escapesAreWellFormed cs then .error .percentEscape
  else .ok ()

/-- The check of the parts of a URI. -/
def checkParts (cs : List Char) : Except Defect Unit :=
  match scheme? cs with
  | some (scheme, rest) => do
    checkAuthority (authority rest)
    if needsHost scheme && (authority rest).isEmpty then .error .noHost
    else .ok ()
  | none => do
    checkAuthority (authority cs)
    .error .noScheme

/-- **The check of the URI of a request.** -/
def checkChars (cs : List Char) : Except Defect Unit := do
  checkCharacters cs
  checkParts (withoutLineEnd cs)

/-- **A text as the URI of a request**: the text itself, or the failure
that tells its defect. -/
def request (uri : String) : Except Failure String :=
  match checkChars uri.toList with
  | .ok () => .ok uri
  | .error defect => .error (.malformedRequestUri uri defect)

end GeoCatalogue.Uri
