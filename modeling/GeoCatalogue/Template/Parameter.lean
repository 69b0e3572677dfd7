import GeoCatalogue.Journal.Record
import GeoCatalogue.Name.Token
import GeoCatalogue.Number.Reading
import GeoCatalogue.Template.Segments

/-!
# Parameters of a template

Every placeholder of a template declares a **parameter**: its qualified
name, whether a value is required, the type of the value and a default.
The names of OpenSearch 1.1 have types and defaults of their own
(`wellKnown`); any other parameter is a text with an empty default.

* `Parameter.describe` – the parameter a token declares;
* `Parameter.ofTemplate` – the parameters of a template, one for each
  placeholder, in order;
* `Parameter.defaultOf?` – the default of a name in a list of
  parameters;
* `Parameter.notices`, `Parameter.templateNotices` – the records that go
  with the first two.
-/
namespace GeoCatalogue

/-- **The type of the values of a parameter.** -/
inductive ValueType where
  /-- Any text. -/
  | string
  /-- A whole number. -/
  | integer
  /-- The name of a character encoding. -/
  | charset
deriving DecidableEq, Repr

/-- The printed name of a type. -/
def ValueType.text : ValueType → String
  | string => "string"
  | integer => "integer"
  | charset => "charset"

/-- **The default of a parameter.** -/
inductive DefaultValue where
  /-- A text. -/
  | text (value : String)
  /-- A whole number. -/
  | number (value : Int)
deriving DecidableEq, Repr

/-- What a default puts into a template. -/
def DefaultValue.asText : DefaultValue → String
  | text value => value
  | number value => toString value

/-- **A parameter of a template.** -/
structure Parameter where
  /-- The qualified name. -/
  name : QName
  /-- Whether a value is required. -/
  required : Bool := true
  /-- The type of the values. -/
  valueType : ValueType := .string
  /-- The value taken when none is given. -/
  defaultValue : DefaultValue := .text ""
deriving DecidableEq, Repr

/-- **The numbers that counting starts from**, as written in a
description: of the results and of the pages. -/
structure Offsets where
  /-- The number of the first result. -/
  index : Option String := none
  /-- The number of the first page. -/
  page : Option String := none
deriving DecidableEq, Repr

namespace Parameter

open Text Journal

/-- Parameters name the same thing when their names are equal, whatever
else they say. -/
def sameName (p q : Parameter) : Bool :=
  p.name == q.name

/-- The integer of an offset text, blanks around it ignored. -/
def readOffset? (text : String) : Option Int :=
  Number.readInteger? (trim text)

/-- **The number an offset text stands for**: one if it is absent, blank
or no integer. -/
def offsetValue (text : Option String) : Int :=
  (text.bind readOffset?).getD 1

/-- Whether an offset text is neither absent nor blank nor an integer. -/
def offsetIsInvalid (text : Option String) : Bool :=
  text.any fun value =>
    !isBlankText value && (readOffset? value).isNone

/-- **The parameters of OpenSearch 1.1** that are not plain texts. -/
def wellKnown (offsets : Offsets) : Table String (ValueType × DefaultValue) := [
  ("count", .integer, .text ""),
  ("startIndex", .integer, .number (offsetValue offsets.index)),
  ("startPage", .integer, .number (offsetValue offsets.page)),
  ("language", .string, .text "*"),
  ("inputEncoding", .charset, .text "UTF-8"),
  ("outputEncoding", .charset, .text "UTF-8")]

/-- The type and the default of a name. -/
def typeAndDefault (offsets : Offsets) (name : QName) :
    ValueType × DefaultValue :=
  let known :=
    if name.namespaceName = Vocabulary.openSearch then
      (wellKnown offsets).get? name.localName
    else none
  known.getD (.string, .text "")

/-- **The parameter a token declares.** -/
def describe (bindings : Bindings) (offsets : Offsets) (token : String) :
    Except Failure Parameter := do
  let name ← Token.resolve bindings token
  let (valueType, defaultValue) := typeAndDefault offsets name
  .ok ⟨name, !Token.isOptional token, valueType, defaultValue⟩

/-- The offset that the default of a name is taken from, with the name of
the attribute it is written in. -/
def offsetOf? (offsets : Offsets) (name : QName) :
    Option (String × Option String) :=
  if name = ⟨Vocabulary.openSearch, "startIndex"⟩ then
    some ("indexOffset", offsets.index)
  else if name = ⟨Vocabulary.openSearch, "startPage"⟩ then
    some ("pageOffset", offsets.page)
  else none

/-- The record of an offset that is not used. -/
def offsetNotice (source : String) (text : Option String) : Record :=
  ⟨.warning, .parameters,
    "Ignoring invalid " ++ source ++ " value " ++ quotedOption text ++
      ", using 1"⟩

/-- **The records of describing a token**: one when the default is taken
from an offset that is no integer. -/
def notices (bindings : Bindings) (offsets : Offsets) (token : String) :
    List Record :=
  match Token.resolve bindings token with
  | .error _ => []
  | .ok name =>
    match offsetOf? offsets name with
    | some (source, text) =>
      if offsetIsInvalid text then [offsetNotice source text] else []
    | none => []

/-- **The parameters of a template**, one for each placeholder. -/
def ofTemplate (bindings : Bindings) (offsets : Offsets) (template : String) :
    Except Failure (List Parameter) :=
  (Segments.ofString template).tokens.mapM (describe bindings offsets)

/-- The tokens that are described before one fails, in order. -/
def describedTokens (bindings : Bindings) (template : String) : List String :=
  (Segments.ofString template).tokens.takeWhile fun token =>
    (Token.resolve bindings token).isOk

/-- The records of describing a template. -/
def templateNotices (bindings : Bindings) (offsets : Offsets)
    (template : String) : List Record :=
  (describedTokens bindings template).flatMap (notices bindings offsets)

/-- **The default of a name**, from the first parameter of that name. -/
def defaultOf? (parameters : List Parameter) (name : QName) :
    Option String :=
  (parameters.find? (·.name == name)).map (·.defaultValue.asText)

end Parameter

end GeoCatalogue
