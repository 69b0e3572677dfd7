import GeoCatalogue.Fault
import GeoCatalogue.Template.Expansion
import GeoCatalogue.Xml.Nodes

/-!
# Descriptions of services

A service describes itself by a document whose `Url` elements declare URL
templates, on whatever level they stand. Each of them is registered with
the parameters that its placeholders declare under the namespace bindings
of that very element. `Query` elements give examples of requests: their
attributes are values of parameters.

* `Description.ofElement` – the description in a document;
* `Description.forType` – the templates with a media type;
* `Description.queries`, `Description.queryValues` – the queries of a
  role and the values that a query gives;
* `Description.notices` – the records of reading a description.
-/
namespace GeoCatalogue

open Text Journal Xml

/-- **The description of a service.** -/
structure Description where
  /-- The number that tells a description from all others. -/
  serial : Nat
  /-- The document element. -/
  root : Element
  /-- The templates with their parameters. -/
  registry : Registry

namespace Description

/-- A name in the namespace of descriptions. -/
def named (localName : String) : QName :=
  ⟨Vocabulary.openSearch, localName⟩

/-- **The template that an element declares.** -/
def templateOf (serial : Nat) (url : Element) : UrlTemplate where
  serial := serial
  template := (url.attribute? "template").getD ""
  mediaType := (url.attribute? "type").getD ""
  rel := (url.attribute? "rel").getD "results"
  offsets := ⟨url.attribute? "indexOffset", url.attribute? "pageOffset"⟩
  bindings := url.tag.scope

/-- **The templates that a document declares**, in document order; they
are numbered from a first number on. -/
def templatesOf (first : Nat) (root : Element) : List UrlTemplate :=
  (root.descendantsNamed (named "Url")).mapIdx fun index url =>
    templateOf (first + index) url

/-- **The description in a document.** -/
def ofElement (serial first : Nat) (root : Element) :
    Except Failure Description := do
  let registry ← (templatesOf first root).foldlM Registry.register {}
  .ok ⟨serial, root, registry⟩

/-- The templates of a description, in order. -/
def templates (d : Description) : List UrlTemplate :=
  d.registry.templates

/-- The text of a first-level element of the document. -/
def textOf? (root : Element) (localName : String) : Option String :=
  (root.childNamed? (named localName)).map Element.leadingText

/-- The short name of the service. -/
def shortName? (d : Description) : Option String :=
  textOf? d.root "ShortName"

/-- The words that describe the service. -/
def words? (d : Description) : Option String :=
  textOf? d.root "Description"

/-- **The templates whose responses have a media type**, without regard
to its parameters. -/
def forType (d : Description) (mediaType : String) : List UrlTemplate :=
  d.templates.filter (·.plainMediaType == mediaType)

/-- The printed description. -/
def text (d : Description) : String :=
  "<OpenSearchDescription " ++ quotedOption d.shortName? ++
    " templates=" ++ toString d.registry.size ++ ">"

/-! ## Queries -/

/-- The attributes of a query that are no values of parameters. -/
def isMetadata (name : QName) : Bool :=
  name.namespaceName == "" &&
    ["role", "title", "totalResults"].contains name.localName

/-- **The parameter that an attribute gives a value of.** -/
def parameterName (scope : Bindings) (name : QName) :
    Except Failure QName :=
  if name.namespaceName = "" then Token.resolve scope name.localName
  else .ok name

/-- **The values that a query gives**, in the order of its attributes. -/
def queryValues (query : Element) : Except Failure Values :=
  (query.tag.attributes.filter (!isMetadata ·.1)).mapM
    fun (attr, value) => do
      let name ← parameterName query.tag.scope attr
      .ok (name, value)

/-- The role of a query. -/
def roleOf (query : Element) : Except Failure QName :=
  Token.resolve query.tag.scope ((query.attribute? "role").getD "")

/-- **The queries of a role**, in document order. All roles are looked
at, so one that cannot be resolved makes the search fail. -/
def queries (d : Description) (role : QName) :
    Except Failure (List Element) := do
  let found ← (d.root.descendantsNamed (named "Query")).mapM fun query => do
    .ok (query, ← roleOf query)
  .ok ((found.filter (·.2 == role)).map Prod.fst)

/-! ## Records -/

/-- The record of a document element of another name. -/
def rootNotices (root : Element) : List Record :=
  if root.name = named "OpenSearchDescription" then []
  else
    [⟨.warning, .description, "Unexpected document element " ++
      quoted root.name.tag ++ ", expected os:OpenSearchDescription"⟩]

/-- The templates whose parameters are worked out: all up to the first
that fails, that one included. -/
def visited : List UrlTemplate → List UrlTemplate
  | [] => []
  | t :: rest => if t.parameters.isOk then t :: visited rest else [t]

/-- The record of a description that has been read. -/
def countNotices (first : Nat) (root : Element) : List Record :=
  match ofElement 0 first root with
  | .ok d => [⟨.debug, .description, "Found " ++
      toString d.registry.size ++
      " URL templates in OpenSearch description"⟩]
  | .error _ => []

/-- **The records of reading a description.** -/
def notices (root : Element) : List Record :=
  rootNotices root ++
    (visited (templatesOf 0 root)).flatMap UrlTemplate.notices ++
    countNotices 0 root

end Description

end GeoCatalogue
