import GeoCatalogue.Template.Registry
import GeoCatalogue.Uri.Request

/-!
# Building request URIs

A template becomes the URI of a request by putting a text in the place of
every placeholder: the value given for its name, as it is, or else the
default of the first parameter of that name. What was put in is not
looked at again. The result has to be an acceptable URI.

* `Registry.substitute` – the text in the place of a placeholder;
* `Registry.expand` – the text of the template with its placeholders
  filled in;
* `Registry.build` – the URI of a request.
-/
namespace GeoCatalogue

/-- **Values of parameters**; the last one of a name counts. -/
abbrev Values := Table QName String

namespace Registry

open Text Journal

/-- **The text in the place of a placeholder.** -/
def substitute (r : Registry) (t : UrlTemplate) (values : Values)
    (token : String) : Except Failure String := do
  let name ← Token.resolve t.bindings token
  match values.get? name with
  | some value => .ok value
  | none =>
    match Parameter.defaultOf? (r.parameters t) name with
    | some value => .ok value
    | none => .error (.undeclaredParameter name t.template)

/-- **A template with its placeholders filled in.** -/
def expand (r : Registry) (t : UrlTemplate) (values : Values) :
    Except Failure String := do
  let chars ← (Segments.ofString t.template).fill (r.substitute t values)
  .ok (String.ofList chars)

/-- **The URI of a request.** -/
def build (r : Registry) (t : UrlTemplate) (values : Values) :
    Except Failure String := do
  let candidate ← r.expand t values
  Uri.request candidate

/-- The records of building a URI: the text, before it is checked. -/
def buildNotices (r : Registry) (t : UrlTemplate) (values : Values) :
    List Record :=
  match r.expand t values with
  | .ok candidate =>
    [⟨.debug, .templates, "Built request URI " ++ quoted candidate ++
      " from " ++ quoted t.template⟩]
  | .error _ => []

end Registry

end GeoCatalogue
