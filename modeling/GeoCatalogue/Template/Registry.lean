import GeoCatalogue.Template.UrlTemplate

/-!
# The registry of templates

A **registry** holds the templates of a service with their parameters.
Templates stay in the order in which they were first registered;
registering one again replaces its parameters and keeps its place. The
parameters are those that the placeholders declare, or a list given
instead.

* `Registry.insert` – a template with a list of parameters;
* `Registry.register` – a template with its own parameters, which fails
  and leaves the registry alone when one of them has no name;
* `Registry.templates`, `Registry.parameters`, `Registry.contains` – what
  is registered;
* `Registry.filterByParam` – the templates that declare a name.
-/
namespace GeoCatalogue

/-- **Templates with their parameters**, in the order of registration. -/
structure Registry where
  /-- The templates and their parameters, no template twice. -/
  entries : List (UrlTemplate × List Parameter) := []
deriving Repr

namespace Registry

/-- The entries with the parameters of one template replaced, or with the
template added at the end. -/
def put (t : UrlTemplate) (parameters : List Parameter) :
    List (UrlTemplate × List Parameter) → List (UrlTemplate × List Parameter)
  | [] => [(t, parameters)]
  | entry :: rest =>
    if entry.1.same t then (entry.1, parameters) :: rest
    else entry :: put t parameters rest

/-- **A registry with a template and its parameters.** -/
def insert (r : Registry) (t : UrlTemplate) (parameters : List Parameter) :
    Registry :=
  ⟨put t parameters r.entries⟩

/-- **A registry with a template and the parameters that its placeholders
declare.** -/
def register (r : Registry) (t : UrlTemplate) : Except Failure Registry := do
  let parameters ← t.parameters
  .ok (r.insert t parameters)

/-- The registered templates, in order. -/
def templates (r : Registry) : List UrlTemplate :=
  r.entries.map Prod.fst

/-- How many templates are registered. -/
def size (r : Registry) : Nat :=
  r.entries.length

/-- Whether a template is registered. -/
def contains (r : Registry) (t : UrlTemplate) : Bool :=
  r.entries.any (·.1.same t)

/-- **The parameters of a template**, none if it is not registered. -/
def parameters (r : Registry) (t : UrlTemplate) : List Parameter :=
  ((r.entries.find? (·.1.same t)).map Prod.snd).getD []

/-- Whether a template declares a name. -/
def declares (r : Registry) (name : QName) (t : UrlTemplate) : Bool :=
  (r.parameters t).any (·.name == name)

/-- **The templates of a list that declare a name**, in the order of the
list. -/
def filterByParam (r : Registry) (name : QName)
    (templates : List UrlTemplate) : List UrlTemplate :=
  templates.filter (r.declares name)

end Registry

end GeoCatalogue
