import GeoCatalogue.Template.Parameter

/-!
# URL templates

A **URL template** is one way to ask a service: the text with its
placeholders, what comes back, and what is needed to understand the
placeholders – the namespace bindings of the place where the template is
declared and the offsets that counting starts from.

Two declarations are two templates even if they say the same: each has
a serial number, and templates are told apart by it.
-/
namespace GeoCatalogue

/-- **A URL template.** -/
structure UrlTemplate where
  /-- The number that tells a template from all others. -/
  serial : Nat
  /-- The text with its placeholders. -/
  template : String
  /-- The media type of the response. -/
  mediaType : String := ""
  /-- The role of the response. -/
  rel : String := "results"
  /-- The offsets that counting starts from. -/
  offsets : Offsets := {}
  /-- The namespace bindings that the placeholders are read under. -/
  bindings : Bindings := []
deriving DecidableEq, Repr

namespace UrlTemplate

open Text

/-- Whether two templates are the same one. -/
def same (t u : UrlTemplate) : Bool :=
  t.serial == u.serial

/-- The printed template. -/
def text (t : UrlTemplate) : String :=
  "URLTemplate(" ++ quoted t.template ++ ", media_type=" ++
    quoted t.mediaType ++ ")"

/-- **The parameters that the placeholders declare**, in order. -/
def parameters (t : UrlTemplate) : Except Failure (List Parameter) :=
  Parameter.ofTemplate t.bindings t.offsets t.template

/-- The records of working out the parameters. -/
def notices (t : UrlTemplate) : List Journal.Record :=
  Parameter.templateNotices t.bindings t.offsets t.template

/-- The media type without its own parameters. -/
def plainMediaType (t : UrlTemplate) : String :=
  String.ofList
    (trimList isBlank (t.mediaType.toList.takeWhile (· ≠ ';')))

end UrlTemplate

end GeoCatalogue
