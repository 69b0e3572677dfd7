import GeoCatalogue.Failure
import GeoCatalogue.Http
import GeoCatalogue.Number.Quantity
import GeoCatalogue.XPath.Evaluation
import GeoCatalogue.Xml.Defect

/-!
# Faults

Everything that can go wrong: a failure to work out a request or an
extent, or an input that is not of the right form to begin with – a
number, a document, a path expression, a file, a setting or a reply.

* `Fault` – the causes;
* `Fault.message?` – the words for those faults that have words of their
  own here;
* `Fault.isValueFault` – the faults of values, as against those of the
  surroundings.
-/
namespace GeoCatalogue

/-- **Why a value is no number, or no position.** -/
inductive NumberDefect where
  /-- A text that is no number. -/
  | text
  /-- A whole number beyond all numbers of the format. -/
  | tooLarge
  /-- Something that is neither a number nor a text. -/
  | kind
  /-- The wrong count of coordinates. -/
  | count
deriving DecidableEq, Repr

/-- **Why settings cannot be used.** -/
inductive SettingDefect where
  /-- A name that no setting has. -/
  | unknownName (name : String)
  /-- A value of the wrong kind. -/
  | kind (name : String)
  /-- A quantity that has to be positive, and is not. -/
  | notPositive (name : String) (value : Quantity)
  /-- A number of retries below zero. -/
  | negativeRetries
  /-- A level that there is not. -/
  | level (name : String)
  /-- A file of settings that is not there. -/
  | missingFile (path : String)
  /-- A file that defines something else. -/
  | notSettings (path found : String)
  /-- Settings that are called something without a printed form. -/
  | unprintable
deriving DecidableEq

/-- **What can go wrong.** -/
inductive Fault where
  /-- A request or an extent that cannot be worked out. -/
  | failure (cause : Failure)
  /-- A value that is no number, or no position. -/
  | number (defect : NumberDefect)
  /-- A text that is no document. -/
  | document (defect : Xml.Defect)
  /-- A path expression without a value. -/
  | expression (defect : XPath.Defect)
  /-- A binding without a label, which path expressions cannot use. -/
  | bindingWithoutLabel
  /-- Something other than an element where a box is looked for. -/
  | notAnElement
  /-- An element that is no box. -/
  | unsupportedBox (tag : String)
  /-- A file that cannot be read. -/
  | unreadable (path : String)
  /-- A data file that is not there. -/
  | missingData (path : String)
  /-- Settings that cannot be used. -/
  | setting (defect : SettingDefect)
  /-- A setting that is no reference, in the place of one. -/
  | notAReference
  /-- A reply that cannot be used. -/
  | reply (defect : HttpDefect)
  /-- A cache without room for anything. -/
  | noRoom
  /-- A level of the journal that there is not. -/
  | level (name : String)
  /-- A parameter of a command without an equals sign. -/
  | parameterText (text : String)
deriving DecidableEq

/-- The words for settings that cannot be used, where there are any. -/
def SettingDefect.message? : SettingDefect → Option String
  | notPositive name value =>
    if value.isPrintable then
      some (name ++ " must be positive, got " ++ value.text)
    else none
  | missingFile path => some ("Config file not found: " ++ path)
  | notSettings path found =>
    some ("Expected OpenSearchGeoConfig in " ++ path ++ " but got " ++ found)
  | _ => none

namespace Fault

open Text

/-- **The words for a fault**, where there are any. -/
def message? : Fault → Option String
  | failure cause => some cause.message
  | unsupportedBox tag =>
    some ("Not a supported bounding box element: " ++ tag)
  | missingData path => some ("Data file does not exist at " ++ path)
  | setting defect => defect.message?
  | reply (.refused _ explanation) => some explanation.val
  | parameterText text =>
    some ("Invalid parameter " ++ quoted text ++ ", expected NAME=VALUE")
  | _ => none

/-- **Whether a fault is one of values**, which a command reports; the
others come from the surroundings and end it. A request that is refused
has an address or something else that is no such value, whereas one that is
sent may find nobody. -/
def isValueFault : Fault → Bool
  | failure cause => cause.isOwn
  | notAnElement | unsupportedBox _ | missingData _ | level _ |
    parameterText _ => true
  | number defect => defect ≠ .kind && defect ≠ .tooLarge
  | setting (.unknownName _) | setting (.kind _) => false
  | setting _ => true
  | reply (.refused defect _) => defect ≠ .range
  | _ => false

/-- The result of what can only fail, among those of what can go
wrong. -/
def lift {α : Type} : Except Failure α → Except Fault α
  | .ok value => .ok value
  | .error cause => .error (.failure cause)

end Fault

end GeoCatalogue
