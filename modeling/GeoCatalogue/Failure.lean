import GeoCatalogue.Envelope.Bounds
import GeoCatalogue.Name.Qualified
import GeoCatalogue.Uri.Defect

/-!
# Failures

A request or an extent that cannot be worked out ends in a **failure**:
one of eight kinds, each with what caused it. A ninth is not of the
library's own making: systems between which there is no operation are
reported in the words of the geodesy, and in no others. Inputs of the
wrong form altogether – a document that is not well-formed, a missing
file – are not failures but faults, and are described elsewhere.

* `Failure.code` – the name of the kind;
* `Failure.message` – the code in brackets and the words for the cause;
* `Failure.isOwn` – whether a failure is one of the eight kinds.
-/
namespace GeoCatalogue

open Text

/-- **Why an envelope is malformed.** -/
inductive EnvelopeDefect where
  /-- A coordinate that is not finite. -/
  | nonFinite (bounds : Bounds Extended)
  /-- A lower corner above the upper one on some axis. -/
  | cornersExchanged (bounds : Bounds Binary64) (crs : String)
  /-- A corner that does not hold two coordinates. -/
  | coordinateCount (source : String) (count : Nat) (text : String)
  /-- A box text that does not hold four coordinates. -/
  | boxText (text : String)
  /-- An envelope that does not hold two corners. -/
  | cornerCount (count : Nat)
  /-- A corner element that is missing in a box element. -/
  | missingCorner (corner box : String)
deriving DecidableEq

/-- **Why a coordinate reference system is not supported.** -/
inductive CrsDefect where
  /-- The reference is absent or blank. -/
  | noReference
  /-- The reference has none of the known forms. -/
  | unrecognized
  /-- The reference names no known system; the words explain it. -/
  | unknown (explanation : String)
  /-- The system has too few axes. -/
  | tooFewAxes (count : Nat)
deriving DecidableEq

/-- **Why bounds cannot be transformed.** -/
inductive TransformDefect where
  /-- Some point has no image; the words explain it. -/
  | projection (explanation : String)
  /-- A coordinate of the result is not finite. -/
  | nonFinite (result : Bounds Extended)
  /-- The result goes around the globe past longitude 180. -/
  | crossesAntimeridian (result : Bounds Extended)
  /-- The result has a lower corner above the upper one. -/
  | inverted (result : Bounds Extended)
deriving DecidableEq

/-- **What a request or an extent fails for.** -/
inductive Failure where
  /-- A name whose label stands for no namespace. -/
  | unresolvedPrefix (label token : String)
  /-- A placeholder without a value and without a descriptor. -/
  | undeclaredParameter (name : QName) (template : String)
  /-- A built text that is no URI. -/
  | malformedRequestUri (uri : String) (defect : Uri.Defect)
  /-- Corners that bound no envelope. -/
  | malformedEnvelope (defect : EnvelopeDefect)
  /-- A coordinate that is no finite number. -/
  | invalidCoordinate (value source : String)
  /-- No envelope to take the extent of. -/
  | noExtentData
  /-- Bounds without an image in another system. -/
  | transformFailure (source target : String) (defect : TransformDefect)
  /-- A reference to a system that cannot be used. -/
  | unsupportedCrs (reference : Option String) (defect : CrsDefect)
  /-- Systems without an operation between them; the words explain it. -/
  | noOperation (explanation : String)
deriving DecidableEq

/-- The words for a malformed envelope. -/
def EnvelopeDefect.message : EnvelopeDefect → String
  | nonFinite bounds =>
    "Non-finite envelope coordinates: " ++ bounds.lower.text ++ " " ++
      bounds.upper.text
  | cornersExchanged bounds crs =>
    "Lower corner " ++ bounds.lower.extended.text ++
      " exceeds upper corner " ++ bounds.upper.extended.text ++
      " (" ++ crs ++ ")"
  | coordinateCount source count text =>
    "Expected 2 coordinates in " ++ source ++ ", but got " ++
      toString count ++ ": " ++ quoted text
  | boxText text =>
    "Expected two coordinate tuples (lower and upper corners) in " ++
      "georss:box, but got " ++ quoted text
  | cornerCount count =>
    "Expected two coordinate tuples (lower and upper corners) in " ++
      "gml:Envelope, but got " ++ toString count
  | missingCorner corner box => "Missing " ++ corner ++ " in " ++ box

/-- The words for an unsupported reference. -/
def CrsDefect.message : CrsDefect → String
  | noReference => "no CRS reference given"
  | unrecognized => "unrecognized CRS reference"
  | unknown explanation => explanation
  | tooFewAxes count =>
    "expected at least 2 axes, got " ++ toString count

/-- The words for a failed transformation. -/
def TransformDefect.message : TransformDefect → String
  | projection explanation => explanation
  | nonFinite result => "non-finite result " ++ result.text
  | crossesAntimeridian result =>
    "result crosses the antimeridian: " ++ result.text
  | inverted result => "result is inverted: " ++ result.text

namespace Failure

/-- The name of the kind of a failure. -/
def code : Failure → String
  | unresolvedPrefix .. => "UnresolvedPrefix"
  | undeclaredParameter .. => "UndeclaredParameter"
  | malformedRequestUri .. => "MalformedRequestURI"
  | malformedEnvelope .. => "MalformedEnvelope"
  | invalidCoordinate .. => "InvalidCoordinate"
  | noExtentData => "NoExtentData"
  | transformFailure .. => "TransformFailure"
  | unsupportedCrs .. => "UnsupportedCRS"
  | noOperation .. => "ProjError"

/-- The words for a failure. An unresolved label is reported with the
name it was found in, or alone when that name is empty. -/
def description : Failure → String
  | unresolvedPrefix label token =>
    "Namespace prefix " ++ quoted label ++ " is not bound (in parameter " ++
      quoted (if token == "" then label else token) ++ ")."
  | undeclaredParameter name template =>
    "No parameter descriptor for " ++ name.text ++ " in URL template " ++
      quoted template ++ "."
  | malformedRequestUri uri defect =>
    "Request URI is not a valid URI: " ++ quoted uri ++ " (" ++
      defect.message ++ ")."
  | malformedEnvelope defect => defect.message
  | invalidCoordinate value source =>
    "Invalid coordinate value " ++ quoted value ++ " in " ++ source ++ "."
  | noExtentData => "There is no extent data to coalesce."
  | transformFailure source target defect =>
    "Failed to transform envelope from " ++ quoted source ++ " to " ++
      quoted target ++ ": " ++ defect.message
  | unsupportedCrs reference defect =>
    "Unsupported coordinate reference system " ++ quotedOption reference ++
      ": " ++ defect.message
  | noOperation explanation => explanation

/-- Whether a failure is one of the library's own kinds. -/
def isOwn : Failure → Bool
  | noOperation .. => false
  | _ => true

/-- **The message of a failure.** -/
def message (f : Failure) : String :=
  if f.isOwn then "[" ++ f.code ++ "] " ++ f.description
  else f.description

end Failure

end GeoCatalogue
