import GeoCatalogue.Number.Reading
import GeoCatalogue.Text.Quoted

/-!
# Defects of request URIs

The reasons for which a text is not accepted as the URI of a request,
from the first that is looked for to the last.
-/
namespace GeoCatalogue.Uri

open Text

/-- **What is wrong with a URI.** -/
inductive Defect where
  /-- Characters that no URI has, each once and in ascending order. -/
  | illegalCharacters (characters : List Char)
  /-- A percent sign without two hexadecimal digits after it. -/
  | percentEscape
  /-- Brackets in the authority that are unpaired or misplaced. -/
  | brackets
  /-- A bracketed address of a future version in the wrong form. -/
  | futureAddress
  /-- An address of version four in brackets. -/
  | bracketedIpv4
  /-- Brackets around something that is no address. -/
  | notAnAddress (host : String)
  /-- A port that is no number. -/
  | portText (port : String)
  /-- A port with more digits than a number is read with. -/
  | portLength (digits : Nat)
  /-- A port above the greatest one. -/
  | portRange
  /-- No scheme in front. -/
  | noScheme
  /-- A scheme that needs an authority, and an empty authority. -/
  | noHost
deriving DecidableEq

/-- The words for a defect. -/
def Defect.message : Defect → String
  | illegalCharacters characters =>
    "illegal characters " ++ quoted (String.ofList characters)
  | percentEscape => "invalid percent-encoding"
  | brackets => "Invalid IPv6 URL"
  | futureAddress => "IPvFuture address is invalid"
  | bracketedIpv4 => "An IPv4 address cannot be in brackets"
  | notAnAddress host =>
    quoted host ++ " does not appear to be an IPv4 or IPv6 address"
  | portText port =>
    "Port could not be cast to integer value as " ++ quoted port
  | portLength digits =>
    "Exceeds the limit (" ++ toString Number.longestInteger ++
      " digits) for integer string conversion: value has " ++
      toString digits ++
      " digits; use sys.set_int_max_str_digits() to increase the limit"
  | portRange => "Port out of range 0-65535"
  | noScheme => "missing scheme"
  | noHost => "missing host"

end GeoCatalogue.Uri
