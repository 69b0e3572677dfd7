import GeoCatalogue.Uri.Address

/-!
# Authorities

The **authority** of a URI names a host: user information and an at sign,
a host, a colon and a port, of which only the host is needed. A host in
brackets may hold colons. The user information goes up to the *last* at
sign; the port begins after the bracketed host or, without brackets, at
the first colon after the at sign.
-/
namespace GeoCatalogue.Uri

/-- The part of an authority after its last at sign. -/
def hostAndPort (authority : List Char) : List Char :=
  (authority.reverse.takeWhile (· != '@')).reverse

/-- The characters before the first occurrence of one. -/
def before (mark : Char) (cs : List Char) : List Char :=
  cs.takeWhile (· != mark)

/-- The characters after the first occurrence of one. -/
def after (mark : Char) (cs : List Char) : List Char :=
  (cs.dropWhile (· != mark)).drop 1

/-- **The host of an authority**, without brackets. -/
def host (authority : List Char) : List Char :=
  let target := hostAndPort authority
  if target.contains '[' then before ']' (after '[' target)
  else before ':' target

/-- **The text of the port of an authority**, empty if there is none. -/
def port (authority : List Char) : List Char :=
  let target := hostAndPort authority
  if target.contains '[' then after ':' (after ']' (after '[' target))
  else after ':' target

/-- The check that a bracket follows the user information at once, and
that only a port follows the closing bracket. -/
def checkBracketPlace (authority : List Char) : Except Defect Unit :=
  let target := hostAndPort authority
  if target.contains '[' then
    if !(before '[' target).isEmpty then .error .brackets
    else
      match after ']' (after '[' target) with
      | [] => .ok ()
      | c :: _ => if c == ':' then .ok () else .error .brackets
  else .ok ()

/-- The check of the brackets of an authority. -/
def checkBrackets (authority : List Char) : Except Defect Unit := do
  let opened := authority.contains '['
  let closed := authority.contains ']'
  if opened != closed then .error .brackets
  else if opened then
    checkBracketPlace authority
    checkBracketed (host authority)
  else .ok ()

/-- The greatest port. -/
def greatestPort : Nat := 65535

/-- The check of the port of an authority. -/
def checkPort (authority : List Char) : Except Defect Unit :=
  let digits := port authority
  if digits.isEmpty then .ok ()
  else if !digits.all isDigit then .error (.portText (String.ofList digits))
  else if Number.longestInteger < digits.length then
    .error (.portLength digits.length)
  else if greatestPort < decimalValue digits then .error .portRange
  else .ok ()

/-- **The check of an authority**: its brackets, then its port. -/
def checkAuthority (authority : List Char) : Except Defect Unit := do
  checkBrackets authority
  checkPort authority

end GeoCatalogue.Uri
