import GeoCatalogue.Text.Hexadecimal
import GeoCatalogue.Uri.Character
import GeoCatalogue.Uri.Defect

/-!
# Addresses of hosts

In an authority, brackets hold the address of a host: of IP version 6, or
of a version still to come (`v`, a hexadecimal version, a full stop and
an address).

An address of **version 4** is four decimal octets without leading
zeros, divided by full stops. An address of **version 6** is eight
groups of up to four hexadecimal digits, divided by colons; one run of
groups may be left out at a double colon, the last two groups may be
written as a version 4 address, and a percent sign may introduce the
name of a zone.
-/
namespace GeoCatalogue.Uri

open Text

/-- A text divided at every occurrence of a character. -/
def splitAt (mark : Char) : List Char → List (List Char)
  | [] => [[]]
  | c :: rest =>
    if c == mark then [] :: splitAt mark rest
    else
      match splitAt mark rest with
      | part :: parts => (c :: part) :: parts
      | [] => [[c]]

/-- The value of a text of decimal digits. -/
def decimalValue (digits : List Char) : Nat :=
  digits.foldl (fun value c => value * 10 + (c.toNat - '0'.toNat)) 0

/-- Whether a text is an octet of a version 4 address. -/
def isOctet (digits : List Char) : Bool :=
  !digits.isEmpty && digits.all isDigit && digits.length ≤ 3 &&
    (digits.length == 1 || digits.head? != some '0') &&
    decimalValue digits ≤ 255

/-- **Addresses of version 4.** -/
def isIpv4 (address : List Char) : Bool :=
  let octets := splitAt '.' address
  octets.length == 4 && octets.all isOctet

/-- Whether a text is a group of a version 6 address. -/
def isGroup (digits : List Char) : Bool :=
  !digits.isEmpty && digits.all isHexDigit && digits.length ≤ 4

/-- The groups of a version 6 address, with two groups in the place of a
version 4 address at the end; absent if that address is none. -/
def groups? (address : List Char) : Option (List (List Char)) :=
  let parts := splitAt ':' address
  match parts.getLast? with
  | some last =>
    if last.contains '.' then
      if isIpv4 last then some (parts.dropLast ++ [['0'], ['0']]) else none
    else some parts
  | none => none

/-- Whether the texts between the colons form eight groups, one run of
which may be left out. A run at either end leaves two empty texts, one
of them at the end itself. -/
def areGroups (parts : List (List Char)) : Bool :=
  let inner := (parts.drop 1).dropLast
  match inner.findIdx? List.isEmpty with
  | none => parts.length == 8 && parts.all isGroup
  | some index =>
    let before := parts.take (index + 1)
    let after := parts.drop (index + 2)
    let beforeGroups := if before == [[]] then [] else before
    let afterGroups := if after == [[]] then [] else after
    beforeGroups.all isGroup && afterGroups.all isGroup &&
      beforeGroups.length + afterGroups.length ≤ 7

/-- An address without the name of its zone; absent if that name is empty
or holds a percent sign. -/
def withoutZone? (address : List Char) : Option (List Char) :=
  match address.dropWhile (· != '%') with
  | [] => some address
  | _ :: zone =>
    if zone.isEmpty || zone.contains '%' then none
    else some (address.takeWhile (· != '%'))

/-- **Addresses of version 6.** -/
def isIpv6 (address : List Char) : Bool :=
  match withoutZone? address with
  | none => false
  | some plain =>
    3 ≤ (splitAt ':' plain).length &&
      match groups? plain with
      | none => false
      | some parts => parts.length ≤ 9 && areGroups parts

/-- Whether an address that starts with `v` has the form of a future
version: hexadecimal digits, a full stop and at least one character. -/
def isFutureAddress (address : List Char) : Bool :=
  let version := (address.drop 1).takeWhile isHexDigit
  let rest := (address.drop 1).dropWhile isHexDigit
  !version.isEmpty && rest.head? == some '.' && 2 ≤ rest.length

/-- **The check of a host in brackets.** -/
def checkBracketed (host : List Char) : Except Defect Unit :=
  if host.head? == some 'v' then
    if isFutureAddress host then .ok () else .error .futureAddress
  else if isIpv4 host then .error .bracketedIpv4
  else if isIpv6 host then .ok ()
  else .error (.notAnAddress (String.ofList host))

end GeoCatalogue.Uri
