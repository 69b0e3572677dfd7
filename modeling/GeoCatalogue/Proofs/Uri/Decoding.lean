import GeoCatalogue.Proofs.Uri.Escapes

/-!
# Reading encoded texts

Encoding a text loses nothing: the octets of the encoded text are those of the
text itself, one character after the other (`octets_encodeChars`), and octets
that are the UTF-8 form of a text are the form of no other. So decoding gives
back what was encoded (`decode?_encode`).

An encoded text is written with unreserved characters and percent signs only
(`isEncodedChar`). All characters that divide a URI are others, which is what
tells where an encoded text ends.
-/
namespace GeoCatalogue

namespace Text

@[simp] theorem hexValue?_capitalHexDigit {value : Nat} (h : value < 16) :
    hexValue? (capitalHexDigit value) = some value := by
  decide +revert

end Text

namespace Uri

open Text

/-! ## Octets -/

/-- **The octets of a text with escapes.** An escape stands for its octet, and
any other character for the octets of its UTF-8 form; so does a percent sign
that starts no escape. -/
def octets : List Char → List UInt8
  | [] => []
  | '%' :: high :: low :: rest =>
    match hexValue? high, hexValue? low with
    | some upper, some lower =>
      UInt8.ofNat (16 * upper + lower) :: octets rest
    | _, _ => String.utf8EncodeChar '%' ++ octets (high :: low :: rest)
  | c :: rest => String.utf8EncodeChar c ++ octets rest

/-- **The text that an escaped text stands for**, if its octets are the UTF-8
form of a text. -/
def decode? (text : String) : Option String :=
  String.fromUTF8? (octets text.toList).toByteArray

@[simp] theorem octets_escape (octet : UInt8) (cs : List Char) :
    octets (escape octet ++ cs) = octet :: octets cs := by
  have bound : octet.toNat / 16 < 16 :=
    Nat.div_lt_of_lt_mul octet.toNat_lt
  have digit : octet.toNat % 16 < 16 := Nat.mod_lt _ (by decide)
  unfold escape
  rw [hexDigits_two, Nat.mod_eq_of_lt bound]
  show octets ('%' :: capitalHexDigit (octet.toNat / 16) ::
    capitalHexDigit (octet.toNat % 16) :: cs) = _
  rw [octets]
  simp only [hexValue?_capitalHexDigit bound, hexValue?_capitalHexDigit digit]
  rw [Nat.div_add_mod, UInt8.ofNat_toNat]

/-- Many escapes are read as their octets. -/
@[simp] theorem octets_flatMap_escape (values : List UInt8) (cs : List Char) :
    octets (values.flatMap escape ++ cs) = values ++ octets cs := by
  induction values with
  | nil => rfl
  | cons octet values ih =>
    rw [List.flatMap_cons, List.append_assoc, octets_escape, ih]
    rfl

/-- A character other than the percent sign is read as itself. -/
theorem octets_cons_of_ne {c : Char} (h : c ≠ '%') (cs : List Char) :
    octets (c :: cs) = String.utf8EncodeChar c ++ octets cs := by
  rw [octets]
  intro high low rest same
  exact absurd same h

/-- **An encoded character is read as the octets of the character.** -/
@[simp] theorem octets_encodeChar (c : Char) (cs : List Char) :
    octets (encodeChar c ++ cs) = String.utf8EncodeChar c ++ octets cs := by
  unfold encodeChar
  split
  · next plain => exact octets_cons_of_ne (ne_percent_of_isUnreserved plain) cs
  · exact octets_flatMap_escape _ cs

/-- **The octets of an encoded text** are those of the text. -/
@[simp] theorem octets_encodeChars (cs : List Char) :
    octets (encodeChars cs) = cs.flatMap String.utf8EncodeChar := by
  induction cs with
  | nil => rfl
  | cons c cs ih =>
    unfold encodeChars at ih ⊢
    rw [List.flatMap_cons, octets_encodeChar, ih, List.flatMap_cons]

/-! ## Decoding -/

@[simp] theorem fromUTF8?_toByteArray (text : String) :
    String.fromUTF8? text.toByteArray = some text := by
  unfold String.fromUTF8?
  exact dif_pos text.isValidUTF8

/-- **What was encoded is decoded again.** -/
@[simp] theorem decode?_encode (text : String) :
    decode? (encode text) = some text := by
  have form : (text.toList.flatMap String.utf8EncodeChar).toByteArray
      = text.toByteArray := by
    show text.toList.utf8Encode = text.toByteArray
    rw [← String.toByteArray_ofList, String.ofList_toList]
  unfold decode? encode
  rw [String.toList_ofList, octets_encodeChars, form,
    fromUTF8?_toByteArray]

/-- **Texts that are encoded alike are the same.** -/
theorem encode_injective : Function.Injective encode := by
  intro text other same
  have decoded : decode? (encode text) = decode? (encode other) :=
    congrArg decode? same
  simpa using decoded

/-! ## Characters of encoded texts -/

/-- **Whether a character may stand in an encoded text.** -/
def isEncodedChar (c : Char) : Bool :=
  isUnreserved c || c == '%'

/-- A character that stands for itself may stand there. -/
theorem isEncodedChar_of_isUnreserved {c : Char}
    (h : isUnreserved c = true) : isEncodedChar c = true := by
  unfold isEncodedChar
  rw [h]
  rfl

theorem isEncodedChar_of_mem_escape {octet : UInt8} {c : Char}
    (h : c ∈ escape octet) : isEncodedChar c = true := by
  obtain ⟨high, low, same, hhigh, hlow⟩ := exists_escape_eq octet
  rw [same] at h
  have digits : ∀ d ∈ [high, low], isUnreserved d = true := by
    simp [isUnreserved_of_isHexDigit, hhigh, hlow]
  cases h with
  | head => rfl
  | tail _ h => exact isEncodedChar_of_isUnreserved (digits c h)

/-- **The characters of an encoded text** are unreserved, or percent
signs. -/
theorem isEncodedChar_of_mem_encode {text : String} {c : Char}
    (h : c ∈ (encode text).toList) : isEncodedChar c = true := by
  unfold encode encodeChars at h
  rw [String.toList_ofList] at h
  obtain ⟨d, -, hc⟩ := List.mem_flatMap.mp h
  unfold encodeChar at hc
  split at hc
  · next plain =>
    rw [List.mem_singleton.mp hc]
    exact isEncodedChar_of_isUnreserved plain
  · obtain ⟨octet, -, hc⟩ := List.mem_flatMap.mp hc
    exact isEncodedChar_of_mem_escape hc

end Uri

end GeoCatalogue
