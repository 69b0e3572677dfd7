import GeoCatalogue.Proofs.Crs.Forms

/-!
# Identifiers as references

An identifier is kept where a reference was, and it is brought to the form
of an identifier again whenever it is used. For an identifier in short form
nothing happens then. But an identifier need not have the short form: the
code in a URN or a URL may hold any characters. Such an identifier is either
refused, or it happens to be a reference in one of the longer forms and
becomes another identifier, with fewer marks (`normalize_again`). So an
identifier stays as it is exactly if it has the short form
(`normalize_eq_self_iff`).
-/
namespace GeoCatalogue.Crs

open Text

/-- **Whether an identifier has the short form**: ASCII letters, a colon, and
a code of ASCII letters, digits and full stops. -/
def IsShort (id : String) : Prop :=
  (ofShort? id.toList).isSome = true

instance (id : String) : Decidable (IsShort id) :=
  inferInstanceAs (Decidable (_ = true))

/-! ## The characters of an identifier -/

/-- **The two parts of an identifier**, in front of its first colon and after
it. -/
structure IsIdentifier (name code : List Char) : Prop where
  /-- The name has no small ASCII letters. -/
  large : ∀ c ∈ name, isAsciiSmall c = false
  /-- The name has no marks. -/
  unmarked : ∀ c ∈ name, isMark c = false
  /-- The name has no blanks. -/
  solid : ∀ c ∈ name, isBlank c = false
  /-- The code has no small ASCII letters either if it is one of the OGC. -/
  ogc : String.ofList name = "OGC" → ∀ c ∈ code, isAsciiSmall c = false
  /-- The code does not end in a blank. -/
  solidEnd : ∀ c, code.getLast? = some c → isBlank c = false

/-- The code that is written in an identifier. -/
def writtenCode (authority code : List Char) : List Char :=
  if upper (String.ofList authority) = "OGC" then
    (upper (String.ofList code)).toList
  else code

theorem toList_identifier (authority code : List Char) :
    (identifier authority code).toList
      = (upper (String.ofList authority)).toList ++
        ':' :: writtenCode authority code := by
  unfold identifier writtenCode
  rw [String.toList_append, String.toList_append]
  split
  · exact List.append_assoc _ _ _
  · exact (List.append_assoc _ _ _).trans
      (congrArg (fun cs => _ ++ ':' :: cs) (String.toList_ofList))

/-- **The marks of an identifier** are those of the code and the colon in
front of it. -/
@[simp] theorem marks_identifier {authority : List Char}
    (letters : ∀ c ∈ authority, isFoldedLetter c = true) (code : List Char) :
    marks (identifier authority code).toList = marks code + 1 := by
  have name : marks (upper (String.ofList authority)).toList = 0 := by
    unfold marks
    rw [countP_upper toNat_of_isMark, String.toList_ofList]
    exact marks_of_all_isFoldedLetter letters
  have written : marks (writtenCode authority code) = marks code := by
    unfold writtenCode
    split
    · unfold marks
      rw [countP_upper toNat_of_isMark, String.toList_ofList]
    · rfl
  rw [toList_identifier, marks_append, name,
    marks_cons_of_isMark (by decide), written, Nat.zero_add]

/-- Capitals do not end in a blank if the text does not. -/
theorem isBlank_getLast?_upper {code : List Char}
    (h : ∀ c, code.getLast? = some c → isBlank c = false) {d : Char}
    (hd : (upper (String.ofList code)).toList.getLast? = some d) :
    isBlank d = false := by
  rw [upper, String.toList_ofList, String.toList_ofList] at hd
  rcases List.eq_nil_or_concat code with rfl | ⟨front, c, rfl⟩
  · cases hd
  · rw [List.concat_eq_append] at h hd
    rw [List.flatMap_append, List.flatMap_singleton, List.getLast?_append,
      List.getLast?_eq_some_getLast (upperChar_ne_nil c), Option.some_or] at hd
    obtain rfl := Option.some.inj hd
    exact isBlank_of_mem_upperChar (h c List.getLast?_concat)
      (List.getLast_mem _)

/-- **The parts of an identifier**, if the authority is made of letters and
the code does not end in a blank. -/
theorem isIdentifier_of_letters {authority code : List Char}
    (letters : ∀ c ∈ authority, isFoldedLetter c = true)
    (hend : ∀ c, code.getLast? = some c → isBlank c = false) :
    IsIdentifier (upper (String.ofList authority)).toList
      (writtenCode authority code) where
  large := fun c hc => isAsciiSmall_of_mem_upper hc
  unmarked := by
    have none : (upper (String.ofList authority)).toList.countP isMark = 0 := by
      rw [countP_upper toNat_of_isMark, String.toList_ofList]
      exact marks_of_all_isFoldedLetter letters
    exact fun c hc => Bool.of_not_eq_true (List.countP_eq_zero.mp none c hc)
  solid := by
    intro c hc
    rw [upper, String.toList_ofList, String.toList_ofList] at hc
    obtain ⟨d, hd, hc⟩ := List.mem_flatMap.mp hc
    exact isBlank_of_mem_upperChar
      (isBlank_of_isFoldedLetter (letters d hd)) hc
  ogc := by
    intro h c hc
    rw [String.ofList_toList] at h
    rw [writtenCode, if_pos h] at hc
    exact isAsciiSmall_of_mem_upper hc
  solidEnd := by
    intro c hc
    unfold writtenCode at hc
    split at hc
    · exact isBlank_getLast?_upper hend hc
    · exact hend c hc

/-- **Every identifier that a reference is brought to** has these
parts. -/
theorem exists_isIdentifier {reference : Option String} {id : String}
    (h : normalize reference = .ok id) :
    ∃ name code, id.toList = name ++ ':' :: code ∧ IsIdentifier name code := by
  obtain ⟨text, -, -, found⟩ := normalize_eq_ok.mp h
  obtain ⟨authority, code, rfl, form⟩ := exists_of_identifier? found
  obtain ⟨letters, front, hsplit⟩ := letters_and_suffix form
  refine ⟨_, _, toList_identifier authority code,
    isIdentifier_of_letters letters ?_⟩
  intro c hc
  have last : (trimList isBlank text.toList).getLast? = some c := by
    rw [← hsplit, List.getLast?_append, hc, Option.some_or]
  exact getLast?_trimList last

/-! ## Bringing an identifier to its form again -/

/-- An ASCII letter that is no small one comes before the small ones. -/
theorem toNat_of_isAsciiLetter {c : Char} (h : isAsciiLetter c = true)
    (large : isAsciiSmall c = false) : c.toNat < 0x61 := by
  rcases Bool.or_eq_true_iff.mp h with capital | small
  · rw [Bool.and_eq_true, decide_eq_true_eq, decide_eq_true_eq] at capital
    have high : c.toNat ≤ 0x5a := capital.2
    omega
  · rw [isAsciiSmall, small] at large
    cases large

/-- A character of a short code that is no small letter comes before
them. -/
theorem toNat_of_isShortCodeChar {c : Char} (h : isShortCodeChar c = true)
    (large : isAsciiSmall c = false) : c.toNat < 0x61 := by
  rcases Bool.or_eq_true_iff.mp h with h | stop
  · rcases Bool.or_eq_true_iff.mp h with letter | digit
    · exact toNat_of_isAsciiLetter letter large
    · unfold isAsciiDigit at digit
      rw [Bool.and_eq_true, decide_eq_true_eq, decide_eq_true_eq] at digit
      have high : c.toNat ≤ 0x39 := digit.2
      omega
  · rw [beq_iff_eq.mp stop]
    decide

/-- An identifier in short form is the identifier of its parts. -/
theorem toList_identifier_of_short {name code : List Char}
    (parts : IsIdentifier name code)
    (hname : ∀ c ∈ name, isAsciiLetter c = true)
    (hcode : ∀ c ∈ code, isShortCodeChar c = true) :
    (identifier name code).toList = name ++ ':' :: code := by
  have sameName : upper (String.ofList name) = String.ofList name :=
    upper_eq_self fun c hc =>
      toNat_of_isAsciiLetter (hname c hc) (parts.large c hc)
  have sameCode : writtenCode name code = code := by
    unfold writtenCode
    rw [sameName]
    split
    · next isOgc =>
      rw [upper_eq_self fun c hc => toNat_of_isShortCodeChar (hcode c hc)
        (parts.ogc isOgc c hc), String.toList_ofList]
    · rfl
  rw [toList_identifier, sameName, sameCode, String.toList_ofList]

/-- An identifier has no blanks at its ends. -/
theorem trimList_of_isIdentifier {name code : List Char}
    (parts : IsIdentifier name code) :
    trimList isBlank (name ++ ':' :: code) = name ++ ':' :: code := by
  refine trimList_eq_self ?_ ?_
  · intro c hc
    cases name with
    | nil =>
      obtain rfl := Option.some.inj hc
      decide
    | cons d name =>
      obtain rfl := Option.some.inj hc
      exact parts.solid d List.mem_cons_self
  · intro c hc
    rw [List.getLast?_append, List.getLast?_cons, Option.some_or] at hc
    obtain rfl := Option.some.inj hc
    cases hlast : code.getLast? with
    | none => decide
    | some d => exact parts.solidEnd d hlast

/-- **An identifier that is brought to its form again** is in short form and stays as it is,
or becomes an identifier with fewer marks. The marks count the steps down: a
longer form has more of them than are left in what is read off it, since its fixed part is
left behind with the marks in it. -/
theorem normalize_again {name code : List Char} {id id' : String}
    (hid : id.toList = name ++ ':' :: code) (parts : IsIdentifier name code)
    (h : normalize (some id) = .ok id') :
    IsShort id ∧ id' = id ∨ marks id'.toList < marks id.toList := by
  obtain ⟨text, htext, -, found⟩ := normalize_eq_ok.mp h
  obtain rfl := Option.some.inj htext
  rw [hid, trimList_of_isIdentifier parts] at found
  obtain ⟨authority, rest, rfl, form⟩ := exists_of_identifier? found
  -- in short form the identifier is divided where it was put together; in
  -- a longer one it loses at least two marks and gains a colon
  rcases form with short | long
  · refine .inl ⟨?_, ?_⟩
    · rw [IsShort, hid, short]
      rfl
    · obtain ⟨hsplit, -, -, letters, hrest⟩ := ofShort?_eq_some.mp short
      -- neither name has a colon, so both end at the same one
      have divided : divideAt? ':' (name ++ ':' :: code) = some (name, code) :=
        divideAt?_eq_some.mpr ⟨rfl, fun hmem =>
          absurd (parts.unmarked ':' hmem) (by decide)⟩
      have divided' : divideAt? ':' (name ++ ':' :: code)
          = some (authority, rest) :=
        divideAt?_eq_some.mpr ⟨hsplit, fun hmem =>
          absurd (letters ':' hmem) (by decide)⟩
      obtain ⟨rfl, rfl⟩ :=
        Prod.mk.inj (Option.some.inj (divided.symm.trans divided'))
      refine String.toList_inj.mp ?_
      rw [toList_identifier_of_short parts letters hrest, hid]
  · have lost := long.fewer
    rw [marks_identifier long.letters, hid]
    exact .inr (by omega)

theorem marks_pos_of_normalize {reference : Option String} {id : String}
    (h : normalize reference = .ok id) : 0 < marks id.toList := by
  obtain ⟨name, code, hid, -⟩ := exists_isIdentifier h
  rw [hid, marks_append, marks_cons_of_isMark (by decide)]
  omega

/-- A text in short form has a single mark. -/
theorem marks_of_isShort {id : String} (h : IsShort id) :
    marks id.toList = 1 := by
  obtain ⟨⟨name, code⟩, short⟩ := Option.isSome_iff_exists.mp h
  obtain ⟨hid, -, -, letters, hcode⟩ := ofShort?_eq_some.mp short
  have unmarked : marks code = 0 := by
    refine List.countP_eq_zero.mpr fun c hc mark => ?_
    rw [isMark_of_isShortCodeChar (hcode c hc)] at mark
    cases mark
  rw [hid, marks_append, marks_cons_of_isMark (by decide), unmarked,
    marks_of_all_isFoldedLetter fun c hc =>
      isFoldedLetter_of_isAsciiLetter (letters c hc)]

/-- An identifier in short form is brought to an identifier again. -/
theorem exists_normalize_of_isShort {name code : List Char} {id : String}
    (hid : id.toList = name ++ ':' :: code) (parts : IsIdentifier name code)
    (short : IsShort id) : ∃ id', normalize (some id) = .ok id' := by
  obtain ⟨id', found⟩ := exists_identifier?_of_ofShort? short
  refine ⟨id', normalize_eq_ok.mpr ⟨id, rfl, ?_, ?_⟩⟩
  · refine Bool.of_not_eq_true fun blank => ?_
    have colon := List.all_eq_true.mp blank ':' (by rw [hid]; simp)
    exact absurd colon (by decide)
  · rw [hid, trimList_of_isIdentifier parts, ← hid]
    exact found

/-- **An identifier stays as it is exactly if it has the short form.** -/
theorem normalize_eq_self_iff {reference : Option String} {id : String}
    (h : normalize reference = .ok id) :
    normalize (some id) = .ok id ↔ IsShort id := by
  obtain ⟨name, code, hid, parts⟩ := exists_isIdentifier h
  constructor
  · intro again
    rcases normalize_again hid parts again with ⟨short, -⟩ | fewer
    · exact short
    · exact absurd fewer (Nat.lt_irrefl _)
  · intro short
    obtain ⟨id', again⟩ := exists_normalize_of_isShort hid parts short
    rcases normalize_again hid parts again with ⟨-, rfl⟩ | fewer
    · exact again
    -- there is only one mark to lose, and every identifier has one
    · have := marks_pos_of_normalize again
      have := marks_of_isShort short
      omega

/-- **An identifier that changes loses marks.** -/
theorem eq_or_marks_lt_of_normalize {reference : Option String}
    {id id' : String} (h : normalize reference = .ok id)
    (again : normalize (some id) = .ok id') :
    id' = id ∨ marks id'.toList < marks id.toList := by
  obtain ⟨name, code, hid, parts⟩ := exists_isIdentifier h
  exact (normalize_again hid parts again).imp_left And.right

end GeoCatalogue.Crs
