import GeoCatalogue.Proofs.Crs.Identifier
import GeoCatalogue.Proofs.Text.LetterCase
import Mathlib.Data.List.Basic

/-!
# Spellings of a reference

A reference names an authority and a code, and there are four ways to write the two
down (`Written`): in short, as a URN, as a URL, and for codes of the EPSG as an
address in a list of GML. The fixed parts may be in any letter case, a version may
stand in between, and there may be white space around the whole (`Spells`).

The forms are tried one after the other, so what has to be seen is that no spelling
is taken for another form than its own. The fixed parts of the longer forms keep
these apart, since none of them is the beginning of another one
(`afterAnyFixed?_of_apart`); and the short form is kept apart from them by its single
mark. Hence every spelling has the identifier of what it names
(`identifier?_of_written`), and two spellings have the same identifier exactly if
they name the same (`normalize_of_spells`).
-/
namespace GeoCatalogue.Crs

open Text

/-! ## Spellings -/

/-- The fixed parts of a URN. -/
def urnHeads : List String := ["urn:ogc:def:crs:", "urn:x-ogc:def:crs:"]

/-- The fixed parts of a URL. -/
def urlHeads : List String :=
  ["http://www.opengis.net/def/crs/", "https://www.opengis.net/def/crs/"]

/-- The fixed parts of an address in the list of GML. -/
def gmlHeads : List String := ["http://www.opengis.net/gml/srs/epsg.xml#",
  "https://www.opengis.net/gml/srs/epsg.xml#"]

/-- **One of some fixed parts, in any letter case.** -/
def IsHead (heads : List String) (written : List Char) : Prop :=
  ∃ head ∈ heads, written.map Char.toLower = head.toList

instance (heads : List String) (written : List Char) :
    Decidable (IsHead heads written) :=
  inferInstanceAs (Decidable (∃ head ∈ heads, _))

/-- **The ways to write an authority and a code.** -/
inductive Written : List Char → List Char → List Char → Prop where
  /-- The short form. -/
  | short {authority code : List Char} :
      Written authority code (authority ++ ':' :: code)
  /-- A URN. The version may be empty. -/
  | urn {authority code head version : List Char} (fixed : IsHead urnHeads head)
      (noColon : ':' ∉ version) :
      Written authority code
        (head ++ (authority ++ ':' :: (version ++ ':' :: code)))
  /-- A URL. The version is not empty. -/
  | url {authority code head version : List Char} (fixed : IsHead urlHeads head)
      (nonempty : version ≠ []) (noSlash : '/' ∉ version) :
      Written authority code
        (head ++ (authority ++ '/' :: (version ++ '/' :: code)))
  /-- An address in the list of GML, for codes of digits. -/
  | gml {code head : List Char} (fixed : IsHead gmlHeads head)
      (digits : ∀ c ∈ code, isAsciiDigit c = true) :
      Written "EPSG".toList code (head ++ code)

/-- **What a reference may name**: an authority of ASCII letters and a code of ASCII
letters, digits and full stops. -/
structure AreNamed (authority code : List Char) : Prop where
  /-- There is an authority. -/
  named : authority ≠ []
  /-- It is made of ASCII letters. -/
  letters : ∀ c ∈ authority, isAsciiLetter c = true
  /-- There is a code. -/
  coded : code ≠ []
  /-- It is made of ASCII letters, digits and full stops. -/
  plain : ∀ c ∈ code, isShortCodeChar c = true

/-- **A text spells an authority and a code**: it has one of the forms, with white
space around it. -/
structure Spells (text : String) (authority code : List Char) : Prop
    extends AreNamed authority code where
  /-- They are written in one of the forms, with white space around. -/
  written : ∃ front body back, text.toList = front ++ (body ++ back) ∧
    (∀ c ∈ front, isBlank c = true) ∧ (∀ c ∈ back, isBlank c = true) ∧
      Written authority code body

/-! ## Fixed parts -/

/-- Where a small letter is looked for, a character counts as Lean's small letter. -/
theorem folded_eq_toLower {c : Char} (h : c.toLower.toNat < 0x80) :
    folded c = c.toLower := by
  by_cases low : c.toNat ≤ 0x7a
  · exact forall_of_le (p := fun c => folded c = c.toLower) (by decide +kernel) low
  · have beyond : ¬c ≤ 'Z' := by
      intro le
      have : c.toNat ≤ 0x5a := le
      omega
    have kept : c.toLower = c := dif_neg fun capital => beyond capital.2
    rw [kept] at h ⊢
    rw [folded, if_neg (by simp [beyond]), if_neg (by omega), if_neg (by simp; omega),
      if_neg (by omega)]

/-- **The letter case of a fixed part does not matter** where it is looked for. -/
theorem IsHead.exists_map_folded {heads : List String} {head : List Char}
    (fixed : IsHead heads head)
    (ascii : ∀ text ∈ heads, text.toList.all (fun c => c.toNat < 0x80) = true) :
    ∃ text ∈ heads, head.map folded = text.toList := by
  obtain ⟨text, htext, cased⟩ := fixed
  refine ⟨text, htext, ?_⟩
  rw [← cased]
  refine List.map_congr_left fun c hc => folded_eq_toLower ?_
  have small : c.toLower ∈ text.toList := by
    rw [← cased]
    exact List.mem_map_of_mem hc
  simpa using List.all_eq_true.mp (ascii text htext) _ small

theorem afterFixed?_append {fixed written : List Char}
    (h : written.map folded = fixed) (rest : List Char) :
    afterFixed? fixed (written ++ rest) = some rest := by
  subst h
  induction written with
  | nil => rfl
  | cons c written ih =>
    rw [List.map_cons, List.cons_append, afterFixed?, if_pos rfl, ih]

/-- A text that goes on after a fixed part starts with it. -/
theorem prefix_of_afterFixed? {fixed cs body : List Char}
    (h : afterFixed? fixed cs = some body) : fixed <+: cs.map folded := by
  induction fixed generalizing cs with
  | nil => exact List.nil_prefix
  | cons f fixed ih =>
    cases cs with
    | nil => cases h
    | cons c cs =>
      rw [afterFixed?] at h
      split at h
      · next same =>
        rw [List.map_cons, same]
        exact (List.prefix_cons_inj f).mpr (ih h)
      · cases h

/-- **A fixed part that no text with another one starts with**: it is not longer, and
not the beginning of it. -/
def Apart (head other : String) : Prop :=
  other.toList.length ≤ head.toList.length ∧ ¬ other.toList <+: head.toList

instance (head other : String) : Decidable (Apart head other) :=
  inferInstanceAs (Decidable (_ ∧ _))

/-- A text does not start with another fixed part. -/
theorem afterFixed?_of_apart {head other : String} {written : List Char}
    (h : written.map folded = head.toList) (apart : Apart head other)
    (rest : List Char) : afterFixed? other.toList (written ++ rest) = none := by
  cases found : afterFixed? other.toList (written ++ rest) with
  | none => rfl
  | some body =>
    have starts := prefix_of_afterFixed? found
    rw [List.map_append, h] at starts
    have within := List.prefix_of_prefix_length_le starts
      (List.prefix_append head.toList _) apart.1
    exact absurd within apart.2

/-- All fixed parts, in the order in which the forms are tried. -/
def heads : List String :=
  urnHeads ++ (urlHeads ++ gmlHeads)

theorem ascii_heads :
    ∀ text ∈ heads, text.toList.all (fun c => c.toNat < 0x80) = true := by
  decide +kernel

/-- **No fixed part starts with one that is tried before it.** -/
theorem apart_heads : heads.Pairwise fun earlier later => Apart later earlier := by
  decide +kernel

/-- **What follows the fixed part of a text**, if it is one of those that are looked
for. -/
theorem afterAnyFixed?_of_isHead {heads : List String} {head : List Char}
    (fixed : IsHead heads head)
    (ascii : ∀ text ∈ heads, text.toList.all (fun c => c.toNat < 0x80) = true)
    (apart : heads.Pairwise fun earlier later => Apart later earlier)
    (rest : List Char) : afterAnyFixed? heads (head ++ rest) = some rest := by
  obtain ⟨text, htext, same⟩ := fixed.exists_map_folded ascii
  obtain ⟨before, after, rfl⟩ := List.append_of_mem htext
  refine List.findSome?_eq_some_iff.mpr
    ⟨before, text, after, rfl, afterFixed?_append same rest, fun other hother => ?_⟩
  have earlier := (List.pairwise_append.mp apart).2.2 other hother text
    List.mem_cons_self
  exact afterFixed?_of_apart same earlier rest

/-- **Nothing follows** if other fixed parts are looked for. -/
theorem afterAnyFixed?_of_apart {others heads : List String} {head : List Char}
    (fixed : IsHead heads head)
    (ascii : ∀ text ∈ heads, text.toList.all (fun c => c.toNat < 0x80) = true)
    (apart : ∀ other ∈ others, ∀ text ∈ heads, Apart text other)
    (rest : List Char) : afterAnyFixed? others (head ++ rest) = none := by
  obtain ⟨text, htext, same⟩ := fixed.exists_map_folded ascii
  refine List.findSome?_eq_none_iff.mpr fun other hother => ?_
  exact afterFixed?_of_apart same (apart other hother text htext) rest

/-- A text with the fixed part of a URN is looked at as one. -/
theorem ofUrn?_of_urnHead {head : List Char} (fixed : IsHead urnHeads head)
    (rest : List Char) :
    ofUrn? (head ++ rest) = authorityAndCode? ':' true rest := by
  have found := afterAnyFixed?_of_isHead fixed
    (fun text htext => ascii_heads text (List.mem_append_left _ htext))
    (List.pairwise_append.mp apart_heads).1 rest
  show afterAnyFixed? urnHeads (head ++ rest) >>= authorityAndCode? ':' true = _
  rw [found]
  rfl

/-- A text with the fixed part of a longer form is no URN. -/
theorem ofUrn?_of_otherHead {head : List Char}
    (fixed : IsHead (urlHeads ++ gmlHeads) head) (rest : List Char) :
    ofUrn? (head ++ rest) = none := by
  have none := afterAnyFixed?_of_apart fixed
    (fun text htext => ascii_heads text (List.mem_append_right _ htext))
    (List.pairwise_append.mp apart_heads).2.2 rest
  show afterAnyFixed? urnHeads (head ++ rest) >>= authorityAndCode? ':' true = _
  rw [none]
  rfl

/-- A text with the fixed part of a URL is looked at as one. -/
theorem ofUrl?_of_urlHead {head : List Char} (fixed : IsHead urlHeads head)
    (rest : List Char) :
    ofUrl? (head ++ rest) = authorityAndCode? '/' false rest := by
  have later := (List.pairwise_append.mp apart_heads).2.1
  have found := afterAnyFixed?_of_isHead fixed
    (fun text htext => ascii_heads text
      (List.mem_append_right _ (List.mem_append_left _ htext)))
    (List.pairwise_append.mp later).1 rest
  show afterAnyFixed? urlHeads (head ++ rest) >>= authorityAndCode? '/' false = _
  rw [found]
  rfl

/-- A text with the fixed part of an address in the list of GML is no URL. -/
theorem ofUrl?_of_gmlHead {head : List Char} (fixed : IsHead gmlHeads head)
    (rest : List Char) : ofUrl? (head ++ rest) = none := by
  have later := (List.pairwise_append.mp apart_heads).2.1
  have none := afterAnyFixed?_of_apart fixed
    (fun text htext => ascii_heads text
      (List.mem_append_right _ (List.mem_append_right _ htext)))
    (List.pairwise_append.mp later).2.2 rest
  show afterAnyFixed? urlHeads (head ++ rest) >>= authorityAndCode? '/' false = _
  rw [none]
  rfl

/-- The digits `0` to `9` are decimal digits. -/
theorem isDecimalDigit_of_isAsciiDigit {c : Char} (h : isAsciiDigit c = true) :
    isDecimalDigit c = true := by
  unfold isAsciiDigit at h
  rw [Bool.and_eq_true, decide_eq_true_eq, decide_eq_true_eq] at h
  have low : 0x30 ≤ c.toNat := h.1
  have high : c.toNat ≤ 0x39 := h.2
  have first : digitZeros.find? (fun first =>
      first ≤ c.toNat && c.toNat < first + 10) = some 0x30 := by
    apply List.find?_cons_of_pos
    simp only [Bool.and_eq_true, decide_eq_true_eq]
    omega
  rw [isDecimalDigit, digitValue?, first]
  rfl

/-- A text with the fixed part of an address in the list of GML has the digits after
it as its code. -/
theorem gmlCode?_of_gmlHead {head code : List Char} (fixed : IsHead gmlHeads head)
    (coded : code ≠ []) (digits : ∀ c ∈ code, isAsciiDigit c = true) :
    gmlCode? (head ++ code) = some code := by
  have later := (List.pairwise_append.mp apart_heads).2.1
  have found := afterAnyFixed?_of_isHead fixed
    (fun text htext => ascii_heads text
      (List.mem_append_right _ (List.mem_append_right _ htext)))
    (List.pairwise_append.mp later).2.1 code
  show (afterAnyFixed? gmlHeads (head ++ code) >>= fun code =>
    if !code.isEmpty && code.all isDecimalDigit then some code else none) = _
  rw [found]
  refine if_pos ?_
  simp only [Bool.and_eq_true, Bool.not_eq_true', List.isEmpty_eq_false_iff,
    List.all_eq_true]
  exact ⟨coded, fun c hc => isDecimalDigit_of_isAsciiDigit (digits c hc)⟩

/-! ## The forms -/

section Forms

variable {authority code body : List Char}

theorem notMem_of_letters {mark : Char} (isMark : isMark mark = true)
    (letters : ∀ c ∈ authority, isAsciiLetter c = true) : mark ∉ authority := by
  intro hmem
  have folded := isFoldedLetter_of_isAsciiLetter (letters mark hmem)
  rw [isMark_of_isFoldedLetter folded] at isMark
  cases isMark

theorem notMem_of_plain {mark : Char} (isMark : isMark mark = true)
    (plain : ∀ c ∈ code, isShortCodeChar c = true) : mark ∉ code := by
  intro hmem
  rw [isMark_of_isShortCodeChar (plain mark hmem)] at isMark
  cases isMark

/-- **An authority, a version and a code between marks** are read off again. -/
theorem authorityAndCode?_append {mark : Char} {emptyVersion : Bool}
    {version : List Char} (isMark : isMark mark = true)
    (parts : AreNamed authority code) (unmarked : mark ∉ version)
    (nonempty : emptyVersion = true ∨ version ≠ []) :
    authorityAndCode? mark emptyVersion
      (authority ++ mark :: (version ++ mark :: code)) = some (authority, code) := by
  have first : divideAt? mark (authority ++ mark :: (version ++ mark :: code))
      = some (authority, version ++ mark :: code) :=
    divideAt?_eq_some.mpr ⟨rfl, notMem_of_letters isMark parts.letters⟩
  have second : divideAt? mark (version ++ mark :: code) = some (version, code) :=
    divideAt?_eq_some.mpr ⟨rfl, unmarked⟩
  have isAuthority : isAuthority isFoldedLetter authority = true := by
    unfold Crs.isAuthority
    simp only [Bool.and_eq_true, Bool.not_eq_true', List.isEmpty_eq_false_iff,
      List.all_eq_true]
    exact ⟨parts.named, fun c hc =>
      isFoldedLetter_of_isAsciiLetter (parts.letters c hc)⟩
  unfold authorityAndCode?
  rw [first, Option.bind_eq_bind, Option.bind_some]
  dsimp only
  rw [second, Option.bind_some]
  refine if_pos ?_
  simp only [isAuthority, Bool.true_and, Bool.and_eq_true, Bool.or_eq_true,
    Bool.not_eq_true', List.isEmpty_eq_false_iff, List.contains_eq_mem,
    decide_eq_false_iff_not]
  exact ⟨⟨nonempty, parts.coded⟩, notMem_of_plain isMark parts.plain⟩

/-- A text in short form has none of the longer ones, which have more marks. -/
theorem not_isLongForm_of_short (letters : ∀ c ∈ authority, isAsciiLetter c = true)
    (plain : ∀ c ∈ code, isShortCodeChar c = true) {name rest : List Char} :
    ¬ IsLongForm (authority ++ ':' :: code) name rest := by
  intro long
  have name : marks authority = 0 := marks_of_all_isFoldedLetter fun c hc =>
    isFoldedLetter_of_isAsciiLetter (letters c hc)
  have unmarked : marks code = 0 := by
    refine List.countP_eq_zero.mpr fun c hc mark => ?_
    rw [isMark_of_isShortCodeChar (plain c hc)] at mark
    cases mark
  have fewer := long.fewer
  rw [marks_append, name, marks_cons_of_isMark (by decide), unmarked] at fewer
  omega

/-- A text in short form has none of the longer ones. -/
theorem forms_of_short (parts : AreNamed authority code) :
    ofUrn? (authority ++ ':' :: code) = none ∧
      ofUrl? (authority ++ ':' :: code) = none ∧
      ofShort? (authority ++ ':' :: code) = some (authority, code) := by
  obtain ⟨named, letters, coded, plain⟩ := parts
  refine ⟨?_, ?_, ofShort?_eq_some.mpr ⟨rfl, named, coded, letters, plain⟩⟩
  · by_contra found
    obtain ⟨⟨name, rest⟩, form⟩ := Option.ne_none_iff_exists'.mp found
    exact not_isLongForm_of_short letters plain (isLongForm_of_ofUrn? form)
  · by_contra found
    obtain ⟨⟨name, rest⟩, form⟩ := Option.ne_none_iff_exists'.mp found
    exact not_isLongForm_of_short letters plain (isLongForm_of_ofUrl? form)

/-- An address in the list of GML has not the short form. -/
theorem ofShort?_of_gmlCode? {name : List Char} (h : gmlCode? name = some code) :
    ofShort? name = none := by
  by_contra found
  obtain ⟨⟨front, back⟩, form⟩ := Option.ne_none_iff_exists'.mp found
  obtain ⟨split, -, -, letters, plain⟩ := ofShort?_eq_some.mp form
  have long := isLongForm_of_gmlCode? h
  rw [split] at long
  exact not_isLongForm_of_short letters plain long

/-- **Every way to write an authority and a code has their identifier.** The forms are tried
in order, and a form takes what it can read. So for each way to write them there are two
things to see: that the forms in front of its own do not read it, which is so by the fixed
parts, and that its own form reads the two parts off. -/
theorem identifier?_of_written (parts : AreNamed authority code)
    (h : Written authority code body) :
    identifier? body = some (identifier authority code) := by
  unfold identifier?
  cases h with
  | short =>
    obtain ⟨noUrn, noUrl, isShort⟩ := forms_of_short parts
    rw [noUrn, noUrl, isShort]
    rfl
  | urn fixed noColon =>
    rw [ofUrn?_of_urnHead fixed,
      authorityAndCode?_append (by decide) parts noColon (.inl rfl)]
    rfl
  | url fixed nonempty noSlash =>
    have other : IsHead (urlHeads ++ gmlHeads) _ :=
      fixed.imp fun text h => ⟨List.mem_append_left _ h.1, h.2⟩
    rw [ofUrn?_of_otherHead other, ofUrl?_of_urlHead fixed,
      authorityAndCode?_append (by decide) parts noSlash (.inr nonempty)]
    rfl
  | gml fixed digits =>
    have other : IsHead (urlHeads ++ gmlHeads) _ :=
      fixed.imp fun text h => ⟨List.mem_append_right _ h.1, h.2⟩
    have isCode := gmlCode?_of_gmlHead fixed parts.coded digits
    rw [ofUrn?_of_otherHead other, ofUrl?_of_gmlHead fixed,
      ofShort?_of_gmlCode? isCode, isCode, identifier_epsg]
    rfl

/-! ## White space around -/

theorem IsHead.exists_letter {head : List Char} (fixed : IsHead heads head) :
    ∃ c rest, head = c :: rest ∧ isFoldedLetter c = true := by
  obtain ⟨text, htext, same⟩ := fixed.exists_map_folded ascii_heads
  have first : ∀ text ∈ heads,
      text.toList.head?.any (fun c => 'a' ≤ c && c ≤ 'z') = true := by
    decide +kernel
  have letter := first text htext
  rw [← same] at letter
  cases head with
  | nil => cases letter
  | cons c rest => exact ⟨c, rest, rfl, letter⟩

/-- **Every form starts with a letter.** -/
theorem Written.exists_letter (h : Written authority code body)
    (parts : AreNamed authority code) :
    ∃ c rest, body = c :: rest ∧ isFoldedLetter c = true := by
  have started {head : List Char} (fixed : IsHead heads head) (rest : List Char) :
      ∃ c rest', head ++ rest = c :: rest' ∧ isFoldedLetter c = true := by
    obtain ⟨c, tail, rfl, letter⟩ := fixed.exists_letter
    exact ⟨c, tail ++ rest, rfl, letter⟩
  cases h with
  | short =>
    obtain ⟨c, rest, rfl⟩ := List.exists_cons_of_ne_nil parts.named
    exact ⟨c, _, rfl,
      isFoldedLetter_of_isAsciiLetter (parts.letters c List.mem_cons_self)⟩
  | urn fixed _ =>
    exact started (fixed.imp fun _ h => ⟨List.mem_append_left _ h.1, h.2⟩) _
  | url fixed _ _ =>
    exact started (fixed.imp fun _ h =>
      ⟨List.mem_append_right _ (List.mem_append_left _ h.1), h.2⟩) _
  | gml fixed _ =>
    exact started (fixed.imp fun _ h =>
      ⟨List.mem_append_right _ (List.mem_append_right _ h.1), h.2⟩) _

/-- **Every form ends in the code.** -/
theorem Written.code_suffix (h : Written authority code body) : code <:+ body := by
  cases h with
  | short => exact (List.suffix_cons ':' code).trans (List.suffix_append authority _)
  | @urn _ _ head version _ _ =>
    exact (((List.suffix_cons ':' code).trans (List.suffix_append version _)).trans
      ((List.suffix_cons ':' _).trans (List.suffix_append authority _))).trans
        (List.suffix_append head _)
  | @url _ _ head version _ _ _ =>
    exact (((List.suffix_cons '/' code).trans (List.suffix_append version _)).trans
      ((List.suffix_cons '/' _).trans (List.suffix_append authority _))).trans
        (List.suffix_append head _)
  | @gml _ head _ _ => exact List.suffix_append head code

/-- No character of a code is a blank. -/
theorem isBlank_of_isShortCodeChar {c : Char} (h : isShortCodeChar c = true) :
    isBlank c = false := by
  rcases Bool.or_eq_true_iff.mp h with h | stop
  · rcases Bool.or_eq_true_iff.mp h with letter | digit
    · exact isBlank_of_isFoldedLetter (isFoldedLetter_of_isAsciiLetter letter)
    · unfold isAsciiDigit at digit
      rw [Bool.and_eq_true, decide_eq_true_eq, decide_eq_true_eq] at digit
      have low : 0x30 ≤ c.toNat := digit.1
      have high : c.toNat ≤ 0x39 := digit.2
      rw [← Bool.not_eq_true, isBlank_iff]
      omega
  · rw [beq_iff_eq.mp stop]
    decide

/-- A form has no white space at its ends. -/
theorem Written.trimList_eq (h : Written authority code body)
    (parts : AreNamed authority code) : trimList isBlank body = body := by
  obtain ⟨first, rest, split, letter⟩ := h.exists_letter parts
  obtain ⟨front, hfront⟩ := h.code_suffix
  refine trimList_eq_self (fun c hc => ?_) (fun c hc => ?_)
  · rw [split] at hc
    obtain rfl := Option.some.inj hc
    exact isBlank_of_isFoldedLetter letter
  · rw [← hfront, List.getLast?_append_of_ne_nil _ parts.coded] at hc
    exact isBlank_of_isShortCodeChar (parts.plain c (List.mem_of_getLast? hc))

end Forms

/-! ## The identifier of a spelling -/

variable {text text' : String} {authority authority' code code' : List Char}

/-- **Every spelling has the identifier of what it spells.** -/
theorem Spells.normalize_eq (h : Spells text authority code) :
    normalize (some text) = .ok (identifier authority code) := by
  obtain ⟨front, body, back, split, hfront, hback, written⟩ := h.written
  have found := identifier?_of_written h.toAreNamed written
  refine normalize_eq_ok.mpr ⟨text, rfl, ?_, ?_⟩
  · obtain ⟨c, rest, rfl, letter⟩ := written.exists_letter h.toAreNamed
    refine Bool.of_not_eq_true fun blank => ?_
    have member : c ∈ text.toList := by
      rw [split]
      simp
    have isBlank := List.all_eq_true.mp blank c member
    rw [isBlank_of_isFoldedLetter letter] at isBlank
    cases isBlank
  · rw [split, trimList_between hfront hback, written.trimList_eq h.toAreNamed]
    exact found

theorem le_of_isAsciiLetter {c : Char} (h : isAsciiLetter c = true) :
    c.toNat ≤ 0x7a := by
  rcases Bool.or_eq_true_iff.mp h with capital | small
  · rw [Bool.and_eq_true, decide_eq_true_eq, decide_eq_true_eq] at capital
    have high : c.toNat ≤ 0x5a := capital.2
    omega
  · exact (isAsciiSmall_iff.mp small).2

theorem le_of_isShortCodeChar {c : Char} (h : isShortCodeChar c = true) :
    c.toNat ≤ 0x7a := by
  by_cases small : isAsciiSmall c = true
  · exact (isAsciiSmall_iff.mp small).2
  · have low := toNat_of_isShortCodeChar h (Bool.of_not_eq_true small)
    omega

/-- **Identifiers of letters and codes are equal** exactly if their parts are. -/
theorem identifier_inj (letters : ∀ c ∈ authority, isAsciiLetter c = true)
    (letters' : ∀ c ∈ authority', isAsciiLetter c = true) :
    identifier authority code = identifier authority' code' ↔
      upper (String.ofList authority) = upper (String.ofList authority') ∧
        writtenCode authority code = writtenCode authority' code' := by
  -- no authority in capitals has a colon, so both identifiers are divided at theirs
  have divided {name : List Char} (rest : List Char)
      (letters : ∀ c ∈ name, isAsciiLetter c = true) :
      divideAt? ':' (identifier name rest).toList
        = some ((upper (String.ofList name)).toList, writtenCode name rest) := by
    refine divideAt?_eq_some.mpr ⟨toList_identifier name rest, fun colon => ?_⟩
    have unmarked : marks (upper (String.ofList name)).toList = 0 := by
      rw [marks, countP_upper toNat_of_isMark, String.toList_ofList]
      exact marks_of_all_isFoldedLetter fun c hc =>
        isFoldedLetter_of_isAsciiLetter (letters c hc)
    exact List.countP_eq_zero.mp unmarked ':' colon rfl
  constructor
  · intro same
    have both := divided code letters
    rw [same, divided code' letters'] at both
    obtain ⟨names, codes⟩ := Prod.mk.inj (Option.some.inj both)
    exact ⟨(String.toList_inj.mp names).symm, codes.symm⟩
  · rintro ⟨names, codes⟩
    refine String.toList_inj.mp ?_
    rw [toList_identifier, toList_identifier, names, codes]

/-- **The same is spelled** by two pairs of an authority and a code: the authorities
agree up to case, and the codes do so for the OGC and are equal otherwise. -/
def SameName (authority code authority' code' : List Char) : Prop :=
  AgreeUpToCase authority authority' ∧
    if AgreeUpToCase authority "OGC".toList then AgreeUpToCase code code'
    else code = code'

instance (authority code authority' code' : List Char) :
    Decidable (SameName authority code authority' code') :=
  inferInstanceAs (Decidable (_ ∧ ite _ _ _))

/-- An authority is the OGC in some letter case exactly if it is in capitals. -/
theorem upper_eq_ogc_iff (letters : ∀ c ∈ authority, isAsciiLetter c = true) :
    upper (String.ofList authority) = "OGC" ↔
      AgreeUpToCase authority "OGC".toList := by
  have low : "OGC".toList.all (fun c => c.toNat < 0x61) = true := rfl
  have capitals : ∀ c ∈ "OGC".toList, c.toNat < 0x61 := fun c hc =>
    of_decide_eq_true (List.all_eq_true.mp low c hc)
  have self : upper (String.ofList "OGC".toList) = "OGC" := by
    rw [upper_eq_self capitals, String.ofList_toList]
  have ascii : ∀ c ∈ "OGC".toList, c.toNat ≤ 0x7a := fun c hc => by
    have := capitals c hc
    omega
  rw [← upper_eq_upper_iff (fun c hc => le_of_isAsciiLetter (letters c hc)) ascii,
    self]

/-- **The same is spelled exactly if the identifiers are equal.** -/
theorem identifier_eq_iff (parts : AreNamed authority code)
    (parts' : AreNamed authority' code') :
    identifier authority code = identifier authority' code' ↔
      SameName authority code authority' code' := by
  have names : upper (String.ofList authority) = upper (String.ofList authority') ↔
      AgreeUpToCase authority authority' :=
    upper_eq_upper_iff (fun c hc => le_of_isAsciiLetter (parts.letters c hc))
      (fun c hc => le_of_isAsciiLetter (parts'.letters c hc))
  have codes : upper (String.ofList code) = upper (String.ofList code') ↔
      AgreeUpToCase code code' :=
    upper_eq_upper_iff (fun c hc => le_of_isShortCodeChar (parts.plain c hc))
      (fun c hc => le_of_isShortCodeChar (parts'.plain c hc))
  rw [identifier_inj parts.letters parts'.letters, SameName, ← names]
  refine and_congr_right fun same => ?_
  unfold writtenCode
  rw [← same]
  by_cases ogc : AgreeUpToCase authority "OGC".toList
  · have capital := (upper_eq_ogc_iff parts.letters).mpr ogc
    rw [if_pos capital, if_pos capital, if_pos ogc, String.toList_inj, codes]
  · have other : upper (String.ofList authority) ≠ "OGC" := fun capital =>
      ogc ((upper_eq_ogc_iff parts.letters).mp capital)
    rw [if_neg other, if_neg other, if_neg ogc]

/-- **All spellings of a reference have the same identifier, and only those.** A text
that spells an authority and a code in any of the forms, in any letter case of the
fixed parts and with any white space around it, is brought to the authority in
capitals, a colon and the code, which is put into capitals if the authority is the
OGC. And two such texts are brought to the same identifier exactly if their
authorities agree up to case and their codes are equal, or agree up to case for the
OGC. -/
theorem normalize_of_spells (h : Spells text authority code) :
    normalize (some text) = .ok (upper (String.ofList authority) ++ ":" ++
      if upper (String.ofList authority) = "OGC" then upper (String.ofList code)
      else String.ofList code) ∧
    ∀ text' authority' code', Spells text' authority' code' →
      (normalize (some text) = normalize (some text') ↔
        SameName authority code authority' code') := by
  refine ⟨h.normalize_eq, fun text' authority' code' h' => ?_⟩
  rw [h.normalize_eq, h'.normalize_eq, Except.ok.injEq]
  exact identifier_eq_iff h.toAreNamed h'.toAreNamed

/-- A URN with white space around it and a URL of the same, both in mixed letter
case. -/
theorem normalize_of_spells_mixed :
    normalize (some " \tUrn:X-ogc:Def:crs:oGc:1.3:Crs84\n") = .ok "OGC:CRS84" ∧
    normalize (some " \tUrn:X-ogc:Def:crs:oGc:1.3:Crs84\n")
      = normalize (some "HTTPS://www.OpenGIS.net/def/CRS/ogc/0/cRS84") := by
  have urn : Spells " \tUrn:X-ogc:Def:crs:oGc:1.3:Crs84\n" "oGc".toList
      "Crs84".toList :=
    ⟨⟨by decide, List.all_eq_true.mp rfl, by decide, List.all_eq_true.mp rfl⟩,
      " \t".toList, _, "\n".toList, rfl, List.all_eq_true.mp rfl,
      List.all_eq_true.mp rfl,
      @Written.urn _ _ "Urn:X-ogc:Def:crs:".toList "1.3".toList
        (by decide +kernel) (by decide)⟩
  have url : Spells "HTTPS://www.OpenGIS.net/def/CRS/ogc/0/cRS84" "ogc".toList
      "cRS84".toList :=
    ⟨⟨by decide, List.all_eq_true.mp rfl, by decide, List.all_eq_true.mp rfl⟩,
      [], _, [], rfl, nofun, nofun,
      @Written.url _ _ "HTTPS://www.OpenGIS.net/def/CRS/".toList "0".toList
        (by decide +kernel) (by decide) (by decide)⟩
  obtain ⟨named, agree⟩ := normalize_of_spells urn
  refine ⟨named.trans (congrArg Except.ok ?_), (agree _ _ _ url).mpr ?_⟩
  · decide +kernel
  · decide +kernel

end GeoCatalogue.Crs
