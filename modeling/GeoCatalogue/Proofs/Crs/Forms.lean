import GeoCatalogue.Crs.Reference
import GeoCatalogue.Proofs.Text.Upper
import Mathlib.Data.List.TakeWhile

/-!
# What the forms of a reference have in common

A reference gives its identifier an authority and a code, in whichever form
it is written. Three things are true of all forms (`exists_of_identifier?`).
The authority is made of letters. The code stands at the end of the
reference. And unless the reference has the short form, at least two marks –
colons and slashes – are lost on the way to the code.
-/
namespace GeoCatalogue.Crs

open Text

/-! ## Marks -/

/-- **The marks** that divide the parts of a reference. -/
def isMark (c : Char) : Bool :=
  c == ':' || c == '/'

/-- How many marks a text has. -/
def marks (cs : List Char) : Nat :=
  cs.countP isMark

theorem toNat_of_isMark (c : Char) (h : isMark c = true) :
    c.toNat < 0x3b := by
  rcases Bool.or_eq_true_iff.mp h with h | h
  · rw [beq_iff_eq.mp h]
    decide
  · rw [beq_iff_eq.mp h]
    decide

/-- The letters in all of their forms, by their code points. -/
theorem toNat_of_isFoldedLetter {c : Char} (h : isFoldedLetter c = true) :
    (0x41 ≤ c.toNat ∧ c.toNat ≤ 0x5a) ∨ (0x61 ≤ c.toNat ∧ c.toNat ≤ 0x7a) ∨
      c.toNat = 0x17f ∨ c.toNat = 0x130 ∨ c.toNat = 0x131 ∨
        c.toNat = 0x212a := by
  unfold isFoldedLetter folded at h
  split at h
  · next capital =>
    rw [Bool.and_eq_true, decide_eq_true_eq, decide_eq_true_eq] at capital
    exact .inl capital
  · split at h
    · next long => exact .inr (.inr (.inl long))
    · split at h
      · next turkish =>
        rw [Bool.or_eq_true, decide_eq_true_eq, decide_eq_true_eq] at turkish
        rcases turkish with dotted | dotless
        · exact .inr (.inr (.inr (.inl dotted)))
        · exact .inr (.inr (.inr (.inr (.inl dotless))))
      · split at h
        · next kelvin => exact .inr (.inr (.inr (.inr (.inr kelvin))))
        · rw [Bool.and_eq_true, decide_eq_true_eq, decide_eq_true_eq] at h
          exact .inr (.inl h)

theorem isMark_of_isFoldedLetter {c : Char} (h : isFoldedLetter c = true) :
    isMark c = false := by
  by_contra mark
  have low := toNat_of_isMark c (Bool.of_not_eq_false mark)
  have := toNat_of_isFoldedLetter h
  omega

theorem isBlank_of_isFoldedLetter {c : Char} (h : isFoldedLetter c = true) :
    isBlank c = false := by
  have := toNat_of_isFoldedLetter h
  rw [← Bool.not_eq_true, isBlank_iff]
  omega

/-- Every ASCII letter is a form of itself. -/
theorem isFoldedLetter_of_isAsciiLetter {c : Char}
    (h : isAsciiLetter c = true) : isFoldedLetter c = true := by
  unfold isFoldedLetter
  rw [Bool.and_eq_true, decide_eq_true_eq, decide_eq_true_eq]
  rcases Bool.or_eq_true_iff.mp h with capital | small
  · have range := capital
    rw [Bool.and_eq_true, decide_eq_true_eq, decide_eq_true_eq] at range
    have low : 0x41 ≤ c.toNat := range.1
    have high : c.toNat ≤ 0x5a := range.2
    rw [folded, if_pos capital]
    have code : (Char.ofNat (c.toNat + 32)).toNat = c.toNat + 32 :=
      toNat_ofNat_of_isValidChar (.inl (by omega))
    constructor
    · show 0x61 ≤ (Char.ofNat (c.toNat + 32)).toNat
      omega
    · show (Char.ofNat (c.toNat + 32)).toNat ≤ 0x7a
      omega
  · obtain ⟨low, high⟩ := isAsciiSmall_iff.mp small
    have same : folded c = c := by
      have large : ¬('A' ≤ c && c ≤ 'Z') = true := by
        rw [Bool.and_eq_true, decide_eq_true_eq, decide_eq_true_eq]
        rintro ⟨-, hc⟩
        have : c.toNat ≤ 0x5a := hc
        omega
      rw [folded, if_neg large, if_neg (by omega), if_neg (by simp; omega),
        if_neg (by omega)]
    rw [same]
    exact ⟨low, high⟩

/-- No character of a short code is a mark. -/
theorem isMark_of_isShortCodeChar {c : Char}
    (h : isShortCodeChar c = true) : isMark c = false := by
  by_contra mark
  rcases Bool.or_eq_true_iff.mp (Bool.of_not_eq_false mark) with mark | mark
  · rw [beq_iff_eq.mp mark] at h
    exact absurd h (by decide)
  · rw [beq_iff_eq.mp mark] at h
    exact absurd h (by decide)

/-- Only a mark becomes a mark when the letter case is taken away. -/
theorem isMark_of_folded {c : Char} (h : isMark (folded c) = true) :
    isMark c = true := by
  unfold folded at h
  split at h
  · next capital =>
    rw [Bool.and_eq_true, decide_eq_true_eq, decide_eq_true_eq] at capital
    have low : 0x41 ≤ c.toNat := capital.1
    have high : c.toNat ≤ 0x5a := capital.2
    have small := toNat_of_isMark _ h
    rw [toNat_ofNat_of_isValidChar (.inl (by omega))] at small
    omega
  · split at h
    · exact absurd h (by decide)
    · split at h
      · exact absurd h (by decide)
      · split at h
        · exact absurd h (by decide)
        · exact h

@[simp] theorem marks_append (cs ds : List Char) :
    marks (cs ++ ds) = marks cs + marks ds :=
  List.countP_append

theorem marks_cons_of_isMark {c : Char} (h : isMark c = true)
    (cs : List Char) : marks (c :: cs) = marks cs + 1 :=
  List.countP_cons_of_pos h

theorem marks_of_all_isFoldedLetter {cs : List Char}
    (h : ∀ c ∈ cs, isFoldedLetter c = true) : marks cs = 0 := by
  refine List.countP_eq_zero.mpr fun c hc mark => ?_
  rw [isMark_of_isFoldedLetter (h c hc)] at mark
  cases mark

/-! ## Parts of a text -/

/-- **A text is divided at the first occurrence of a character.** -/
theorem divideAt?_eq_some {mark : Char} {cs before after : List Char} :
    divideAt? mark cs = some (before, after) ↔
      cs = before ++ mark :: after ∧ mark ∉ before := by
  constructor
  · intro h
    unfold divideAt? at h
    split at h
    · cases h
    · next c rest hdrop =>
      obtain ⟨rfl, rfl⟩ := Prod.mk.inj (Option.some.inj h)
      have found := List.head?_dropWhile_not (· != mark) cs
      rw [hdrop] at found
      have same : c = mark := by simpa using found
      refine ⟨?_, ?_⟩
      · rw [← same, ← hdrop, same, List.takeWhile_append_dropWhile]
      · intro hmem
        have unequal := List.mem_takeWhile_imp hmem
        simp at unequal
  · rintro ⟨rfl, h⟩
    have passed : ∀ c ∈ before, (c != mark) = true := fun c hc =>
      bne_iff_ne.mpr fun same => h (same ▸ hc)
    unfold divideAt?
    rw [List.dropWhile_append_of_pos passed,
      List.takeWhile_append_of_pos passed, List.dropWhile_cons,
      List.takeWhile_cons, bne_self_eq_false]
    simp

/-- What follows a fixed text stands at the end, and the marks of the fixed
text stand in front of it. -/
theorem afterFixed?_eq_some {fixed cs body : List Char}
    (h : afterFixed? fixed cs = some body) :
    body <:+ cs ∧ marks fixed + marks body ≤ marks cs := by
  induction fixed generalizing cs with
  | nil =>
    obtain rfl := Option.some.inj h
    exact ⟨List.suffix_rfl, by simp [marks]⟩
  | cons f fixed ih =>
    cases cs with
    | nil => cases h
    | cons c cs =>
      rw [afterFixed?] at h
      split at h
      · next same =>
        obtain ⟨hsuffix, hmarks⟩ := ih h
        refine ⟨hsuffix.trans (List.suffix_cons c cs), ?_⟩
        by_cases mark : isMark f = true
        · rw [marks_cons_of_isMark mark, marks_cons_of_isMark
            (isMark_of_folded (same ▸ mark))]
          omega
        · have fewer : marks cs ≤ marks (c :: cs) :=
            (List.sublist_cons_self c cs).countP_le
          rw [show marks (f :: fixed) = marks fixed from
            List.countP_cons_of_neg mark]
          omega
      · cases h

/-- What follows the first of several fixed texts that fits. -/
theorem afterAnyFixed?_eq_some {fixed : List String} {cs body : List Char}
    (h : afterAnyFixed? fixed cs = some body) :
    body <:+ cs ∧ ∃ text ∈ fixed,
      marks text.toList + marks body ≤ marks cs := by
  obtain ⟨text, htext, hbody⟩ := List.exists_of_findSome?_eq_some h
  obtain ⟨hsuffix, hmarks⟩ := afterFixed?_eq_some hbody
  exact ⟨hsuffix, text, htext, hmarks⟩

/-- **The authority is made of letters, and the code stands at the end.** -/
theorem authorityAndCode?_eq_some {mark : Char} {emptyVersion : Bool}
    {cs authority code : List Char}
    (h : authorityAndCode? mark emptyVersion cs = some (authority, code)) :
    (∀ c ∈ authority, isFoldedLetter c = true) ∧ code <:+ cs := by
  unfold authorityAndCode? at h
  obtain ⟨⟨front, afterAuthority⟩, hfirst, hrest⟩ :=
    Option.bind_eq_some_iff.mp h
  obtain ⟨⟨version, back⟩, hsecond, hguard⟩ :=
    Option.bind_eq_some_iff.mp hrest
  obtain ⟨rfl, -⟩ := divideAt?_eq_some.mp hfirst
  obtain ⟨rfl, -⟩ := divideAt?_eq_some.mp hsecond
  simp only at hguard
  split at hguard
  · next accepted =>
    obtain ⟨rfl, rfl⟩ := Prod.mk.inj (Option.some.inj hguard)
    simp only [Bool.and_eq_true, isAuthority, List.all_eq_true] at accepted
    refine ⟨accepted.1.1.1.2, ?_⟩
    exact (((List.suffix_cons mark back).trans
      (List.suffix_append version _)).trans
      (List.suffix_cons mark _)).trans (List.suffix_append front _)
  · cases hguard

/-! ## The forms -/

/-- **What a form tells**: an authority of letters, and a code at the end of
the reference with at least two marks fewer than that. -/
structure IsLongForm (cs authority code : List Char) : Prop where
  /-- The authority is made of letters. -/
  letters : ∀ c ∈ authority, isFoldedLetter c = true
  /-- The code stands at the end. -/
  atEnd : code <:+ cs
  /-- Two marks are lost. -/
  fewer : marks code + 2 ≤ marks cs

/-- The form of a reference that starts with a fixed text. -/
theorem isLongForm_of_afterAnyFixed? {fixed : List String}
    {cs body authority code : List Char} {mark : Char} {emptyVersion : Bool}
    (marked : ∀ text ∈ fixed, 2 ≤ marks text.toList)
    (hbody : afterAnyFixed? fixed cs = some body)
    (h : authorityAndCode? mark emptyVersion body = some (authority, code)) :
    IsLongForm cs authority code := by
  obtain ⟨hsuffix, text, htext, hmarks⟩ := afterAnyFixed?_eq_some hbody
  obtain ⟨letters, hcode⟩ := authorityAndCode?_eq_some h
  have two := marked text htext
  have fewer : marks code ≤ marks body := hcode.sublist.countP_le
  exact ⟨letters, hcode.trans hsuffix, by omega⟩

theorem isLongForm_of_ofUrn? {cs authority code : List Char}
    (h : ofUrn? cs = some (authority, code)) :
    IsLongForm cs authority code := by
  obtain ⟨body, hbody, h⟩ := Option.bind_eq_some_iff.mp h
  exact isLongForm_of_afterAnyFixed? (by decide) hbody h

theorem isLongForm_of_ofUrl? {cs authority code : List Char}
    (h : ofUrl? cs = some (authority, code)) :
    IsLongForm cs authority code := by
  obtain ⟨body, hbody, h⟩ := Option.bind_eq_some_iff.mp h
  exact isLongForm_of_afterAnyFixed? (by decide) hbody h

/-- A reference in the form of GML, whose authority is that of EPSG. -/
theorem isLongForm_of_gmlCode? {cs code : List Char}
    (h : gmlCode? cs = some code) : IsLongForm cs "EPSG".toList code := by
  obtain ⟨body, hbody, h⟩ := Option.bind_eq_some_iff.mp h
  split at h
  · obtain rfl := Option.some.inj h
    obtain ⟨hsuffix, text, htext, hmarks⟩ := afterAnyFixed?_eq_some hbody
    have two : ∀ text ∈ ["http://www.opengis.net/gml/srs/epsg.xml#",
        "https://www.opengis.net/gml/srs/epsg.xml#"],
        2 ≤ marks text.toList := by decide
    have := two text htext
    exact ⟨List.all_eq_true.mp rfl, hsuffix, by omega⟩
  · cases h

/-- **The short form** is an authority of ASCII letters, a colon and a code
of letters, digits and full stops. -/
theorem ofShort?_eq_some {cs authority code : List Char} :
    ofShort? cs = some (authority, code) ↔
      cs = authority ++ ':' :: code ∧ authority ≠ [] ∧ code ≠ [] ∧
        (∀ c ∈ authority, isAsciiLetter c = true) ∧
        ∀ c ∈ code, isShortCodeChar c = true := by
  have noColon {letters : List Char}
      (h : ∀ c ∈ letters, isAsciiLetter c = true) : ':' ∉ letters :=
    fun hmem => absurd (h ':' hmem) (by decide)
  constructor
  · intro h
    obtain ⟨⟨front, back⟩, hdivide, hguard⟩ := Option.bind_eq_some_iff.mp h
    simp only at hguard
    split at hguard
    · next accepted =>
      obtain ⟨rfl, rfl⟩ := Prod.mk.inj (Option.some.inj hguard)
      simp only [Bool.and_eq_true, isAuthority, List.all_eq_true,
        Bool.not_eq_true', List.isEmpty_eq_false_iff] at accepted
      obtain ⟨⟨⟨hfront, hletters⟩, hback⟩, hcode⟩ := accepted
      exact ⟨(divideAt?_eq_some.mp hdivide).1, hfront, hback, hletters, hcode⟩
    · cases hguard
  · rintro ⟨rfl, hfront, hback, hletters, hcode⟩
    refine Option.bind_eq_some_iff.mpr ⟨(authority, code),
      divideAt?_eq_some.mpr ⟨rfl, noColon hletters⟩, ?_⟩
    refine if_pos ?_
    simp only [Bool.and_eq_true, isAuthority, List.all_eq_true,
      Bool.not_eq_true', List.isEmpty_eq_false_iff]
    exact ⟨⟨⟨hfront, hletters⟩, hback⟩, hcode⟩

/-- The identifier of a code in the form of GML. -/
@[simp] theorem identifier_epsg (code : List Char) :
    identifier "EPSG".toList code = "EPSG:" ++ String.ofList code := by
  have low : "EPSG".toList.all (fun c => c.toNat < 0x61) = true := rfl
  have name : upper (String.ofList "EPSG".toList) = "EPSG" :=
    upper_eq_self fun c hc => of_decide_eq_true (List.all_eq_true.mp low c hc)
  unfold identifier
  rw [name]
  show "EPSG" ++ ":" ++ (if "EPSG" = "OGC" then _ else _) = _
  rw [if_neg (by decide)]
  rfl

/-- **What is known of a reference with an identifier**: the authority and
the code that the identifier is made of are read off the short form or off
one of the longer ones. -/
theorem exists_of_identifier? {cs : List Char} {id : String}
    (h : identifier? cs = some id) :
    ∃ authority code, id = identifier authority code ∧
      (ofShort? cs = some (authority, code) ∨
        IsLongForm cs authority code) := by
  unfold identifier? at h
  split at h
  · next authority code form =>
    refine ⟨authority, code, (Option.some.inj h).symm, ?_⟩
    rcases Option.or_eq_some_iff.mp form with urn | ⟨-, form⟩
    · exact .inr (isLongForm_of_ofUrn? urn)
    · rcases Option.or_eq_some_iff.mp form with url | ⟨-, short⟩
      · exact .inr (isLongForm_of_ofUrl? url)
      · exact .inl short
  · obtain ⟨code, hcode, rfl⟩ := Option.map_eq_some_iff.mp h
    exact ⟨_, code, (identifier_epsg code).symm,
      .inr (isLongForm_of_gmlCode? hcode)⟩

/-- The authority is made of letters in all forms, and the code stands at
the end. -/
theorem letters_and_suffix {cs authority code : List Char}
    (h : ofShort? cs = some (authority, code) ∨
      IsLongForm cs authority code) :
    (∀ c ∈ authority, isFoldedLetter c = true) ∧ code <:+ cs := by
  rcases h with short | long
  · obtain ⟨rfl, -, -, letters, -⟩ := ofShort?_eq_some.mp short
    exact ⟨fun c hc => isFoldedLetter_of_isAsciiLetter (letters c hc),
      (List.suffix_cons ':' code).trans (List.suffix_append authority _)⟩
  · exact ⟨long.letters, long.atEnd⟩

/-- A text in short form has an identifier. -/
theorem exists_identifier?_of_ofShort? {cs : List Char}
    (h : (ofShort? cs).isSome = true) : ∃ id, identifier? cs = some id := by
  have form : ((ofUrn? cs).or ((ofUrl? cs).or (ofShort? cs))).isSome
      = true := by
    rw [Option.isSome_or, Option.isSome_or, h, Bool.or_true, Bool.or_true]
  obtain ⟨⟨authority, code⟩, found⟩ := Option.isSome_iff_exists.mp form
  refine ⟨identifier authority code, ?_⟩
  unfold identifier?
  rw [found]

/-- **When a reference has an identifier.** -/
theorem normalize_eq_ok {reference : Option String} {id : String} :
    normalize reference = .ok id ↔ ∃ text, reference = some text ∧
      isBlankText text = false ∧
        identifier? (trimList isBlank text.toList) = some id := by
  cases reference with
  | none =>
    constructor
    · intro h
      cases h
    · rintro ⟨text, h, -⟩
      cases h
  | some text =>
    unfold normalize
    constructor
    · intro h
      refine ⟨text, rfl, ?_⟩
      simp only at h
      split at h
      · cases h
      · next written =>
        refine ⟨Bool.of_not_eq_true written, ?_⟩
        split at h
        · next found hfound => rw [hfound, Except.ok.inj h]
        · cases h
    · rintro ⟨_, htext, written, found⟩
      obtain rfl := Option.some.inj htext
      simp only [written, found, Bool.false_eq_true, if_false]

end GeoCatalogue.Crs
