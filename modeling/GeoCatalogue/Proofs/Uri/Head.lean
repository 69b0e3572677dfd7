import GeoCatalogue.Proofs.Uri.Acceptance
import GeoCatalogue.Proofs.Uri.Escapes

/-!
# What the front of a URI decides

The scheme of a URI ends at the first colon, and its authority at the first
slash, question mark or number sign behind the two slashes that start it. So
if a text has a scheme, and a question mark or a number sign, then its scheme
and its authority are those of every text that goes on from it. What comes
after that is checked for characters and escapes only: a text that is accepted
stays accepted whatever of these is put behind it (`checkChars_append`).
-/
namespace GeoCatalogue.Uri

variable {cs front back scheme rest : List Char} {mark : Char}

/-! ## Scheme -/

/-- The characters of a text without a mark are not the mark. -/
theorem bne_of_notMem (h : mark ∉ front) :
    ∀ c ∈ front, (c != mark) = true := by
  intro c hc
  rw [bne_iff_ne]
  rintro rfl
  exact h hc

theorem before_append_cons (h : mark ∉ front) (back : List Char) :
    before mark (front ++ mark :: back) = front := by
  unfold before
  rw [List.takeWhile_append_of_pos (bne_of_notMem h),
    List.takeWhile_cons_of_neg (by simp), List.append_nil]

theorem after_append_cons (h : mark ∉ front) (back : List Char) :
    after mark (front ++ mark :: back) = back := by
  unfold after
  rw [List.dropWhile_append_of_pos (bne_of_notMem h),
    List.dropWhile_cons_of_neg (by simp)]
  rfl

/-- **The scheme of a text** stands in front of its first colon: a letter and
further scheme characters. -/
theorem scheme?_eq_some :
    scheme? cs = some (scheme, rest) ↔
      cs = scheme ++ ':' :: rest ∧ scheme.head?.any isLetter = true ∧
        scheme.all isSchemeChar = true := by
  unfold scheme?
  constructor
  · intro h
    dsimp only at h
    split at h
    · next found =>
      obtain ⟨rfl, rfl⟩ := Prod.mk.inj (Option.some.inj h)
      rw [Bool.and_eq_true, Bool.and_eq_true, List.contains_iff_mem] at found
      obtain ⟨⟨colon, letter⟩, characters⟩ := found
      obtain ⟨front, back, rfl, unmarked⟩ := List.eq_append_cons_of_mem colon
      rw [before_append_cons unmarked] at letter characters ⊢
      rw [after_append_cons unmarked]
      exact ⟨rfl, letter, characters⟩
    · cases h
  · rintro ⟨rfl, letter, characters⟩
    have unmarked : ':' ∉ scheme := fun colon =>
      absurd (List.all_eq_true.mp characters ':' colon) (by decide)
    rw [before_append_cons unmarked, after_append_cons unmarked]
    simp only [letter, characters, Bool.and_true, List.contains_iff_mem,
      List.mem_append, List.mem_cons, true_or, or_true, if_true]

/-- **The scheme of a text is that of every text that goes on from it.** -/
theorem scheme?_append (h : scheme? cs = some (scheme, rest))
    (tail : List Char) : scheme? (cs ++ tail) = some (scheme, rest ++ tail) := by
  obtain ⟨rfl, letter, characters⟩ := scheme?_eq_some.mp h
  refine scheme?_eq_some.mpr ⟨?_, letter, characters⟩
  rw [List.append_assoc, List.cons_append]

/-! ## Authority -/

/-- **A character that ends an authority.** -/
def EndsAuthority (c : Char) : Prop := c = '?' ∨ c = '#'

/-- Such a character is none of those that it follows: of a scheme, the colon
and the slashes. -/
theorem EndsAuthority.apart (ends : EndsAuthority mark) :
    isSchemeChar mark = false ∧ mark ≠ ':' ∧ mark ≠ '/' ∧
      (mark != '/' && mark != '?' && mark != '#') = false := by
  rcases ends with rfl | rfl
  · decide
  · decide

/-- Such a character stands behind the scheme. -/
theorem EndsAuthority.mem_rest (ends : EndsAuthority mark) (hmark : mark ∈ cs)
    (h : scheme? cs = some (scheme, rest)) : mark ∈ rest := by
  obtain ⟨rfl, -, characters⟩ := scheme?_eq_some.mp h
  obtain ⟨foreign, colon, -⟩ := ends.apart
  rcases List.mem_append.mp hmark with inScheme | behind
  · have allowed := List.all_eq_true.mp characters mark inScheme
    rw [foreign] at allowed
    cases allowed
  · exact (List.mem_cons.mp behind).resolve_left colon

/-- Cutting at a character that is there does not look further. -/
theorem takeWhile_append_of_stop {p : Char → Bool} (hmark : mark ∈ cs)
    (stop : p mark = false) (tail : List Char) :
    (cs ++ tail).takeWhile p = cs.takeWhile p := by
  induction cs with
  | nil => cases hmark
  | cons c cs ih =>
    rw [List.cons_append, List.takeWhile_cons, List.takeWhile_cons]
    cases passed : p c with
    | false => rfl
    | true =>
      have later : mark ∈ cs := by
        refine (List.mem_cons.mp hmark).resolve_left ?_
        rintro rfl
        rw [stop] at passed
        cases passed
      rw [ih later]

/-- A text that does not start with two slashes has no authority. -/
theorem authority_eq_nil (h : ∀ host, rest ≠ '/' :: '/' :: host) :
    authority rest = [] := by
  unfold authority
  split
  · next host => exact absurd rfl (h host)
  · rfl

/-- **The authority of a text is that of every text that goes on from it**, if
the text has a character that ends an authority. -/
theorem authority_append (ends : EndsAuthority mark) (hmark : mark ∈ rest)
    (tail : List Char) : authority (rest ++ tail) = authority rest := by
  obtain ⟨-, -, slash, stop⟩ := ends.apart
  by_cases slashes : ∃ host, rest = '/' :: '/' :: host
  · obtain ⟨host, rfl⟩ := slashes
    have later : mark ∈ host := by
      refine (List.mem_cons.mp ?_).resolve_left slash
      exact (List.mem_cons.mp hmark).resolve_left slash
    exact takeWhile_append_of_stop later stop tail
  · have none : ∀ host, rest ≠ '/' :: '/' :: host :=
      fun host same => slashes ⟨host, same⟩
    rw [authority_eq_nil none]
    refine authority_eq_nil fun host same => ?_
    -- both slashes would have to stand in front of the character that ends
    -- the authority
    match rest with
    | [c] =>
      obtain rfl := List.mem_singleton.mp hmark
      exact slash (List.cons.inj same).1
    | c :: d :: more =>
      cases same
      exact none more rfl

/-! ## Texts that go on -/

/-- **The parts of an accepted text are those of every text that goes on from
it.** -/
theorem checkParts_append (ends : EndsAuthority mark) (hmark : mark ∈ cs)
    (h : checkParts cs = .ok ()) (tail : List Char) :
    checkParts (cs ++ tail) = .ok () := by
  obtain ⟨scheme, rest, found, acceptable, named⟩ := checkParts_eq_ok.mp h
  have same := authority_append ends (ends.mem_rest hmark found) tail
  refine checkParts_eq_ok.mpr
    ⟨scheme, rest ++ tail, scheme?_append found tail, ?_, ?_⟩
  · rw [same]
    exact acceptable
  · rw [same]
    exact named

theorem withoutLineEnd_of_isUriChar (h : ∀ c ∈ cs, isUriChar c = true) :
    withoutLineEnd cs = cs :=
  withoutLineEnd_of_notMem fun lineFeed => absurd (h '\n' lineFeed) (by decide)

/-- **An accepted text stays accepted when it goes on**, if it has a character
that ends an authority, and the whole has URI characters and whole escapes. -/
theorem checkChars_append (ends : EndsAuthority mark) (hmark : mark ∈ cs)
    (accepted : checkChars cs = .ok ()) {tail : List Char}
    (whole : IsInsert (cs ++ tail)) : checkChars (cs ++ tail) = .ok () := by
  obtain ⟨-, -, parts⟩ := checkChars_eq_ok.mp accepted
  rw [withoutLineEnd_of_isUriChar fun c hc =>
    whole.characters c (List.mem_append_left tail hc)] at parts
  have plain := withoutLineEnd_of_isUriChar whole.characters
  refine checkChars_eq_ok.mpr ⟨?_, whole.escapes, ?_⟩
  · rw [plain]
    exact List.all_eq_true.mpr whole.characters
  · rw [plain]
    exact checkParts_append ends hmark parts tail

end GeoCatalogue.Uri
