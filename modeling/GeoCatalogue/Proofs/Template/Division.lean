import GeoCatalogue.Proofs.Template.Cut
import GeoCatalogue.Proofs.Template.Weaving
import GeoCatalogue.Template.Expansion

/-!
# Literals and tokens in turn

A template is read twice: for the parameters that it declares, and for the URI
that is built from it. Both readings go by the same literals and tokens, and
these can be told from the text alone. In turn, each token in its braces, they
are the text; no token is empty or holds a closing brace; and no opening brace
of a literal could have opened a placeholder. A text can be divided like this
(`Segments.Divides`) in one way only, however its braces are nested, left open
or left empty (`Segments.divides_iff`).

`Segments.IsCut` says the same along a cut, one placeholder after the other.
Here it is said of two lists, of which nothing else is known, and a cut is put
together from them.
-/
namespace GeoCatalogue

namespace Segments

variable {text literal : List Char} {literals : List (List Char)}
  {token : String} {tokens : List String}

/-- **Literals and texts in turn**, a literal first. -/
def inTurn : List (List Char) → List String → List Char
  | literal :: literals, text :: texts =>
    literal ++ text.toList ++ inTurn literals texts
  | literals, _ => literals.flatten

/-- A token in its braces. -/
def braced (token : String) : String :=
  String.ofList ('{' :: (token.toList ++ ['}']))

/-- **A text divided into literals and tokens.** -/
structure Divides (text : List Char) (literals : List (List Char))
    (tokens : List String) : Prop where
  /-- There is one literal more than there are tokens. -/
  count : literals.length = tokens.length + 1
  /-- In turn, the tokens in their braces, they are the text. -/
  whole : text = inTurn literals (tokens.map braced)
  /-- No token is empty. -/
  nonempty : ∀ token ∈ tokens, token ≠ ""
  /-- No token holds a closing brace. -/
  unclosed : ∀ token ∈ tokens, '}' ∉ token.toList
  /-- No brace of a literal in front of a token opens a placeholder. -/
  plain : ∀ literal ∈ literals.dropLast, IsPlain literal
  /-- No brace of the last literal opens a placeholder. -/
  plainEnd : ∀ literal ∈ literals.getLast?, IsPlainEnd literal

/-! ## One token after the other -/

theorem inTurn_cons :
    inTurn (literal :: literals) ((token :: tokens).map braced)
      = literal ++ '{' :: (token.toList ++ '}' :: inTurn literals (tokens.map braced)) := by
  rw [List.map_cons, inTurn, braced, String.toList_ofList]
  simp

/-- A text without tokens is divided into itself. -/
theorem divides_singleton :
    Divides text [literal] [] ↔ text = literal ∧ IsPlainEnd literal := by
  constructor
  · intro h
    exact ⟨h.whole.trans (List.append_nil literal), h.plainEnd literal rfl⟩
  · rintro ⟨rfl, plainEnd⟩
    refine ⟨rfl, (List.append_nil text).symm, nofun, nofun, nofun, ?_⟩
    rintro _ ⟨⟩
    exact plainEnd

/-- **A literal and a token in front of a division.** -/
theorem divides_cons :
    Divides text (literal :: literals) (token :: tokens) ↔
      ∃ rest, text = literal ++ '{' :: (token.toList ++ '}' :: rest) ∧
        IsPlain literal ∧ token ≠ "" ∧ '}' ∉ token.toList ∧
        Divides rest literals tokens := by
  constructor
  · intro h
    have count : literals.length = tokens.length + 1 := Nat.succ.inj h.count
    -- the first literal is not the last one, so it is in front of a token
    have others : literals ≠ [] := List.ne_nil_of_length_eq_add_one count
    have plain := h.plain
    rw [List.dropLast_cons_of_ne_nil others] at plain
    have plainEnd := h.plainEnd
    rw [List.getLast?_cons_of_ne_nil others] at plainEnd
    obtain ⟨first, nonempty⟩ := List.forall_mem_cons.mp h.nonempty
    obtain ⟨closed, unclosed⟩ := List.forall_mem_cons.mp h.unclosed
    obtain ⟨front, plain⟩ := List.forall_mem_cons.mp plain
    refine ⟨inTurn literals (tokens.map braced), ?_, front, first, closed,
      ⟨count, rfl, nonempty, unclosed, plain, plainEnd⟩⟩
    rw [h.whole, inTurn_cons]
  · rintro ⟨rest, rfl, front, first, closed, h⟩
    have others : literals ≠ [] := List.ne_nil_of_length_eq_add_one h.count
    refine ⟨congrArg Nat.succ h.count, ?_, List.forall_mem_cons.mpr ⟨first, h.nonempty⟩,
      List.forall_mem_cons.mpr ⟨closed, h.unclosed⟩, ?_, ?_⟩
    · rw [inTurn_cons, ← h.whole]
    · rw [List.dropLast_cons_of_ne_nil others]
      exact List.forall_mem_cons.mpr ⟨front, h.plain⟩
    · rw [List.getLast?_cons_of_ne_nil others]
      exact h.plainEnd

/-! ## Divisions and cuts -/

/-- **A cut divides its text.** -/
theorem IsCut.divides {s : Segments} (h : IsCut text s) :
    Divides text s.literals s.tokens := by
  induction h with
  | done plain => exact divides_singleton.mpr ⟨rfl, plain⟩
  | @placeholder literal token text rest plain nonempty unclosed _ ih =>
    refine divides_cons.mpr ⟨text, ?_, plain, ?_, ?_, ih⟩
    · rw [String.toList_ofList]
    · simpa using nonempty
    · rw [String.toList_ofList]
      exact unclosed

/-- **What a text is divided into makes a cut.** -/
theorem Divides.exists_isCut (h : Divides text literals tokens) :
    ∃ s, IsCut text s ∧ literals = s.literals ∧ tokens = s.tokens := by
  induction tokens generalizing text literals with
  | nil =>
    obtain ⟨literal, rfl⟩ := List.length_eq_one_iff.mp h.count
    obtain ⟨rfl, plainEnd⟩ := divides_singleton.mp h
    exact ⟨_, .done plainEnd, rfl, rfl⟩
  | cons token tokens ih =>
    obtain ⟨literal, literals, rfl⟩ := List.exists_cons_of_length_eq_add_one h.count
    obtain ⟨rest, rfl, plain, nonempty, unclosed, others⟩ := divides_cons.mp h
    obtain ⟨s, cut, rfl, rfl⟩ := ih others
    refine ⟨_, .placeholder plain ?_ unclosed cut, rfl, ?_⟩
    · simpa using nonempty
    · rw [Segments.tokens, String.ofList_toList]

/-- **A text has exactly one division**: the literals and tokens that scanning
gives. -/
theorem divides_iff :
    Divides text literals tokens ↔
      literals = (ofChars text).literals ∧ tokens = (ofChars text).tokens := by
  constructor
  · intro h
    obtain ⟨s, cut, rfl, rfl⟩ := h.exists_isCut
    rw [isCut_iff.mp cut]
    exact ⟨rfl, rfl⟩
  · rintro ⟨rfl, rfl⟩
    exact (isCut_ofChars text).divides

example : ofChars ['{', '}', '{', 'a', '{', 'b', '}', '}', '{', 'c']
    = placeholder ['{', '}'] ['a', '{', 'b'] (done ['}', '{', 'c']) := by
  decide +kernel

/-- **Weaving puts texts between the literals of a cut in turn**, one for each
token. -/
theorem weave_eq_inTurn {s : Segments} {texts : List String}
    (count : s.tokens.length = texts.length) : s.weave texts = inTurn s.literals texts := by
  induction s generalizing texts with
  | done literal =>
    obtain rfl := List.length_eq_zero_iff.mp count.symm
    exact (List.append_nil literal).symm
  | placeholder literal token rest ih =>
    obtain ⟨text, texts, rfl⟩ := List.exists_cons_of_length_eq_add_one count.symm
    rw [weave, ih (Nat.succ.inj count)]
    rfl

end Segments

/-- **What a text becomes when its placeholders are filled in**: its literals, and
in turn what its tokens are replaced by. -/
theorem Registry.expand_eq_inTurn (r : Registry) (t : UrlTemplate) (values : Values) :
    r.expand t values
      = (fun texts => String.ofList
          (Segments.inTurn (Segments.ofString t.template).literals texts))
        <$> (Segments.ofString t.template).tokens.mapM (r.substitute t values) := by
  rw [expand, Segments.fill_eq_weave]
  cases replaced : (Segments.ofString t.template).tokens.mapM (r.substitute t values) with
  | error e => rfl
  | ok texts =>
    have count := (Except.mapM_eq_ok_iff.mp replaced).length_eq
    show Except.ok (String.ofList ((Segments.ofString t.template).weave texts)) = _
    rw [Segments.weave_eq_inTurn count]
    rfl

/-- **Scanning gives the one division of a template**, and both readings go by it.
For every template – any text, any bindings and any offsets – its text is divided
into the literals and tokens that scanning gives, and into no others. The
parameters that it declares are those of these tokens, in order; and in every
registry and for all values, its text with the placeholders filled in is made of
these literals and of what these tokens are replaced by, in turn. -/
theorem UrlTemplate.scan_divides (t : UrlTemplate) :
    let scan := Segments.ofString t.template
    (∀ literals tokens, Segments.Divides t.template.toList literals tokens ↔
      literals = scan.literals ∧ tokens = scan.tokens) ∧
      t.parameters = scan.tokens.mapM (Parameter.describe t.bindings t.offsets) ∧
      ∀ (r : Registry) (values : Values),
        r.expand t values
          = (fun texts => String.ofList (Segments.inTurn scan.literals texts))
            <$> scan.tokens.mapM (r.substitute t values) :=
  ⟨fun _ _ => Segments.divides_iff, rfl, fun r values => r.expand_eq_inTurn t values⟩

end GeoCatalogue
