import GeoCatalogue.Proofs.Name.Tables
import GeoCatalogue.Proofs.Template.Substitution
import GeoCatalogue.Proofs.Uri.Decoding

/-!
# Reading values back from a URI

A URI that was built from encoded values can be taken apart again, if every
placeholder of the template is followed by the end or by a character that no
encoded text has. Going through the URI with the template at hand, the text in
the place of a placeholder is as long as it can be: it is the **run** of
characters of encoded texts that starts there (`Segments.runs`). So the URI
alone tells which text was put into which place, and decoding the text tells
the value – no value can pass for a part of the template or of another value.
-/
namespace GeoCatalogue

open Uri

/-! ## Runs -/

namespace Segments

/-- **What follows a placeholder ends its text**: it is nothing at all, or it
starts with a literal character that no encoded text has. -/
def EndsRun (s : Segments) : Prop :=
  s = done [] ∨ s.head.head?.any (!isEncodedChar ·) = true

instance (s : Segments) : Decidable s.EndsRun := by
  unfold EndsRun; infer_instance

/-- **Every placeholder is delimited** by what follows it. -/
def IsDelimited : Segments → Prop
  | done _ => True
  | placeholder _ _ rest => rest.EndsRun ∧ rest.IsDelimited

instance decidableIsDelimited : (s : Segments) → Decidable s.IsDelimited
  | done _ => isTrue trivial
  | placeholder _ _ rest =>
    let _ := decidableIsDelimited rest
    inferInstanceAs (Decidable (rest.EndsRun ∧ rest.IsDelimited))

/-- **The texts in the places of the placeholders**, read off the whole text
from left to right: behind each literal stands a run of characters of encoded
texts, as long as it can be. -/
def runs : Segments → List Char → List String
  | done _, _ => []
  | placeholder literal _ rest, cs =>
    String.ofList ((cs.drop literal.length).takeWhile isEncodedChar) ::
      rest.runs ((cs.drop literal.length).dropWhile isEncodedChar)

/-- What ends a text does so whatever is woven into it. -/
theorem EndsRun.head?_weave {s : Segments} (h : s.EndsRun)
    (texts : List String) :
    ∀ c ∈ (s.weave texts).head?, isEncodedChar c = false := by
  obtain rfl | front := h
  · exact nofun
  · obtain ⟨tail, woven⟩ := s.exists_weave_eq_head_append texts
    intro c hc
    rw [woven, List.head?_append] at hc
    cases first : s.head.head? with
    | none => simp [first] at front
    | some d =>
      rw [first] at front hc
      rw [← Option.some.inj hc]
      simpa using front

/-- A text of one class of characters is taken off the front as a whole, if
what follows does not start with one of them. -/
theorem takeWhile_and_dropWhile_append {p : Char → Bool}
    {front back : List Char} (inside : ∀ c ∈ front, p c = true)
    (outside : ∀ c ∈ back.head?, p c = false) :
    (front ++ back).takeWhile p = front ∧
      (front ++ back).dropWhile p = back := by
  rw [List.takeWhile_append_of_pos inside, List.dropWhile_append_of_pos inside]
  cases back with
  | nil => simp
  | cons c back =>
    have stop : p c = false := outside c rfl
    simp [stop]

/-- **The texts that were woven into a delimited cut can be read off**, if they are written like
encoded texts. Behind each placeholder there is the end, or a character that is in no
encoded text, so a run of characters of such texts ends where its text does. This is all that
a reader has to know. -/
theorem runs_weave {s : Segments} (delimited : s.IsDelimited)
    {texts : List String} (length : texts.length = s.tokens.length)
    (encoded : ∀ text ∈ texts, ∀ c ∈ text.toList, isEncodedChar c = true) :
    s.runs (s.weave texts) = texts := by
  induction s generalizing texts with
  | done literal => exact (List.eq_nil_of_length_eq_zero length).symm
  | placeholder literal token rest ih =>
    match texts, length with
    | text :: texts, length =>
      obtain ⟨ends, later⟩ := delimited
      obtain ⟨first, others⟩ := List.forall_mem_cons.mp encoded
      obtain ⟨taken, dropped⟩ :=
        takeWhile_and_dropWhile_append first (ends.head?_weave texts)
      rw [weave, runs, List.append_assoc, List.drop_left, taken, dropped,
        String.ofList_toList, ih later (Nat.succ.inj length) others]

end Segments

/-! ## Values -/

/-- **Values with every text encoded.** -/
def Values.encoded (values : Values) : Values :=
  values.map fun (name, text) => (name, Uri.encode text)

/-- **Values for all names of a cut** under namespace bindings. -/
def Values.Supply (values : Values) (bindings : Bindings) (cut : Segments) :
    Prop :=
  ∀ token ∈ cut.tokens, ∀ name, Token.resolve bindings token = .ok name →
    values.has name = true

namespace Registry

variable {r : Registry} {t : UrlTemplate}

/-- **A URI that is built** is the template with the texts of its
placeholders. -/
theorem exists_texts_of_build {values : Values} {uri : String}
    (h : r.build t values = .ok uri) :
    ∃ texts, List.Forall₂ (HasText r t values)
        (Segments.ofString t.template).tokens texts ∧
      uri.toList = (Segments.ofString t.template).weave texts := by
  obtain ⟨candidate, expanded, accepted⟩ := Except.bind_eq_ok.mp h
  obtain ⟨rfl, -⟩ := request_eq_ok.mp accepted
  obtain ⟨texts, filled, rfl⟩ := expand_eq_ok.mp expanded
  exact ⟨texts, filled, String.toList_ofList⟩

/-- **The text of a placeholder with an encoded value**: the value of its name,
encoded. -/
def HasEncoded (t : UrlTemplate) (values : Values) (token text : String) :
    Prop :=
  ∃ name value, Token.resolve t.bindings token = .ok name ∧
    values.get? name = some value ∧ text = Uri.encode value

/-- If there are values for all names, every text is an encoded value. -/
theorem HasText.hasEncoded {values : Values} {cut : Segments}
    (supplied : values.Supply t.bindings cut) {token text : String}
    (mem : token ∈ cut.tokens) (h : HasText r t values.encoded token text) :
    HasEncoded t values token text := by
  have found : ∀ name, values.encoded.get? name
      = (values.get? name).map Uri.encode := Table.get?_map Uri.encode values
  cases h with
  | given named given =>
    rw [found] at given
    obtain ⟨value, value_eq, rfl⟩ := Option.map_eq_some_iff.mp given
    exact ⟨_, value, named, value_eq, rfl⟩
  | preset named missing _ _ _ =>
    rw [found, Option.map_eq_none_iff] at missing
    have present := supplied token mem _ named
    unfold Table.has at present
    rw [missing] at present
    cases present

/-- **The texts of a URI that is built from encoded values** are the runs in
it, and each of them is an encoded value. -/
theorem runs_of_build {values : Values}
    (delimited : (Segments.ofString t.template).IsDelimited)
    (supplied : values.Supply t.bindings (Segments.ofString t.template))
    {uri : String} (h : r.build t values.encoded = .ok uri) :
    uri.toList = (Segments.ofString t.template).weave
        ((Segments.ofString t.template).runs uri.toList) ∧
      List.Forall₂ (HasEncoded t values) (Segments.ofString t.template).tokens
        ((Segments.ofString t.template).runs uri.toList) := by
  obtain ⟨texts, filled, woven⟩ := exists_texts_of_build h
  have each : List.Forall₂ (HasEncoded t values)
      (Segments.ofString t.template).tokens texts :=
    ((List.forall₂_and_left _ _).mpr ⟨fun _ mem => mem, filled⟩).imp
      fun _ _ ⟨mem, text⟩ => text.hasEncoded supplied mem
  have read : (Segments.ofString t.template).runs uri.toList = texts := by
    rw [woven]
    refine Segments.runs_weave delimited filled.length_eq.symm ?_
    intro text mem c hc
    obtain ⟨token, -, name, value, -, -, rfl⟩ := each.exists_of_mem_right mem
    exact isEncodedChar_of_mem_encode hc
  rw [read]
  exact ⟨woven, each⟩

/-- **Encoded values can be read back.** Let every placeholder of a template be
followed by the end or by a literal character that no encoded text has, and let
a URI be built from it with encoded values, which there are for all names in
the template. Then the URI is the template with the runs in it in the places of
the placeholders; each run is the encoded value of the name of its placeholder,
and is decoded to that value. So if the same URI is built from other values,
these are the same for all names in the template. -/
theorem build_encoded_recoverable {cut : Segments}
    (cutOf : Segments.IsCut t.template.toList cut)
    (delimited : cut.IsDelimited) {v : Values}
    (supplied : v.Supply t.bindings cut) {uri : String}
    (built : r.build t v.encoded = .ok uri) :
    uri.toList = cut.weave (cut.runs uri.toList) ∧
    List.Forall₂ (fun token run => ∃ name value,
        Token.resolve t.bindings token = .ok name ∧ v.get? name = some value ∧
          run = Uri.encode value ∧ Uri.decode? run = some value)
      cut.tokens (cut.runs uri.toList) ∧
    ∀ w : Values, w.Supply t.bindings cut →
      r.build t w.encoded = .ok uri →
      ∀ token ∈ cut.tokens, ∀ name, Token.resolve t.bindings token = .ok name →
        v.get? name = w.get? name := by
  obtain rfl : cut = Segments.ofString t.template := Segments.isCut_iff.mp cutOf
  obtain ⟨woven, each⟩ := runs_of_build delimited supplied built
  refine ⟨woven, each.imp ?_, ?_⟩
  · intro token run h
    obtain ⟨name, value, named, found, rfl⟩ := h
    exact ⟨name, value, named, found, rfl, decode?_encode value⟩
  · intro w supplied' built' token mem name named
    obtain ⟨-, each'⟩ := runs_of_build delimited supplied' built'
    -- the run at the place of the token is an encoded value of `v` and of `w`
    obtain ⟨run, -, h, h'⟩ := (each.mp
      (fun _ _ (h : HasEncoded t v _ _) (h' : HasEncoded t w _ _) =>
        And.intro h h') each').exists_of_mem_left mem
    obtain ⟨name₁, value, named₁, found, rfl⟩ := h
    obtain ⟨name₂, value', named₂, found', same⟩ := h'
    obtain rfl := Except.ok.inj (named.symm.trans named₁)
    obtain rfl := Except.ok.inj (named.symm.trans named₂)
    rw [found, found', encode_injective same]

/-- Values that look like more parameters. -/
def injectingValues : Values := [
  (⟨Vocabulary.openSearch, "searchTerms"⟩, "x&b=1,2,3,4"),
  (⟨Vocabulary.openSearchGeo, "box"⟩, "5% {count}"),
  (⟨Vocabulary.openSearch, "count"⟩, "ü#")]

/-- The values are read back from the URI that is built from them. -/
theorem build_encoded_recoverable_injecting :
    ∃ uri, Registry.build {} sampleTemplate injectingValues.encoded = .ok uri ∧
      List.Forall₂ (fun token run => ∃ name value,
          Token.resolve sampleTemplate.bindings token = .ok name ∧
            injectingValues.get? name = some value ∧
            run = Uri.encode value ∧ Uri.decode? run = some value)
        (Segments.ofString sampleTemplate.template).tokens
        ((Segments.ofString sampleTemplate.template).runs uri.toList) := by
  have accepted : (Registry.build {} sampleTemplate
      injectingValues.encoded).isOk = true := by decide +kernel
  obtain ⟨uri, built⟩ := Except.exists_of_isOk accepted
  have supplied : ∀ token ∈ (Segments.ofString sampleTemplate.template).tokens,
      ((Token.resolve sampleTemplate.bindings token).toOption.all
        injectingValues.has) = true := by decide +kernel
  refine ⟨uri, built, (build_encoded_recoverable (Segments.isCut_ofChars _)
    (by decide +kernel) ?_ built).2.1⟩
  intro token mem name named
  simpa [named, Except.toOption] using supplied token mem

end Registry

end GeoCatalogue
