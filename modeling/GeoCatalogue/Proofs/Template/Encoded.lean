import GeoCatalogue.Proofs.Name.Tables
import GeoCatalogue.Proofs.Template.Building
import GeoCatalogue.Proofs.Template.Substitution
import GeoCatalogue.Proofs.Uri.Head

/-!
# Building with encoded values

A template whose front is a URI up to its query or fragment, and whose other
literals have URI characters and whole escapes, can be broken by values – but
not by encoded ones. What is put between its literals are encoded values and
defaults. Both have URI characters and whole escapes, whatever was encoded and
whatever the offsets of the template say, so nothing is torn or formed where a
literal and a text meet, and scheme, authority and port stay those of the
front. Building such a template always succeeds
(`Registry.build_of_encoded`).
-/
namespace GeoCatalogue

open Uri

/-! ## Defaults -/

/-- The digits of a number stand for themselves. -/
theorem isUnreserved_of_mem_repr {n : Nat} {c : Char}
    (h : c ∈ n.repr.toList) : isUnreserved c = true := by
  rw [Nat.toList_repr] at h
  have digit : isDigit c = true :=
    Nat.isDigit_of_mem_toDigits (by decide) (by decide) h
  unfold isUnreserved
  rw [digit, Bool.or_true]
  rfl

/-- **A default that is a number may be put anywhere in a URI.** -/
theorem DefaultValue.isInsert_number (n : Int) :
    IsInsert (DefaultValue.number n).asText.toList := by
  refine .of_isUnreserved fun c hc => ?_
  cases n with
  | ofNat n => exact isUnreserved_of_mem_repr hc
  | negSucc n =>
    have : c ∈ ("-" ++ (n + 1).repr).toList := hc
    rw [String.toList_append] at this
    rcases List.mem_append.mp this with sign | digit
    · rw [List.mem_singleton.mp sign]
      decide
    · exact isUnreserved_of_mem_repr digit

namespace Parameter

/-- The defaults of OpenSearch 1.1 may be put anywhere in a URI, whatever the
offsets are. -/
theorem isInsert_of_mem_wellKnown {offsets : Offsets} {localName : String}
    {valueType : ValueType} {default : DefaultValue}
    (h : (localName, valueType, default) ∈ wellKnown offsets) :
    IsInsert default.asText.toList := by
  simp only [wellKnown, List.mem_cons, Prod.mk.injEq, List.not_mem_nil,
    or_false] at h
  rcases h with ⟨-, -, rfl⟩ | ⟨-, -, rfl⟩ | ⟨-, -, rfl⟩ | ⟨-, -, rfl⟩ |
    ⟨-, -, rfl⟩ | ⟨-, -, rfl⟩
  · exact .nil
  · exact DefaultValue.isInsert_number _
  · exact DefaultValue.isInsert_number _
  · exact .of_notMem (List.all_eq_true.mp rfl) (by decide)
  · exact .of_notMem (List.all_eq_true.mp rfl) (by decide)
  · exact .of_notMem (List.all_eq_true.mp rfl) (by decide)

/-- **The default of every name may be put anywhere in a URI.** -/
theorem isInsert_typeAndDefault (offsets : Offsets) (name : QName) :
    IsInsert (typeAndDefault offsets name).2.asText.toList := by
  unfold typeAndDefault
  dsimp only
  split
  · cases found : (wellKnown offsets).get? name.localName with
    | none => exact .nil
    | some known => exact isInsert_of_mem_wellKnown (Table.mem_of_get? found)
  · exact .nil

/-- The default of a parameter that a token declares. -/
theorem isInsert_of_describe {bindings : Bindings} {offsets : Offsets}
    {token : String} {p : Parameter}
    (h : describe bindings offsets token = .ok p) :
    IsInsert p.defaultValue.asText.toList := by
  obtain ⟨name, -, described⟩ := Except.bind_eq_ok.mp h
  obtain rfl := Except.ok.inj described
  exact isInsert_typeAndDefault offsets name

end Parameter

/-! ## The URI of a request -/

namespace Registry

variable {r : Registry} {t : UrlTemplate} {values : Values}

/-- The parameters that a template declares have such defaults. -/
theorem HoldsOwn.isInsert_default (own : r.HoldsOwn t) {p : Parameter}
    (hp : p ∈ r.parameters t) : IsInsert p.defaultValue.asText.toList := by
  obtain ⟨token, -, described⟩ := Except.exists_eq_ok_of_mem_result own hp
  exact Parameter.isInsert_of_describe described

/-- **Every text that is put in the place of a placeholder may stand anywhere
in a URI**, if the values are encoded. -/
theorem HoldsOwn.isInsert_textOf (own : r.HoldsOwn t)
    (encoded : ∀ entry ∈ values, ∃ text, entry.2 = Uri.encode text)
    {name : QName} {text : String} (h : r.textOf t values name = .ok text) :
    IsInsert text.toList := by
  rcases textOf_eq_ok.mp h with supplied | ⟨-, preset⟩
  · obtain ⟨plain, rfl⟩ := encoded _ (Table.mem_of_get? supplied)
    exact isInsert_encode plain
  · obtain ⟨before, p, after, declared, -, -, rfl⟩ :=
      Parameter.defaultOf?_eq_some.mp preset
    refine own.isInsert_default ?_
    rw [declared]
    exact List.mem_append_right before List.mem_cons_self

/-- **Encoded values do not break a template.** Let a template be registered
with its own parameters, and let any registrations follow that do not give it
others. Let its front be accepted as a URI and have a question mark or a number
sign, and let all its literals have URI characters, with two hexadecimal digits
after every percent sign in the same literal. Then a URI is built from it,
whatever texts are encoded in the values, for whichever names there are values,
and whatever the offsets are. -/
theorem build_of_encoded {start r : Registry} {t : UrlTemplate} {cut : Segments}
    (registered : start.register t = .ok r) (later : List Registration)
    (kept : ∀ step ∈ later, step.template.same t → step = .declared t)
    (cutOf : Segments.IsCut t.template.toList cut)
    (ended : '?' ∈ cut.head ∨ '#' ∈ cut.head)
    (accepted : Uri.request (String.ofList cut.head)
      = .ok (String.ofList cut.head))
    (characters : ∀ literal ∈ cut.literals, ∀ c ∈ literal,
      Uri.isUriChar c = true)
    (escapes : ∀ literal ∈ cut.literals, ∀ front back,
      literal = front ++ '%' :: back → Uri.HasDigitsInFront back)
    {values : Values}
    (encoded : ∀ entry ∈ values, ∃ text, entry.2 = Uri.encode text) :
    ∃ uri, (r.run later).build t values = .ok uri := by
  obtain rfl : cut = Segments.ofString t.template := Segments.isCut_iff.mp cutOf
  have own := (holdsOwn_register registered).run kept
  obtain ⟨texts, found, built⟩ := own.exists_texts values
  have whole : IsInsert ((Segments.ofString t.template).weave texts) := by
    refine Segments.weave_induction IsInsert.append ?_ ?_
    · intro literal hliteral
      exact ⟨characters literal hliteral,
        escapesAreWellFormed_iff.mpr (escapes literal hliteral)⟩
    · intro text htext
      obtain ⟨name, -, htext⟩ := Except.exists_eq_ok_of_mem_result found htext
      exact own.isInsert_textOf encoded htext
  have front := (request_eq_ok.mp accepted).2
  rw [String.toList_ofList] at front
  obtain ⟨tail, woven⟩ :=
    (Segments.ofString t.template).exists_weave_eq_head_append texts
  refine ⟨_, built.trans (request_eq_ok.mpr ⟨rfl, ?_⟩)⟩
  rw [woven] at whole
  rw [String.toList_ofList, woven]
  rcases ended with mark | mark
  · exact checkChars_append (.inl rfl) mark front whole
  · exact checkChars_append (.inr rfl) mark front whole

/-- A template that counts from minus twelve, with an escape between two
placeholders. -/
def countingTemplate : UrlTemplate where
  serial := 1
  template := "http://example.org/?q={searchTerms}%20from%20{startIndex?}#{lang:id}"
  offsets := { index := some " -1_2 " }
  bindings := [(some "lang", "http://example.org/lang")]

/-- The cut of that template. -/
def countingCut : Segments :=
  .placeholder "http://example.org/?q=".toList "searchTerms".toList
    (.placeholder "%20from%20".toList "startIndex?".toList
      (.placeholder "#".toList "lang:id".toList (.done [])))

/-- The template is built from, with a value that is all but a URI before it
is encoded. -/
theorem build_of_encoded_counting :
    ∃ r, Registry.register {} countingTemplate = .ok r ∧
      ∃ uri, (r.run [.declared countingTemplate]).build countingTemplate
        [(⟨Vocabulary.openSearch, "searchTerms"⟩,
          Uri.encode "5% of \x7bü\x7d]\n")] = .ok uri := by
  have described : countingTemplate.parameters.isOk = true := by
    decide +kernel
  obtain ⟨ps, hps⟩ := Except.exists_of_isOk described
  have registered : Registry.register {} countingTemplate
      = .ok (Registry.insert {} countingTemplate ps) := by
    rw [register, hps]
    rfl
  have cutOf : Segments.IsCut countingTemplate.template.toList countingCut :=
    Segments.isCut_iff.mpr (by decide +kernel)
  refine ⟨_, registered, build_of_encoded registered
    [.declared countingTemplate] (fun step again _ => ?_) cutOf
    (.inl (by decide)) (by decide +kernel) ?_ ?_ ?_⟩
  · exact List.mem_singleton.mp again
  · intro literal hliteral
    refine List.all_eq_true.mp ?_
    revert literal
    decide
  · intro literal hliteral
    refine escapesAreWellFormed_iff.mp ?_
    revert literal
    decide
  · intro entry hentry
    rw [List.mem_singleton.mp hentry]
    exact ⟨_, rfl⟩

end Registry

end GeoCatalogue
