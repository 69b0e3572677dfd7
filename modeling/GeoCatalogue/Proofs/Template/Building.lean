import GeoCatalogue.Proofs.Template.Registration
import GeoCatalogue.Proofs.Template.Weaving
import GeoCatalogue.Proofs.Uri.Acceptance
import GeoCatalogue.Template.Expansion

/-!
# Building from declared parameters

A template is read twice: when it is registered, each placeholder declares
a parameter, and when a URI is built, each placeholder is given a text.
The two readings agree – the parameters are, in order, those that the
placeholders are resolved to – and so a template that is registered with
its own parameters always has a text for every placeholder. All that can
go wrong is that the text as a whole is no URI.
-/
namespace GeoCatalogue

namespace Parameter

/-- A parameter has the name that its token stands for. -/
theorem resolve_of_describe {bindings : Bindings} {offsets : Offsets}
    {token : String} {p : Parameter}
    (h : describe bindings offsets token = .ok p) :
    Token.resolve bindings token = .ok p.name := by
  obtain ⟨name, hname, hp⟩ := Except.bind_eq_ok.mp h
  rw [hname, ← Except.ok.inj hp]

/-- **The parameter of a token is that of its name**, but for the marker. -/
theorem describe_of_resolve {b : Bindings} (offsets : Offsets)
    {token : String} {name : QName} (h : Token.resolve b token = .ok name) :
    describe b offsets token = .ok
      ⟨name, !Token.isOptional token, (typeAndDefault offsets name).1,
        (typeAndDefault offsets name).2⟩ := by
  unfold describe
  rw [h, Except.ok_bind]

theorem defaultValue_of_describe {b : Bindings} {offsets : Offsets}
    {token : String} {p : Parameter} (h : describe b offsets token = .ok p) :
    p.defaultValue = (typeAndDefault offsets p.name).2 := by
  have described := describe_of_resolve offsets (resolve_of_describe h)
  rw [h] at described
  exact congrArg Parameter.defaultValue (Except.ok.inj described)

/-- **The parameters of a template have the names that its tokens stand
for**, one by one and in order. -/
theorem resolve_of_ofTemplate {bindings : Bindings} {offsets : Offsets}
    {template : String} {ps : List Parameter}
    (h : ofTemplate bindings offsets template = .ok ps) :
    (Segments.ofString template).tokens.mapM (Token.resolve bindings)
      = .ok (ps.map Parameter.name) := by
  rw [Except.mapM_eq_ok_iff, List.forall₂_map_right_iff]
  exact (Except.mapM_eq_ok_iff.mp h).imp (fun _ _ => resolve_of_describe)

/-- A parameter of a list has a default there – that of the first parameter
of its name. -/
theorem exists_defaultOf? {ps : List Parameter} {p : Parameter}
    (h : p ∈ ps) : ∃ text, defaultOf? ps p.name = some text := by
  have found : (ps.find? (·.name == p.name)).isSome := by
    rw [List.find?_isSome]
    exact ⟨p, h, beq_self_eq_true p.name⟩
  obtain ⟨first, hfirst⟩ := Option.isSome_iff_exists.mp found
  exact ⟨first.defaultValue.asText, congrArg (Option.map _) hfirst⟩

end Parameter

/-- A text is accepted as a URI, or refused as malformed. -/
theorem Uri.request_ok_or_malformed (text : String) :
    (∃ uri, request text = .ok uri) ∨
      ∃ uri defect, request text = .error (.malformedRequestUri uri defect) := by
  unfold request
  cases checkChars text.toList with
  | ok _ => exact .inl ⟨text, rfl⟩
  | error defect => exact .inr ⟨text, defect, rfl⟩

namespace Registry

/-- **The text that a name is replaced by**: its value, or else the default
of the first parameter of that name. -/
def textOf (r : Registry) (t : UrlTemplate) (values : Values)
    (name : QName) : Except Failure String :=
  match values.get? name with
  | some value => .ok value
  | none =>
    match Parameter.defaultOf? (r.parameters t) name with
    | some value => .ok value
    | none => .error (.undeclaredParameter name t.template)

/-- A token is replaced by the text of the name it stands for. -/
theorem substitute_eq (r : Registry) (t : UrlTemplate) (values : Values) :
    r.substitute t values
      = fun token => Token.resolve t.bindings token >>= r.textOf t values :=
  rfl

/-- **Building in passes**: when all tokens stand for names, and all names
have texts, the texts are woven into the template and the result is
checked. -/
theorem build_of_texts {r : Registry} {t : UrlTemplate} {values : Values}
    {names : List QName} {texts : List String}
    (resolved : (Segments.ofString t.template).tokens.mapM
      (Token.resolve t.bindings) = .ok names)
    (found : names.mapM (r.textOf t values) = .ok texts) :
    r.build t values = Uri.request
      (String.ofList ((Segments.ofString t.template).weave texts)) := by
  have filled := (Except.mapM_bind resolved (r.textOf t values)).trans found
  rw [build, expand, substitute_eq, Segments.fill_of_mapM filled]
  rfl

/-- **What is built has been accepted as a URI.** -/
theorem request_of_build {r : Registry} {t : UrlTemplate} {values : Values}
    {uri : String} (h : r.build t values = .ok uri) :
    Uri.request uri = .ok uri := by
  obtain ⟨candidate, -, accepted⟩ := Except.bind_eq_ok.mp h
  obtain ⟨rfl, -⟩ := Uri.request_eq_ok.mp accepted
  exact accepted

/-- The name of a declared parameter has a text, whatever the values
are. -/
theorem exists_textOf {r : Registry} {t : UrlTemplate} (values : Values)
    {p : Parameter} (h : p ∈ r.parameters t) :
    ∃ text, r.textOf t values p.name = .ok text := by
  unfold textOf
  cases values.get? p.name with
  | some value => exact ⟨value, rfl⟩
  | none =>
    obtain ⟨preset, hpreset⟩ := Parameter.exists_defaultOf? h
    rw [hpreset]
    exact ⟨preset, rfl⟩

/-- **A template that is held with its own parameters is built from their
names**, in order: each of them has a text. -/
theorem HoldsOwn.exists_texts {r : Registry} {t : UrlTemplate}
    (h : r.HoldsOwn t) (values : Values) :
    ∃ texts,
      ((r.parameters t).map Parameter.name).mapM (r.textOf t values)
        = .ok texts ∧
      r.build t values = Uri.request
        (String.ofList ((Segments.ofString t.template).weave texts)) := by
  have each : ∀ name ∈ (r.parameters t).map Parameter.name,
      ∃ text, r.textOf t values name = .ok text := by
    intro name hname
    obtain ⟨p, hp, rfl⟩ := List.mem_map.mp hname
    exact exists_textOf values hp
  obtain ⟨texts, htexts⟩ := Except.exists_mapM_eq_ok each
  exact ⟨texts, htexts,
    build_of_texts (Parameter.resolve_of_ofTemplate h) htexts⟩

/-- **A registered template has a text for every placeholder.** Let a
template be registered with its own parameters, and let any registrations
follow that do not give it others. Then building from it gives a URI or
fails because the text is no URI – never for a name without a namespace or
without a parameter. The parameters have, one by one and in order, the
names that the placeholders stand for, and what is checked in the end is
the template with the text of each of these names in its place. -/
theorem build_of_declared {start r : Registry} {t : UrlTemplate}
    (registered : start.register t = .ok r) (later : List Registration)
    (kept : ∀ step ∈ later, step.template.same t → step = .declared t)
    (values : Values) :
    ((∃ uri, (r.run later).build t values = .ok uri) ∨
      ∃ uri defect, (r.run later).build t values
        = .error (.malformedRequestUri uri defect)) ∧
    (Segments.ofString t.template).tokens.mapM (Token.resolve t.bindings)
      = .ok (((r.run later).parameters t).map Parameter.name) ∧
    ∃ texts,
      (((r.run later).parameters t).map Parameter.name).mapM
        ((r.run later).textOf t values) = .ok texts ∧
      (r.run later).build t values = Uri.request
        (String.ofList ((Segments.ofString t.template).weave texts)) := by
  have own := (holdsOwn_register registered).run kept
  obtain ⟨texts, htexts, built⟩ := own.exists_texts values
  refine ⟨?_, Parameter.resolve_of_ofTemplate own, texts, htexts, built⟩
  rw [built]
  exact Uri.request_ok_or_malformed _

/-- A template with a label, an optional placeholder with blanks in it and
a name that is written twice. -/
def sampleTemplate : UrlTemplate where
  serial := 1
  template := "http://example.org/?q={searchTerms}&b={ g:box? }&c={count}&d={count}"
  bindings := [(some "g", Vocabulary.openSearchGeo)]

/-- The sample is registered and built from, also after another template
has been given a parameter. -/
theorem build_of_declared_sample :
    let other : Registration :=
      .given ⟨2, "http://example.org/{x}", "", "results", {}, []⟩
        [⟨⟨Vocabulary.openSearchGeo, "box"⟩, true, .string, .text "0"⟩]
    ∃ r, Registry.register {} sampleTemplate = .ok r ∧
      ∀ values,
        (∃ uri, (r.run [other]).build sampleTemplate values = .ok uri) ∨
          ∃ uri defect, (r.run [other]).build sampleTemplate values
            = .error (.malformedRequestUri uri defect) := by
  intro other
  have described : sampleTemplate.parameters.isOk = true := by decide +kernel
  obtain ⟨ps, hps⟩ := Except.exists_of_isOk described
  have registered : Registry.register {} sampleTemplate
      = .ok (Registry.insert {} sampleTemplate ps) := by
    rw [register, hps]
    rfl
  refine ⟨_, registered, fun values => ?_⟩
  refine (build_of_declared registered [other] ?_ values).1
  intro step hstep same
  rw [List.mem_singleton.mp hstep] at same
  exact absurd same (by decide)

end Registry

end GeoCatalogue
