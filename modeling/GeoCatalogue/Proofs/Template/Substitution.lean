import GeoCatalogue.Proofs.Template.Building
import GeoCatalogue.Proofs.Template.Cut

/-!
# What building a URI amounts to

Building is substitution, said here without the functions that carry it out.
A placeholder has a text (`Registry.HasText`): the value of its name, or, if
there is none, the default of the first parameter of that name. Or it has none
and tells why (`Registry.LacksText`): its label stands for no namespace, or its
name has neither value nor parameter. The first placeholder without a text
decides the failure. If there is none, the texts are put between the literals
of the template, and what comes out is checked as it is – it is not cut again,
whatever it holds. `Registry.Builds` puts this together, and
`Registry.build_eq_iff` says that nothing else happens.
-/
namespace GeoCatalogue

/-! ## Names of tokens -/

namespace Token

theorem splitLabel_eq_none {cs : List Char} (h : ':' ∉ cs) :
    splitLabel cs = none := by
  induction cs with
  | nil => rfl
  | cons c cs ih =>
    rw [List.mem_cons, not_or] at h
    obtain ⟨first, rest⟩ := h
    rw [splitLabel, if_neg (by simpa using Ne.symm first), ih rest,
      Option.map_none]

/-- A token has the namespace that its label stands for. -/
theorem resolve_of_label {bindings : Bindings} {token : String}
    {label localName : List Char}
    (labelled : splitLabel (name token) = some (label, localName)) :
    resolve bindings token =
      match bindings.namespaceOf? (String.ofList label) with
      | some namespaceName => .ok ⟨namespaceName, String.ofList localName⟩
      | none => .error (.unresolvedPrefix (String.ofList label) token) := by
  unfold resolve
  dsimp only
  split
  · next plain =>
    rw [labelled] at plain
    cases plain
  · next parts =>
    obtain ⟨rfl, rfl⟩ :=
      Prod.mk.inj (Option.some.inj (labelled.symm.trans parts))
    rfl

/-- **A token has no name exactly if its label stands for no namespace.** -/
theorem resolve_eq_error {bindings : Bindings} {token : String}
    {failure : Failure} :
    resolve bindings token = .error failure ↔
      ∃ label localName, splitLabel (name token) = some (label, localName) ∧
        bindings.namespaceOf? (String.ofList label) = none ∧
        failure = .unresolvedPrefix (String.ofList label) token := by
  constructor
  · intro h
    cases labelled : splitLabel (name token) with
    | none =>
      unfold resolve at h
      simp only [labelled] at h
      cases h
    | some parts =>
      obtain ⟨label, localName⟩ := parts
      rw [resolve_of_label labelled] at h
      split at h
      · cases h
      · next unbound =>
        exact ⟨label, localName, rfl, unbound, (Except.error.inj h).symm⟩
  · rintro ⟨label, localName, labelled, unbound, rfl⟩
    rw [resolve_of_label labelled, unbound]

end Token

/-! ## Defaults -/

/-- **The default of a name is that of the first parameter of the name.** -/
theorem Parameter.defaultOf?_eq_some {ps : List Parameter} {name : QName}
    {text : String} :
    defaultOf? ps name = some text ↔
      ∃ before p after, ps = before ++ p :: after ∧
        (∀ q ∈ before, q.name ≠ name) ∧ p.name = name ∧
        text = p.defaultValue.asText := by
  unfold defaultOf?
  rw [Option.map_eq_some_iff]
  constructor
  · rintro ⟨p, found, rfl⟩
    obtain ⟨same, before, after, rfl, others⟩ :=
      List.find?_eq_some_iff_append.mp found
    refine ⟨before, p, after, rfl, fun q hq => ?_, beq_iff_eq.mp same, rfl⟩
    simpa using others q hq
  · rintro ⟨before, p, after, rfl, others, same, rfl⟩
    refine ⟨p, List.find?_eq_some_iff_append.mpr
      ⟨beq_iff_eq.mpr same, before, after, rfl, fun q hq => ?_⟩, rfl⟩
    simpa using others q hq

/-- A name has no default exactly if no parameter has that name. -/
@[simp] theorem Parameter.defaultOf?_eq_none {ps : List Parameter} {name : QName} :
    defaultOf? ps name = none ↔ ∀ p ∈ ps, p.name ≠ name := by
  unfold defaultOf?
  rw [Option.map_eq_none_iff, List.find?_eq_none]
  simp

namespace Segments

variable {ε : Type} {value : String → Except ε String} {s : Segments}

/-- **A cut is filled exactly if all its tokens have texts**; these are woven
into it. -/
theorem fill_eq_ok {chars : List Char} :
    s.fill value = .ok chars ↔
      ∃ texts, List.Forall₂ (fun token text => value token = .ok text)
        s.tokens texts ∧ chars = s.weave texts := by
  rw [fill_eq_weave]
  cases looked : s.tokens.mapM value with
  | error e =>
    constructor
    · intro no
      cases no
    · rintro ⟨texts, each, -⟩
      rw [Except.mapM_eq_ok_iff.mpr each] at looked
      cases looked
  | ok found =>
    constructor
    · intro h
      exact ⟨found, Except.mapM_eq_ok_iff.mp looked, (Except.ok.inj h).symm⟩
    · rintro ⟨texts, each, rfl⟩
      rw [Except.mapM_eq_ok_iff.mpr each] at looked
      rw [Except.ok.inj looked]
      rfl

/-- **The first token without a text decides the failure.** -/
theorem fill_eq_error {e : ε} :
    s.fill value = .error e ↔
      ∃ before token after, s.tokens = before ++ token :: after ∧
        (∀ b ∈ before, ∃ text, value b = .ok text) ∧ value token = .error e := by
  rw [fill_eq_weave, ← Except.mapM_eq_error_iff]
  cases s.tokens.mapM value with
  | error e' =>
    constructor
    · intro h
      rw [Except.error.inj h]
    · intro h
      rw [Except.error.inj h]
      rfl
  | ok texts =>
    constructor
    · intro no
      cases no
    · intro no
      cases no

end Segments

namespace Registry

variable {r : Registry} {t : UrlTemplate} {values : Values}

/-! ## The text of a placeholder -/

/-- **The text of a placeholder.** -/
inductive HasText (r : Registry) (t : UrlTemplate) (values : Values) :
    String → String → Prop where
  /-- The value of its name. -/
  | given {token value : String} {name : QName}
      (named : Token.resolve t.bindings token = .ok name)
      (supplied : values.get? name = some value) : HasText r t values token value
  /-- Without a value, the default of the first parameter of its name. -/
  | preset {token : String} {name : QName} {before after : List Parameter}
      {p : Parameter} (named : Token.resolve t.bindings token = .ok name)
      (missing : values.get? name = none)
      (declared : r.parameters t = before ++ p :: after)
      (first : ∀ q ∈ before, q.name ≠ name) (same : p.name = name) :
      HasText r t values token p.defaultValue.asText

/-- **Why a placeholder has no text.** -/
inductive LacksText (r : Registry) (t : UrlTemplate) (values : Values) :
    String → Failure → Prop where
  /-- Its label stands for no namespace. -/
  | unresolved {token : String} {label localName : List Char}
      (labelled : Token.splitLabel (Token.name token) = some (label, localName))
      (unbound : t.bindings.namespaceOf? (String.ofList label) = none) :
      LacksText r t values token
        (.unresolvedPrefix (String.ofList label) token)
  /-- Its name has neither value nor parameter. -/
  | undeclared {token : String} {name : QName}
      (named : Token.resolve t.bindings token = .ok name)
      (missing : values.get? name = none)
      (undeclared : ∀ p ∈ r.parameters t, p.name ≠ name) :
      LacksText r t values token (.undeclaredParameter name t.template)

theorem textOf_eq_ok {name : QName} {text : String} :
    r.textOf t values name = .ok text ↔
      values.get? name = some text ∨ values.get? name = none ∧
        Parameter.defaultOf? (r.parameters t) name = some text := by
  unfold textOf
  cases values.get? name with
  | some value => simp
  | none =>
    cases Parameter.defaultOf? (r.parameters t) name with
    | some value => simp
    | none => simp

/-- **A template with parameters of its own presets each of them to its own
default**, also if others have its name. -/
theorem HoldsOwn.defaultOf? (own : r.HoldsOwn t) {p : Parameter}
    (h : p ∈ r.parameters t) :
    Parameter.defaultOf? (r.parameters t) p.name
      = some p.defaultValue.asText := by
  have presets : ∀ q ∈ r.parameters t,
      q.defaultValue = (Parameter.typeAndDefault t.offsets q.name).2 := by
    intro q hq
    obtain ⟨token, -, described⟩ := Except.exists_eq_ok_of_mem_result own hq
    exact Parameter.defaultValue_of_describe described
  obtain ⟨text, found⟩ := Parameter.exists_defaultOf? h
  obtain ⟨before, first, after, split, -, same, rfl⟩ :=
    Parameter.defaultOf?_eq_some.mp found
  have mem : first ∈ r.parameters t := by
    rw [split]
    exact List.mem_append_right before List.mem_cons_self
  rw [found, presets first mem, presets p h, same]

theorem textOf_eq_error {name : QName} {failure : Failure} :
    r.textOf t values name = .error failure ↔
      values.get? name = none ∧
        Parameter.defaultOf? (r.parameters t) name = none ∧
        failure = .undeclaredParameter name t.template := by
  unfold textOf
  cases values.get? name with
  | some value => simp
  | none =>
    cases Parameter.defaultOf? (r.parameters t) name with
    | some value => simp
    | none => simp [eq_comm]

/-- **What is put in the place of a placeholder is its text.** -/
theorem substitute_eq_ok {token text : String} :
    r.substitute t values token = .ok text ↔ HasText r t values token text := by
  rw [substitute_eq, Except.bind_eq_ok]
  constructor
  · rintro ⟨name, named, found⟩
    rcases textOf_eq_ok.mp found with supplied | ⟨missing, preset⟩
    · exact .given named supplied
    · obtain ⟨before, p, after, declared, first, same, rfl⟩ :=
        Parameter.defaultOf?_eq_some.mp preset
      exact .preset named missing declared first same
  · intro h
    cases h with
    | given named supplied =>
      exact ⟨_, named, textOf_eq_ok.mpr (.inl supplied)⟩
    | preset named missing declared first same =>
      have preset := Parameter.defaultOf?_eq_some.mpr
        ⟨_, _, _, declared, first, same, rfl⟩
      exact ⟨_, named, textOf_eq_ok.mpr (.inr ⟨missing, preset⟩)⟩

/-- **A placeholder that cannot be replaced has no text.** -/
theorem substitute_eq_error {token : String} {failure : Failure} :
    r.substitute t values token = .error failure ↔
      LacksText r t values token failure := by
  rw [substitute_eq, Except.bind_eq_error]
  constructor
  · rintro (unnamed | ⟨name, named, failed⟩)
    · obtain ⟨label, localName, labelled, unbound, rfl⟩ :=
        Token.resolve_eq_error.mp unnamed
      exact .unresolved labelled unbound
    · obtain ⟨missing, undeclared, rfl⟩ := textOf_eq_error.mp failed
      exact .undeclared named missing
        (Parameter.defaultOf?_eq_none.mp undeclared)
  · intro h
    cases h with
    | unresolved labelled unbound =>
      exact .inl (Token.resolve_eq_error.mpr
        ⟨_, _, labelled, unbound, rfl⟩)
    | undeclared named missing undeclared =>
      exact .inr ⟨_, named, textOf_eq_error.mpr
        ⟨missing, Parameter.defaultOf?_eq_none.mpr undeclared, rfl⟩⟩

/-! ## The URI of a request -/

/-- **What building a URI gives**, for the cut of the template. -/
inductive Builds (r : Registry) (t : UrlTemplate) (values : Values) :
    Except Failure String → Prop where
  /-- All placeholders have texts, and the candidate is accepted. -/
  | accepted {cut : Segments} {texts : List String}
      (cutOf : Segments.IsCut t.template.toList cut)
      (filled : List.Forall₂ (HasText r t values) cut.tokens texts)
      (accepted : Uri.checkChars (cut.weave texts) = .ok ()) :
      Builds r t values (.ok (String.ofList (cut.weave texts)))
  /-- All placeholders have texts, and the candidate is refused. -/
  | malformed {cut : Segments} {texts : List String} {defect : Uri.Defect}
      (cutOf : Segments.IsCut t.template.toList cut)
      (filled : List.Forall₂ (HasText r t values) cut.tokens texts)
      (refused : Uri.checkChars (cut.weave texts) = .error defect) :
      Builds r t values
        (.error (.malformedRequestUri (String.ofList (cut.weave texts)) defect))
  /-- Some placeholder has no text, and those in front of it have texts. -/
  | failed {cut : Segments} {before after : List String} {token : String}
      {failure : Failure} (cutOf : Segments.IsCut t.template.toList cut)
      (tokens : cut.tokens = before ++ token :: after)
      (filled : ∀ b ∈ before, ∃ text, HasText r t values b text)
      (lacking : LacksText r t values token failure) :
      Builds r t values (.error failure)

/-- The candidate that is checked. -/
theorem expand_eq_ok {candidate : String} :
    r.expand t values = .ok candidate ↔
      ∃ texts, List.Forall₂ (HasText r t values)
        (Segments.ofString t.template).tokens texts ∧
        candidate = String.ofList ((Segments.ofString t.template).weave texts) := by
  unfold expand
  rw [Except.bind_eq_ok]
  simp only [Segments.fill_eq_ok, substitute_eq_ok]
  constructor
  · rintro ⟨chars, ⟨texts, filled, rfl⟩, same⟩
    exact ⟨texts, filled, (Except.ok.inj same).symm⟩
  · rintro ⟨texts, filled, rfl⟩
    exact ⟨_, ⟨texts, filled, rfl⟩, rfl⟩

/-- The placeholder that has no text. -/
theorem expand_eq_error {failure : Failure} :
    r.expand t values = .error failure ↔
      ∃ before token after,
        (Segments.ofString t.template).tokens = before ++ token :: after ∧
        (∀ b ∈ before, ∃ text, HasText r t values b text) ∧
        LacksText r t values token failure := by
  unfold expand
  rw [Except.bind_eq_error, Segments.fill_eq_error]
  simp only [substitute_eq_ok, substitute_eq_error]
  constructor
  · rintro (h | ⟨chars, -, no⟩)
    · exact h
    · cases no
  · exact .inl

/-- **Building a URI is substitution, and nothing else.** For every registry,
every template with whatever parameters it has there, and all values, `build`
gives what `Builds` says, and only that: the failure of the first placeholder
without a text; or else the literals of the template with the text of each
placeholder between them, if that is accepted as a URI, and the failure that
names it if not. -/
theorem build_eq_iff (r : Registry) (t : UrlTemplate) (values : Values)
    (outcome : Except Failure String) :
    r.build t values = outcome ↔ Builds r t values outcome := by
  have cutOf : Segments.IsCut t.template.toList (Segments.ofString t.template) :=
    Segments.isCut_ofChars _
  constructor
  · rintro rfl
    unfold build
    cases expanded : r.expand t values with
    | error failure =>
      obtain ⟨before, token, after, tokens, filled, lacking⟩ :=
        expand_eq_error.mp expanded
      exact .failed cutOf tokens filled lacking
    | ok candidate =>
      obtain ⟨texts, filled, rfl⟩ := expand_eq_ok.mp expanded
      rw [Except.ok_bind, Uri.request, String.toList_ofList]
      split
      · next accepted => exact .accepted cutOf filled accepted
      · next refused => exact .malformed cutOf filled refused
  · intro h
    unfold build
    cases h with
    | accepted cutOf filled accepted =>
      obtain rfl := Segments.isCut_iff.mp cutOf
      rw [expand_eq_ok.mpr ⟨_, filled, rfl⟩, Except.ok_bind, Uri.request,
        String.toList_ofList]
      simp only [Segments.ofString, accepted]
    | malformed cutOf filled refused =>
      obtain rfl := Segments.isCut_iff.mp cutOf
      rw [expand_eq_ok.mpr ⟨_, filled, rfl⟩, Except.ok_bind, Uri.request,
        String.toList_ofList]
      simp only [Segments.ofString, refused]
    | failed cutOf tokens filled lacking =>
      obtain rfl := Segments.isCut_iff.mp cutOf
      rw [expand_eq_error.mpr ⟨_, _, _, tokens, filled, lacking⟩,
        Except.error_bind]

end Registry

end GeoCatalogue
