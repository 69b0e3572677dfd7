import GeoCatalogue.Proofs.Name.Tables
import GeoCatalogue.Proofs.Template.Substitution

/-!
# How names are written

A placeholder stands for a qualified name, and how the name is written – with
which label, with the label left out, under which other bindings – does not
matter for anything that is done with it. Two templates with the same literals
and offsets whose placeholders stand for the same names, one by one, are
**interchangeable** (`UrlTemplate.Interchangeable`): both can be registered,
their parameters agree up to the marker for those that may be left out, and the
same is built from them for all values.

The reason is that a token is looked at only once, when its name is resolved.
Type and default of a parameter are those of its name, a text is found by the
name, and the texts are woven between literals that are the same in both
templates. So it is enough to see which spellings leave the name as it is
(`Token.Respells`); and since the default namespace is never asked for, it may
be any or none (`Token.resolve_congr`).
-/
namespace GeoCatalogue

/-- **Bindings that agree on labels**: they differ in the default namespace at
most. -/
def Bindings.AgreeOnLabels (b b' : Bindings) : Prop :=
  ∀ label : String, b.get? (some label) = b'.get? (some label)

/-- **Bindings with other labels**, for the same namespaces. -/
def Bindings.relabel (ρ : String → String) (b : Bindings) : Bindings :=
  b.map fun (label, namespaceName) => (label.map ρ, namespaceName)

/-- A label stands for what it stood for before all of them were changed. -/
@[simp] theorem Bindings.namespaceOf?_relabel {ρ : String → String}
    (injective : Function.Injective ρ) (b : Bindings) (label : String) :
    (b.relabel ρ).namespaceOf? (ρ label) = b.namespaceOf? label := by
  unfold namespaceOf? relabel
  rw [← Option.map_some, Table.get?_map_key (Option.map_injective injective)]

/-- **Parameters that agree**, except perhaps in whether a value is
required. -/
structure Parameter.Alike (p q : Parameter) : Prop where
  /-- They have the same name. -/
  name : p.name = q.name
  /-- They have values of the same type. -/
  valueType : p.valueType = q.valueType
  /-- They have the same default. -/
  defaultValue : p.defaultValue = q.defaultValue

/-! ## Spellings of a name -/

namespace Token

variable {b b' : Bindings} {token token' : String}

/-- A token without a label stands for an OpenSearch name. -/
theorem resolve_of_plain (b : Bindings)
    (plain : splitLabel (name token) = none) :
    resolve b token
      = .ok ⟨Vocabulary.openSearch, String.ofList (name token)⟩ := by
  unfold resolve
  simp only [plain]

/-- **The default namespace is not asked for.** -/
theorem resolve_congr (h : b.AgreeOnLabels b') (token : String) :
    resolve b token = resolve b' token := by
  cases labelled : splitLabel (name token) with
  | none => rw [resolve_of_plain b labelled, resolve_of_plain b' labelled]
  | some parts =>
    obtain ⟨label, localName⟩ := parts
    have same : b.namespaceOf? (String.ofList label)
        = b'.namespaceOf? (String.ofList label) := by
      unfold Bindings.namespaceOf?
      rw [h]
    rw [resolve_of_label labelled, resolve_of_label labelled, same]

/-- **Two tokens stand for the same name**, each under bindings of its own. -/
def SameName (b b' : Bindings) (token token' : String) : Prop :=
  ∃ name, resolve b token = .ok name ∧ resolve b' token' = .ok name

/-- **A token is another spelling of a token**, each under bindings of its
own. White space around them and the marker at their ends do not count. -/
inductive Respells (b b' : Bindings) : String → String → Prop where
  /-- A name without a label, as it is. -/
  | plain {token token' : String} (unlabelled : splitLabel (name token) = none)
      (same : name token' = name token) : Respells b b' token token'
  /-- A label is replaced by one that stands for the same namespace. -/
  | relabelled {token token' namespaceName : String}
      {label label' localName : List Char}
      (labelled : splitLabel (name token) = some (label, localName))
      (labelled' : splitLabel (name token') = some (label', localName))
      (bound : b.namespaceOf? (String.ofList label) = some namespaceName)
      (bound' : b'.namespaceOf? (String.ofList label') = some namespaceName) :
      Respells b b' token token'
  /-- An OpenSearch name is written with a label. -/
  | labelled {token token' : String} {label : List Char}
      (unlabelled : splitLabel (name token) = none)
      (labelled : splitLabel (name token') = some (label, name token))
      (bound : b'.namespaceOf? (String.ofList label)
        = some Vocabulary.openSearch) :
      Respells b b' token token'

/-- **Another spelling stands for the same name.** -/
theorem Respells.sameName (h : Respells b b' token token') :
    SameName b b' token token' := by
  cases h with
  | plain unlabelled same =>
    have unlabelled' : splitLabel (name token') = none := by
      rw [same]
      exact unlabelled
    refine ⟨_, resolve_of_plain b unlabelled, ?_⟩
    rw [resolve_of_plain b' unlabelled', same]
  | @relabelled namespaceName _ _ localName labelled labelled' bound bound' =>
    refine ⟨⟨namespaceName, String.ofList localName⟩, ?_, ?_⟩
    · rw [resolve_of_label labelled, bound]
    · rw [resolve_of_label labelled', bound']
  | labelled unlabelled labelled bound =>
    refine ⟨_, resolve_of_plain b unlabelled, ?_⟩
    rw [resolve_of_label labelled, bound]

/-- **A token with another label**, if it has one. -/
inductive Relabelled (ρ : String → String) : String → String → Prop where
  /-- There is no label. -/
  | plain {token token' : String} (unlabelled : splitLabel (name token) = none)
      (same : name token' = name token) : Relabelled ρ token token'
  /-- The label is changed, and the local name is not. -/
  | labelled {token token' : String} {label localName : List Char}
      (before : splitLabel (name token) = some (label, localName))
      (after : splitLabel (name token')
        = some ((ρ (String.ofList label)).toList, localName)) :
      Relabelled ρ token token'

/-- **A token with another label is another spelling**, if the bindings are
changed the same way. -/
theorem Relabelled.respells {ρ : String → String}
    (injective : Function.Injective ρ) {qname : QName}
    (named : resolve b token = .ok qname) (h : Relabelled ρ token token') :
    Respells b (b.relabel ρ) token token' := by
  cases h with
  | plain unlabelled same => exact .plain unlabelled same
  | @labelled label _ before after =>
    cases bound : b.namespaceOf? (String.ofList label) with
    | none =>
      rw [resolve_of_label before, bound] at named
      cases named
    | some namespaceName =>
      refine .relabelled before after bound ?_
      rw [String.ofList_toList, Bindings.namespaceOf?_relabel injective]
      exact bound

end Token

/-! ## Parameters and literals -/

namespace Parameter

variable {ps qs : List Parameter}

/-- Tokens with the same name declare parameters that agree. -/
theorem exists_alike {b b' : Bindings} (offsets : Offsets)
    {token token' : String} (h : Token.SameName b b' token token') :
    ∃ p q, describe b offsets token = .ok p ∧
      describe b' offsets token' = .ok q ∧ Alike p q := by
  obtain ⟨name, named, named'⟩ := h
  exact ⟨_, _, describe_of_resolve offsets named,
    describe_of_resolve offsets named', ⟨rfl, rfl, rfl⟩⟩

/-- **Tokens with the same names, one by one, declare parameters that agree**
one by one. -/
theorem exists_forall₂_alike {b b' : Bindings} (offsets : Offsets)
    {tokens tokens' : List String}
    (h : List.Forall₂ (Token.SameName b b') tokens tokens') :
    ∃ ps qs, tokens.mapM (describe b offsets) = .ok ps ∧
      tokens'.mapM (describe b' offsets) = .ok qs ∧
      List.Forall₂ Alike ps qs := by
  simp only [Except.mapM_eq_ok_iff]
  induction h with
  | nil => exact ⟨[], [], .nil, .nil, .nil⟩
  | cons first _ ih =>
    obtain ⟨p, q, hp, hq, first⟩ := exists_alike offsets first
    obtain ⟨ps, qs, hps, hqs, rest⟩ := ih
    exact ⟨p :: ps, q :: qs, .cons hp hps, .cons hq hqs, .cons first rest⟩

/-- Parameters that agree one by one have the same names. -/
theorem map_name_of_alike (h : List.Forall₂ Alike ps qs) :
    ps.map Parameter.name = qs.map Parameter.name := by
  induction h with
  | nil => rfl
  | cons first _ ih => rw [List.map_cons, List.map_cons, first.name, ih]

/-- **Parameters that agree one by one have the same defaults**, for every
name. -/
theorem defaultOf?_of_alike (h : List.Forall₂ Alike ps qs) (name : QName) :
    defaultOf? ps name = defaultOf? qs name := by
  unfold defaultOf?
  induction h with
  | nil => rfl
  | @cons p q ps qs first _ ih =>
    rw [List.find?_cons, List.find?_cons, first.name]
    split
    · rw [Option.map_some, Option.map_some, first.defaultValue]
    · exact ih

end Parameter

theorem Segments.literals_ne_nil (s : Segments) : s.literals ≠ [] := by
  cases s with
  | done literal => exact List.cons_ne_nil literal []
  | placeholder literal token rest =>
    exact List.cons_ne_nil literal rest.literals

/-- **Texts are woven between literals**: the tokens do not matter. -/
theorem Segments.weave_congr {s s' : Segments}
    (h : s.literals = s'.literals) (texts : List String) :
    s.weave texts = s'.weave texts := by
  induction s generalizing s' texts with
  | done literal =>
    cases s' with
    | done literal' => exact (List.cons.inj h).1
    | placeholder literal' token' rest' =>
      exact absurd (List.cons.inj h).2.symm rest'.literals_ne_nil
  | placeholder literal token rest ih =>
    cases s' with
    | done literal' => exact absurd (List.cons.inj h).2 rest.literals_ne_nil
    | placeholder literal' token' rest' =>
      obtain ⟨rfl, later⟩ := List.cons.inj h
      cases texts with
      | nil => rw [weave, weave, ih later]
      | cons text texts => rw [weave, weave, ih later]

/-! ## Templates with the same names -/

namespace UrlTemplate

variable {t u : UrlTemplate}

/-- The tokens of a template, in order. -/
def tokens (t : UrlTemplate) : List String :=
  (Segments.ofString t.template).tokens

/-- **Templates that differ in their tokens only**: they have the same literals
and offsets. -/
structure SameFrame (t u : UrlTemplate) : Prop where
  /-- The literals are the same. -/
  literals : (Segments.ofString t.template).literals
    = (Segments.ofString u.template).literals
  /-- Counting starts from the same numbers. -/
  offsets : t.offsets = u.offsets

/-- **The placeholders of two templates stand for the same names**, one by one,
under the bindings of each. -/
def SameNames (t u : UrlTemplate) : Prop :=
  List.Forall₂ (Token.SameName t.bindings u.bindings) t.tokens u.tokens

/-- **Registrations that keep a template's own parameters.** -/
def KeptBy (t : UrlTemplate) (steps : List Registration) : Prop :=
  ∀ step ∈ steps, step.template.same t → step = .declared t

/-- **Templates that can be put in the place of each other.** Both can be
registered, whatever else is, and then have parameters that agree one by one.
From then on, as long as they keep these, all values give the same URI for
both, or the same text that is refused for the same reason. -/
def Interchangeable (t u : UrlTemplate) : Prop :=
  ∀ start start' : Registry, ∃ r s,
    start.register t = .ok r ∧ start'.register u = .ok s ∧
    ∀ later later', t.KeptBy later → u.KeptBy later' →
      List.Forall₂ Parameter.Alike ((r.run later).parameters t)
        ((s.run later').parameters u) ∧
      ∀ values,
        (∃ uri, (r.run later).build t values = .ok uri ∧
          (s.run later').build u values = .ok uri) ∨
        ∃ candidate defect,
          (r.run later).build t values
            = .error (.malformedRequestUri candidate defect) ∧
          (s.run later').build u values
            = .error (.malformedRequestUri candidate defect)

end UrlTemplate

namespace Registry

variable {r s : Registry} {t u : UrlTemplate}

/-- A name has the same text under parameters that agree. -/
theorem textOf_of_alike
    (alike : List.Forall₂ Parameter.Alike (r.parameters t) (s.parameters u))
    {values : Values} {name : QName} {text : String}
    (h : r.textOf t values name = .ok text) :
    s.textOf u values name = .ok text := by
  rw [textOf_eq_ok] at h ⊢
  rw [← Parameter.defaultOf?_of_alike alike name]
  exact h

/-- **Templates that are held with parameters of their own that agree** give
the same text, which is then checked. -/
theorem exists_candidate (own : r.HoldsOwn t) (own' : s.HoldsOwn u)
    (frame : t.SameFrame u)
    (alike : List.Forall₂ Parameter.Alike (r.parameters t) (s.parameters u))
    (values : Values) :
    ∃ candidate, r.build t values = Uri.request candidate ∧
      s.build u values = Uri.request candidate := by
  obtain ⟨texts, found, built⟩ := own.exists_texts values
  have found' : ((s.parameters u).map Parameter.name).mapM
      (s.textOf u values) = .ok texts := by
    rw [← Parameter.map_name_of_alike alike, Except.mapM_eq_ok_iff]
    exact (Except.mapM_eq_ok_iff.mp found).imp
      fun name text => textOf_of_alike alike
  have built' := build_of_texts (Parameter.resolve_of_ofTemplate own') found'
  refine ⟨_, built, ?_⟩
  rw [built', Segments.weave_congr frame.literals]

end Registry

namespace UrlTemplate

variable {t u : UrlTemplate}

/-- **Templates with the same names are interchangeable.** -/
theorem SameNames.interchangeable (h : t.SameNames u)
    (frame : t.SameFrame u) : t.Interchangeable u := by
  intro start start'
  obtain ⟨ps, qs, hps, hqs, alike⟩ :=
    Parameter.exists_forall₂_alike t.offsets h
  have declared : t.parameters = .ok ps := hps
  have declared' : u.parameters = .ok qs := by
    rw [frame.offsets] at hqs
    exact hqs
  refine ⟨_, _, start.register_of_ok declared, start'.register_of_ok declared',
    fun later later' kept kept' => ?_⟩
  have own := (start.holdsOwn_insert declared).run kept
  have own' := (start'.holdsOwn_insert declared').run kept'
  have held := Except.ok.inj (declared.symm.trans own)
  have held' := Except.ok.inj (declared'.symm.trans own')
  rw [held, held'] at alike
  refine ⟨alike, fun values => ?_⟩
  obtain ⟨candidate, built, built'⟩ :=
    Registry.exists_candidate own own' frame alike values
  rw [built, built']
  rcases Uri.request_ok_or_malformed candidate with
    ⟨uri, accepted⟩ | ⟨text, defect, refused⟩
  · exact .inl ⟨uri, accepted, accepted⟩
  · exact .inr ⟨text, defect, refused, refused⟩

/-- **Another spelling of all tokens** stands for the same names. -/
theorem sameNames_of_respells
    (h : List.Forall₂ (Token.Respells t.bindings u.bindings)
      t.tokens u.tokens) : t.SameNames u :=
  h.imp fun _ _ => Token.Respells.sameName

/-- **A template with other labels** is another spelling of it, if all its
labels are bound. -/
theorem sameNames_of_relabelled {ρ : String → String}
    (injective : Function.Injective ρ) (bound : t.parameters.isOk = true)
    (bindings : u.bindings = t.bindings.relabel ρ)
    (h : List.Forall₂ (Token.Relabelled ρ) t.tokens u.tokens) :
    t.SameNames u := by
  obtain ⟨ps, hps⟩ := Except.exists_of_isOk bound
  have resolved := Parameter.resolve_of_ofTemplate hps
  apply sameNames_of_respells
  rw [bindings]
  have each := (List.forall₂_and_left _ _).mpr ⟨fun _ mem => mem, h⟩
  refine each.imp fun token token' ⟨mem, relabelled⟩ => ?_
  obtain ⟨name, -, named⟩ := Except.exists_eq_ok_of_mem resolved mem
  exact relabelled.respells injective named

/-- **Another default namespace** changes nothing about the parameters, nor
about what is built from them. -/
theorem build_eq_of_agreeOnLabels (template : u.template = t.template)
    (offsets : u.offsets = t.offsets)
    (agree : u.bindings.AgreeOnLabels t.bindings) :
    u.parameters = t.parameters ∧
      ∀ r s : Registry, r.parameters t = s.parameters u →
        ∀ values, r.build t values = s.build u values := by
  have resolve : Token.resolve u.bindings = Token.resolve t.bindings :=
    funext (Token.resolve_congr agree)
  constructor
  · unfold parameters Parameter.ofTemplate Parameter.describe
    rw [resolve, template, offsets]
  · intro r s held values
    unfold Registry.build Registry.expand Registry.substitute
    rw [resolve, template, held]

/-- **Only resolved names matter, not how they are written.** Two templates
that differ in their tokens only are interchangeable if these stand for the
same names: if their labels are replaced, with those of the bindings; and if
each of them is any other spelling of its name, such as one with a label for an
OpenSearch name. And bindings that differ in the default namespace lead to the
same parameters, or the same failure, and from the same parameters to the same
URI, or the same failure. -/
theorem interchangeable_of_spelling (t u : UrlTemplate) :
    (t.SameFrame u → t.SameNames u → t.Interchangeable u) ∧
    (t.SameFrame u → ∀ ρ : String → String, Function.Injective ρ →
      t.parameters.isOk = true → u.bindings = t.bindings.relabel ρ →
      List.Forall₂ (Token.Relabelled ρ) t.tokens u.tokens →
        t.Interchangeable u) ∧
    (t.SameFrame u →
      List.Forall₂ (Token.Respells t.bindings u.bindings) t.tokens u.tokens →
        t.Interchangeable u) ∧
    (u.template = t.template → u.offsets = t.offsets →
      u.bindings.AgreeOnLabels t.bindings →
        u.parameters = t.parameters ∧
        ∀ r s : Registry, r.parameters t = s.parameters u →
          ∀ values, r.build t values = s.build u values) := by
  refine ⟨fun frame names => names.interchangeable frame, ?_, ?_, ?_⟩
  · intro frame ρ injective bound bindings relabelled
    exact (sameNames_of_relabelled injective bound bindings
      relabelled).interchangeable frame
  · intro frame respells
    exact (sameNames_of_respells respells).interchangeable frame
  · exact build_eq_of_agreeOnLabels

/-- The sample, and the same with another label for the box, a label for the
search terms and a default namespace: both are registered, and the same is
built from them. -/
theorem interchangeable_of_spelling_sample :
    let place : UrlTemplate :=
      { serial := 2
        template := "http://example.org/?q={os:searchTerms}&b={place:box}&c={ count? }&d={count}"
        bindings := [(some "place", Vocabulary.openSearchGeo),
          (some "os", Vocabulary.openSearch), (none, Vocabulary.atom)] }
    Registry.sampleTemplate.SameFrame place ∧
    Registry.sampleTemplate.SameNames place ∧
    ∃ r s, Registry.register {} Registry.sampleTemplate = .ok r ∧
      r.register place = .ok s ∧
      ∀ values,
        (∃ uri, r.build Registry.sampleTemplate values = .ok uri ∧
          s.build place values = .ok uri) ∨
        ∃ candidate defect,
          r.build Registry.sampleTemplate values
            = .error (.malformedRequestUri candidate defect) ∧
          s.build place values
            = .error (.malformedRequestUri candidate defect) := by
  intro place
  have frame : Registry.sampleTemplate.SameFrame place :=
    ⟨by decide +kernel, rfl⟩
  have tokens : Registry.sampleTemplate.tokens
      = ["searchTerms", " g:box? ", "count", "count"] := by decide +kernel
  have tokens' : place.tokens
      = ["os:searchTerms", "place:box", " count? ", "count"] := by
    decide +kernel
  have names : Registry.sampleTemplate.SameNames place := by
    unfold SameNames
    rw [tokens, tokens']
    refine .cons (Token.Respells.sameName ?_)
      (.cons (Token.Respells.sameName ?_)
        (.cons (Token.Respells.sameName ?_)
          (.cons (Token.Respells.sameName ?_) .nil)))
    · exact @Token.Respells.labelled _ _ _ _ "os".toList (by decide +kernel)
        (by decide +kernel) (by decide +kernel)
    · exact @Token.Respells.relabelled _ _ _ _ Vocabulary.openSearchGeo
        "g".toList "place".toList "box".toList (by decide +kernel)
        (by decide +kernel) (by decide +kernel) (by decide +kernel)
    · exact .plain (by decide +kernel) (by decide +kernel)
    · exact .plain (by decide +kernel) (by decide +kernel)
  have other := (interchangeable_of_spelling _ place).1 frame names
  obtain ⟨r, -, registered, -, -⟩ := other {} {}
  obtain ⟨r', s, registered', placed, same⟩ := other {} r
  obtain rfl := Except.ok.inj (registered.symm.trans registered')
  exact ⟨frame, names, r, s, registered, placed,
    (same [] [] nofun nofun).2⟩

end UrlTemplate

end GeoCatalogue
