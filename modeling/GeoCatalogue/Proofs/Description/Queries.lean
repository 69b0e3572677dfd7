import GeoCatalogue.Description
import GeoCatalogue.Proofs.Template.Spelling
import GeoCatalogue.Proofs.Text.Trim

/-!
# Values from the queries of a description

Parameters are named in two places. A placeholder names one by a token that is
resolved under the bindings of its template; a query names one by an attribute,
whose name the document has resolved already. An attribute without a namespace
is read as if it were a token, and as no label is left in it, it stands for an
OpenSearch name wherever the query is (`Description.parameterName_of_isLocal`).

So the two kinds of names meet: building from the values of a query puts the
last attribute that names a parameter in its place, or else the default of the
parameter (`Description.Chosen`), whatever labels are used on either side
(`Description.build_of_queryValues`).
-/
namespace GeoCatalogue

open Text Xml

/-- **A name that is no token of another name**: it has no label, no marker and
no blanks around it. -/
structure Token.IsLocal (localName : String) : Prop where
  /-- There is no colon in it. -/
  unlabelled : ':' ∉ localName.toList
  /-- There is no question mark in it. -/
  unmarked : '?' ∉ localName.toList
  /-- It does not start with a blank. -/
  front : ∀ c ∈ localName.toList.head?, isBlank c = false
  /-- It does not end with a blank. -/
  back : ∀ c ∈ localName.toList.getLast?, isBlank c = false

/-- Whether a name is local is found out from its characters. -/
theorem Token.isLocal_iff {localName : String} :
    (':' ∉ localName.toList ∧ '?' ∉ localName.toList ∧
      localName.toList.head?.all (!isBlank ·) = true ∧
      localName.toList.getLast?.all (!isBlank ·) = true) ↔ IsLocal localName := by
  simp only [Option.all_eq_true, Bool.not_eq_true']
  constructor
  · rintro ⟨unlabelled, unmarked, front, back⟩
    exact ⟨unlabelled, unmarked, front, back⟩
  · rintro ⟨unlabelled, unmarked, front, back⟩
    exact ⟨unlabelled, unmarked, front, back⟩

instance (localName : String) : Decidable (Token.IsLocal localName) :=
  decidable_of_decidable_of_iff Token.isLocal_iff

/-- **A local name is the name of an OpenSearch parameter**, under all
bindings. -/
theorem Token.IsLocal.resolve {localName : String} (h : IsLocal localName)
    (b : Bindings) :
    Token.resolve b localName = .ok ⟨Vocabulary.openSearch, localName⟩ := by
  have trimmed : trimList isBlank localName.toList = localName.toList :=
    trimList_eq_self h.front h.back
  have named : Token.name localName = localName.toList := by
    unfold Token.name
    dsimp only
    rw [trimmed, if_neg]
    intro last
    exact h.unmarked (List.mem_of_getLast? (beq_iff_eq.mp last))
  have plain : splitLabel (Token.name localName) = none := by
    rw [named]
    exact splitLabel_eq_none h.unlabelled
  rw [resolve_of_plain b plain, named, String.ofList_toList]

namespace Description

/-! ## What attributes name -/

/-- **The name of an attribute as that of a parameter**: without a namespace it
is an OpenSearch name. -/
def expandedName (attr : QName) : QName :=
  if attr.namespaceName = "" then ⟨Vocabulary.openSearch, attr.localName⟩
  else attr

/-- **An attribute names a parameter**: it is none of those that say something of
the query itself, and its name is that of the parameter. -/
def Names (attr name : QName) : Prop :=
  isMetadata attr = false ∧ expandedName attr = name

/-- **The text that attributes put in the place of a parameter.** -/
inductive Chosen (attributes : List (QName × String)) (p : Parameter) :
    String → Prop where
  /-- The value of the last attribute that names it. -/
  | given {before after : List (QName × String)} {attr : QName} {value : String}
      (split : attributes = before ++ (attr, value) :: after)
      (names : Names attr p.name)
      (last : ∀ later ∈ after, ¬ Names later.1 p.name) :
      Chosen attributes p value
  /-- The default, if no attribute names it. -/
  | preset (missing : ∀ entry ∈ attributes, ¬ Names entry.1 p.name) :
      Chosen attributes p p.defaultValue.asText

/-- **The values that attributes give.** -/
def valuesOf (attributes : List (QName × String)) : Values :=
  (attributes.filter (!isMetadata ·.1)).map fun (attr, value) =>
    (expandedName attr, value)

variable {attributes : List (QName × String)} {query : Element}

/-- An attribute with a local name is that of a parameter, wherever it is
written. -/
theorem parameterName_of_isLocal {attr : QName}
    (h : Token.IsLocal attr.localName) (scope : Bindings) :
    parameterName scope attr = .ok (expandedName attr) := by
  unfold parameterName expandedName
  split
  · exact h.resolve scope
  · rfl

/-- **A query gives the values of its attributes**, wherever it is written. -/
theorem queryValues_of_isLocal
    (h : ∀ entry ∈ query.tag.attributes, Token.IsLocal entry.1.localName) :
    queryValues query = .ok (valuesOf query.tag.attributes) := by
  unfold queryValues valuesOf
  rw [Except.mapM_eq_ok_iff, List.forall₂_map_right_iff, List.forall₂_same]
  rintro ⟨attr, value⟩ hentry
  have plain := h _ (List.mem_filter.mp hentry).1
  dsimp only
  rw [parameterName_of_isLocal plain, Except.ok_bind]

/-- The value of a name is that of the last attribute that names it. -/
theorem get?_valuesOf (attributes : List (QName × String)) (name : QName) :
    (valuesOf attributes).get? name
      = (attributes.reverse.find? fun entry =>
          !isMetadata entry.1 && name == expandedName entry.1).map Prod.snd :=
  Table.get?_map_filter _ _ attributes name

/-- The test for an attribute that names a parameter. -/
theorem names_iff {attr name : QName} :
    Names attr name ↔
      (!isMetadata attr && name == expandedName attr) = true := by
  rw [Names, Bool.and_eq_true, Bool.not_eq_true', beq_iff_eq, eq_comm (a := name)]

/-- A name with a value is named by an attribute, and by none after it. -/
theorem exists_of_get?_valuesOf {name : QName} {value : String}
    (h : (valuesOf attributes).get? name = some value) :
    ∃ before attr after, attributes = before ++ (attr, value) :: after ∧
      Names attr name ∧ ∀ later ∈ after, ¬ Names later.1 name := by
  rw [get?_valuesOf, Option.map_eq_some_iff] at h
  obtain ⟨⟨attr, _⟩, found, rfl⟩ := h
  obtain ⟨names, behind, front, split, others⟩ :=
    List.find?_eq_some_iff_append.mp found
  refine ⟨front.reverse, attr, behind.reverse, ?_, names_iff.mpr names,
    fun later hlater => ?_⟩
  · rw [← List.reverse_inj, split]
    simp
  · rw [names_iff, Bool.not_eq_true, ← Bool.not_eq_true']
    exact others later (List.mem_reverse.mp hlater)

/-- A name without a value is named by no attribute. -/
theorem not_names_of_get?_valuesOf {name : QName}
    (h : (valuesOf attributes).get? name = none) :
    ∀ entry ∈ attributes, ¬ Names entry.1 name := by
  rw [get?_valuesOf, Option.map_eq_none_iff, List.find?_eq_none] at h
  intro entry hentry
  rw [names_iff]
  exact h entry (List.mem_reverse.mpr hentry)

/-! ## Building from a query -/

/-- **A parameter is replaced by what the attributes put in its place.** -/
theorem chosen_of_textOf {r : Registry} {t : UrlTemplate}
    (own : r.HoldsOwn t) {p : Parameter} (h : p ∈ r.parameters t)
    {text : String}
    (found : r.textOf t (valuesOf attributes) p.name = .ok text) :
    Chosen attributes p text := by
  rcases Registry.textOf_eq_ok.mp found with supplied | ⟨missing, preset⟩
  · obtain ⟨before, attr, after, split, names, last⟩ :=
      exists_of_get?_valuesOf supplied
    exact .given split names last
  · rw [own.defaultOf? h] at preset
    obtain rfl := Option.some.inj preset
    exact .preset (not_names_of_get?_valuesOf missing)

/-- **Queries and placeholders name parameters the same way.** Let a template be
registered with its own parameters, and let any registrations follow that keep
these; and let the attributes of a query have local names. Then the query gives
values. Building from them puts a text in the place of every placeholder – its
parameter has the name that it is resolved to – and this is the value of the last
attribute that names the parameter, or else the default of the parameter. The
labels are irrelevant: the same attributes give the same values wherever the
query is written, and from them the same is built, or fails, for another
template whose placeholders stand for the same names. -/
theorem build_of_queryValues {start r : Registry} {t : UrlTemplate}
    (registered : start.register t = .ok r) {later : List Registration}
    (kept : t.KeptBy later)
    (plain : ∀ entry ∈ query.tag.attributes, Token.IsLocal entry.1.localName) :
    ∃ values texts, queryValues query = .ok values ∧
      t.tokens.mapM (Token.resolve t.bindings)
        = .ok (((r.run later).parameters t).map Parameter.name) ∧
      List.Forall₂ (Chosen query.tag.attributes) ((r.run later).parameters t)
        texts ∧
      (r.run later).build t values = Uri.request
        (String.ofList ((Segments.ofString t.template).weave texts)) ∧
      (∀ query' : Element, query'.tag.attributes = query.tag.attributes →
        queryValues query' = .ok values) ∧
      ∀ u : UrlTemplate, t.SameFrame u → t.SameNames u →
        ∀ (start' s : Registry) (later' : List Registration),
          start'.register u = .ok s → u.KeptBy later' →
            (s.run later').build u values = (r.run later).build t values := by
  have own := (Registry.holdsOwn_register registered).run kept
  obtain ⟨texts, found, built⟩ :=
    own.exists_texts (valuesOf query.tag.attributes)
  refine ⟨valuesOf query.tag.attributes, texts, queryValues_of_isLocal plain,
    Parameter.resolve_of_ofTemplate own, ?_, built, ?_, ?_⟩
  · have each := Except.mapM_eq_ok_iff.mp found
    rw [List.forall₂_map_left_iff] at each
    have each := (List.forall₂_and_left _ _).mpr ⟨fun _ mem => mem, each⟩
    exact each.imp fun p text ⟨mem, found⟩ => chosen_of_textOf own mem found
  · intro query' same
    rw [← same] at plain ⊢
    exact queryValues_of_isLocal plain
  · intro u frame names start' s later' registered' kept'
    have own' := (Registry.holdsOwn_register registered').run kept'
    obtain ⟨ps, qs, hps, hqs, alike⟩ :=
      Parameter.exists_forall₂_alike t.offsets names
    have held := Except.ok.inj (own.symm.trans hps)
    rw [frame.offsets] at hqs
    have held' := Except.ok.inj (own'.symm.trans hqs)
    rw [← held, ← held'] at alike
    obtain ⟨candidate, built, built'⟩ :=
      Registry.exists_candidate own own' frame alike
        (valuesOf query.tag.attributes)
    rw [built, built']

/-- A query with a role, with two values for the search terms, the second under
a label, and with a box under a label that the sample template does not use. -/
def sampleQuery : Element where
  tag :=
    { name := named "Query"
      attributes := [(⟨"", "role"⟩, "example"),
        (⟨"", "searchTerms"⟩, "hay"),
        (⟨Vocabulary.openSearch, "searchTerms"⟩, "needle"),
        (⟨Vocabulary.openSearchGeo, "box"⟩, "1,2,3,4")]
      scope := [(some "place", Vocabulary.openSearchGeo),
        (some "os", Vocabulary.openSearch)] }
  inside := .nothing

/-- The second value of the search terms and the box are put in their places, and
the default in the others. -/
theorem build_of_queryValues_sample :
    ∃ r values texts, Registry.register {} Registry.sampleTemplate = .ok r ∧
      queryValues sampleQuery = .ok values ∧
      List.Forall₂ (Chosen sampleQuery.tag.attributes)
        (r.parameters Registry.sampleTemplate) texts ∧
      r.build Registry.sampleTemplate values
        = .ok "http://example.org/?q=needle&b=1,2,3,4&c=&d=" := by
  have plain : ∀ entry ∈ sampleQuery.tag.attributes,
      Token.IsLocal entry.1.localName := by decide
  have built : ((do
      let r ← Registry.register {} Registry.sampleTemplate
      let values ← queryValues sampleQuery
      r.build Registry.sampleTemplate values) : Except Failure String).toOption
      = some "http://example.org/?q=needle&b=1,2,3,4&c=&d=" := by
    decide +kernel
  have described : (Registry.register {} Registry.sampleTemplate).isOk = true := by
    decide +kernel
  obtain ⟨r, registered⟩ := Except.exists_of_isOk described
  obtain ⟨values, texts, given, -, chosen, -, -, -⟩ :=
    build_of_queryValues registered (List.forall_mem_nil _) plain
  refine ⟨r, values, texts, registered, given, chosen, ?_⟩
  rw [registered, Except.ok_bind, given, Except.ok_bind] at built
  cases result : r.build Registry.sampleTemplate values with
  | ok uri =>
    rw [result] at built
    exact congrArg Except.ok (Option.some.inj built)
  | error failure =>
    rw [result] at built
    cases built

end Description

end GeoCatalogue
