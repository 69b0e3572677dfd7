import GeoCatalogue.Proofs.Command.Endings
import GeoCatalogue.Proofs.Template.Relevance
import GeoCatalogue.Proofs.Template.Spelling

/-!
# Requests that the command builds

The command builds one request URI for every template that fits its options. Here is
what the options mean, without the functions that read them: the name that a token
stands for among the labels of a template and the standard ones (`Names`), the value that
the parameters of the command line give for a name (`LastValue`), the templates that are
reached and those that are selected (`HasType`, `Declares`), and the four ways in which a
template fails (`Fails`).

`runIn_buildUri` says that the command answers in these terms: **template by template,
in document order, or not at all.**
-/
namespace GeoCatalogue.Command

/-! ## Options -/

/-- **What an option asks for**: an option that is empty asks for nothing. -/
def asked (option : Option String) : Option String :=
  option.filter (· ≠ "")

/-- **The namespace that a label stands for** next to a template: that of its own
bindings, or the standard one if they do not have the label. -/
def namespaceFor? (t : UrlTemplate) (label : String) : Option String :=
  ((t.bindings.get? (some label)).or
    (Vocabulary.standardBindings.get? (some label))).filter (· ≠ "")

/-- **A token names a parameter** next to a template. -/
inductive Names (t : UrlTemplate) (token : String) : QName → Prop where
  /-- Without a label, it is an OpenSearch name. -/
  | plain (unlabelled : Token.splitLabel (Token.name token) = none) :
      Names t token ⟨Vocabulary.openSearch, String.ofList (Token.name token)⟩
  /-- With a label, it is a name in the namespace that the label stands for. -/
  | labelled {label localName : List Char} {namespaceName : String}
      (split : Token.splitLabel (Token.name token) = some (label, localName))
      (stands : namespaceFor? t (String.ofList label) = some namespaceName) :
      Names t token ⟨namespaceName, String.ofList localName⟩

/-- **A parameter of the command line** is a name and a value, divided by the first
equals sign. -/
structure Divides (param name value : String) : Prop where
  /-- The name, the sign and the value. -/
  text : param = name ++ "=" ++ value
  /-- There is no such sign in the name. -/
  first : '=' ∉ name.toList

/-- **The value of a name** is that of the last parameter that names it, with whatever
label. -/
inductive LastValue (t : UrlTemplate) (params : List String) (q : QName) (value : String) :
    Prop where
  /-- The parameter, and those before and after it. -/
  | intro {before after : List String} {param name : String}
      (split : params = before ++ param :: after) (divides : Divides param name value)
      (names : Names t name q)
      (last : ∀ later ∈ after, ∀ other text, Divides later other text → ¬Names t other q)

/-- **The values that parameters give** next to a template. -/
structure Reads (t : UrlTemplate) (params : List String) (values : Values) : Prop where
  /-- All of them are divided, and their names are resolved. -/
  all : ∀ param ∈ params, ∃ name value q, Divides param name value ∧ Names t name q
  /-- The last one of a name counts. -/
  last : ∀ q value, values.get? q = some value ↔ LastValue t params q value

/-! ## Templates -/

/-- A template has the media type that is asked for, if one is. -/
def HasType (mediaType : Option String) (t : UrlTemplate) : Prop :=
  ∀ text ∈ asked mediaType, t.plainMediaType = text

/-- A template declares the parameter that is asked for, if one is. -/
def Declares (d : Description) (withParam : Option String) (t : UrlTemplate) : Prop :=
  ∀ token ∈ asked withParam, ∃ p ∈ d.registry.parameters t, Names t token p.name

/-- **A template fails.** -/
inductive Fails (d : Description) (params : List String) (withParam : Option String)
    (t : UrlTemplate) : Prop where
  /-- The name of the parameter that is asked for is not resolved. -/
  | unresolved {token : String} (asks : token ∈ asked withParam)
      (nameless : ∀ q, ¬Names t token q)
  /-- A parameter has no equals sign. -/
  | undivided {param : String} (declares : Declares d withParam t) (mem : param ∈ params)
      (undivided : '=' ∉ param.toList)
  /-- The name of a parameter is not resolved. -/
  | unnamed {param name value : String} (declares : Declares d withParam t)
      (mem : param ∈ params) (divides : Divides param name value)
      (nameless : ∀ q, ¬Names t name q)
  /-- The URI cannot be built. -/
  | unbuilt {values : Values} {cause : Failure} (declares : Declares d withParam t)
      (reads : Reads t params values) (failed : d.registry.build t values = .error cause)

/-- **A template answers with a URI**: this is built from the values of the
parameters. -/
structure Answers (d : Description) (params : List String) (t : UrlTemplate) (uri : String) :
    Prop where
  /-- The parameters have values. -/
  readable : ∃ values, Reads t params values
  /-- They give the URI. -/
  built : ∀ values, Reads t params values → d.registry.build t values = .ok uri

section Names

variable {t : UrlTemplate} {token : String} {q : QName}

/-- The namespace of a label is found in the bindings for names. -/
@[simp] theorem namespaceOf?_bindingsFor (t : UrlTemplate) (label : String) :
    (bindingsFor t).namespaceOf? label = namespaceFor? t label := by
  unfold Bindings.namespaceOf? bindingsFor namespaceFor?
  rw [Table.get?_append]

/-- **A token names what it is resolved to.** -/
theorem resolve_eq_ok_iff :
    Token.resolve (bindingsFor t) token = .ok q ↔ Names t token q := by
  constructor
  · intro h
    unfold Token.resolve at h
    dsimp only at h
    split at h
    · next unlabelled =>
      rw [← Except.ok.inj h]
      exact .plain unlabelled
    · next label localName split =>
      rw [namespaceOf?_bindingsFor] at h
      split at h
      · next namespaceName stands =>
        rw [← Except.ok.inj h]
        exact .labelled split stands
      · cases h
  · intro h
    cases h with
    | plain unlabelled => exact Token.resolve_of_plain _ unlabelled
    | labelled split stands =>
      rw [Token.resolve_of_label split, namespaceOf?_bindingsFor, stands]

/-- A token that is not resolved names nothing. -/
theorem exists_resolve_eq_error_iff :
    (∃ cause, Token.resolve (bindingsFor t) token = .error cause) ↔
      ∀ q, ¬Names t token q := by
  constructor
  · rintro ⟨cause, failed⟩ q names
    rw [resolve_eq_ok_iff.mpr names] at failed
    cases failed
  · intro nameless
    cases resolved : Token.resolve (bindingsFor t) token with
    | error cause => exact ⟨cause, rfl⟩
    | ok q => exact absurd (resolve_eq_ok_iff.mp resolved) (nameless q)

instance : Decidable (Names t token q) :=
  decidable_of_iff ((Token.resolve (bindingsFor t) token).toOption = some q) <| by
    rw [← resolve_eq_ok_iff]
    cases Token.resolve (bindingsFor t) token with
    | ok r =>
      exact ⟨fun h => congrArg _ (Option.some.inj h),
        fun h => congrArg _ (Except.ok.inj h)⟩
    | error cause => exact ⟨nofun, nofun⟩

end Names

/-! ## Parameters -/

section Parameters

variable {t : UrlTemplate} {params : List String} {param name value : String} {q : QName}

theorem exists_divides (h : '=' ∈ param.toList) : ∃ name value, Divides param name value := by
  obtain ⟨name, value, same, first⟩ := List.eq_append_cons_of_mem h
  refine ⟨String.ofList name, String.ofList value, ?_, ?_⟩
  · rw [← String.toList_inj, same]
    simp
  · rwa [String.toList_ofList]

/-- A text is divided at its first equals sign. -/
theorem Divides.nameAndValue_eq (h : Divides param name value) :
    nameAndValue param.toList = (name.toList, some value) := by
  have before : ∀ c ∈ name.toList, (c != '=') = true := fun c mem =>
    bne_iff_ne.mpr fun same => h.first (same ▸ mem)
  have chars : param.toList = name.toList ++ '=' :: value.toList := by
    rw [h.text]
    simp
  unfold nameAndValue
  rw [chars, List.dropWhile_append_of_pos before, List.takeWhile_append_of_pos before,
    List.dropWhile_cons_of_neg (by simp), List.takeWhile_cons_of_neg (by simp)]
  simp

/-- A text without an equals sign is not divided. -/
theorem nameAndValue_of_notMem {cs : List Char} (h : '=' ∉ cs) :
    nameAndValue cs = (cs, none) := by
  have all : cs.dropWhile (· != '=') = [] := by
    rw [List.dropWhile_eq_nil_iff]
    exact fun c mem => bne_iff_ne.mpr fun same => h (same ▸ mem)
  unfold nameAndValue
  rw [all]

theorem valueOf_of_notMem (t : UrlTemplate) (h : '=' ∉ param.toList) :
    valueOf t param = .error (.parameterText param) := by
  unfold valueOf
  rw [nameAndValue_of_notMem h]

/-- A parameter that is divided has its value for what its name is resolved to. -/
theorem Divides.valueOf_eq (h : Divides param name value) (t : UrlTemplate) :
    valueOf t param = Fault.lift (Token.resolve (bindingsFor t) name) >>= fun q =>
      .ok (q, value) := by
  unfold valueOf
  rw [h.nameAndValue_eq]
  dsimp only
  rw [String.ofList_toList]

/-- **A parameter has a value** for what its name is resolved to. -/
theorem valueOf_eq_ok_iff :
    valueOf t param = .ok (q, value) ↔ ∃ name, Divides param name value ∧ Names t name q := by
  constructor
  · intro h
    by_cases sign : '=' ∈ param.toList
    · obtain ⟨name, value', divides⟩ := exists_divides sign
      rw [divides.valueOf_eq] at h
      obtain ⟨q', resolved, same⟩ := Except.bind_eq_ok.mp h
      obtain ⟨rfl, rfl⟩ := Prod.mk.inj (Except.ok.inj same)
      exact ⟨name, divides, resolve_eq_ok_iff.mp (Fault.lift_eq_ok.mp resolved)⟩
    · rw [valueOf_of_notMem t sign] at h
      cases h
  · rintro ⟨name, divides, names⟩
    rw [divides.valueOf_eq, resolve_eq_ok_iff.mpr names]
    rfl

/-- **The values of parameters are read off them**, if all of them have one. -/
theorem reads_of_mapM {values : Values} (h : params.mapM (valueOf t) = .ok values) :
    Reads t params values where
  all param mem := by
    obtain ⟨⟨q, value⟩, -, found⟩ := Except.exists_eq_ok_of_mem h mem
    obtain ⟨name, divides, names⟩ := valueOf_eq_ok_iff.mp found
    exact ⟨name, value, q, divides, names⟩
  last q value := by
    have each := Except.mapM_eq_ok_iff.mp h
    rw [Table.get?_eq_some_iff]
    constructor
    · rintro ⟨before, after, rfl, others⟩
      obtain ⟨front, param, back, split, found, later⟩ := each.exists_of_split_right
      obtain ⟨name, divides, names⟩ := valueOf_eq_ok_iff.mp found
      refine .intro split divides names fun other mem name' text divides' names' => ?_
      obtain ⟨entry, hentry, found'⟩ := later.exists_of_mem_left mem
      rw [valueOf_eq_ok_iff.mpr ⟨name', divides', names'⟩] at found'
      exact others entry hentry (congrArg Prod.fst (Except.ok.inj found')).symm
    · rintro ⟨rfl, divides, names, last⟩
      obtain ⟨before, entry, after, rfl, found, later⟩ := each.exists_of_split_left
      obtain rfl := Except.ok.inj
        (found.symm.trans (valueOf_eq_ok_iff.mpr ⟨_, divides, names⟩))
      refine ⟨before, after, rfl, ?_⟩
      rintro ⟨q', value'⟩ hentry rfl
      obtain ⟨other, mem, found'⟩ := later.exists_of_mem_right hentry
      obtain ⟨name', divides', names'⟩ := valueOf_eq_ok_iff.mp found'
      exact last other mem name' value' divides' names'

/-- Values that are read off parameters are found there. -/
theorem Reads.exists_mapM {values : Values} (h : Reads t params values) :
    ∃ found, params.mapM (valueOf t) = .ok found := by
  refine Except.exists_mapM_eq_ok fun param mem => ?_
  obtain ⟨name, value, q, divides, names⟩ := h.all param mem
  exact ⟨(q, value), valueOf_eq_ok_iff.mpr ⟨name, divides, names⟩⟩

/-- **The values are determined by the parameters.** -/
theorem Reads.get?_eq {values others : Values} (h : Reads t params values)
    (h' : Reads t params others) (q : QName) : values.get? q = others.get? q := by
  apply Option.ext
  intro value
  rw [h.last, h'.last]

end Parameters

/-! ## Selection -/

section Selection

variable {d : Description} {params : List String} {withParam mediaType : Option String}
  {t : UrlTemplate}

instance : Decidable (HasType mediaType t) := by
  unfold HasType
  infer_instance

instance : Decidable (Declares d withParam t) := by
  unfold Declares
  infer_instance

theorem asked_of_ne {text : String} (h : text ≠ "") : asked (some text) = some text :=
  Option.filter_eq_some_iff.mpr ⟨rfl, decide_eq_true h⟩

/-- The templates of a media type, in order. -/
theorem templatesFor_eq (d : Description) (mediaType : Option String) :
    templatesFor d mediaType = d.templates.filter fun t => HasType mediaType t := by
  have all (h : asked mediaType = none) :
      d.templates.filter (fun t => HasType mediaType t) = d.templates := by
    refine List.filter_eq_self.mpr fun t _ => decide_eq_true ?_
    unfold HasType
    rw [h]
    exact nofun
  unfold templatesFor
  split
  · exact (all rfl).symm
  · exact (all rfl).symm
  · next text nonempty =>
    refine List.filter_congr fun t _ => ?_
    rw [Bool.eq_iff_iff, beq_iff_eq, decide_eq_true_iff, HasType, asked_of_ne nonempty]
    simp

/-- Whether a template is selected is asked of what the option asks for. -/
theorem isSelected_eq (d : Description) (withParam : Option String) (t : UrlTemplate) :
    isSelected d withParam t = match asked withParam with
      | none => .ok true
      | some token =>
        Token.resolve (bindingsFor t) token >>= fun q => .ok (d.registry.declares q t) := by
  unfold isSelected
  split
  · rfl
  · rfl
  · next token nonempty => rw [asked_of_ne nonempty]

/-- **A template is selected** exactly if it declares what is asked for. -/
theorem isSelected_eq_ok_true_iff :
    isSelected d withParam t = .ok true ↔ Declares d withParam t := by
  rw [isSelected_eq]
  unfold Declares
  cases asked withParam with
  | none => exact ⟨fun _ => nofun, fun _ => rfl⟩
  | some token =>
    simp only [Option.mem_some_iff, forall_eq']
    rw [Except.bind_eq_ok]
    constructor
    · rintro ⟨q, resolved, declared⟩
      obtain ⟨p, mem, same⟩ := List.any_eq_true.mp (Except.ok.inj declared)
      exact ⟨p, mem, beq_iff_eq.mp same ▸ resolve_eq_ok_iff.mp resolved⟩
    · rintro ⟨p, mem, names⟩
      exact ⟨p.name, resolve_eq_ok_iff.mpr names,
        congrArg _ (List.any_eq_true.mpr ⟨p, mem, beq_self_eq_true p.name⟩)⟩

/-- **Selection fails** exactly if what is asked for is not resolved. -/
theorem isSelected_eq_error_iff :
    (∃ cause, isSelected d withParam t = .error cause) ↔
      ∃ token ∈ asked withParam, ∀ q, ¬Names t token q := by
  rw [isSelected_eq]
  cases asked withParam with
  | none =>
    constructor
    · rintro ⟨cause, no⟩
      cases no
    · rintro ⟨token, no, -⟩
      cases no
  | some token =>
    simp only [Option.mem_some_iff, exists_eq_left', ← exists_resolve_eq_error_iff]
    refine exists_congr fun cause => ?_
    rw [Except.bind_eq_error]
    constructor
    · rintro (failed | ⟨q, -, no⟩)
      · exact failed
      · cases no
    · exact .inl

end Selection

/-! ## URIs -/

section Uris

variable {d : Description} {params : List String} {withParam : Option String}
  {t : UrlTemplate}

/-- The URI of a template that declares what is asked for. -/
theorem uriOf_of_declares (h : Declares d withParam t) :
    uriOf d params withParam t = builtFrom d params t >>= fun uri => .ok (some uri) := by
  unfold uriOf
  rw [isSelected_eq_ok_true_iff.mpr h]
  rfl

/-- **A template that fails gives no URI.** -/
theorem Fails.exists_uriOf (h : Fails d params withParam t) :
    ∃ fault, uriOf d params withParam t = .error fault := by
  have unbuilt (declares : Declares d withParam t)
      (failed : ∃ fault, builtFrom d params t = .error fault) :
      ∃ fault, uriOf d params withParam t = .error fault := by
    obtain ⟨fault, failed⟩ := failed
    rw [uriOf_of_declares declares, failed]
    exact ⟨fault, rfl⟩
  have unread {param : String} (declares : Declares d withParam t) (mem : param ∈ params)
      (failed : ∃ fault, valueOf t param = .error fault) :
      ∃ fault, uriOf d params withParam t = .error fault := by
    obtain ⟨fault, failed⟩ := failed
    obtain ⟨first, failed⟩ := Except.exists_mapM_eq_error mem failed
    exact unbuilt declares ⟨first, Except.bind_eq_error.mpr (.inl failed)⟩
  cases h with
  | unresolved asks nameless =>
    obtain ⟨cause, failed⟩ := isSelected_eq_error_iff.mpr ⟨_, asks, nameless⟩
    unfold uriOf
    rw [failed]
    exact ⟨_, rfl⟩
  | undivided declares mem undivided =>
    exact unread declares mem ⟨_, valueOf_of_notMem t undivided⟩
  | unnamed declares mem divides nameless =>
    obtain ⟨cause, failed⟩ := exists_resolve_eq_error_iff.mpr nameless
    refine unread declares mem ⟨.failure cause, ?_⟩
    rw [divides.valueOf_eq, failed]
    rfl
  | @unbuilt values cause declares reads failed =>
    obtain ⟨found, hfound⟩ := reads.exists_mapM
    rw [d.registry.build_congr (reads.get?_eq (reads_of_mapM hfound))] at failed
    refine unbuilt declares ⟨.failure cause, ?_⟩
    unfold builtFrom
    rw [hfound, Except.ok_bind, failed]
    rfl

/-- A template that neither fails nor declares what is asked for gives no URI. -/
theorem uriOf_of_not_declares (h : ¬Fails d params withParam t)
    (undeclared : ¬Declares d withParam t) : uriOf d params withParam t = .ok none := by
  unfold uriOf
  cases selected : isSelected d withParam t with
  | error cause =>
    obtain ⟨token, asks, nameless⟩ := isSelected_eq_error_iff.mp ⟨cause, selected⟩
    exact absurd (.unresolved asks nameless) h
  | ok found =>
    cases found with
    | true => exact absurd (isSelected_eq_ok_true_iff.mp selected) undeclared
    | false => rfl

/-- **A template that does not fail and declares what is asked for answers with a
URI.** -/
theorem exists_answers (h : ¬Fails d params withParam t) (declares : Declares d withParam t) :
    ∃ uri, uriOf d params withParam t = .ok (some uri) ∧ Answers d params t uri := by
  have readable : ∀ param ∈ params, ∃ entry, valueOf t param = .ok entry := by
    intro param mem
    by_cases sign : '=' ∈ param.toList
    · obtain ⟨name, value, divides⟩ := exists_divides sign
      by_contra unread
      refine h (.unnamed declares mem divides fun q names => unread ⟨(q, value), ?_⟩)
      exact valueOf_eq_ok_iff.mpr ⟨name, divides, names⟩
    · exact absurd (.undivided declares mem sign) h
  obtain ⟨values, found⟩ := Except.exists_mapM_eq_ok readable
  have reads := reads_of_mapM found
  rw [uriOf_of_declares declares]
  unfold builtFrom
  rw [found, Except.ok_bind]
  cases built : d.registry.build t values with
  | error cause => exact absurd (.unbuilt declares reads built) h
  | ok uri =>
    refine ⟨uri, rfl, ⟨values, reads⟩, fun others others_read => ?_⟩
    rw [← built]
    exact d.registry.build_congr (others_read.get?_eq reads)

/-- **The URIs are given template by template, or not at all.** One of the templates that are
reached may fail, and then no URI is given, also of those in front of it; or none of them
fails, and then there is one URI for each that declares what is asked for, in their order. -/
theorem urisIn_cases (d : Description) (params : List String)
    (withParam mediaType : Option String) :
    let reached := d.templates.filter fun t => HasType mediaType t
    ((∃ t ∈ reached, Fails d params withParam t) ∧
      ∃ fault, urisIn d params withParam mediaType = .error fault) ∨
    ((∀ t ∈ reached, ¬Fails d params withParam t) ∧
      ∃ uris, urisIn d params withParam mediaType = .ok uris ∧
        List.Forall₂ (Answers d params)
          (reached.filter fun t => Declares d withParam t) uris) := by
  intro reached
  unfold urisIn
  rw [templatesFor_eq]
  by_cases failing : ∃ t ∈ reached, Fails d params withParam t
  · obtain ⟨t, mem, fails⟩ := failing
    obtain ⟨fault, failed⟩ := fails.exists_uriOf
    exact .inl ⟨⟨t, mem, fails⟩, Except.exists_filterMapM_eq_error mem failed⟩
  · have going : ∀ t ∈ reached, ¬Fails d params withParam t := fun t mem fails =>
      failing ⟨t, mem, fails⟩
    refine .inr ⟨going, Except.exists_filterMapM_eq_ok (fun t mem undeclared => ?_)
      fun t mem declared => ?_⟩
    · exact uriOf_of_not_declares (going t mem) (of_decide_eq_false undeclared)
    · exact exists_answers (going t mem) (of_decide_eq_true declared)

end Uris

/-! ## Invocations -/

/-- The templates of a description are those of its document, in order. -/
theorem templates_of_descriptionIn {s : Surroundings} {settings : Settings} {source : String}
    {d : Description} (h : descriptionIn s settings source = .ok d) :
    d.templates = Description.templatesOf 0 d.root := by
  obtain ⟨root, -, h⟩ := Except.bind_eq_ok.mp h
  have described := Fault.lift_eq_ok.mp h
  obtain ⟨registry, -, same⟩ := Except.bind_eq_ok.mp described
  obtain rfl := Except.ok.inj same
  exact (Description.templates_of_ofElement described).2

/-- **The command builds the URIs of a description template by template.** Let settings be
on offer, and let a text lead to a description. The templates are looked at in document
order. Those are reached whose media type, without its parameters, is the one that is
asked for; and those of them are selected that declare the parameter that is asked for –
by a name that is resolved next to that very template, as the names of values are. An
option that is not given or is empty asks for nothing. If no template that is reached
fails, then the command exits with zero and prints for each template that is selected, in
that order, the URI that is built from the values of the parameters; and if one of them
fails, it prints nothing at all and exits with one. -/
theorem runIn_buildUri {session : Session} {settings : Settings}
    (offered : Offers session settings) (s : Surroundings) {source : String} {d : Description}
    (described : descriptionIn s settings source = .ok d) (verbosity : Nat) (jsonLogs : Bool)
    (params : List String) (withParam mediaType : Option String) :
    let report := runIn s session
      ⟨verbosity, jsonLogs, .buildUri source params withParam mediaType⟩
    let reached := (Description.templatesOf 0 d.root).filter fun t => HasType mediaType t
    ((∃ t ∈ reached, Fails d params withParam t) ∧
      report.status = .ok 1 ∧ report.output = "") ∨
    ((∀ t ∈ reached, ¬Fails d params withParam t) ∧
      ∃ uris, List.Forall₂ (Answers d params)
          (reached.filter fun t => Declares d withParam t) uris ∧
        report.status = .ok 0 ∧
        report.output = (Json.list (uris.map .text)).indented ++ "\n") := by
  intro report reached
  obtain ⟨logbook, after, told⟩ := exists_runIn_eq offered s
    ⟨verbosity, jsonLogs, .buildUri source params withParam mediaType⟩
  have outcome : (Task.buildUri source params withParam mediaType).outcome s settings
      = urisIn d params withParam mediaType >>= fun uris => .ok (.list (uris.map .text)) := by
    unfold Task.outcome
    dsimp only
    rw [described]
    rfl
  have same : reached = d.templates.filter fun t => HasType mediaType t := by
    rw [templates_of_descriptionIn described]
  rw [same, show report = _ from told, outcome]
  rcases urisIn_cases d params withParam mediaType with
    ⟨failing, fault, failed⟩ | ⟨going, uris, given, answers⟩
  · have value := (tellsFaults_urisIn d params withParam mediaType fault failed).isValueFault
    rw [failed]
    refine .inl ⟨failing, ?_⟩
    unfold Report.ofOutcome
    dsimp only [Except.error_bind]
    rw [if_pos value]
    exact ⟨rfl, rfl⟩
  · rw [given]
    exact .inr ⟨going, uris, answers, rfl, rfl⟩

/-- **What the command builds from the description with nested labels.** -/
theorem exists_nested (params : List String) (withParam : Option String)
    (uris : List String)
    (built : (Fault.lift (Description.ofElement 0 0 Description.nestedDocument) >>= fun d =>
      urisIn d params withParam none).toOption = some uris) :
    ∃ d, Description.ofElement 0 0 Description.nestedDocument = .ok d ∧
      descriptionIn nowhere Settings.packaged Description.nestedText = .ok d ∧
      (runIn nowhere {} ⟨0, false, .buildUri Description.nestedText params withParam none⟩).status
        = .ok 0 ∧
      (runIn nowhere {} ⟨0, false, .buildUri Description.nestedText params withParam none⟩).output
        = (Json.list (uris.map .text)).indented ++ "\n" := by
  have read : descriptionIn nowhere Settings.packaged Description.nestedText
      = Fault.lift (Description.ofElement 0 0 Description.nestedDocument) := by
    unfold descriptionIn
    rw [documentIn_nestedText]
    rfl
  obtain ⟨logbook, after, told⟩ := exists_runIn_eq offers_packaged nowhere
    ⟨0, false, .buildUri Description.nestedText params withParam none⟩
  rw [told]
  unfold Task.outcome
  dsimp only
  rw [read]
  cases described : Description.ofElement 0 0 Description.nestedDocument with
  | error cause =>
    rw [described] at built
    cases built
  | ok d =>
    have lifted : Fault.lift (.ok d) = .ok d := rfl
    rw [described, lifted, Except.ok_bind] at built
    cases found : urisIn d params withParam none with
    | error fault =>
      rw [found] at built
      cases built
    | ok uris' =>
      rw [found] at built
      obtain rfl := Option.some.inj built
      refine ⟨d, rfl, rfl, ?_⟩
      rw [lifted, Except.ok_bind, found]
      exact ⟨rfl, rfl⟩

/-- The last value of a name counts, next to templates that bind its label to different
namespaces. -/
theorem runIn_buildUri_nested :
    let report := runIn nowhere {} ⟨0, false,
      .buildUri Description.nestedText ["g:box=x", "g:box=http://h/"] (some "g:box") none⟩
    ∃ d, descriptionIn nowhere Settings.packaged Description.nestedText = .ok d ∧
      Offers {} Settings.packaged ∧
      ∃ uris, List.Forall₂ (Answers d ["g:box=x", "g:box=http://h/"])
          (((Description.templatesOf 0 d.root).filter fun t => HasType none t).filter
            fun t => Declares d (some "g:box") t) uris ∧
        report.status = .ok 0 ∧
        report.output = (Json.list (uris.map .text)).indented ++ "\n" := by
  obtain ⟨d, -, described, built⟩ := exists_nested ["g:box=x", "g:box=http://h/"]
    (some "g:box") ["http://h/", "http://h/", "http://h/"] (by decide +kernel)
  refine ⟨d, described, offers_packaged, ?_⟩
  rcases runIn_buildUri offers_packaged nowhere described 0 false
      ["g:box=x", "g:box=http://h/"] (some "g:box") none with ⟨-, failed, -⟩ | ⟨-, answers⟩
  · cases built.1.symm.trans failed
  · exact answers

/-- **An empty option asks for nothing**: no template declares what it names, and still
URIs are built from all of them. -/
theorem run_emptyOption :
    let report := runIn nowhere {} ⟨0, false,
      .buildUri Description.nestedText ["g:box=http://h/"] (some "") none⟩
    Invocation.ofArguments
        ["build-uri", Description.nestedText, "--param", "g:box=http://h/", "--with-param", ""]
      = .ok ⟨0, false,
          .buildUri Description.nestedText ["g:box=http://h/"] (some "") none⟩ ∧
    ∃ d, descriptionIn nowhere Settings.packaged Description.nestedText = .ok d ∧
      (∀ t ∈ d.templates, Names t "" ⟨Vocabulary.openSearch, ""⟩ ∧
        ¬∃ p ∈ d.registry.parameters t, Names t "" p.name) ∧
      report.status = .ok 0 ∧
      report.output
        = (Json.list (["http://h/", "http://h/", "http://h/"].map .text)).indented ++ "\n" := by
  obtain ⟨d, read, described, built⟩ := exists_nested ["g:box=http://h/"] (some "")
    ["http://h/", "http://h/", "http://h/"] (by decide +kernel)
  have undeclared : ((Description.ofElement 0 0 Description.nestedDocument).map fun d =>
      d.templates.all fun t => (d.registry.parameters t).all fun p =>
        !decide (Names t "" p.name)).toOption = some true := by
    decide +kernel
  rw [read] at undeclared
  have none := List.all_eq_true.mp (Option.some.inj undeclared)
  refine ⟨by decide +kernel, d, described,
    fun t mem => ⟨.plain (by decide +kernel), ?_⟩, built⟩
  rintro ⟨p, hp, names⟩
  have unnamed := List.all_eq_true.mp (none t mem) p hp
  rw [decide_eq_true names] at unnamed
  cases unnamed

end GeoCatalogue.Command
