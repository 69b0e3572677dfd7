import GeoCatalogue.Proofs.Name.Tables
import GeoCatalogue.Proofs.Number.Integers
import GeoCatalogue.Proofs.Template.Substitution
import Mathlib.Logic.Function.Basic

/-!
# The numbers that counting starts from

A description says where counting starts, of the results and of the pages. Each of the
two offsets is the default of one OpenSearch parameter, its **counter**, and this shows
that it reaches that parameter and nothing else (`UrlTemplate.offset_flows`).

What an offset means is said by what is written there, and not by how it is read
(`Counter.Means`). It cannot fail: a text that is no integer counts as one, with a
warning for every placeholder that would have used it. Two readings of a template under
different offsets can then be compared. Types and defaults are looked up by name, and
only the name of the counter leads to its offset; so the parameters differ in the
defaults of that name alone, and what is built differs at its placeholders alone.
-/
namespace GeoCatalogue

open Text Journal

/-! ## Texts of names -/

/-- **The texts in the places of names**: the value that is given for a name, or else its
default. -/
def Registry.presets (offsets : Offsets) (values : Values) (name : QName) : String :=
  (values.get? name).getD (Parameter.typeAndDefault offsets name).2.asText

/-- **A template with parameters of its own is built from its names**, with the value or
the default of each. -/
theorem Registry.HoldsOwn.build_eq {r : Registry} {t : UrlTemplate} (own : r.HoldsOwn t)
    (values : Values) :
    r.build t values = Uri.request (String.ofList ((Segments.ofString t.template).weave
      (((r.parameters t).map Parameter.name).map (presets t.offsets values)))) := by
  refine build_of_texts (Parameter.resolve_of_ofTemplate own) ?_
  rw [Except.mapM_eq_ok_iff, List.forall₂_map_right_iff, List.forall₂_same]
  intro name mem
  obtain ⟨p, declared, rfl⟩ := List.mem_map.mp mem
  obtain ⟨token, -, described⟩ := Except.exists_eq_ok_of_mem_result own declared
  rw [textOf_eq_ok, own.defaultOf? declared, Parameter.defaultValue_of_describe described]
  unfold presets
  cases values.get? p.name with
  | some value => exact .inl rfl
  | none => exact .inr ⟨rfl, rfl⟩

/-! ## Counters -/

/-- **What is counted**, starting from a number that a description gives. -/
inductive Counter where
  /-- The results. -/
  | index
  /-- The pages of results. -/
  | page
deriving DecidableEq

namespace Counter

/-- The parameter that says where to start. -/
def name : Counter → QName
  | index => ⟨Vocabulary.openSearch, "startIndex"⟩
  | page => ⟨Vocabulary.openSearch, "startPage"⟩

/-- The attribute that the first number is written in. -/
def source : Counter → String
  | index => "indexOffset"
  | page => "pageOffset"

/-- The text that the first number is written as. -/
def offset : Counter → Offsets → Option String
  | index, offsets => offsets.index
  | page, offsets => offsets.page

/-- Offsets with another text for one of the counters. -/
def withOffset : Counter → Option String → Offsets → Offsets
  | index, text, offsets => { offsets with index := text }
  | page, text, offsets => { offsets with page := text }

/-- The record of an offset that is not used. -/
def notice (c : Counter) (offsets : Offsets) : Record :=
  Parameter.offsetNotice c.source (c.offset offsets)

/-- **A parameter with another first number**, if it is that of the counter. -/
def preset (c : Counter) (n : ℤ) (p : Parameter) : Parameter :=
  if p.name = c.name then { p with defaultValue := .number n } else p

/-- **What an offset means**: the number that counting starts from, and whether there is
something in the text that is not used. -/
inductive Means : Option String → ℤ → Bool → Prop where
  /-- Nothing is written. -/
  | absent : Means none 1 false
  /-- Nothing but blanks is written. -/
  | blank {text : String} (empty : ∀ c ∈ text.toList, isBlank c = true) :
      Means (some text) 1 false
  /-- An integer is written. -/
  | integer {text : String} {n : ℤ} (writes : Number.Writes text n) :
      Means (some text) n false
  /-- Something else is written. -/
  | other {text : String} {c : Char} (visible : c ∈ text.toList)
      (nonblank : isBlank c = false) (unwritten : ∀ n, ¬ Number.Writes text n) :
      Means (some text) 1 true

variable {text : Option String} {n : ℤ} {ignored : Bool}

theorem not_writes_of_blank {text : String} (empty : ∀ c ∈ text.toList, isBlank c = true)
    (n : ℤ) : ¬ Number.Writes text n := by
  rintro ⟨whole, -, -, -, written, -⟩
  obtain ⟨c, rest, v, vs, rfl, rfl, digit⟩ := written.exists_head
  have mem : c ∈ text.toList := by
    rw [whole]
    simp
  exact absurd (empty c mem) (Bool.eq_false_iff.mp (Number.isBlank_of_digitValue? digit))

/-- **Offsets are read as they are meant**; so every text means one number. -/
theorem means_iff : Means text n ignored ↔
    Parameter.offsetValue text = n ∧ Parameter.offsetIsInvalid text = ignored := by
  have unread {text : String} (unwritten : ∀ n, ¬ Number.Writes text n) :
      Parameter.readOffset? text = none :=
    Option.eq_none_iff_forall_ne_some.mpr fun n read =>
      unwritten n (Number.readInteger?_trim_eq_some_iff.mp read)
  unfold Parameter.offsetValue Parameter.offsetIsInvalid
  constructor
  · rintro (_ | empty | writes | ⟨visible, nonblank, unwritten⟩)
    · exact ⟨rfl, rfl⟩
    · rw [Option.bind_some, Option.any_some, unread (not_writes_of_blank empty),
        show isBlankText _ = true from List.all_eq_true.mpr empty]
      exact ⟨rfl, rfl⟩
    · rw [Option.bind_some, Option.any_some,
        show Parameter.readOffset? _ = some n from
          Number.readInteger?_trim_eq_some_iff.mpr writes]
      exact ⟨rfl, Bool.and_false _⟩
    · rw [Option.bind_some, Option.any_some, unread unwritten,
        show isBlankText _ = false from
          List.all_eq_false.mpr ⟨_, visible, Bool.eq_false_iff.mp nonblank⟩]
      exact ⟨rfl, rfl⟩
  · rintro ⟨rfl, rfl⟩
    cases text with
    | none => exact .absent
    | some text =>
      rw [Option.bind_some, Option.any_some]
      cases read : Parameter.readOffset? text with
      | some n =>
        rw [Option.isNone_some, Bool.and_false]
        exact .integer (Number.readInteger?_trim_eq_some_iff.mp read)
      | none =>
        have unwritten (n : ℤ) (writes : Number.Writes text n) : False :=
          Option.some_ne_none n
            ((Number.readInteger?_trim_eq_some_iff.mpr writes).symm.trans read)
        rw [Option.isNone_none, Bool.and_true]
        cases empty : isBlankText text with
        | true => exact .blank (List.all_eq_true.mp empty)
        | false =>
          obtain ⟨c, visible, nonblank⟩ := List.all_eq_false.mp empty
          exact .other visible (Bool.eq_false_iff.mpr nonblank) unwritten

/-- **What an offset means is written with decimal digits**, whatever it is written with
itself. -/
theorem Means.writes_toString (h : Means text n ignored) : Number.Writes (toString n) n := by
  have one : Number.Writes (toString (1 : ℤ)) 1 := Number.writes_toString (by decide)
  cases h with
  | absent => exact one
  | blank => exact one
  | integer writes => exact writes.toString
  | other => exact one

/-! ## Looking an offset up -/

variable {offsets : Offsets} {c d : Counter} {name : QName}

@[simp] theorem offset_withOffset (c : Counter) (text : Option String) (offsets : Offsets) :
    c.offset (c.withOffset text offsets) = text := by
  cases c <;> rfl

/-- **A counter starts from its own offset.** -/
theorem typeAndDefault_name (c : Counter) (offsets : Offsets) :
    Parameter.typeAndDefault offsets c.name
      = (.integer, .number (Parameter.offsetValue (c.offset offsets))) := by
  cases c with
  | index => rfl
  | page => rfl

/-- **No other name has anything to do with it.** -/
theorem typeAndDefault_withOffset (other : name ≠ c.name) (text : Option String)
    (offsets : Offsets) :
    Parameter.typeAndDefault (c.withOffset text offsets) name
      = Parameter.typeAndDefault offsets name := by
  obtain ⟨namespaceName, localName⟩ := name
  unfold Parameter.typeAndDefault
  dsimp only
  split
  · next openSearch =>
    subst openSearch
    -- the rows of the table are the same but for that of the counter
    have row (before after : Table String (ValueType × DefaultValue)) (value value') :
        Table.get? (before ++ (c.name.localName, value) :: after) localName
          = Table.get? (before ++ (c.name.localName, value') :: after) localName := by
      have key : localName ≠ c.name.localName := by
        rintro rfl
        exact other (by cases c <;> rfl)
      rw [Table.get?_append_cons key, Table.get?_append_cons key]
    refine congrArg (Option.getD · _) ?_
    cases c with
    | index => exact row [_] [_, _, _, _] _ _
    | page => exact row [_, _] [_, _, _] _ _
  · rfl

/-- **The texts in the places of names** under another offset: only that of the counter
is another one. -/
theorem presets_withOffset (c : Counter) (text : Option String) (offsets : Offsets)
    (values : Values) :
    Registry.presets (c.withOffset text offsets) values
      = Function.update (Registry.presets offsets values) c.name
          ((values.get? c.name).getD (toString (Parameter.offsetValue text))) := by
  funext name
  unfold Registry.presets
  by_cases same : name = c.name
  · subst same
    rw [Function.update_self, typeAndDefault_name, offset_withOffset]
    rfl
  · rw [Function.update_of_ne same, typeAndDefault_withOffset same]

/-- **An offset is looked up for the name of its counter.** -/
@[simp] theorem offsetOf?_name (c : Counter) (offsets : Offsets) :
    Parameter.offsetOf? offsets c.name = some (c.source, c.offset offsets) := by
  cases c with
  | index => rfl
  | page => rfl

/-- An offset is looked up for no other name. -/
theorem exists_of_offsetOf? {looked : String × Option String}
    (h : Parameter.offsetOf? offsets name = some looked) :
    ∃ c : Counter, name = c.name ∧ looked = (c.source, c.offset offsets) := by
  unfold Parameter.offsetOf? at h
  split at h
  · next same => exact ⟨.index, same, (Option.some.inj h).symm⟩
  · split at h
    · next same => exact ⟨.page, same, (Option.some.inj h).symm⟩
    · cases h

theorem name_injective (h : c.name = d.name) : c = d := by
  cases c <;> cases d
  · rfl
  · exact absurd h (by decide)
  · exact absurd h (by decide)
  · rfl

/-- **Records tell the counters apart.** -/
theorem notice_injective (h : c.notice offsets = d.notice offsets) : c = d := by
  have sources (text text' : Option String) :
      Parameter.offsetNotice index.source text ≠ Parameter.offsetNotice page.source text' := by
    intro same
    have messages := congrArg (fun record => record.message.toList) same
    simp [Parameter.offsetNotice, source] at messages
  cases c <;> cases d
  · rfl
  · exact absurd h (sources _ _)
  · exact absurd h.symm (sources _ _)
  · rfl

/-! ## Describing tokens -/

variable {b : Bindings} {token : String}

/-- **A parameter of a counter** is a whole number, the first one by default. -/
theorem number_of_describe {p : Parameter} (h : Parameter.describe b offsets token = .ok p)
    (same : p.name = c.name) :
    p.valueType = .integer ∧
      p.defaultValue = .number (Parameter.offsetValue (c.offset offsets)) := by
  have described := Parameter.describe_of_resolve offsets (Parameter.resolve_of_describe h)
  rw [h, same, typeAndDefault_name] at described
  obtain rfl := Except.ok.inj described
  exact ⟨rfl, rfl⟩

/-- **A token is described as under any other offset**, but for the default of the
counter. -/
theorem describe_withOffset (c : Counter) (text : Option String) (b : Bindings)
    (offsets : Offsets) (token : String) :
    Parameter.describe b (c.withOffset text offsets) token
      = (Parameter.describe b offsets token).map (c.preset (Parameter.offsetValue text)) := by
  cases named : Token.resolve b token with
  | error failure =>
    simp only [Parameter.describe, named, Except.error_bind]
    rfl
  | ok name =>
    rw [Parameter.describe_of_resolve _ named, Parameter.describe_of_resolve _ named]
    refine congrArg Except.ok ?_
    unfold preset
    split
    · next same =>
      obtain rfl : name = c.name := same
      rw [typeAndDefault_name, typeAndDefault_name]
      cases c <;> rfl
    · next other => rw [typeAndDefault_withOffset other]

/-- **The records of a token** are those of the counter that it stands for, if the
offset is not used. -/
theorem notices_of_resolve (offsets : Offsets) (c : Counter)
    (h : Token.resolve b token = .ok name) :
    (∀ record ∈ Parameter.notices b offsets token,
      ∃ d : Counter, record = d.notice offsets) ∧
    (Parameter.notices b offsets token).count (c.notice offsets)
      = if Parameter.offsetIsInvalid (c.offset offsets) then [name].count c.name else 0 := by
  unfold Parameter.notices
  rw [h]
  dsimp only
  cases looked : Parameter.offsetOf? offsets name with
  | none =>
    have other : name ≠ c.name := by
      rintro rfl
      exact absurd ((offsetOf?_name c offsets).symm.trans looked) (Option.some_ne_none _)
    refine ⟨nofun, ?_⟩
    rw [List.count_singleton, beq_eq_false_iff_ne.mpr other]
    simp
  | some source =>
    obtain ⟨d, rfl, rfl⟩ := exists_of_offsetOf? looked
    dsimp only
    refine ⟨fun record mem => ?_, ?_⟩
    · split at mem
      · exact ⟨d, List.mem_singleton.mp mem⟩
      · cases mem
    · rw [List.count_singleton]
      by_cases same : d = c
      · subst same
        rw [beq_self_eq_true, if_pos rfl]
        split
        · exact List.count_singleton_self
        · rfl
      · have names : d.name ≠ c.name := mt name_injective same
        have notices : d.notice offsets ≠ c.notice offsets := mt notice_injective same
        rw [beq_eq_false_iff_ne.mpr names, if_neg Bool.false_ne_true, ite_self]
        split
        · show List.count (c.notice offsets) [d.notice offsets] = 0
          rw [List.count_singleton, beq_eq_false_iff_ne.mpr notices]
          rfl
        · rfl

/-- **The records of some tokens** are those of the counters that they stand for, one
for each that would have used an offset that is not used. -/
theorem flatMap_notices (offsets : Offsets) (c : Counter) {tokens : List String}
    {names : List QName} (h : tokens.mapM (Token.resolve b) = .ok names) :
    (∀ record ∈ tokens.flatMap (Parameter.notices b offsets),
      ∃ d : Counter, record = d.notice offsets) ∧
    (tokens.flatMap (Parameter.notices b offsets)).count (c.notice offsets)
      = if Parameter.offsetIsInvalid (c.offset offsets) then names.count c.name else 0 := by
  induction Except.mapM_eq_ok_iff.mp h with
  | nil =>
    refine ⟨nofun, ?_⟩
    split <;> rfl
  | @cons token name tokens names named rest ih =>
    obtain ⟨first, counted⟩ := notices_of_resolve offsets c named
    obtain ⟨later, counted'⟩ := ih (Except.mapM_eq_ok_iff.mpr rest)
    rw [List.flatMap_cons]
    refine ⟨List.forall_mem_append.mpr ⟨first, later⟩, ?_⟩
    rw [List.count_append, counted, counted']
    split
    · rw [← List.count_append, List.singleton_append]
    · rfl

end Counter

/-! ## Templates -/

/-- **The tokens that are described have names**: all tokens, if the template has
parameters. -/
theorem Parameter.exists_names (t : UrlTemplate) :
    ∃ names, (describedTokens t.bindings t.template).mapM (Token.resolve t.bindings)
        = .ok names ∧
      ∀ ps, t.parameters = .ok ps → ps.map Parameter.name = names := by
  have named : ∀ token ∈ describedTokens t.bindings t.template,
      ∃ name, Token.resolve t.bindings token = .ok name := fun token mem =>
    Except.exists_of_isOk (List.all_eq_true.mp List.all_takeWhile token mem)
  obtain ⟨names, resolved⟩ := Except.exists_mapM_eq_ok named
  refine ⟨names, resolved, fun ps described => ?_⟩
  have whole := resolve_of_ofTemplate described
  have all : describedTokens t.bindings t.template
      = (Segments.ofString t.template).tokens := by
    refine List.takeWhile_eq_self_iff.mpr fun token mem => ?_
    obtain ⟨name, -, found⟩ := Except.exists_eq_ok_of_mem whole mem
    rw [found]
    rfl
  rw [← all, resolved] at whole
  exact (Except.ok.inj whole).symm

namespace UrlTemplate

/-- A template with another text for the offset of a counter. -/
def withOffset (t : UrlTemplate) (c : Counter) (text : Option String) : UrlTemplate :=
  { t with offsets := c.withOffset text t.offsets }

/-- **The parameters of a template under another offset** are the same, but for the
default of the counter. -/
theorem parameters_withOffset (t : UrlTemplate) (c : Counter) (text : Option String) :
    (t.withOffset c text).parameters
      = t.parameters.map (List.map (c.preset (Parameter.offsetValue text))) := by
  unfold parameters Parameter.ofTemplate
  rw [← Except.mapM_map]
  exact congrArg (List.mapM · _) (funext (c.describe_withOffset text t.bindings t.offsets))

/-- **An offset reaches its own parameter, and nothing else.** Let an offset of a template
mean a number.

Every parameter of its counter is then a whole number with this number as its default;
and the decimal digits that it is printed with, and that building puts in the place of
the counter if no value is given for it, are written for the same number.

For each placeholder of the counter that is described there is a warning if the offset is
not used, and none if it is; and all records are such warnings of one of the counters.

With any other offset there are the same parameters, and as many failures: only the
defaults of the counter change, to the number that the other offset means. And for all
values there are texts for the other names, so that whatever the offset means, the
template is built by putting them in, and in the place of the counter its value or else
the number. -/
theorem offset_flows (t : UrlTemplate) (c : Counter) {n : ℤ} {ignored : Bool}
    (means : Counter.Means (c.offset t.offsets) n ignored) :
    ∃ names,
      (Parameter.describedTokens t.bindings t.template).mapM (Token.resolve t.bindings)
        = .ok names ∧
      (∀ ps, t.parameters = .ok ps → ps.map Parameter.name = names ∧
        ∀ p ∈ ps, p.name = c.name → p.valueType = .integer ∧ p.defaultValue = .number n) ∧
      Number.Writes (toString n) n ∧
      t.notices.count (c.notice t.offsets) = (if ignored then names.count c.name else 0) ∧
      (∀ record ∈ t.notices, ∃ d : Counter, record = d.notice t.offsets) ∧
      (∀ text m unused, Counter.Means text m unused →
        (t.withOffset c text).parameters = t.parameters.map (List.map (c.preset m))) ∧
      ∀ values : Values, ∃ f : QName → String,
        ∀ text m unused, Counter.Means text m unused →
          ∀ r : Registry, r.HoldsOwn (t.withOffset c text) →
            r.build (t.withOffset c text) values
              = Uri.request (String.ofList ((Segments.ofString t.template).weave
                  (names.map (Function.update f c.name
                    ((values.get? c.name).getD (toString m)))))) := by
  obtain ⟨names, resolved, whole⟩ := Parameter.exists_names t
  obtain ⟨rfl, rfl⟩ := Counter.means_iff.mp means
  have records := Counter.flatMap_notices t.offsets c resolved
  refine ⟨names, resolved, fun ps described => ⟨whole ps described, ?_⟩,
    means.writes_toString, records.2, records.1, ?_,
    fun values => ⟨Registry.presets t.offsets values, ?_⟩⟩
  · intro p mem same
    obtain ⟨token, -, found⟩ := Except.exists_eq_ok_of_mem_result described mem
    exact Counter.number_of_describe found same
  · rintro text m unused other
    obtain ⟨rfl, rfl⟩ := Counter.means_iff.mp other
    exact t.parameters_withOffset c text
  · rintro text m unused other r own
    obtain ⟨rfl, rfl⟩ := Counter.means_iff.mp other
    obtain ⟨names', resolved', whole'⟩ := Parameter.exists_names (t.withOffset c text)
    obtain rfl : names' = names := Except.ok.inj (resolved'.symm.trans resolved)
    rw [own.build_eq values, whole' _ own]
    exact congrArg
      (fun place => Uri.request (String.ofList ((Segments.ofString t.template).weave
        (names'.map place))))
      (Counter.presets_withOffset c text t.offsets values)

/-- A template with both counters, one of them twice, a name of another namespace that
looks like a counter, and offsets of which only the second is an integer. -/
def countedTemplate : UrlTemplate where
  serial := 1
  template := "http://example.org/?a={startIndex?}&b={g:startIndex}&c={startPage}&d={startIndex}"
  offsets := ⟨some "first", some "\t-1_0 "⟩
  bindings := [(some "g", Vocabulary.openSearchGeo)]

/-- The results are counted from one, with a warning for each of their two placeholders;
the pages are counted from ten below zero, and this is what is built if nothing is given
for them. -/
theorem offset_flows_countedTemplate :
    let results := Counter.index
    let pages := Counter.page
    Counter.Means (results.offset countedTemplate.offsets) 1 true ∧
      Counter.Means (pages.offset countedTemplate.offsets) (-10) false ∧
      countedTemplate.notices.count (results.notice countedTemplate.offsets) = 2 ∧
      countedTemplate.notices.count (pages.notice countedTemplate.offsets) = 0 ∧
      ∃ ps, countedTemplate.parameters = .ok ps ∧
        (∀ p ∈ ps, p.name = pages.name → p.defaultValue = .number (-10)) ∧
        ∃ r : Registry, r.HoldsOwn countedTemplate ∧
          ∃ texts : QName → String, texts pages.name = "-10" ∧
            r.build countedTemplate [] = Uri.request (String.ofList
              ((Segments.ofString countedTemplate.template).weave
                ((ps.map Parameter.name).map texts))) := by
  intro results pages
  have first : Counter.Means (results.offset countedTemplate.offsets) 1 true :=
    Counter.means_iff.mpr (by decide +kernel)
  have second : Counter.Means (pages.offset countedTemplate.offsets) (-10) false :=
    Counter.means_iff.mpr (by decide +kernel)
  have described : countedTemplate.parameters.isOk = true := by decide +kernel
  obtain ⟨ps, hps⟩ := Except.exists_of_isOk described
  have held : (Registry.insert {} countedTemplate ps).HoldsOwn countedTemplate :=
    Registry.holdsOwn_insert {} hps
  obtain ⟨names, resolved, -, -, warned, -⟩ := offset_flows countedTemplate results first
  obtain ⟨others, -, own, -, used, -, -, built⟩ := offset_flows countedTemplate pages second
  obtain ⟨same, started⟩ := own ps hps
  obtain ⟨texts, built⟩ := built []
  have twice : ((Parameter.describedTokens countedTemplate.bindings
      countedTemplate.template).mapM (Token.resolve countedTemplate.bindings)).toOption.map
      (List.count results.name) = some 2 := by
    decide +kernel
  rw [resolved] at twice
  rw [if_pos rfl, Option.some.inj twice] at warned
  refine ⟨first, second, warned, used, ps, hps, fun p mem named => (started p mem named).2,
    _, held, Function.update texts pages.name "-10", Function.update_self .., ?_⟩
  rw [same]
  exact built _ _ _ second _ held

end UrlTemplate

end GeoCatalogue
