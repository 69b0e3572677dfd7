import GeoCatalogue.Proofs.Name.Tables
import GeoCatalogue.Proofs.Template.Substitution
import Mathlib.Algebra.Ring.Nat

/-!
# Which values matter

The templates that declare a name are those whose URIs depend on the value of
that name, and on them the dependence is strict. A template that does not
declare the name gives the same result for all of its values. One that does
gives different URIs for different values: their lengths differ if those of the
values do, since the value is put into the template at least once and the same
number of times; and if the values are equally long, everything stands in the
same place in both URIs, and so the values themselves can be compared
(`Segments.eq_of_weave_update`).
-/
namespace GeoCatalogue

/-! ## Cuts with a text put in several times -/

namespace Segments

/-- **The length of what is woven** is that of all literals and texts. -/
theorem length_weave {s : Segments} {texts : List String}
    (length : texts.length = s.tokens.length) :
    (s.weave texts).length = (s.literals.map List.length).sum
      + (texts.map String.length).sum := by
  induction s generalizing texts with
  | done literal =>
    obtain rfl := List.eq_nil_of_length_eq_zero length
    simp [weave, literals]
  | placeholder literal token rest ih =>
    match texts, length with
    | text :: texts, length =>
      have later := ih (Nat.succ.inj length)
      simp only [weave, literals, List.length_append, String.length_toList,
        List.map_cons, List.sum_cons, later]
      omega

/-- **Texts of the same lengths are the same** if the same is woven from
them. -/
theorem eq_of_weave_eq {s : Segments} {texts others : List String}
    (length : texts.length = s.tokens.length)
    (alike : texts.map String.length = others.map String.length)
    (h : s.weave texts = s.weave others) : texts = others := by
  induction s generalizing texts others with
  | done literal =>
    obtain rfl := List.eq_nil_of_length_eq_zero length
    exact (List.map_eq_nil_iff.mp alike.symm).symm
  | placeholder literal token rest ih =>
    match texts, others, length, alike with
    | text :: texts, other :: others, length, alike =>
      obtain ⟨first, later⟩ := List.cons.inj alike
      rw [weave, weave, List.append_assoc, List.append_assoc] at h
      have behind := List.append_cancel_left h
      have lengths : text.toList.length = other.toList.length := by
        rw [String.length_toList, String.length_toList]
        exact first
      obtain ⟨same, tails⟩ := List.append_inj behind lengths
      rw [String.toList_inj.mp same, ih (Nat.succ.inj length) later tails]

variable {names : List QName} {name : QName}

/-- The length of texts of which one is put in for every occurrence of a
name. -/
theorem sum_length_update (f : QName → String) (x : String) :
    ((names.map (Function.update f name x)).map String.length).sum
      = (names.map fun other =>
          if other = name then 0 else (f other).length).sum
        + names.count name * x.length := by
  induction names with
  | nil => simp
  | cons other names ih =>
    simp only [List.map_cons, List.sum_cons, ih]
    by_cases same : other = name
    · subst same
      simp only [Function.update_self, if_true, List.count_cons_self,
        Nat.succ_mul]
      omega
    · rw [Function.update_of_ne same, if_neg same,
        List.count_cons_of_ne same]
      omega

/-- **Different texts for a name give different results**, if the name occurs at all. The length
of what is woven tells the length of the text, which occurs as often in both; and texts of
the same length stand at the same places. -/
theorem eq_of_weave_update {s : Segments}
    (length : names.length = s.tokens.length) (mem : name ∈ names)
    {f : QName → String} {x y : String}
    (h : s.weave (names.map (Function.update f name x))
      = s.weave (names.map (Function.update f name y))) : x = y := by
  have size (z : String) :
      (names.map (Function.update f name z)).length = s.tokens.length := by
    rw [List.length_map, length]
  have occurs : 0 < names.count name := List.count_pos_iff.mpr mem
  have total := congrArg List.length h
  rw [length_weave (size x), length_weave (size y), sum_length_update,
    sum_length_update] at total
  have lengths : x.length = y.length :=
    Nat.eq_of_mul_eq_mul_left occurs
      (Nat.add_left_cancel (Nat.add_left_cancel total))
  have alike : (names.map (Function.update f name x)).map String.length
      = (names.map (Function.update f name y)).map String.length := by
    rw [List.map_map, List.map_map]
    refine List.map_congr_left fun other _ => ?_
    by_cases same : other = name
    · subst same
      simpa using lengths
    · simp [Function.update_of_ne same]
  have texts := eq_of_weave_eq (size x) alike h
  simpa using List.map_inj_left.mp texts name mem

end Segments

/-! ## Values that differ at one name -/

/-- **Values that are the same except at one name.** -/
def Values.AgreeExcept (name : QName) (v w : Values) : Prop :=
  ∀ other, other ≠ name → v.get? other = w.get? other

/-- One more entry changes nothing for the other names. -/
theorem Values.agreeExcept_concat (values : Values) (name : QName)
    (x y : String) :
    Values.AgreeExcept name (values ++ [(name, x)])
      (values ++ [(name, y)]) := by
  intro other different
  have unequal : (other == name) = false := beq_false_of_ne different
  rw [Table.get?_append_entry, Table.get?_append_entry, unequal]
  rfl

namespace Registry

variable {r : Registry} {t : UrlTemplate} {name : QName} {v w : Values}

/-- The text of a name depends on its value and no other. -/
theorem textOf_congr (h : v.get? name = w.get? name) :
    r.textOf t v name = r.textOf t w name := by
  unfold textOf
  rw [h]

/-- **What is built depends on the values of names**, and not on how they are listed. -/
theorem build_congr (r : Registry) (h : ∀ name, v.get? name = w.get? name) :
    r.build t v = r.build t w := by
  have same : r.textOf t v = r.textOf t w := funext fun name => textOf_congr (h name)
  unfold build expand
  rw [substitute_eq, substitute_eq, same]

/-- **The templates that declare a name**: whether a template is one of
those that the registry gives for it. -/
def Selects (r : Registry) (name : QName) (t : UrlTemplate) : Prop :=
  ∃ u ∈ r.filterByParam name r.templates, u.same t = true

/-- The same template has the same parameters. -/
theorem parameters_congr {u : UrlTemplate} (h : u.same t = true) :
    r.parameters u = r.parameters t := by
  have alike : (fun entry : UrlTemplate × List Parameter => entry.1.same u)
      = fun entry => entry.1.same t := by
    funext entry
    unfold UrlTemplate.same
    rw [beq_iff_eq.mp h]
  unfold parameters
  rw [alike]

/-- A template with parameters is registered. -/
theorem exists_mem_templates {p : Parameter} (h : p ∈ r.parameters t) :
    ∃ u ∈ r.templates, u.same t = true := by
  unfold parameters at h
  cases found : r.entries.find? (·.1.same t) with
  | none => simp [found] at h
  | some entry =>
    exact ⟨entry.1, List.mem_map_of_mem (List.mem_of_find?_eq_some found),
      (List.find?_eq_some_iff_append.mp found).1⟩

/-- **A template is among those that declare a name** exactly if one of its
parameters has that name. -/
theorem selects_iff :
    r.Selects name t ↔ name ∈ (r.parameters t).map Parameter.name := by
  have declares_iff (u : UrlTemplate) : r.declares name u = true ↔
      name ∈ (r.parameters u).map Parameter.name := by
    simp [declares]
  constructor
  · intro h
    obtain ⟨u, hu, same⟩ := h
    rw [← parameters_congr same, ← declares_iff]
    exact (List.mem_filter.mp hu).2
  · intro h
    obtain ⟨p, hp, -⟩ := List.mem_map.mp h
    obtain ⟨u, hu, same⟩ := exists_mem_templates hp
    rw [← parameters_congr same, ← declares_iff] at h
    exact ⟨u, List.mem_filter.mpr ⟨hu, h⟩, same⟩

/-! ## The value of a name that is not declared -/

/-- **The value of a name that no placeholder stands for does not matter.** -/
theorem HoldsOwn.build_congr (own : r.HoldsOwn t)
    (unused : name ∉ (r.parameters t).map Parameter.name)
    (h : v.AgreeExcept name w) : r.build t v = r.build t w := by
  obtain ⟨texts, found, built⟩ := own.exists_texts v
  obtain ⟨texts', found', built'⟩ := own.exists_texts w
  have same : ((r.parameters t).map Parameter.name).mapM (r.textOf t w)
      = .ok texts := by
    have each := (List.forall₂_and_left _ _).mpr
      ⟨fun _ mem => mem, Except.mapM_eq_ok_iff.mp found⟩
    refine Except.mapM_eq_ok_iff.mpr (each.imp fun other text ⟨mem, h'⟩ => ?_)
    rw [← textOf_congr (h other fun hname => unused (hname ▸ mem))]
    exact h'
  rw [built, built', Except.ok.inj (same.symm.trans found')]

/-! ## The value of a name that is declared -/

/-- The text of a name, empty if it has none. -/
def textOrEmpty (r : Registry) (t : UrlTemplate) (values : Values)
    (name : QName) : String :=
  ((r.textOf t values name).toOption).getD ""

/-- **The texts of names under values that are the same except at one name**:
one function gives them all, but for the value of that name. -/
theorem texts_eq_map_update (h : v.AgreeExcept name w) {y : String}
    (given : w.get? name = some y) {names : List QName} {texts : List String}
    (found : names.mapM (r.textOf t w) = .ok texts) :
    texts = names.map (Function.update (r.textOrEmpty t v) name y) := by
  induction Except.mapM_eq_ok_iff.mp found with
  | nil => rfl
  | @cons other text names texts first rest ih =>
    rw [List.map_cons, ← ih (Except.mapM_eq_ok_iff.mpr rest)]
    by_cases same : other = name
    · subst same
      rw [textOf_eq_ok.mpr (.inl given)] at first
      rw [Function.update_self, Except.ok.inj first]
    · rw [← textOf_congr (h other same)] at first
      rw [Function.update_of_ne same, textOrEmpty, first]
      rfl

/-- **Different values of a name that some placeholder stands for give
different URIs.** -/
theorem HoldsOwn.eq_of_build_eq (own : r.HoldsOwn t)
    (used : name ∈ (r.parameters t).map Parameter.name)
    (h : v.AgreeExcept name w) {x y uri : String}
    (hx : v.get? name = some x) (hy : w.get? name = some y)
    (hv : r.build t v = .ok uri) (hw : r.build t w = .ok uri) : x = y := by
  obtain ⟨texts, found, built⟩ := own.exists_texts v
  obtain ⟨texts', found', built'⟩ := own.exists_texts w
  obtain rfl := texts_eq_map_update (fun _ _ => rfl) hx found
  obtain rfl := texts_eq_map_update h hy found'
  have woven := (Uri.request_eq_ok.mp (built.symm.trans hv)).1
  have woven' := (Uri.request_eq_ok.mp (built'.symm.trans hw)).1
  have length := (Except.mapM_eq_ok_iff.mp
    (Parameter.resolve_of_ofTemplate own)).length_eq
  exact Segments.eq_of_weave_update length.symm used
    (String.ofList_injective (woven.symm.trans woven'))

/-- **Which values matter.** Let a template be registered with its own
parameters, and let any registrations follow that do not give it others. If it
is not among the templates that declare a name, then building from it comes to
the same – a URI or a failure – for any values that are the same except at that
name. If it is among them, then values that are the same otherwise, but
different for the name, do not give the same URI. -/
theorem filterByParam_decides {start r : Registry} {t : UrlTemplate}
    (registered : start.register t = .ok r) (later : List Registration)
    (kept : ∀ step ∈ later, step.template.same t → step = .declared t)
    (name : QName) :
    (¬ (r.run later).Selects name t →
      ∀ v w : Values, v.AgreeExcept name w →
        (r.run later).build t v = (r.run later).build t w) ∧
    ((r.run later).Selects name t →
      ∀ v w : Values, v.AgreeExcept name w →
        ∀ x y, v.get? name = some x → w.get? name = some y → x ≠ y →
          ∀ uri uri', (r.run later).build t v = .ok uri →
            (r.run later).build t w = .ok uri' → uri ≠ uri') := by
  have own := (holdsOwn_register registered).run kept
  rw [selects_iff]
  constructor
  · intro unused v w h
    exact own.build_congr unused h
  · intro used v w h x y hx hy different uri uri' hv hw same
    rw [← same] at hw
    exact different (own.eq_of_build_eq used h hx hy hv hw)

/-- The sample has no placeholder for the language, and two for the count. -/
theorem filterByParam_decides_sample :
    let language : QName := ⟨Vocabulary.openSearch, "language"⟩
    let count : QName := ⟨Vocabulary.openSearch, "count"⟩
    ∃ r, Registry.register {} sampleTemplate = .ok r ∧
      ¬ (r.run []).Selects language sampleTemplate ∧
      (∀ values : Values, (r.run []).build sampleTemplate
          (values ++ [(language, "de")])
        = (r.run []).build sampleTemplate (values ++ [(language, "fr")])) ∧
      (r.run []).Selects count sampleTemplate ∧
      ∃ uri uri', (r.run []).build sampleTemplate [(count, "1")] = .ok uri ∧
        (r.run []).build sampleTemplate [(count, "12")] = .ok uri' ∧
        uri ≠ uri' := by
  intro language count
  have short : (Registry.register {} sampleTemplate >>= fun r =>
      (r.run []).build sampleTemplate [(count, "1")]).isOk = true := by
    decide +kernel
  have long : (Registry.register {} sampleTemplate >>= fun r =>
      (r.run []).build sampleTemplate [(count, "12")]).isOk = true := by
    decide +kernel
  have names : (Registry.register {} sampleTemplate).toOption.map (fun r =>
      ((r.run []).parameters sampleTemplate).map Parameter.name)
      = some [⟨Vocabulary.openSearch, "searchTerms"⟩,
        ⟨Vocabulary.openSearchGeo, "box"⟩, count, count] := by
    decide +kernel
  obtain ⟨first, hfirst⟩ := Except.exists_of_isOk short
  obtain ⟨second, hsecond⟩ := Except.exists_of_isOk long
  obtain ⟨r, registered, hfirst⟩ := Except.bind_eq_ok.mp hfirst
  rw [registered] at hsecond names
  have declared : ((r.run []).parameters sampleTemplate).map Parameter.name
      = [⟨Vocabulary.openSearch, "searchTerms"⟩,
        ⟨Vocabulary.openSearchGeo, "box"⟩, count, count] :=
    Option.some.inj names
  have unused : ¬ (r.run []).Selects language sampleTemplate := by
    rw [selects_iff, declared]
    decide
  have used : (r.run []).Selects count sampleTemplate := by
    rw [selects_iff, declared]
    decide
  refine ⟨r, registered, unused, fun values => ?_, used, first, second, hfirst,
    hsecond, ?_⟩
  · exact (filterByParam_decides registered [] nofun language).1 unused _ _
      (Values.agreeExcept_concat values language "de" "fr")
  · exact (filterByParam_decides registered [] nofun count).2 used _ _
      (Values.agreeExcept_concat [] count "1" "12") "1" "12"
      (Table.get?_concat [] count "1") (Table.get?_concat [] count "12")
      (by decide) first second hfirst hsecond

end Registry

end GeoCatalogue
