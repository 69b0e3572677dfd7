import GeoCatalogue.Crs.System
import GeoCatalogue.Proofs.Outcome

/-!
# Which references denote one system

References are compared by their identifiers first, and by the systems that
these are known under only if the identifiers differ. So a system need not be
known to be the same as itself, but it has to be known to be the same as one
of another identifier. Said of identifiers, this is an **equivalence**
(`SameSystem`), and `Crs.same` decides it as long as it gives an answer at all
(`same_eq_true_iff`, `same_eq_false_iff`).
-/
namespace GeoCatalogue.Crs

variable {g : Geodesy} {a b : Option String} {i j k : String}

/-- The system of a reference is that of its identifier. -/
theorem find_eq_ok {system : ReferenceSystem} :
    find g a = .ok system ↔
      ∃ id, normalize a = .ok id ∧ g.find id = .ok system := by
  unfold find
  rw [Except.bind_eq_ok]
  refine exists_congr fun id => and_congr_right fun _ => ?_
  cases g.find id with
  | ok found => simp
  | error explanation => simp

/-- Known systems are two systems with an operation exactly if there is one. -/
theorem systems_of_find {first second : ReferenceSystem} (ha : find g a = .ok first)
    (hb : find g b = .ok second) :
    systems g a b = match g.operation first second with
      | .ok () => .ok (first, second)
      | .error explanation => .error (.noOperation explanation) := by
  rw [systems, ha, hb]
  rfl

theorem systems_eq_ok {first second : ReferenceSystem} :
    systems g a b = .ok (first, second) ↔
      find g a = .ok first ∧ find g b = .ok second ∧
        g.operation first second = .ok () := by
  constructor
  · intro h
    obtain ⟨left, hleft, h⟩ := Except.bind_eq_ok.mp h
    obtain ⟨right, hright, h⟩ := Except.bind_eq_ok.mp h
    split at h
    · next there =>
      cases h
      exact ⟨hleft, hright, there⟩
    · cases h
  · rintro ⟨ha, hb, there⟩
    rw [systems_of_find ha hb, there]

/-- **Identifiers of one system**: they are equal, or the same system is known
under both. -/
def SameSystem (g : Geodesy) (i j : String) : Prop :=
  i = j ∨ ∃ system, g.find i = .ok system ∧ g.find j = .ok system

namespace SameSystem

@[simp] theorem refl (g : Geodesy) (i : String) : SameSystem g i i :=
  .inl rfl

theorem symm (h : SameSystem g i j) : SameSystem g j i := by
  obtain rfl | ⟨system, hi, hj⟩ := h
  · exact refl g i
  · exact .inr ⟨system, hj, hi⟩

/-- The system known under one of the two is known under the other. -/
theorem find (h : SameSystem g i j) {system : ReferenceSystem}
    (known : g.find i = .ok system) : g.find j = .ok system := by
  obtain rfl | ⟨other, hi, hj⟩ := h
  · exact known
  · rw [hi] at known
    rw [hj, known]

/-- Two identifiers that denote the same system as a third one denote the
same. -/
theorem trans (h : SameSystem g i j) (h' : SameSystem g j k) :
    SameSystem g i k := by
  obtain rfl | ⟨system, hi, hj⟩ := h
  · exact h'
  · exact .inr ⟨system, hi, h'.find hj⟩

end SameSystem

/-- **What comparing references does**, if it gives an answer: their identifiers are compared,
and then the systems known under them. References with one identifier are the same, known or
not; geodesy is only asked about different ones, and it has to know both then. -/
theorem same_eq_ok_iff {answer : Bool} :
    same g a b = .ok answer ↔
      ∃ i j, normalize a = .ok i ∧ normalize b = .ok j ∧
        (i = j ∧ answer = true ∨
          i ≠ j ∧ ∃ left right, g.find i = .ok left ∧ g.find j = .ok right ∧
            answer = (left == right)) := by
  unfold same
  rw [Except.bind_eq_ok]
  constructor
  · rintro ⟨i, hi, h⟩
    obtain ⟨j, hj, compared⟩ := Except.bind_eq_ok.mp h
    refine ⟨i, j, hi, hj, ?_⟩
    split at compared
    · next same => exact .inl ⟨same, (Except.ok.inj compared).symm⟩
    · next different =>
      obtain ⟨left, hleft, compared⟩ := Except.bind_eq_ok.mp compared
      obtain ⟨right, hright, compared⟩ := Except.bind_eq_ok.mp compared
      obtain ⟨i', hi', known⟩ := find_eq_ok.mp hleft
      obtain ⟨j', hj', known'⟩ := find_eq_ok.mp hright
      rw [hi, Except.ok.injEq] at hi'
      rw [hj, Except.ok.injEq] at hj'
      subst hi' hj'
      exact .inr ⟨different, left, right, known, known',
        (Except.ok.inj compared).symm⟩
  · rintro ⟨i, j, hi, hj, h⟩
    refine ⟨i, hi, Except.bind_eq_ok.mpr ⟨j, hj, ?_⟩⟩
    obtain ⟨rfl, rfl⟩ | ⟨different, left, right, known, known', rfl⟩ := h
    · exact if_pos rfl
    · rw [if_neg different, find_eq_ok.mpr ⟨i, hi, known⟩,
        find_eq_ok.mpr ⟨j, hj, known'⟩]
      rfl

/-- **References denote the same system** exactly if their identifiers do. -/
theorem same_eq_true_iff :
    same g a b = .ok true ↔
      ∃ i j, normalize a = .ok i ∧ normalize b = .ok j ∧
        SameSystem g i j := by
  rw [same_eq_ok_iff]
  refine exists₂_congr fun i j =>
    and_congr_right fun _ => and_congr_right fun _ => ?_
  constructor
  · rintro (⟨same, -⟩ | ⟨-, left, right, known, known', equal⟩)
    · exact .inl same
    · obtain rfl := beq_iff_eq.mp equal.symm
      exact .inr ⟨left, known, known'⟩
  · intro h
    by_cases same : i = j
    · exact .inl ⟨same, rfl⟩
    · obtain ⟨system, known, known'⟩ := h.resolve_left same
      exact .inr ⟨same, system, system, known, known',
        (beq_self_eq_true system).symm⟩

/-- **References denote different systems** exactly if different systems are
known under their identifiers. -/
theorem same_eq_false_iff :
    same g a b = .ok false ↔
      ∃ i j, normalize a = .ok i ∧ normalize b = .ok j ∧
        ∃ left right, g.find i = .ok left ∧ g.find j = .ok right ∧
          left ≠ right := by
  rw [same_eq_ok_iff]
  refine exists₂_congr fun i j =>
    and_congr_right fun _ => and_congr_right fun _ => ?_
  constructor
  · rintro (⟨-, no⟩ | ⟨-, left, right, known, known', unequal⟩)
    · cases no
    · exact ⟨left, right, known, known',
        beq_eq_false_iff_ne.mp unequal.symm⟩
  · rintro ⟨left, right, known, known', unequal⟩
    refine .inr ⟨?_, left, right, known, known',
      (beq_eq_false_iff_ne.mpr unequal).symm⟩
    rintro rfl
    exact unequal (Except.ok.inj (known.symm.trans known'))

end GeoCatalogue.Crs
