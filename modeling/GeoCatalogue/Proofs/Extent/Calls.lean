import GeoCatalogue.Geodesy.Standard
import GeoCatalogue.Proofs.Extent.Merging

/-!
# Calls that add areas

Areas may be added to one and the same merger by a sequence of calls, some of
which fail – because a system is not known, because a transformation has no
result, or because the union fails after the transformation has gone well. A
call is written down here as it is carried out (`Merger.adding`): it reads
what is there and writes it anew, and what has been written stays written even
if the call fails.

Nothing is written before everything that can fail is over, and so a call
either adds an area or does nothing (`Merger.adding_run`). Hence what is there
after any calls is what adding just the accepted areas gives
(`Merger.foldlM_accepted`), and it only grows (`Merger.exists_grownFrom`).
-/
namespace GeoCatalogue

open Crs

variable {g : Geodesy} {m next : Merger} {e : Envelope}

/-- **An envelope that has grown**: it holds what it held before, in the same
system or in that with the identifier brought to its form again. -/
structure Envelope.GrownFrom (after before : Envelope) : Prop where
  /-- Nothing is lost. -/
  within : before.bounds.Within after.bounds
  /-- The identifier is the same, or its form. -/
  crs : after.crs = before.crs ∨ normalize (some before.crs) = .ok after.crs

namespace Merger

/-- **A call that adds an area**, step by step. -/
def adding (g : Geodesy) (e : Envelope) : EStateM Failure Merger Unit := do
  let image ← ofExcept (e.toCrs g (← get).reference)
  match (← get).merged with
  | none => modify fun m => { m with merged := some image }
  | some before => do
    let joined ← ofExcept (before.union g image)
    modify fun m => { m with merged := some joined }

/-- What is there after a call, whether it has failed or not. -/
def afterCall (g : Geodesy) (m : Merger) (e : Envelope) : Merger :=
  match (adding g e).run m with
  | .ok () next => next
  | .error _ next => next

/-- What is there after some calls. -/
def afterCalls (g : Geodesy) (m : Merger) (calls : List Envelope) : Merger :=
  calls.foldl (afterCall g) m

/-- **The areas that were accepted**: those whose calls did not fail. -/
def accepted (g : Geodesy) (m : Merger) : List Envelope → List Envelope
  | [] => []
  | e :: calls =>
    match (adding g e).run m with
    | .ok () next => e :: accepted g next calls
    | .error _ next => accepted g next calls

/-! ## One call -/

/-- **A call adds the area or does nothing.** -/
theorem adding_run (m : Merger) (e : Envelope) :
    (adding g e).run m = match m.add g e with
      | .ok next => .ok () next
      | .error failure => .error failure m := by
  obtain ⟨reference, merged⟩ := m
  cases himage : e.toCrs g reference with
  | error failure =>
    have failed : add g ⟨reference, merged⟩ e = .error failure := by
      rw [add, himage, Except.error_bind]
    simp [adding, EStateM.run_ofExcept, himage, failed]
  | ok image =>
    rw [add_eq himage]
    -- the union is the only step that is left to fail
    cases merged with
    | none => simp [adding, EStateM.run_ofExcept, himage, join, Except.map]
    | some before =>
      cases hjoined : before.union g image <;>
        simp [adding, EStateM.run_ofExcept, himage, join, hjoined, Except.map]

theorem afterCall_of_add (h : m.add g e = .ok next) :
    m.afterCall g e = next := by
  simp [afterCall, adding_run, h]

theorem afterCall_of_add_error {failure : Failure}
    (h : m.add g e = .error failure) : m.afterCall g e = m := by
  simp [afterCall, adding_run, h]

theorem exists_merged_of_add (h : m.add g e = .ok next) :
    ∃ after, next.merged = some after := by
  obtain ⟨image, joined, -, -, rfl⟩ := exists_of_add h
  exact ⟨joined, rfl⟩

/-- **What is there grows** with every area that is added. -/
theorem exists_grownFrom_of_add {before : Envelope}
    (hbefore : m.merged = some before) (h : m.add g e = .ok next) :
    ∃ after, next.merged = some after ∧ after.GrownFrom before := by
  obtain ⟨image, joined, -, hjoined, rfl⟩ := exists_of_add h
  rw [hbefore] at hjoined
  exact ⟨joined, rfl, within_of_union hjoined,
    .inr (normalize_of_union hjoined)⟩

/-- **A call never takes anything away**, whether it fails or not. -/
theorem exists_grownFrom {before : Envelope}
    (hbefore : m.merged = some before) (e : Envelope) :
    ∃ after, (m.afterCall g e).merged = some after ∧
      after.GrownFrom before := by
  cases h : m.add g e with
  | error failure =>
    rw [afterCall_of_add_error h]
    exact ⟨before, hbefore, .refl _, .inl rfl⟩
  | ok next =>
    rw [afterCall_of_add h]
    exact exists_grownFrom_of_add hbefore h

/-! ## Any number of calls -/

/-- **Calls leave what adding just the accepted areas gives.** A call that fails leaves the
merger as it was before, also if it got as far as the transformation; so the calls that
fail can be left out, and then none of those that are left fails. -/
theorem foldlM_accepted (m : Merger) (calls : List Envelope) :
    (accepted g m calls).foldlM (add g) m = .ok (afterCalls g m calls) := by
  induction calls generalizing m with
  | nil => rfl
  | cons e calls ih =>
    unfold accepted afterCalls
    rw [adding_run, List.foldl_cons]
    cases h : m.add g e with
    | error failure =>
      rw [afterCall_of_add_error h]
      exact ih m
    | ok next =>
      rw [afterCall_of_add h]
      show (e :: accepted g next calls).foldlM (add g) m = _
      rw [List.foldlM_cons, h, Except.ok_bind]
      exact ih next

/-- After some areas have been added there is something. -/
theorem exists_merged_of_foldlM {areas : List Envelope}
    (nonempty : areas ≠ []) (h : areas.foldlM (add g) m = .ok next) :
    ∃ after, next.merged = some after := by
  -- what the last area leaves does not depend on what was there before it
  obtain ⟨front, last, rfl⟩ :=
    (List.eq_nil_or_concat areas).resolve_left nonempty
  rw [List.concat_eq_append, List.foldlM_append] at h
  obtain ⟨between, -, h⟩ := Except.bind_eq_ok.mp h
  rw [List.foldlM_cons] at h
  obtain ⟨next', added, h⟩ := Except.bind_eq_ok.mp h
  obtain rfl := Except.ok.inj h
  exact exists_merged_of_add added

/-- **There is nothing exactly as long as no area was accepted.** -/
theorem merged_afterCalls_eq_none_iff {reference : Option String}
    {calls : List Envelope} :
    (afterCalls g ⟨reference, none⟩ calls).merged = none ↔
      accepted g ⟨reference, none⟩ calls = [] := by
  have added := foldlM_accepted (g := g) ⟨reference, none⟩ calls
  constructor
  · intro nothing
    by_contra nonempty
    obtain ⟨after, hafter⟩ := exists_merged_of_foldlM nonempty added
    rw [nothing] at hafter
    cases hafter
  · intro empty
    rw [empty] at added
    rw [← Except.ok.inj added]

/-- **What is there is the extent of the accepted areas.** -/
theorem coalesce_accepted (reference : Option String)
    (calls : List Envelope) :
    coalesce g reference (accepted g ⟨reference, none⟩ calls)
      = (afterCalls g ⟨reference, none⟩ calls).extent := by
  unfold coalesce
  rw [foldlM_accepted, Except.ok_bind]

@[simp] theorem extent_eq_ok_iff {e : Envelope} :
    m.extent = .ok e ↔ m.merged = some e := by
  unfold extent
  cases m.merged with
  | none => simp
  | some before => simp

/-- **Calls that add areas, one after the other.** At every point, a call that
fails leaves everything exactly as it was. There is nothing exactly as long as
no area was accepted, and otherwise what is there is the extent of just the
accepted areas. And what is there only grows. -/
theorem calls_atomic (g : Geodesy) (reference : Option String)
    (calls : List Envelope) :
    let m := afterCalls g ⟨reference, none⟩ calls
    let areas := accepted g ⟨reference, none⟩ calls
    (∀ e failure next, (adding g e).run m = .error failure next →
      next = m) ∧
    (m.merged = none ↔ areas = []) ∧
    (∀ e, m.merged = some e ↔ coalesce g reference areas = .ok e) ∧
    ∀ e before, m.merged = some before →
      ∃ after, (m.afterCall g e).merged = some after ∧
        after.GrownFrom before := by
  intro m areas
  refine ⟨fun e failure next failed => ?_, merged_afterCalls_eq_none_iff,
    fun e => ?_, fun e before hbefore => exists_grownFrom hbefore e⟩
  · rw [adding_run] at failed
    cases h : m.add g e with
    | error failure' =>
      rw [h] at failed
      cases failed
      rfl
    | ok next' =>
      rw [h] at failed
      cases failed
  · rw [coalesce_accepted, extent_eq_ok_iff]

/-- Two points, with a call between them that names a system that there is
not: it fails, the points are accepted, and there is something to grow. -/
theorem calls_atomic_between :
    let g := Geodesy.standard "unknown"
    let reference := some "urn:ogc:def:crs:EPSG::4326"
    let lost := Envelope.origin "EPSG:0"
    let calls :=
      [Envelope.origin "EPSG:4326", lost, Envelope.origin "OGC:CRS84"]
    let m := afterCalls g ⟨reference, none⟩ calls
    let areas := accepted g ⟨reference, none⟩ calls
    areas.length = 2 ∧
    (∃ failure, (adding g lost).run m = .error failure m) ∧
    ∃ e, m.merged = some e ∧ coalesce g reference areas = .ok e ∧
      ∃ after, (m.afterCall g e).merged = some after ∧
        after.GrownFrom e := by
  intro g reference lost calls m areas
  obtain ⟨-, nothing, extent, grows⟩ := calls_atomic g reference calls
  have two : areas.length = 2 := by decide +kernel
  have refused : (m.add g lost).isOk = false := by decide +kernel
  refine ⟨two, ?_, ?_⟩
  · cases h : m.add g lost with
    | ok next =>
      rw [h] at refused
      cases refused
    | error failure => exact ⟨failure, by rw [adding_run, h]⟩
  · cases h : m.merged with
    | none =>
      have empty : areas = [] := nothing.mp h
      rw [empty] at two
      cases two
    | some e => exact ⟨e, rfl, (extent e).mp h, grows e e h⟩

end Merger

end GeoCatalogue
