import GeoCatalogue.Proofs.Outcome
import GeoCatalogue.Template.Registry

/-!
# The life of a registry

A registry is filled by registering templates one after the other, each
with the parameters that its placeholders declare or with given ones. A
registration that fails leaves the registry as it was.

What a registry says of a template is decided by the last successful
registration of it: `parameters_insert` tells what one registration does,
and `HoldsOwn` is the property that a run keeps as long as the template is
not given other parameters.
-/
namespace GeoCatalogue

/-- **One registration.** -/
inductive Registration where
  /-- A template with the parameters that its placeholders declare. -/
  | declared (t : UrlTemplate)
  /-- A template with given parameters. -/
  | given (t : UrlTemplate) (parameters : List Parameter)

/-- The template that is registered. -/
def Registration.template : Registration → UrlTemplate
  | declared t => t
  | given t _ => t

@[simp] theorem UrlTemplate.same_self (t : UrlTemplate) : t.same t = true :=
  beq_self_eq_true t.serial

namespace Registry

/-- **The registry after a registration**; one that fails leaves it as it
was. -/
def accept (r : Registry) : Registration → Registry
  | .declared t =>
    match r.register t with
    | .ok next => next
    | .error _ => r
  | .given t parameters => r.insert t parameters

/-- **The registry after a run of registrations.** -/
def run (r : Registry) (steps : List Registration) : Registry :=
  steps.foldl accept r

/-! ## What a registration changes -/

/-- Looking a template up among entries, after one of them was put there. -/
theorem find?_put (t u : UrlTemplate) (ps : List Parameter)
    (entries : List (UrlTemplate × List Parameter)) :
    ((put t ps entries).find? (·.1.same u)).map Prod.snd
      = if t.same u then some ps
        else (entries.find? (·.1.same u)).map Prod.snd := by
  induction entries with
  | nil =>
    by_cases h : t.same u
    · simp [put, h]
    · simp [put, h]
  | cons entry rest ih =>
    -- the entry is replaced if it is that of `t`, and found if it is that of
    -- `u`: an entry of both is only there if these are the same
    by_cases ht : entry.1.same t
    · have alike : entry.1.same u = t.same u :=
        congrArg (· == u.serial) (beq_iff_eq.mp ht)
      by_cases hu : t.same u
      · simp [put, ht, alike, hu]
      · simp [put, ht, alike, hu]
    · by_cases hu : entry.1.same u
      · have hne : ¬ t.same u := by
          intro h
          exact ht (beq_iff_eq.mpr
            ((beq_iff_eq.mp hu).trans (beq_iff_eq.mp h).symm))
        simp [put, ht, hu, hne]
      · simp [put, ht, hu, ih]

/-- **A registration changes the parameters of its own template and of no
other.** -/
@[simp] theorem parameters_insert (r : Registry) (t u : UrlTemplate)
    (ps : List Parameter) :
    (r.insert t ps).parameters u = if t.same u then ps else r.parameters u := by
  unfold parameters insert
  rw [find?_put]
  split
  · rfl
  · rfl

/-- A template whose placeholders all have names can be registered. -/
theorem register_of_ok (r : Registry) {t : UrlTemplate}
    {ps : List Parameter} (h : t.parameters = .ok ps) :
    r.register t = .ok (r.insert t ps) := by
  rw [register, h, Except.ok_bind]

/-- Registering a template whose placeholders all have names puts their
parameters there. -/
theorem accept_declared_of_ok (r : Registry) {t : UrlTemplate}
    {ps : List Parameter} (h : t.parameters = .ok ps) :
    r.accept (.declared t) = r.insert t ps := by
  unfold accept
  simp only [r.register_of_ok h]

/-- Registering a template with a placeholder that has no name changes
nothing. -/
theorem accept_declared_of_error (r : Registry) {t : UrlTemplate}
    {failure : Failure} (h : t.parameters = .error failure) :
    r.accept (.declared t) = r := by
  unfold accept register
  simp only [h, Except.error_bind]

/-! ## Templates with parameters of their own -/

/-- **A registry holds a template with its own parameters**: those that its
placeholders declare. -/
def HoldsOwn (r : Registry) (t : UrlTemplate) : Prop :=
  t.parameters = .ok (r.parameters t)

/-- A template is held with its own parameters once these are put there. -/
theorem holdsOwn_insert (r : Registry) {t : UrlTemplate}
    {ps : List Parameter} (h : t.parameters = .ok ps) :
    (r.insert t ps).HoldsOwn t := by
  rw [HoldsOwn, parameters_insert, if_pos t.same_self, h]

/-- A template that is registered without parameters is held with its
own. -/
theorem holdsOwn_register {r next : Registry} {t : UrlTemplate}
    (h : r.register t = .ok next) : next.HoldsOwn t := by
  obtain ⟨ps, hps, hnext⟩ := Except.bind_eq_ok.mp h
  rw [← Except.ok.inj hnext]
  exact r.holdsOwn_insert hps

theorem HoldsOwn.insert {r : Registry} {t u : UrlTemplate}
    (h : r.HoldsOwn t) (different : ¬ u.same t) (ps : List Parameter) :
    (r.insert u ps).HoldsOwn t := by
  rw [HoldsOwn, parameters_insert, if_neg different]
  exact h

/-- **A registration keeps that**, unless it gives other parameters to the
template. -/
theorem HoldsOwn.accept {r : Registry} {t : UrlTemplate} (h : r.HoldsOwn t)
    {step : Registration}
    (kept : step.template.same t → step = .declared t) :
    (r.accept step).HoldsOwn t := by
  -- the template again, or another one
  by_cases hs : step.template.same t
  · rw [kept hs, r.accept_declared_of_ok h]
    exact r.holdsOwn_insert h
  · cases step with
    | given u ps => exact h.insert hs ps
    | declared u =>
      cases hps : u.parameters with
      | ok ps =>
        rw [r.accept_declared_of_ok hps]
        exact h.insert hs ps
      | error failure =>
        rw [r.accept_declared_of_error hps]
        exact h

/-- **A run keeps that** as well. -/
theorem HoldsOwn.run {r : Registry} {t : UrlTemplate} (h : r.HoldsOwn t)
    {steps : List Registration}
    (kept : ∀ step ∈ steps, step.template.same t → step = .declared t) :
    (r.run steps).HoldsOwn t := by
  induction steps generalizing r with
  | nil => exact h
  | cons step rest ih =>
    exact ih (h.accept (kept step List.mem_cons_self))
      (fun next hnext => kept next (List.mem_cons_of_mem step hnext))

end Registry

end GeoCatalogue
