import GeoCatalogue.Command.Tasks
import GeoCatalogue.Proofs.Box.Refusals
import GeoCatalogue.Proofs.Description.Urls
import GeoCatalogue.Proofs.Template.Substitution

/-!
# Failures of the library's own

Whatever is wrong with a token, a template, a box, a reference or bounds, the library has
a failure of its own for it. Only a missing operation between two systems is passed on as
it is. So almost every function fails for the library's own reasons alone
(`OwnsFailures`), and the others do so **exactly if the operations that they need are
there**.

Which ones are needed depends on how far a function gets. Boxes are merged one after the
other, and a box that cannot be merged ends this. So an operation is needed for a box
only if all boxes in front of it have been merged (`AreConnected`). Besides the one to the
common system there may be a second one, to the system of what has been merged so far:
that one is named by an identifier of its own, and identifiers need not stay what they
are when they are used as references.
-/
namespace GeoCatalogue

open Crs

/-- **A computation that fails for the library's own reasons alone.** -/
def OwnsFailures {α : Type} (x : Except Failure α) : Prop :=
  ∀ cause, x = .error cause → cause.isOwn = true

namespace OwnsFailures

variable {α β : Type} {x : Except Failure α}

theorem of_ok (a : α) : OwnsFailures (.ok a : Except Failure α) := by
  rintro _ ⟨⟩

theorem of_error {cause : Failure} (own : cause.isOwn = true) :
    OwnsFailures (.error cause : Except Failure α) := by
  rintro _ ⟨⟩
  exact own

theorem bind {f : α → Except Failure β} (first : OwnsFailures x)
    (next : ∀ a, x = .ok a → OwnsFailures (f a)) : OwnsFailures (x >>= f) := by
  intro cause failed
  rcases Except.bind_eq_error.mp failed with failed | ⟨a, ha, failed⟩
  · exact first cause failed
  · exact next a ha cause failed

theorem mapM {f : α → Except Failure β} (each : ∀ a, OwnsFailures (f a)) (as : List α) :
    OwnsFailures (as.mapM f) := by
  intro cause failed
  obtain ⟨-, a, -, -, -, failed⟩ := Except.mapM_eq_error_iff.mp failed
  exact each a cause failed

/-- What does not own its failures ends in one that is not its own. -/
theorem exists_of_not (h : ¬OwnsFailures x) :
    ∃ cause, x = .error cause ∧ cause.isOwn = false := by
  obtain ⟨cause, h⟩ := not_forall.mp h
  obtain ⟨failed, foreign⟩ := Classical.not_imp.mp h
  exact ⟨cause, failed, Bool.eq_false_iff.mpr foreign⟩

end OwnsFailures

/-! ## Functions that own their failures -/

theorem ownsFailures_resolve (bindings : Bindings) (token : String) :
    OwnsFailures (Token.resolve bindings token) := by
  intro cause failed
  obtain ⟨_, _, -, -, rfl⟩ := Token.resolve_eq_error.mp failed
  rfl

/-- **A description is read, or refused for a label.** -/
theorem ownsFailures_ofElement (serial first : Nat) (root : Xml.Element) :
    OwnsFailures (Description.ofElement serial first root) := by
  refine OwnsFailures.bind (fun cause failed => ?_) fun _ _ => .of_ok _
  obtain ⟨-, t, -, -, -, failed⟩ :=
    Except.mapM_eq_error_iff.mp (Registry.foldlM_register_eq_error.mp failed)
  obtain ⟨-, token, -, -, -, failed⟩ := Except.mapM_eq_error_iff.mp failed
  exact ownsFailures_resolve _ token cause (Parameter.describe_eq_error.mp failed)

/-- **A URI is built, or it is told why not.** -/
theorem ownsFailures_build (r : Registry) (t : UrlTemplate) (values : Values) :
    OwnsFailures (r.build t values) := by
  refine OwnsFailures.bind (fun cause failed => ?_) fun candidate _ cause failed => ?_
  · obtain ⟨-, token, -, -, -, lacking⟩ := Registry.expand_eq_error.mp failed
    cases lacking with
    | unresolved => rfl
    | undeclared => rfl
  · obtain ⟨defect, rfl, -⟩ := Uri.request_eq_error.mp failed
    rfl

/-- **A box has an envelope, or it is refused for a defect.** -/
theorem ownsFailures_normalizeBox (box : Box) : OwnsFailures box.normalize := by
  intro cause failed
  cases Box.normalize_eq_error_iff.mp failed with
  | corners => rfl
  | token => rfl
  | count => rfl
  | reference => rfl
  | order => rfl

theorem ownsFailures_cornerText (e : Xml.Element) (corner : String) :
    OwnsFailures (Box.cornerText e corner) := by
  unfold Box.cornerText
  split
  · exact .of_ok _
  · exact .of_error rfl

theorem ownsFailures_normalize (reference : Option String) :
    OwnsFailures (normalize reference) := by
  intro cause failed
  obtain ⟨_, rfl⟩ := unsupported_of_normalize failed
  rfl

theorem ownsFailures_same (g : Geodesy) (a b : Option String) :
    OwnsFailures (Crs.same g a b) := by
  intro cause failed
  rcases find_of_same failed with failed | failed
  · obtain ⟨_, rfl⟩ := unsupported_of_find failed
    rfl
  · obtain ⟨_, rfl⟩ := unsupported_of_find failed
    rfl

theorem ownsFailures_ofBounds (bounds : Bounds Extended) (reference : Option String) :
    OwnsFailures (Envelope.ofBounds bounds reference) := by
  refine (ownsFailures_normalize reference).bind fun crs _ => ?_
  split
  · exact .of_error rfl
  · split
    · exact .of_ok _
    · exact .of_error rfl

/-! ## Operations that are needed -/

variable {g : Geodesy}

namespace Envelope

variable {e : Envelope} {reference : Option String}

/-- **There is an operation from an envelope to the system of a reference**, if it takes
one. -/
def IsConnected (g : Geodesy) (e : Envelope) (reference : Option String) : Prop :=
  ∀ source target, e.Between g reference source target → g.operation source target = .ok ()

/-- A computation that brings an envelope to another system needs the operation. -/
theorem isConnected_of_ownsFailures {α : Type} {x : Except Failure α} (own : OwnsFailures x)
    (fails : ∀ source target explanation, e.Between g reference source target →
      g.operation source target = .error explanation → x = .error (.noOperation explanation)) :
    e.IsConnected g reference := by
  intro source target between
  cases missing : g.operation source target with
  | ok => rfl
  | error explanation =>
    cases own _ (fails source target explanation between missing)

/-- **An envelope is brought to a system, or it is told why not**, exactly if the
operation that it takes is there. -/
theorem ownsFailures_toCrs_iff :
    OwnsFailures (e.toCrs g reference) ↔ e.IsConnected g reference := by
  constructor
  · intro own
    exact isConnected_of_ownsFailures own fun _ _ _ => toCrs_of_unconnected
  · intro connected cause failed
    have brought := brought g e reference
    rw [failed] at brought
    cases brought with
    | unsupported => rfl
    | unconnected between missing =>
      rw [connected _ _ between] at missing
      cases missing
    | noImage => rfl
    | nonFinite => rfl
    | inverted => rfl

/-- **Envelopes are united, or it is told why not**, exactly if the operation that the
second one takes is there. -/
theorem ownsFailures_union_iff {f : Envelope} :
    OwnsFailures (e.union g f) ↔ f.IsConnected g (some e.crs) := by
  constructor
  · intro own
    refine isConnected_of_ownsFailures own fun _ _ _ between missing => ?_
    unfold union
    rw [toCrs_of_unconnected between missing]
    rfl
  · intro connected
    exact (ownsFailures_toCrs_iff.mpr connected).bind fun _ _ =>
      (ownsFailures_normalize _).bind fun _ _ => .of_ok _

end Envelope

/-! ## Intersections -/

/-- **An envelope is compared with another one, or it is told why not**, exactly if the
operation that it takes is there. -/
theorem ownsFailures_intersects_iff {r candidate : Envelope} :
    OwnsFailures (intersects g r candidate) ↔ candidate.IsConnected g (some r.crs) := by
  constructor
  · intro own
    refine Envelope.isConnected_of_ownsFailures own fun source target _ between missing => ?_
    have different : Crs.same g (some r.crs) (some candidate.crs) = .ok false := by
      obtain ⟨i, hi, before⟩ := find_eq_ok.mp between.before
      obtain ⟨j, hj, after⟩ := find_eq_ok.mp between.after
      exact same_eq_false_iff.mpr
        ⟨j, i, hj, hi, target, source, after, before, between.different.symm⟩
    unfold intersects inSystemOf
    rw [different, Except.ok_bind, if_neg Bool.false_ne_true,
      Envelope.toCrs_of_unconnected between missing]
    rfl
  · intro connected
    refine OwnsFailures.bind ((ownsFailures_same g _ _).bind fun same _ => ?_) fun _ _ => .of_ok _
    cases same with
    | true => exact .of_ok _
    | false => exact Envelope.ownsFailures_toCrs_iff.mpr connected

/-- **The candidates have the operations that they take**, as far as they are compared at
all: the first that cannot be compared is the last. -/
def CanCompare (g : Geodesy) (r : Envelope) (candidates : List Envelope) : Prop :=
  ∀ front candidate back, candidates = front ++ candidate :: back →
    (∀ f ∈ front, ∃ found, intersects g r f = .ok found) →
      candidate.IsConnected g (some r.crs)

/-- **Envelopes are compared, or it is told why not**, exactly if the operations that they
take are there. -/
theorem ownsFailures_checkIntersections_iff {r : Envelope} {candidates : List Envelope} :
    OwnsFailures (checkIntersections g r candidates) ↔ CanCompare g r candidates := by
  have failed (c : Envelope) (cause : Failure) :
      (intersects g r c >>= fun found => Except.ok (c, found)) = .error cause ↔
        intersects g r c = .error cause := by
    cases intersects g r c <;> simp
  have through (c : Envelope) :
      (∃ b, (intersects g r c >>= fun found => Except.ok (c, found)) = .ok b) ↔
        ∃ found, intersects g r c = .ok found := by
    cases intersects g r c <;> simp
  unfold OwnsFailures checkIntersections CanCompare
  simp only [Except.mapM_eq_error_iff, failed, through, ← ownsFailures_intersects_iff]
  constructor
  · intro own front c back same going cause failed
    exact own cause ⟨front, c, back, same, going, failed⟩
  · rintro connected cause ⟨front, c, back, same, going, failed⟩
    exact connected front c back same going cause failed

/-! ## Merging boxes -/

/-- **A box has the operations that it takes** to be merged with what has been merged
before. -/
structure Merger.IsConnected (g : Geodesy) (m : Merger) (box : Box) : Prop where
  /-- The one to the common system. -/
  common : ∀ e, box.normalize = .ok e → e.IsConnected g m.reference
  /-- The one to the system of what has been merged. -/
  merged : ∀ e image before, box.normalize = .ok e → e.toCrs g m.reference = .ok image →
    m.merged = some before → image.IsConnected g (some before.crs)

/-- **A box is merged, or it is told why not**, exactly if the operations that it takes are
there. -/
theorem Merger.ownsFailures_addBox_iff {m : Merger} {box : Box} :
    OwnsFailures (m.addBox g box) ↔ m.IsConnected g box := by
  constructor
  · intro own
    refine ⟨fun e he => ?_, fun e image before he himage hbefore => ?_⟩
    · refine Envelope.isConnected_of_ownsFailures own fun _ _ _ between missing => ?_
      unfold addBox add
      rw [he, Except.ok_bind, Envelope.toCrs_of_unconnected between missing]
      rfl
    · refine Envelope.isConnected_of_ownsFailures own fun _ _ _ between missing => ?_
      unfold addBox add join
      rw [he, Except.ok_bind, himage, Except.ok_bind, hbefore]
      dsimp only
      unfold Envelope.union
      rw [Envelope.toCrs_of_unconnected between missing]
      rfl
  · intro connected
    refine (ownsFailures_normalizeBox box).bind fun e he => ?_
    refine (Envelope.ownsFailures_toCrs_iff.mpr (connected.common e he)).bind fun image himage => ?_
    refine OwnsFailures.bind ?_ fun _ _ => .of_ok _
    unfold join
    split
    · exact .of_ok _
    · next before hbefore =>
      exact Envelope.ownsFailures_union_iff.mpr
        (connected.merged e image before he himage hbefore)

/-- **The boxes have the operations that they take**, as far as they are merged at all: the
first that cannot be merged is the last. -/
def AreConnected (g : Geodesy) (reference : Option String) (boxes : List Box) : Prop :=
  ∀ front box back m, boxes = front ++ box :: back →
    mergeBoxes g reference front = .ok m → m.IsConnected g box

/-- **Boxes are merged, or it is told why not**, exactly if the operations that they take
are there. -/
theorem ownsFailures_mergeBoxes_iff {reference : Option String} {boxes : List Box} :
    OwnsFailures (mergeBoxes g reference boxes) ↔ AreConnected g reference boxes := by
  unfold OwnsFailures mergeBoxes AreConnected
  simp only [Except.foldlM_eq_error_iff, ← Merger.ownsFailures_addBox_iff]
  constructor
  · intro own front box back m same merged cause failed
    exact own cause ⟨front, box, back, m, same, merged, failed⟩
  · rintro connected cause ⟨front, box, back, m, same, merged, failed⟩
    exact connected front box back m same merged cause failed

end GeoCatalogue
