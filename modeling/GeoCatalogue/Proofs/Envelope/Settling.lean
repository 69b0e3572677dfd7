import GeoCatalogue.Proofs.Extent.Intersections

/-!
# What bringing an envelope to a system comes to

Nothing is known about what a transformation gives: its numbers may be infinite or
undefined, and its corners in any order. It is **checked before** an envelope is
built, with the tests that building one makes (`Envelope.check_cases`): what passes
is built without fail, and what does not is a failure of the transformation.

Before that an operation between the two systems has to be found, and nothing checks
whether there is one: a missing operation is not put down to the transformation. So there
are seven ways for an envelope to be brought to a system (`Envelope.Brought`), and being
malformed is none of them. What is built is an envelope of the system, which can be built
anew of its own bounds (`Envelope.ofBounds_extended`).
-/
namespace GeoCatalogue

open Crs

/-! ## Tests of numbers -/

namespace Extended

/-- **The order of numbers with infinities**: whether one is greater than another. An
undefined number is neither greater nor less than any. -/
def exceeds : Extended → Extended → Bool
  | finite x, finite y => decide (y < x)
  | infinite false, finite _ | infinite false, infinite true => true
  | finite _, infinite true => true
  | _, _ => false

/-- A number that is read off as a finite one is this. -/
@[simp] theorem finite?_eq_some_iff {x : Extended} {y : Binary64} :
    x.finite? = some y ↔ x = .finite y := by
  cases x with
  | finite x => rw [finite?, Option.some.injEq, finite.injEq]
  | infinite | undefined => exact ⟨nofun, nofun⟩

end Extended

/-- A position that is read off as a finite one is this. -/
@[simp] theorem Position.finite?_eq_some_iff {p : Position Extended}
    {q : Position Binary64} : p.finite? = some q ↔ p = q.extended := by
  obtain ⟨first, second⟩ := p
  obtain ⟨x, y⟩ := q
  show (first.finite?.bind fun x => second.finite?.bind fun y => some ⟨x, y⟩)
    = some (⟨x, y⟩ : Position Binary64) ↔ _
  simp only [Option.bind_eq_some_iff, Extended.finite?_eq_some_iff, extended, map,
    mk.injEq, Option.some.injEq]
  constructor
  · rintro ⟨x', hx, y', hy, rfl, rfl⟩
    exact ⟨hx, hy⟩
  · rintro ⟨hx, hy⟩
    exact ⟨x, hx, y, hy, rfl, rfl⟩

namespace Bounds

variable {b : Bounds Extended} {corners : Bounds Binary64}

/-- Bounds that are read off as finite ones are these. -/
@[simp] theorem finite?_eq_some_iff : b.finite? = some corners ↔ b = corners.extended := by
  obtain ⟨lower, upper⟩ := b
  obtain ⟨p, q⟩ := corners
  show (lower.finite?.bind fun p => upper.finite?.bind fun q => some ⟨p, q⟩)
    = some (⟨p, q⟩ : Bounds Binary64) ↔ _
  simp only [Option.bind_eq_some_iff, Position.finite?_eq_some_iff, extended, map,
    mk.injEq, Option.some.injEq]
  constructor
  · rintro ⟨p', hp, q', hq, rfl, rfl⟩
    exact ⟨hp, hq⟩
  · rintro ⟨hp, hq⟩
    exact ⟨p, hp, q, hq, rfl, rfl⟩

/-- All coordinates are finite. -/
def AllFinite (b : Bounds Extended) : Prop :=
  ∀ x ∈ b.toList, x.isFinite = true

/-- The lower corner is greater than the upper one on some axis. -/
def Inverted (b : Bounds Extended) : Prop :=
  b.lower.first.exceeds b.upper.first = true ∨
    b.lower.second.exceeds b.upper.second = true

/-- Bounds whose coordinates are all finite are finite bounds. -/
theorem allFinite_iff : b.AllFinite ↔ ∃ corners : Bounds Binary64, b = corners.extended := by
  have finite {x : Extended} (h : x.isFinite = true) : ∃ y, x = .finite y := by
    obtain ⟨y, hy⟩ := Option.isSome_iff_exists.mp h
    exact ⟨y, Extended.finite?_eq_some_iff.mp hy⟩
  obtain ⟨⟨a, b⟩, c, d⟩ := b
  unfold AllFinite toList Position.toList
  simp only [List.cons_append, List.nil_append, List.forall_mem_cons]
  constructor
  · rintro ⟨ha, hb, hc, hd, -⟩
    obtain ⟨a, rfl⟩ := finite ha
    obtain ⟨b, rfl⟩ := finite hb
    obtain ⟨c, rfl⟩ := finite hc
    obtain ⟨d, rfl⟩ := finite hd
    exact ⟨⟨⟨a, b⟩, c, d⟩, rfl⟩
  · rintro ⟨corners, same⟩
    cases same
    exact ⟨rfl, rfl, rfl, rfl, List.forall_mem_nil _⟩

/-- Finite bounds are inverted exactly if they are not in order. -/
@[simp] theorem inverted_extended_iff : corners.extended.Inverted ↔ ¬corners.Ordered := by
  have exceeds (x y : Binary64) :
      (Extended.finite x).exceeds (.finite y) = true ↔ ¬x.value ≤ y.value :=
    decide_eq_true_iff.trans (not_le (a := x.value)).symm
  show (Extended.finite _).exceeds (.finite _) = true ∨
    (Extended.finite _).exceeds (.finite _) = true ↔ _
  rw [exceeds, exceeds]
  exact not_and_or.symm

end Bounds

/-! ## References without a system -/

namespace Crs

variable {g : Geodesy} {a b : Option String} {failure : Failure}

/-- A reference without an identifier is not supported. -/
theorem unsupported_of_normalize (h : normalize a = .error failure) :
    ∃ defect, failure = .unsupportedCrs a defect := by
  unfold normalize at h
  split at h
  · exact ⟨.noReference, (Except.error.inj h).symm⟩
  · split at h
    · exact ⟨.noReference, (Except.error.inj h).symm⟩
    · split at h
      · cases h
      · exact ⟨.unrecognized, (Except.error.inj h).symm⟩

/-- A reference without a known system is not supported. -/
theorem unsupported_of_find (h : find g a = .error failure) :
    ∃ defect, failure = .unsupportedCrs a defect := by
  rcases Except.bind_eq_error.mp h with h | ⟨id, -, h⟩
  · exact unsupported_of_normalize h
  · split at h
    · cases h
    · exact ⟨_, (Except.error.inj h).symm⟩

/-- A reference without an identifier has no known system. -/
theorem find_of_normalize (h : normalize a = .error failure) :
    find g a = .error failure := by
  unfold find
  rw [h, Except.error_bind]

/-- **Comparing references fails** only if one of them has no known system. -/
theorem find_of_same (h : same g a b = .error failure) :
    find g a = .error failure ∨ find g b = .error failure := by
  rcases Except.bind_eq_error.mp h with h | ⟨i, -, h⟩
  · exact .inl (find_of_normalize h)
  rcases Except.bind_eq_error.mp h with h | ⟨j, -, h⟩
  · exact .inr (find_of_normalize h)
  split at h
  · cases h
  rcases Except.bind_eq_error.mp h with h | ⟨left, -, h⟩
  · exact .inl h
  rcases Except.bind_eq_error.mp h with h | ⟨right, -, h⟩
  · exact .inr h
  · cases h

end Crs

/-! ## The check of transformed bounds -/

namespace Envelope

variable {g : Geodesy} {e image : Envelope} {reference : Option String}
variable {crs : String}

/-- **The check of transformed bounds anticipates that of an envelope.** Bounds whose
coordinates are not all finite, and finite ones that are inverted, are refused by
both; from all others, both make the same envelope. -/
theorem check_cases (known : normalize reference = .ok crs) (target : ReferenceSystem)
    (result : Bounds Extended) :
    (¬result.AllFinite ∧
      ofTransformed target crs result = .error (.nonFinite result) ∧
      ofBounds result reference = .error (.malformedEnvelope (.nonFinite result))) ∨
    (result.AllFinite ∧ result.Inverted ∧
      ofTransformed target crs result = .error (invertedDefect target result) ∧
      ∃ corners, ofBounds result reference
        = .error (.malformedEnvelope (.cornersExchanged corners crs))) ∨
    (result.AllFinite ∧ ¬result.Inverted ∧
      ∃ image, ofTransformed target crs result = .ok image ∧
        ofBounds result reference = .ok image) := by
  unfold ofTransformed ofBounds
  rw [known, Except.ok_bind]
  cases hfinite : result.finite? with
  | none =>
    refine .inl ⟨fun finite => ?_, rfl, rfl⟩
    obtain ⟨corners, same⟩ := Bounds.allFinite_iff.mp finite
    rw [Bounds.finite?_eq_some_iff.mpr same] at hfinite
    cases hfinite
  | some corners =>
    obtain rfl := Bounds.finite?_eq_some_iff.mp hfinite
    have finite := Bounds.allFinite_iff.mpr ⟨corners, rfl⟩
    by_cases ordered : corners.Ordered
    · refine .inr (.inr ⟨finite, fun inverted => ?_, _, dif_pos ordered, dif_pos ordered⟩)
      exact Bounds.inverted_extended_iff.mp inverted ordered
    · exact .inr (.inl ⟨finite, Bounds.inverted_extended_iff.mpr ordered, dif_neg ordered,
        corners, dif_neg ordered⟩)

/-! ## Ways to be brought to a system -/

/-- **An envelope has to be moved** from one known system to another one. -/
structure Between (g : Geodesy) (e : Envelope) (reference : Option String)
    (source target : ReferenceSystem) : Prop where
  /-- The system of the envelope is known. -/
  before : find g (some e.crs) = .ok source
  /-- The system of the reference is known. -/
  after : find g reference = .ok target
  /-- They are different. -/
  different : source ≠ target

/-- An envelope has to be moved exactly if its system is a different one. -/
theorem exists_between_iff :
    (∃ source target, e.Between g reference source target) ↔
      Crs.same g (some e.crs) reference = .ok false := by
  rw [same_eq_false_iff]
  constructor
  · rintro ⟨source, target, before, after, different⟩
    obtain ⟨own, named, before⟩ := find_eq_ok.mp before
    obtain ⟨id, known, after⟩ := find_eq_ok.mp after
    exact ⟨own, id, named, known, source, target, before, after, different⟩
  · rintro ⟨own, id, named, known, source, target, before, after, different⟩
    exact ⟨source, target, find_eq_ok.mpr ⟨own, named, before⟩,
      find_eq_ok.mpr ⟨id, known, after⟩, different⟩

/-- **The bounds of an envelope are transformed** to another system, with a result or
an explanation why there is none. -/
structure Transforms (g : Geodesy) (e : Envelope) (reference : Option String)
    (target : ReferenceSystem) (outcome : Except String (Bounds Extended)) : Prop where
  /-- The envelope has to be moved from a system with an operation to the other one, and
  this comes of it. -/
  transformed : ∃ source, e.Between g reference source target ∧
    g.operation source target = .ok () ∧ g.transformBounds source target e.bounds = outcome

/-- **What can come of bringing an envelope to the system of a reference.** -/
inductive Brought (g : Geodesy) (e : Envelope) (reference : Option String) :
    Except Failure Envelope → Prop where
  /-- In the same system, the envelope keeps its bounds. -/
  | kept {crs : String} (known : normalize reference = .ok crs)
      (same : Crs.same g (some e.crs) reference = .ok true) :
      Brought g e reference (.ok { e with crs := crs })
  /-- The result is finite and in order, and the envelope of it can be built. -/
  | moved {target : ReferenceSystem} {result : Bounds Extended} {image : Envelope}
      (transforms : e.Transforms g reference target (.ok result))
      (finite : result.AllFinite) (upright : ¬result.Inverted)
      (built : ofBounds result reference = .ok image) :
      Brought g e reference (.ok image)
  /-- One of the two references is none, or its system is not known. -/
  | unsupported {either : Option String} {defect : CrsDefect}
      (either_of : either = some e.crs ∨ either = reference)
      (unknown : find g either = .error (.unsupportedCrs either defect)) :
      Brought g e reference (.error (.unsupportedCrs either defect))
  /-- There is no operation between the systems. -/
  | unconnected {source target : ReferenceSystem} {explanation : String}
      (between : e.Between g reference source target)
      (missing : g.operation source target = .error explanation) :
      Brought g e reference (.error (.noOperation explanation))
  /-- The transformation has no result. -/
  | noImage {target : ReferenceSystem} {explanation : String}
      (transforms : e.Transforms g reference target (.error explanation)) :
      Brought g e reference (.error
        (.transformFailure e.crs (reference.getD "") (.projection explanation)))
  /-- The result is not finite. -/
  | nonFinite {target : ReferenceSystem} {result : Bounds Extended}
      (transforms : e.Transforms g reference target (.ok result))
      (infinite : ¬result.AllFinite) :
      Brought g e reference (.error
        (.transformFailure e.crs (reference.getD "") (.nonFinite result)))
  /-- The result is finite and inverted. -/
  | inverted {target : ReferenceSystem} {result : Bounds Extended}
      (transforms : e.Transforms g reference target (.ok result))
      (finite : result.AllFinite) (inverted : result.Inverted) :
      Brought g e reference (.error
        (.transformFailure e.crs (reference.getD "") (invertedDefect target result)))

/-- The ways of an envelope whose bounds are transformed. -/
theorem Brought.of_transforms {source target : ReferenceSystem}
    (known : normalize reference = .ok crs) (between : e.Between g reference source target)
    (connected : g.operation source target = .ok ()) :
    e.Brought g reference
      (match e.transformed g source target crs with
        | .ok image => .ok image
        | .error defect =>
          .error (.transformFailure e.crs (reference.getD "") defect)) := by
  have transforms : e.Transforms g reference target
      (g.transformBounds source target e.bounds) :=
    ⟨source, between, connected, rfl⟩
  unfold transformed
  cases houtcome : g.transformBounds source target e.bounds with
  | error explanation => exact .noImage (houtcome ▸ transforms)
  | ok result =>
    rw [houtcome] at transforms
    show e.Brought g reference (match ofTransformed target crs result with
      | .ok image => .ok image
      | .error defect => .error (.transformFailure e.crs (reference.getD "") defect))
    obtain ⟨infinite, checked, -⟩ | ⟨finite, inverted, checked, -⟩ |
        ⟨finite, upright, image, checked, built⟩ := check_cases known target result
    · rw [checked]
      exact .nonFinite transforms infinite
    · rw [checked]
      exact .inverted transforms finite inverted
    · rw [checked]
      exact .moved transforms finite upright built

/-- **Every envelope is brought to a system in one of these ways.** -/
theorem brought (g : Geodesy) (e : Envelope) (reference : Option String) :
    e.Brought g reference (e.toCrs g reference) := by
  unfold toCrs
  cases hsame : Crs.same g (some e.crs) reference with
  | error failure =>
    rw [Except.error_bind]
    rcases find_of_same hsame with unknown | unknown
    · obtain ⟨defect, rfl⟩ := unsupported_of_find unknown
      exact .unsupported (.inl rfl) unknown
    · obtain ⟨defect, rfl⟩ := unsupported_of_find unknown
      exact .unsupported (.inr rfl) unknown
  | ok same =>
    cases same with
    | true =>
      obtain ⟨own, crs, -, known, -⟩ := same_eq_true_iff.mp hsame
      rw [known]
      exact .kept known hsame
    | false =>
      obtain ⟨source, target, between⟩ := exists_between_iff.mpr hsame
      obtain ⟨crs, known, -⟩ := find_eq_ok.mp between.after
      rw [known, systems_of_find between.before between.after]
      cases connected : g.operation source target with
      | ok there => exact .of_transforms known between connected
      | error explanation => exact .unconnected between connected

/-- Without an operation, an envelope is not brought to another system. -/
theorem toCrs_of_unconnected {source target : ReferenceSystem} {explanation : String}
    (between : e.Between g reference source target)
    (missing : g.operation source target = .error explanation) :
    e.toCrs g reference = .error (.noOperation explanation) := by
  obtain ⟨crs, known, -⟩ := find_eq_ok.mp between.after
  unfold toCrs
  rw [exists_between_iff.mp ⟨source, target, between⟩, known,
    systems_of_find between.before between.after, missing]
  rfl

/-- An envelope is built of its own bounds and a reference to its system. -/
theorem ofBounds_extended (known : normalize reference = .ok image.crs) :
    ofBounds image.bounds.extended reference = .ok image := by
  unfold ofBounds
  rw [known, Except.ok_bind, Bounds.finite?_extended]
  exact dif_pos image.ordered

end Envelope

end GeoCatalogue
