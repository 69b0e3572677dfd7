import GeoCatalogue.Proofs.Envelope.Identity
import GeoCatalogue.Proofs.Extent.Intersections
import Mathlib.Analysis.Convex.Segment
import Mathlib.Data.Real.Basic
import Mathlib.Tactic.Linarith

/-!
# Envelopes that overlap

An envelope is drawn as a point, as a segment along either axis or as a rectangle,
and which of these it is depends on which of its coordinates are equal. What is
drawn is a set of points of the plane (`Shape.region`), and it is the same set in
all cases: **the closed box between the two corners** (`Envelope.region_shape`).

So it does not matter which two kinds of geometry meet: in one system, envelopes
intersect exactly if their ends overlap on both axes, ends that touch included
(`intersects_iff_overlap`).
-/
namespace GeoCatalogue

/-! ## Points of the plane -/

/-- **The point of the plane at a position.** -/
noncomputable def Position.place (p : Position Binary64) : ℝ × ℝ :=
  (p.first.value, p.second.value)

/-- The points on the way from one position to another, both included. -/
def Position.wayTo (p q : Position Binary64) : Set (ℝ × ℝ) :=
  segment ℝ p.place q.place

/-- On which side of a directed line a point is: the number is positive on the left
of it, negative on the right, and zero on the line. -/
def sideOf (start stop z : ℝ × ℝ) : ℝ :=
  (stop.1 - start.1) * (z.2 - start.2) - (stop.2 - start.2) * (z.1 - start.1)

@[simp] theorem sideOf_vertical (a b b' : ℝ) (z : ℝ × ℝ) :
    sideOf (a, b) (a, b') z = (b' - b) * (a - z.1) := by
  unfold sideOf
  ring

@[simp] theorem sideOf_horizontal (a a' b : ℝ) (z : ℝ × ℝ) :
    sideOf (a, b) (a', b) z = (a' - a) * (z.2 - b) := by
  unfold sideOf
  ring

/-- **The points of a geometry**, those of its boundary included. The corners of a
rectangle go around it, and the inside is on the left of every edge. -/
def Shape.region : Shape → Set (ℝ × ℝ)
  | point p => {p.place}
  | segment start stop => start.wayTo stop
  | rectangle corners =>
    {z | ∀ edge ∈ corners.zip corners.tail,
      0 ≤ sideOf edge.1.place edge.2.place z}

/-- **The closed box between the corners of some bounds.** -/
def Bounds.box (b : Bounds Binary64) : Set (ℝ × ℝ) :=
  Set.Icc b.lower.place b.upper.place

namespace Bounds

variable {b c : Bounds Binary64} {x y : ℝ}

/-- A point is in the box if it is between the ends on both axes. -/
@[simp] theorem mem_box :
    (x, y) ∈ b.box ↔
      (b.lower.first.value ≤ x ∧ x ≤ b.upper.first.value) ∧
        (b.lower.second.value ≤ y ∧ y ≤ b.upper.second.value) := by
  unfold box Position.place
  rw [← Set.Icc_prod_Icc, Set.mem_prod, Set.mem_Icc, Set.mem_Icc]

/-- A box without width on the first axis is the way along the second. -/
theorem wayTo_of_flat_first (flat : b.lower.first.value = b.upper.first.value)
    (ordered : b.Ordered) : b.lower.wayTo b.upper = b.box := by
  have second : (b.lower.second.value : ℝ) ≤ b.upper.second.value :=
    Rat.cast_le.mpr ordered.2
  unfold Position.wayTo box Position.place
  rw [flat, ← Prod.image_mk_segment_right, segment_eq_Icc second, ← Set.Icc_prod_Icc,
    Set.Icc_self, Set.singleton_prod]

/-- A box without width on the second axis is the way along the first. -/
theorem wayTo_of_flat_second (flat : b.lower.second.value = b.upper.second.value)
    (ordered : b.Ordered) : b.lower.wayTo b.upper = b.box := by
  have first : (b.lower.first.value : ℝ) ≤ b.upper.first.value :=
    Rat.cast_le.mpr ordered.1
  unfold Position.wayTo box Position.place
  rw [flat, ← Prod.image_mk_segment_left, segment_eq_Icc first, ← Set.Icc_prod_Icc,
    Set.Icc_self, Set.prod_singleton]

/-- The ring of edges around bounds, from the end of the first axis on. -/
def ring (b : Bounds Binary64) : List (Position Binary64) :=
  [⟨b.upper.first, b.lower.second⟩, b.upper, ⟨b.lower.first, b.upper.second⟩,
    b.lower, ⟨b.upper.first, b.lower.second⟩]

/-- **The inside of the ring around bounds** that are wide on both axes is their
box: each edge is the limit on one side. -/
theorem region_ring (first : b.lower.first.value < b.upper.first.value)
    (second : b.lower.second.value < b.upper.second.value) :
    (Shape.rectangle b.ring).region = b.box := by
  have width : (0 : ℝ) < b.upper.first.value - b.lower.first.value :=
    sub_pos.mpr (Rat.cast_lt.mpr first)
  have height : (0 : ℝ) < b.upper.second.value - b.lower.second.value :=
    sub_pos.mpr (Rat.cast_lt.mpr second)
  ext ⟨x, y⟩
  rw [mem_box]
  simp only [Shape.region, Set.mem_ofPred_eq, ring, List.tail_cons,
    List.zip_cons_cons, List.zip_nil_right, List.forall_mem_cons,
    Position.place, sideOf_vertical, sideOf_horizontal]
  -- the edges run up on the right, back on top, down on the left and along the bottom
  have right : 0 ≤ ((b.upper.second.value : ℝ) - b.lower.second.value) *
        (b.upper.first.value - x) ↔ x ≤ b.upper.first.value := by
    rw [mul_nonneg_iff_of_pos_left height, sub_nonneg]
  have top : 0 ≤ ((b.lower.first.value : ℝ) - b.upper.first.value) *
        (y - b.upper.second.value) ↔ y ≤ b.upper.second.value := by
    rw [← neg_mul_neg, neg_sub, neg_sub, mul_nonneg_iff_of_pos_left width, sub_nonneg]
  have left : 0 ≤ ((b.lower.second.value : ℝ) - b.upper.second.value) *
        (b.lower.first.value - x) ↔ b.lower.first.value ≤ x := by
    rw [← neg_mul_neg, neg_sub, neg_sub, mul_nonneg_iff_of_pos_left height, sub_nonneg]
  have bottom : 0 ≤ ((b.upper.first.value : ℝ) - b.lower.first.value) *
        (y - b.lower.second.value) ↔ b.lower.second.value ≤ y := by
    rw [mul_nonneg_iff_of_pos_left width, sub_nonneg]
  rw [right, top, left, bottom]
  tauto

end Bounds

namespace Envelope

variable {e f : Envelope}

/-- **An envelope is drawn as the closed box between its corners**, whichever kind
of geometry it is drawn with. -/
@[simp] theorem region_shape (e : Envelope) : e.shape.region = e.bounds.box := by
  unfold shape
  split
  case isTrue point =>
    obtain ⟨first, second⟩ := (Bool.and_eq_true _ _).mp point
    have same : e.bounds.lower.place = e.bounds.upper.place :=
      Prod.ext (congrArg Rat.cast (Binary64.sameValue_iff.mp first))
        (congrArg Rat.cast (Binary64.sameValue_iff.mp second))
    rw [Shape.region, Bounds.box, same, Set.Icc_self]
  case isFalse =>
    split
    case isTrue flat =>
      rcases (Bool.or_eq_true _ _).mp flat with first | second
      · exact Bounds.wayTo_of_flat_first (Binary64.sameValue_iff.mp first) e.ordered
      · exact Bounds.wayTo_of_flat_second (Binary64.sameValue_iff.mp second) e.ordered
    case isFalse wide =>
      rw [isDegenerate, Bool.or_eq_true, not_or] at wide
      have first := lt_of_le_of_ne e.ordered.1 (wide.1 ∘ Binary64.sameValue_iff.mpr)
      have second := lt_of_le_of_ne e.ordered.2 (wide.2 ∘ Binary64.sameValue_iff.mpr)
      exact Bounds.region_ring first second

/-- **Two envelopes overlap**: on neither axis does one of them end before the other
one begins. -/
structure Overlaps (e f : Envelope) : Prop where
  /-- On the first axis, the first one begins where the second one has not ended. -/
  firstStarts : e.bounds.lower.first ≤ f.bounds.upper.first
  /-- There, the first one has not ended where the second one begins. -/
  firstEnds : f.bounds.lower.first ≤ e.bounds.upper.first
  /-- On the second axis, the first one begins where the second one has not
  ended. -/
  secondStarts : e.bounds.lower.second ≤ f.bounds.upper.second
  /-- There, the first one has not ended where the second one begins. -/
  secondEnds : f.bounds.lower.second ≤ e.bounds.upper.second

theorem Overlaps.symm (h : e.Overlaps f) : f.Overlaps e :=
  ⟨h.firstEnds, h.firstStarts, h.secondEnds, h.secondStarts⟩

/-- The test for common points is one for overlaps. -/
@[simp] theorem meet_bounds_iff : e.bounds.meet f.bounds = true ↔ e.Overlaps f := by
  unfold Bounds.meet
  simp only [Bool.and_eq_true, decide_eq_true_eq]
  constructor
  · rintro ⟨⟨⟨firstStarts, firstEnds⟩, secondStarts⟩, secondEnds⟩
    exact ⟨firstStarts, firstEnds, secondStarts, secondEnds⟩
  · rintro ⟨firstStarts, firstEnds, secondStarts, secondEnds⟩
    exact ⟨⟨⟨firstStarts, firstEnds⟩, secondStarts⟩, secondEnds⟩

/-- Whether two envelopes overlap can be tested. -/
instance (e f : Envelope) : Decidable (e.Overlaps f) :=
  decidable_of_iff _ meet_bounds_iff

/-- **Boxes have a point in common exactly if the envelopes overlap.** -/
@[simp] theorem inter_box_nonempty_iff :
    (e.bounds.box ∩ f.bounds.box).Nonempty ↔ e.Overlaps f := by
  have first : (e.bounds.lower.first.value : ℝ) ≤ e.bounds.upper.first.value :=
    Rat.cast_le.mpr e.ordered.1
  have second : (e.bounds.lower.second.value : ℝ) ≤ e.bounds.upper.second.value :=
    Rat.cast_le.mpr e.ordered.2
  have first' : (f.bounds.lower.first.value : ℝ) ≤ f.bounds.upper.first.value :=
    Rat.cast_le.mpr f.ordered.1
  have second' : (f.bounds.lower.second.value : ℝ) ≤ f.bounds.upper.second.value :=
    Rat.cast_le.mpr f.ordered.2
  unfold Bounds.box
  rw [Set.Icc_inter_Icc, Set.nonempty_Icc, sup_le_iff, le_inf_iff, le_inf_iff]
  constructor
  · rintro ⟨⟨-, starts⟩, ends, -⟩
    exact ⟨Rat.cast_le.mp starts.1, Rat.cast_le.mp ends.1, Rat.cast_le.mp starts.2,
      Rat.cast_le.mp ends.2⟩
  · rintro ⟨firstStarts, firstEnds, secondStarts, secondEnds⟩
    exact ⟨⟨⟨first, second⟩, Rat.cast_le.mpr firstStarts, Rat.cast_le.mpr secondStarts⟩,
      ⟨Rat.cast_le.mpr firstEnds, Rat.cast_le.mpr secondEnds⟩, first', second'⟩

/-- **Comparing the geometries of two envelopes decides whether the sets of points
that they are meet**, boundaries included. -/
theorem shape_intersects_iff_region :
    e.shape.intersects f.shape = true ↔
      (e.shape.region ∩ f.shape.region).Nonempty := by
  rw [region_shape, region_shape, shape_intersects, meet_bounds_iff,
    inter_box_nonempty_iff]

end Envelope

/-! ## One system -/

variable {g : Geodesy} {r c : Envelope}

/-- In one system, envelopes are compared by their bounds as they are. -/
theorem intersects_of_same (same : Crs.same g (some r.crs) (some c.crs) = .ok true) :
    intersects g r c = .ok (decide (r.Overlaps c)) := by
  unfold intersects inSystemOf
  rw [same, Except.ok_bind, if_pos rfl, Except.ok_bind, Envelope.shape_intersects]
  exact congrArg Except.ok
    (Bool.eq_iff_iff.mpr (Envelope.meet_bounds_iff.trans decide_eq_true_iff.symm))

/-- **Envelopes of one system intersect exactly if they overlap.** Let the
identifiers of two envelopes denote one system; an identifier that is no reference
denotes none. Whatever the two are drawn with – points, segments along either axis,
rectangles – testing for common points gives an answer, which is whether neither ends
before the other one begins on one of the axes, touching ends included. So each of
them intersects itself, and their order does not matter.

The answer is right for the points themselves: an envelope is drawn as the closed box
between its corners, and the drawings of two are said to have a point in common
exactly if there is one. -/
theorem intersects_iff_overlap (g : Geodesy) :
    (∀ e : Envelope, e.shape.region = e.bounds.box) ∧
    (∀ e f : Envelope, e.shape.intersects f.shape = true ↔
      (e.shape.region ∩ f.shape.region).Nonempty) ∧
    ∀ r c : Envelope, Crs.same g (some r.crs) (some c.crs) = .ok true →
      intersects g r c = .ok (decide (r.Overlaps c)) ∧
      intersects g c r = intersects g r c ∧
      intersects g r r = .ok true ∧ intersects g c c = .ok true := by
  refine ⟨Envelope.region_shape, fun _ _ => Envelope.shape_intersects_iff_region,
    fun r c same => ?_⟩
  obtain ⟨id, own, hid, hown, system⟩ := Crs.same_eq_true_iff.mp same
  have same' : Crs.same g (some c.crs) (some r.crs) = .ok true :=
    Crs.same_eq_true_iff.mpr ⟨own, id, hown, hid, system.symm⟩
  refine ⟨intersects_of_same same, ?_, ?_, ?_⟩
  · rw [intersects_of_same same, intersects_of_same same',
      decide_eq_decide.mpr ⟨Envelope.Overlaps.symm, Envelope.Overlaps.symm⟩]
  · rw [Envelope.intersects_self, hid]
    rfl
  · rw [Envelope.intersects_self, hown]
    rfl

/-- The square between zero and one degree. -/
def Envelope.unitSquare : Envelope :=
  let one := Envelope.eastward.bounds.lower.first
  ⟨⟨⟨.zero false, .zero false⟩, ⟨one, one⟩⟩, "EPSG:4326", by decide +kernel⟩

/-- A segment along the second axis, under another identifier. -/
def Envelope.unitSegment : Envelope :=
  let one := Envelope.eastward.bounds.lower.first
  ⟨⟨⟨one, .zero true⟩, ⟨one, one⟩⟩, "EPSG:04326", by decide +kernel⟩

/-- A square and a segment that is one of its edges: the points that they have in
common are on the boundary of both. -/
theorem intersects_edge :
    let g := Geodesy.standard "unknown"
    Crs.same g (some Envelope.unitSquare.crs) (some Envelope.unitSegment.crs)
      = .ok true ∧
    Envelope.unitSquare.Overlaps Envelope.unitSegment ∧
    intersects g .unitSegment .unitSquare = .ok true := by
  intro g
  have same : Crs.same g (some Envelope.unitSquare.crs)
      (some Envelope.unitSegment.crs) = .ok true := by decide +kernel
  have overlap : Envelope.unitSquare.Overlaps Envelope.unitSegment := by
    decide +kernel
  obtain ⟨answer, symmetric, -⟩ := (intersects_iff_overlap g).2.2 _ _ same
  rw [decide_eq_true overlap] at answer
  exact ⟨same, overlap, symmetric.trans answer⟩

end GeoCatalogue
