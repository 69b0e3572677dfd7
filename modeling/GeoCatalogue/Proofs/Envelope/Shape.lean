import GeoCatalogue.Extent
import GeoCatalogue.Proofs.Envelope.Cover

/-!
# The geometry of an envelope

An envelope is drawn as a point, a segment or a rectangle. Whichever it is,
the extent of the drawing is that of the envelope (`exists_extent_shape`), so
two drawings have a point in common exactly when the bounds do
(`shape_intersects`) – that is, when some point lies in both envelopes
(`shape_intersects_iff`).
-/
namespace GeoCatalogue

namespace Bounds

variable {b c d : Bounds Binary64}

/-- Bounds lie within others if both of their corners do. -/
theorem within_of_corners (hlower : Within ⟨b.lower, b.lower⟩ c)
    (hupper : Within ⟨b.upper, b.upper⟩ c) : b.Within c :=
  ⟨hlower.lowerFirst, hlower.lowerSecond, hupper.upperFirst,
    hupper.upperSecond⟩

/-- **A hull of points lies within bounds exactly when the points do.** -/
@[simp] theorem hullOf_within_iff {points : List (Position Binary64)} :
    (Shape.extent.hullOf b points).Within d ↔
      b.Within d ∧ ∀ p ∈ points, Within ⟨p, p⟩ d := by
  induction points generalizing b with
  | nil => simp [Shape.extent.hullOf]
  | cons p rest ih =>
    have step : Shape.extent.hullOf b (p :: rest)
        = Shape.extent.hullOf (b.hull ⟨p, p⟩) rest := rfl
    rw [step, ih, hull_within_iff, List.forall_mem_cons, and_assoc]

/-- **The hull of points of some bounds, their corners among them,** is
these bounds. -/
theorem hullOf_corners {p : Position Binary64}
    {rest : List (Position Binary64)}
    (inside : ∀ q ∈ p :: rest, Within ⟨q, q⟩ b)
    (hlower : b.lower ∈ p :: rest) (hupper : b.upper ∈ p :: rest) :
    (Shape.extent.hullOf ⟨p, p⟩ rest).Within b ∧
      b.Within (Shape.extent.hullOf ⟨p, p⟩ rest) := by
  refine ⟨hullOf_within_iff.mpr (List.forall_mem_cons.mp inside), ?_⟩
  have points : ∀ q ∈ p :: rest,
      Within ⟨q, q⟩ (Shape.extent.hullOf ⟨p, p⟩ rest) :=
    List.forall_mem_cons.mpr (hullOf_within_iff.mp (.refl _))
  exact within_of_corners (points _ hlower) (points _ hupper)

/-- Bounds meet others by their values. -/
theorem meet_congr {b' c' : Bounds Binary64} (hb : b.Within b')
    (hb' : b'.Within b) (hc : c.Within c') (hc' : c'.Within c) :
    b.meet c = b'.meet c' := by
  have le {x y x' y' : Binary64} (hx : x.value = x'.value)
      (hy : y.value = y'.value) : decide (x ≤ y) = decide (x' ≤ y') := by
    refine decide_eq_decide.mpr ?_
    show x.value ≤ y.value ↔ x'.value ≤ y'.value
    rw [hx, hy]
  unfold meet
  rw [le (le_antisymm hb'.lowerFirst hb.lowerFirst)
      (le_antisymm hc.upperFirst hc'.upperFirst),
    le (le_antisymm hc'.lowerFirst hc.lowerFirst)
      (le_antisymm hb.upperFirst hb'.upperFirst),
    le (le_antisymm hb'.lowerSecond hb.lowerSecond)
      (le_antisymm hc.upperSecond hc'.upperSecond),
    le (le_antisymm hc'.lowerSecond hc.lowerSecond)
      (le_antisymm hb.upperSecond hb'.upperSecond)]

@[simp] theorem Ordered.meet_self (h : b.Ordered) : b.meet b = true := by
  unfold meet
  rw [decide_eq_true h.1, decide_eq_true h.2]
  rfl

end Bounds

namespace Envelope

open Bounds

/-- **The extent of the drawing of an envelope** is that of the envelope. The drawing is a
point, a segment or a rectangle, whatever the envelope reaches to, and its extent is that of
its corners. The two agree in their values, if not in the signs of zeros. -/
theorem exists_extent_shape (e : Envelope) :
    ∃ b, e.shape.extent = some b ∧ b.Within e.bounds ∧ e.bounds.Within b := by
  obtain ⟨⟨lower, upper⟩, crs, first, second⟩ := e
  -- the ends of both axes are in order, and so are all four corners
  have within {x y : Binary64} (hx : lower.first.value ≤ x.value ∧
        x.value ≤ upper.first.value)
      (hy : lower.second.value ≤ y.value ∧ y.value ≤ upper.second.value) :
      Bounds.Within ⟨⟨x, y⟩, ⟨x, y⟩⟩ ⟨lower, upper⟩ :=
    ⟨hx.1, hy.1, hx.2, hy.2⟩
  have lowFirst := And.intro (le_refl lower.first.value) first
  have highFirst := And.intro first (le_refl upper.first.value)
  have lowSecond := And.intro (le_refl lower.second.value) second
  have highSecond := And.intro second (le_refl upper.second.value)
  unfold shape
  split
  · next flat =>
    rw [Bool.and_eq_true] at flat
    refine ⟨⟨lower, lower⟩, rfl, within lowFirst lowSecond, ?_⟩
    exact ⟨le_refl _, le_refl _,
      (Binary64.sameValue_iff.mp flat.1).symm.le,
      (Binary64.sameValue_iff.mp flat.2).symm.le⟩
  · split
    · refine ⟨_, rfl, hullOf_corners ?_ (.head _) (.tail _ (.head _))⟩
      simp only [List.forall_mem_cons]
      exact ⟨within lowFirst lowSecond, within highFirst highSecond,
        List.forall_mem_nil _⟩
    -- the ring starts and ends at the lower right corner
    · refine ⟨_, rfl, hullOf_corners ?_
        (.tail _ (.tail _ (.tail _ (.head _)))) (.tail _ (.head _))⟩
      simp only [List.forall_mem_cons]
      exact ⟨within highFirst lowSecond, within highFirst highSecond,
        within lowFirst highSecond, within lowFirst lowSecond,
        within highFirst lowSecond, List.forall_mem_nil _⟩

/-- **Two envelopes have a point in common exactly when their bounds
meet.** -/
@[simp] theorem shape_intersects (e f : Envelope) :
    e.shape.intersects f.shape = e.bounds.meet f.bounds := by
  obtain ⟨b, hb, hbe, heb⟩ := e.exists_extent_shape
  obtain ⟨c, hc, hcf, hfc⟩ := f.exists_extent_shape
  unfold Shape.intersects
  rw [hb, hc]
  exact meet_congr hbe heb hcf hfc

/-! ## Common points -/

variable {e f : Envelope} {x y : Rat}

@[simp] theorem holds_lower (e : Envelope) :
    e.Holds e.bounds.lower.first.value e.bounds.lower.second.value :=
  ⟨le_refl _, e.ordered.1, le_refl _, e.ordered.2⟩

/-- What an envelope holds is held by every envelope that it lies within. -/
theorem Holds.of_within (h : e.Holds x y) (within : e.bounds.Within f.bounds) :
    f.Holds x y := by
  obtain ⟨left, right, below, above⟩ := h
  exact ⟨le_trans within.lowerFirst left, le_trans right within.upperFirst,
    le_trans within.lowerSecond below, le_trans above within.upperSecond⟩

/-- **Two envelopes intersect exactly when some point lies in both.** -/
theorem shape_intersects_iff :
    e.shape.intersects f.shape = true ↔
      ∃ x y, e.Holds x y ∧ f.Holds x y := by
  rw [shape_intersects]
  unfold meet
  simp only [Bool.and_eq_true, decide_eq_true_eq]
  constructor
  · rintro ⟨⟨⟨left, right⟩, below⟩, above⟩
    -- on each axis the larger of the lower ends lies in both
    exact ⟨max e.bounds.lower.first.value f.bounds.lower.first.value,
      max e.bounds.lower.second.value f.bounds.lower.second.value,
      ⟨le_max_left _ _, max_le e.ordered.1 right,
        le_max_left _ _, max_le e.ordered.2 above⟩,
      ⟨le_max_right _ _, max_le left f.ordered.1,
        le_max_right _ _, max_le below f.ordered.2⟩⟩
  · rintro ⟨x, y, ⟨he₁, he₂, he₃, he₄⟩, hf₁, hf₂, hf₃, hf₄⟩
    exact ⟨⟨⟨le_trans he₁ hf₂, le_trans hf₁ he₂⟩, le_trans he₃ hf₄⟩,
      le_trans hf₃ he₄⟩

end Envelope

end GeoCatalogue
