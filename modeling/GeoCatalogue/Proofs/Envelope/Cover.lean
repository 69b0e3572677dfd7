import GeoCatalogue.Envelope.Transformation
import Mathlib.Algebra.Order.Ring.Unbundled.Rat

/-!
# Bounds that hold others

Bounds are compared by the values of their coordinates: some bounds lie
**within** others when the lower corner is not below and the upper corner
not above that of the others. The hull of two bounds is the least that both
lie within, and so the hull of many bounds, taken one after the other, is
their **least cover** (`IsLeastCover`). What a least cover is depends neither
on the order of the bounds nor on how often each of them occurs.
-/
namespace GeoCatalogue

namespace Binary64

@[simp] theorem value_smaller (x y : Binary64) :
    (smaller x y).value = min x.value y.value := by
  unfold smaller
  split
  · next h => exact (min_eq_right (le_of_lt h)).symm
  · next h => exact (min_eq_left (not_lt.mp h)).symm

@[simp] theorem value_larger (x y : Binary64) :
    (larger x y).value = max x.value y.value := by
  unfold larger
  split
  · next h => exact (max_eq_right (le_of_lt h)).symm
  · next h => exact (max_eq_left (not_lt.mp h)).symm

@[simp] theorem sameValue_iff {x y : Binary64} :
    x.sameValue y = true ↔ x.value = y.value :=
  beq_iff_eq

end Binary64

namespace Bounds

/-- **Bounds within others**, which may have sides in common. -/
structure Within (b c : Bounds Binary64) : Prop where
  /-- The lower end on the first axis. -/
  lowerFirst : c.lower.first.value ≤ b.lower.first.value
  /-- The lower end on the second axis. -/
  lowerSecond : c.lower.second.value ≤ b.lower.second.value
  /-- The upper end on the first axis. -/
  upperFirst : b.upper.first.value ≤ c.upper.first.value
  /-- The upper end on the second axis. -/
  upperSecond : b.upper.second.value ≤ c.upper.second.value

variable {b c d : Bounds Binary64}

@[simp] theorem Within.refl (b : Bounds Binary64) : b.Within b :=
  ⟨le_refl _, le_refl _, le_refl _, le_refl _⟩

theorem Within.trans (h : b.Within c) (k : c.Within d) : b.Within d :=
  ⟨le_trans k.lowerFirst h.lowerFirst, le_trans k.lowerSecond h.lowerSecond,
    le_trans h.upperFirst k.upperFirst, le_trans h.upperSecond k.upperSecond⟩

/-- **The hull of two bounds lies within others exactly when both do.** -/
@[simp] theorem hull_within_iff : (b.hull c).Within d ↔ b.Within d ∧ c.Within d := by
  constructor
  · rintro ⟨lowerFirst, lowerSecond, upperFirst, upperSecond⟩
    rw [hull, Binary64.value_smaller, le_min_iff] at lowerFirst lowerSecond
    rw [hull, Binary64.value_larger, max_le_iff] at upperFirst upperSecond
    exact ⟨⟨lowerFirst.1, lowerSecond.1, upperFirst.1, upperSecond.1⟩,
      ⟨lowerFirst.2, lowerSecond.2, upperFirst.2, upperSecond.2⟩⟩
  · rintro ⟨hb, hc⟩
    constructor
    · rw [hull, Binary64.value_smaller]
      exact le_min hb.lowerFirst hc.lowerFirst
    · rw [hull, Binary64.value_smaller]
      exact le_min hb.lowerSecond hc.lowerSecond
    · rw [hull, Binary64.value_larger]
      exact max_le hb.upperFirst hc.upperFirst
    · rw [hull, Binary64.value_larger]
      exact max_le hb.upperSecond hc.upperSecond

@[simp] theorem hull_self (b : Bounds Binary64) : b.hull b = b := by
  have smaller (x : Binary64) : x.smaller x = x := ite_self x
  have larger (x : Binary64) : x.larger x = x := ite_self x
  rw [hull, smaller, smaller, larger, larger]

/-! ## Least covers -/

/-- **The least bounds that all bounds of a kind lie within.** -/
structure IsLeastCover (kind : Bounds Binary64 → Prop)
    (b : Bounds Binary64) : Prop where
  /-- They hold all of them. -/
  holds : ∀ c, kind c → c.Within b
  /-- They lie within all that do. -/
  least : ∀ d, (∀ c, kind c → c.Within d) → b.Within d

theorem isLeastCover_self (b : Bounds Binary64) : IsLeastCover (· = b) b where
  holds := by
    rintro c rfl
    exact .refl c
  least := fun d h => h b rfl

/-- **The hull of two least covers** is the least cover of what both of them
cover. -/
theorem IsLeastCover.union {kind kind' : Bounds Binary64 → Prop}
    (h : IsLeastCover kind b) (k : IsLeastCover kind' c) :
    IsLeastCover (fun d => kind d ∨ kind' d) (b.hull c) where
  holds := by
    obtain ⟨hb, hc⟩ := hull_within_iff.mp (Within.refl (b.hull c))
    rintro d (hd | hd)
    · exact (h.holds d hd).trans hb
    · exact (k.holds d hd).trans hc
  least := fun d hd => hull_within_iff.mpr
    ⟨h.least d fun e he => hd e (.inl he),
      k.least d fun e he => hd e (.inr he)⟩

/-- The hull of a least cover and more bounds is the least cover of what there
was and these. -/
theorem IsLeastCover.hull {kind : Bounds Binary64 → Prop}
    (h : IsLeastCover kind b) (c : Bounds Binary64) :
    IsLeastCover (fun d => kind d ∨ d = c) (b.hull c) :=
  h.union (isLeastCover_self c)

/-- **There is one least cover**, by its values. -/
theorem IsLeastCover.within {kind : Bounds Binary64 → Prop}
    (h : IsLeastCover kind b) (k : IsLeastCover kind c) : b.Within c :=
  h.least c k.holds

/-- What a least cover is depends on which bounds there are, and on nothing
else. -/
theorem IsLeastCover.congr {kind kind' : Bounds Binary64 → Prop}
    (h : IsLeastCover kind b) (same : ∀ c, kind c ↔ kind' c) :
    IsLeastCover kind' b where
  holds := fun c hc => h.holds c ((same c).mpr hc)
  least := fun d hd => h.least d fun c hc => hd c ((same c).mp hc)

end Bounds

/-- **Envelopes of one system whose bounds lie within each other** are
equal. -/
theorem Envelope.sameAs_of_within {e f : Envelope} (crs : e.crs = f.crs)
    (h : e.bounds.Within f.bounds) (k : f.bounds.Within e.bounds) :
    e.sameAs f = true := by
  unfold sameAs
  rw [Binary64.sameValue_iff.mpr (le_antisymm k.lowerFirst h.lowerFirst),
    Binary64.sameValue_iff.mpr (le_antisymm k.lowerSecond h.lowerSecond),
    Binary64.sameValue_iff.mpr (le_antisymm h.upperFirst k.upperFirst),
    Binary64.sameValue_iff.mpr (le_antisymm h.upperSecond k.upperSecond)]
  exact beq_iff_eq.mpr crs

end GeoCatalogue
