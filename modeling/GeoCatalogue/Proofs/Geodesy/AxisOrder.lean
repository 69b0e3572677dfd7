import GeoCatalogue.Extent
import GeoCatalogue.Geodesy.Standard
import GeoCatalogue.Proofs.Number.Nearest
import Mathlib.Tactic.Linarith

/-!
# Latitude first, longitude first

Longitude and latitude of WGS 84 are known under two identifiers, one for each
order of the axes. What is relied on, of any geodesy, is that between these two there
are operations, and that a transformation is the exchange of the axes, as long as the
area is on the globe (`Geodesy.ExchangesAxes`). The standard geodesy does this
(`Geodesy.exchangesAxes_standard`): all that could go wrong is the extent of the
area, and on the globe that is a number of the format.
-/
namespace GeoCatalogue

namespace Bounds

variable {b c : Bounds Binary64}

/-- **Bounds on the globe**, the latitude first: from pole to pole and once
around. -/
structure OnGlobe (b : Bounds Binary64) : Prop where
  /-- The southern edge is not beyond the pole. -/
  south : -90 ≤ b.lower.first.value
  /-- The northern edge is not beyond the pole. -/
  north : b.upper.first.value ≤ 90
  /-- The western edge is not beyond the antimeridian. -/
  west : -180 ≤ b.lower.second.value
  /-- The eastern edge is not beyond the antimeridian. -/
  east : b.upper.second.value ≤ 180

instance (b : Bounds Binary64) : Decidable b.OnGlobe :=
  decidable_of_iff (-90 ≤ b.lower.first.value ∧ b.upper.first.value ≤ 90 ∧
      -180 ≤ b.lower.second.value ∧ b.upper.second.value ≤ 180)
    ⟨fun ⟨south, north, west, east⟩ => ⟨south, north, west, east⟩,
      fun ⟨south, north, west, east⟩ => ⟨south, north, west, east⟩⟩

theorem Ordered.swap (h : b.Ordered) : b.swap.Ordered :=
  ⟨h.2, h.1⟩

/-- **Exchanging the axes of both does not change whether bounds meet.** -/
@[simp] theorem meet_swap (b c : Bounds Binary64) :
    b.swap.meet c.swap = b.meet c := by
  unfold meet
  rw [Bool.and_assoc, Bool.and_comm, ← Bool.and_assoc]
  rfl

/-- Ordered bounds on the globe have an extent on both axes. -/
theorem OnGlobe.hasExtent (h : b.OnGlobe) (ordered : b.Ordered) :
    Geodesy.hasExtent b = true := by
  obtain ⟨south, north, west, east⟩ := h
  have first : b.lower.first.value ≤ b.upper.first.value := ordered.1
  have second : b.lower.second.value ≤ b.upper.second.value := ordered.2
  have large : (360 : ℚ) < 2 ^ (1023 : ℤ) :=
    calc (360 : ℚ) < 2 ^ (9 : ℤ) := by norm_num
      _ ≤ 2 ^ (1023 : ℤ) := zpow_le_zpow_right₀ one_le_two (by decide)
  unfold Geodesy.hasExtent
  rw [Bool.and_eq_true]
  constructor
  · refine Extended.isFinite_ofRat (lt_of_le_of_lt ?_ large)
    rw [abs_of_nonneg (sub_nonneg.mpr first)]
    linarith only [south, north]
  · refine Extended.isFinite_ofRat (lt_of_le_of_lt ?_ large)
    rw [abs_of_nonneg (sub_nonneg.mpr second)]
    linarith only [west, east]

end Bounds

/-- The identifier of WGS 84 with the latitude first. -/
def Crs.latitudeFirst : String := "EPSG:4326"

/-- The identifier of WGS 84 with the longitude first. -/
def Crs.longitudeFirst : String := "OGC:CRS84"

namespace Geodesy

/-- **A geodesy that exchanges the axes** between two different systems, which
are known under the identifiers for the two orders. -/
structure ExchangesAxes (g : Geodesy) (latLon lonLat : ReferenceSystem) :
    Prop where
  /-- One system has the latitude first. -/
  find_latLon : g.find Crs.latitudeFirst = .ok latLon
  /-- The other one has the longitude first. -/
  find_lonLat : g.find Crs.longitudeFirst = .ok lonLat
  /-- They are not the same. -/
  different : latLon ≠ lonLat
  /-- There are operations in both directions. -/
  connected : g.operation latLon lonLat = .ok () ∧ g.operation lonLat latLon = .ok ()
  /-- The axes are exchanged in one direction. -/
  toLonLat : ∀ b : Bounds Binary64, b.Ordered → b.OnGlobe →
    g.transformBounds latLon lonLat b = .ok b.swap.extended
  /-- The axes are exchanged in the other direction. -/
  toLatLon : ∀ b : Bounds Binary64, b.Ordered → b.OnGlobe →
    g.transformBounds lonLat latLon b.swap = .ok b.extended

/-- Between the two orders, the standard geodesy exchanges the axes of all bounds
with an extent. -/
theorem transformBounds_of_hasExtent (explanation : String)
    {source target : ReferenceSystem} (hsource : source.method = .geographic)
    (htarget : target.method = .geographic) (axes : source.axes ≠ target.axes)
    {b : Bounds Binary64} (extent : hasExtent b = true) :
    (standard explanation).transformBounds source target b
      = .ok b.swap.extended := by
  have exchanged : transform? source target b = some b.swap.extended := by
    unfold transform?
    simp only [hsource, htarget]
    unfold exchangeAxes
    rw [extent, if_neg axes]
    rfl
  unfold standard
  dsimp only
  rw [exchanged]

/-- **The standard geodesy exchanges the axes.** -/
theorem exchangesAxes_standard (explanation : String) :
    (standard explanation).ExchangesAxes wgs84 crs84 where
  find_latLon := rfl
  find_lonLat := rfl
  different := by decide
  connected := ⟨rfl, rfl⟩
  toLonLat b ordered onGlobe :=
    transformBounds_of_hasExtent explanation rfl rfl (by decide)
      (onGlobe.hasExtent ordered)
  toLatLon b ordered onGlobe := by
    refine transformBounds_of_hasExtent explanation rfl rfl (by decide) ?_
    have extent := onGlobe.hasExtent ordered
    unfold hasExtent at extent ⊢
    rwa [Bool.and_comm] at extent

end Geodesy

end GeoCatalogue
