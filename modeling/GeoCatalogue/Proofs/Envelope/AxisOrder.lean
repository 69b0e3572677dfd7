import GeoCatalogue.Proofs.Envelope.Identity
import GeoCatalogue.Proofs.Extent.Intersections
import GeoCatalogue.Proofs.Geodesy.AxisOrder

/-!
# Envelopes in either axis order

An area of the globe can be written with the latitude first or with the longitude
first. Which of the two an envelope does is settled by its reference system, and
its **area** is what it says with the latitude first (`Envelope.Covers`). If the
geodesy exchanges the axes, nothing but the area counts: it decides the image in
either system, hence the value of a box parameter and which envelopes are
intersected. So envelopes of the same area can be put in the place of each other
(`Envelope.interchangeable_of_covers`).
-/
namespace GeoCatalogue

open Crs

variable {g : Geodesy} {latLon lonLat : ReferenceSystem}

/-- A reference to a system that is known under an identifier. -/
theorem Crs.exists_sameSystem {reference : Option String} {id : String}
    (stable : normalize (some id) = .ok id)
    (h : Crs.same g reference (some id) = .ok true) :
    ∃ own, normalize reference = .ok own ∧ SameSystem g own id := by
  obtain ⟨own, id', named, hid, same⟩ := same_eq_true_iff.mp h
  obtain rfl := Except.ok.inj (stable.symm.trans hid)
  exact ⟨own, named, same⟩

@[simp] theorem Crs.normalize_latitudeFirst :
    normalize (some latitudeFirst) = .ok latitudeFirst := rfl

@[simp] theorem Crs.normalize_longitudeFirst :
    normalize (some longitudeFirst) = .ok longitudeFirst := rfl

namespace Envelope

variable {e f x : Envelope} {b c : Bounds Binary64} {id : String}
  {reference : Option String}

/-- **The area of an envelope**, said with the latitude first. -/
inductive Covers (g : Geodesy) (e : Envelope) (b : Bounds Binary64) : Prop where
  /-- The envelope has the latitude first. -/
  | ofLatLon
      (system : Crs.same g (some e.crs) (some latitudeFirst) = .ok true)
      (bounds : e.bounds = b) : Covers g e b
  /-- The envelope has the longitude first. -/
  | ofLonLat
      (system : Crs.same g (some e.crs) (some longitudeFirst) = .ok true)
      (bounds : e.bounds = b.swap) : Covers g e b

/-- An area is ordered as its envelope is. -/
theorem Covers.ordered (h : e.Covers g b) : b.Ordered := by
  cases h with
  | ofLatLon _ bounds => exact bounds ▸ e.ordered
  | ofLonLat _ bounds =>
    have ordered := e.ordered
    rw [bounds] at ordered
    exact ordered.swap

/-- **With the latitude first, an envelope has its area as its image.** -/
theorem Covers.imageIn_latitudeFirst (exchanges : g.ExchangesAxes latLon lonLat)
    (h : e.Covers g b) (onGlobe : b.OnGlobe)
    (same : SameSystem g id latitudeFirst) : e.ImageIn g id b := by
  have ordered := h.ordered
  cases h with
  | ofLatLon system bounds =>
    obtain ⟨own, named, known⟩ := exists_sameSystem normalize_latitudeFirst system
    exact bounds ▸ .kept named (known.trans same.symm)
  | ofLonLat system bounds =>
    obtain ⟨own, named, known⟩ := exists_sameSystem normalize_longitudeFirst system
    exact .moved named (known.symm.find exchanges.find_lonLat)
      (same.symm.find exchanges.find_latLon) exchanges.different.symm
      exchanges.connected.2
      (bounds ▸ exchanges.toLatLon b ordered onGlobe)
      (Bounds.finite?_extended b) ordered

/-- **With the longitude first, its image is the area with the axes
exchanged.** -/
theorem Covers.imageIn_longitudeFirst (exchanges : g.ExchangesAxes latLon lonLat)
    (h : e.Covers g b) (onGlobe : b.OnGlobe)
    (same : SameSystem g id longitudeFirst) : e.ImageIn g id b.swap := by
  have ordered := h.ordered
  cases h with
  | ofLatLon system bounds =>
    obtain ⟨own, named, known⟩ := exists_sameSystem normalize_latitudeFirst system
    exact .moved named (known.symm.find exchanges.find_latLon)
      (same.symm.find exchanges.find_lonLat) exchanges.different
      exchanges.connected.1
      (bounds ▸ exchanges.toLonLat b ordered onGlobe)
      (Bounds.finite?_extended b.swap) ordered.swap
  | ofLonLat system bounds =>
    obtain ⟨own, named, known⟩ := exists_sameSystem normalize_longitudeFirst system
    exact bounds ▸ .kept named (known.trans same.symm)

/-- A box parameter says what the image of the envelope is. -/
theorem boxParam_of_imageIn (hid : normalize reference = .ok id)
    (ordered : b.Ordered) (h : e.ImageIn g id b) :
    e.boxParam g reference = .ok (boxParamText b) := by
  have moved : e.toCrs g reference = .ok ⟨b, id, ordered⟩ :=
    toCrs_eq_ok_iff.mpr ⟨hid, h⟩
  rw [boxParam, moved]
  rfl

/-- **Two envelopes intersect exactly when their areas meet**, whatever the orders
of their axes are. -/
theorem Covers.intersects (exchanges : g.ExchangesAxes latLon lonLat)
    (he : e.Covers g b) (hx : x.Covers g c) (onGlobe : c.OnGlobe) :
    GeoCatalogue.intersects g e x = .ok (b.meet c) := by
  unfold GeoCatalogue.intersects
  cases he with
  | ofLatLon system bounds =>
    obtain ⟨own, named, known⟩ := exists_sameSystem normalize_latitudeFirst system
    obtain ⟨image, himage, rfl⟩ := exists_inSystemOf_of_imageIn named
      (hx.imageIn_latitudeFirst exchanges onGlobe known)
    rw [himage, Except.ok_bind, shape_intersects, bounds]
  | ofLonLat system bounds =>
    obtain ⟨own, named, known⟩ := exists_sameSystem normalize_longitudeFirst system
    obtain ⟨image, himage, same⟩ := exists_inSystemOf_of_imageIn named
      (hx.imageIn_longitudeFirst exchanges onGlobe known)
    rw [himage, Except.ok_bind, shape_intersects, bounds, same, Bounds.meet_swap]

/-- **Envelopes that can be put in the place of each other**, the first one with
the latitude first and the second one with the longitude first. -/
structure Interchangeable (g : Geodesy) (e f : Envelope) : Prop where
  /-- The first one becomes the second one. -/
  toLonLat : e.toCrs g (some longitudeFirst) = .ok f
  /-- The second one becomes the first one. -/
  toLatLon : f.toCrs g (some latitudeFirst) = .ok e
  /-- They have the same box parameter, in either system. -/
  boxParam : ∀ reference,
    Crs.same g reference (some latitudeFirst) = .ok true ∨
      Crs.same g reference (some longitudeFirst) = .ok true →
    ∃ text, e.boxParam g reference = .ok text ∧
      f.boxParam g reference = .ok text
  /-- They intersect the same envelopes of the globe. -/
  intersects : ∀ x c, x.Covers g c → c.OnGlobe →
    ∃ answer, GeoCatalogue.intersects g e x = .ok answer ∧
      GeoCatalogue.intersects g f x = .ok answer

/-- **The two envelopes of an area can be put in the place of each other.** Each is
the image of the other one, and stays as it is in its own system. So what is written or
compared in either of the two systems is the same for both. -/
theorem interchangeable_of_covers (exchanges : g.ExchangesAxes latLon lonLat)
    (he : e.crs = latitudeFirst) (hf : f.crs = longitudeFirst)
    (exchanged : f.bounds = e.bounds.swap) (onGlobe : e.bounds.OnGlobe) :
    Interchangeable g e f := by
  have first : e.Covers g e.bounds := by
    refine .ofLatLon ?_ rfl
    rw [he, Crs.same_self]
    rfl
  have second : f.Covers g e.bounds := by
    refine .ofLonLat ?_ exchanged
    rw [hf, Crs.same_self]
    rfl
  constructor
  case toLonLat =>
    rw [toCrs_eq_ok_iff, hf, exchanged]
    exact ⟨normalize_longitudeFirst,
      first.imageIn_longitudeFirst exchanges onGlobe (.refl g _)⟩
  case toLatLon =>
    rw [toCrs_eq_ok_iff, he]
    exact ⟨normalize_latitudeFirst,
      second.imageIn_latitudeFirst exchanges onGlobe (.refl g _)⟩
  case boxParam =>
    rintro reference (system | system)
    · obtain ⟨id, hid, same⟩ := exists_sameSystem normalize_latitudeFirst system
      exact ⟨_, boxParam_of_imageIn hid e.ordered
          (first.imageIn_latitudeFirst exchanges onGlobe same),
        boxParam_of_imageIn hid e.ordered
          (second.imageIn_latitudeFirst exchanges onGlobe same)⟩
    · obtain ⟨id, hid, same⟩ := exists_sameSystem normalize_longitudeFirst system
      exact ⟨_, boxParam_of_imageIn hid e.ordered.swap
          (first.imageIn_longitudeFirst exchanges onGlobe same),
        boxParam_of_imageIn hid e.ordered.swap
          (second.imageIn_longitudeFirst exchanges onGlobe same)⟩
  case intersects =>
    intro x c hx onGlobe
    exact ⟨_, first.intersects exchanges hx onGlobe,
      second.intersects exchanges hx onGlobe⟩

end Envelope

end GeoCatalogue
