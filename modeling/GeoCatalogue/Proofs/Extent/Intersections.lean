import GeoCatalogue.Proofs.Crs.Sameness
import GeoCatalogue.Proofs.Extent.Coalescing

/-!
# What meets the extent

Two ways lead from an envelope into another system. To take an extent, every
envelope is brought to the common system. To test for common points, the
candidate is brought to the system of the other envelope, but only if it is
in a different one. Both ways lead to the same bounds, those of the **image**
in that system (`Envelope.ImageIn`), which does not depend on how the system
is referred to.

So an extent and the envelopes that it was taken of have common points, and
whatever meets one of them meets the extent (`intersects_extent`): a common
point with an image is a common point with what covers the image.
-/
namespace GeoCatalogue

open Crs

variable {g : Geodesy} {reference : Option String}

namespace Envelope

variable {e image : Envelope} {id other crs : String} {b : Bounds Binary64}

/-- **The bounds of an envelope in the system of an identifier.** -/
inductive ImageIn (g : Geodesy) (e : Envelope) (id : String) :
    Bounds Binary64 → Prop where
  /-- The envelope is in that system already. -/
  | kept {own : String} (named : normalize (some e.crs) = .ok own)
      (same : SameSystem g own id) : ImageIn g e id e.bounds
  /-- There is an operation from the system of the envelope, and the bounds are
  transformed to finite ones that are in order. -/
  | moved {own : String} {source target : ReferenceSystem}
      {result : Bounds Extended} {corners : Bounds Binary64}
      (named : normalize (some e.crs) = .ok own)
      (before : g.find own = .ok source) (after : g.find id = .ok target)
      (different : source ≠ target)
      (connected : g.operation source target = .ok ())
      (transformed : g.transformBounds source target e.bounds = .ok result)
      (finite : result.finite? = some corners)
      (ordered : corners.Ordered) : ImageIn g e id corners

/-- **The image depends on the system**, and not on its identifier. -/
theorem ImageIn.congr (h : e.ImageIn g id b) (same : SameSystem g id other) :
    e.ImageIn g other b := by
  cases h with
  | kept named own => exact .kept named (own.trans same)
  | moved named before after different connected transformed finite ordered =>
    exact .moved named before (same.find after) different connected transformed
      finite ordered

/-- Transformed bounds are those of an image if they are finite and in
order. -/
theorem transformed_eq_ok_iff {source target : ReferenceSystem} :
    e.transformed g source target crs = .ok image ↔
      image.crs = crs ∧ ∃ result,
        g.transformBounds source target e.bounds = .ok result ∧
          result.finite? = some image.bounds := by
  unfold transformed
  cases g.transformBounds source target e.bounds with
  | error explanation => simp
  | ok result =>
    show ofTransformed target crs result = .ok image ↔ _
    unfold ofTransformed
    constructor
    · intro h
      split at h
      · cases h
      · next corners finite =>
        split at h
        · obtain rfl := Except.ok.inj h
          exact ⟨rfl, result, rfl, finite⟩
        · cases h
    · rintro ⟨rfl, _, same, finite⟩
      obtain rfl := Except.ok.inj same
      rw [finite]
      exact dif_pos image.ordered

/-- **An envelope is brought to a system by giving it its image there.** -/
theorem toCrs_eq_ok_iff :
    e.toCrs g reference = .ok image ↔
      normalize reference = .ok image.crs ∧
        e.ImageIn g image.crs image.bounds := by
  constructor
  · intro h
    refine ⟨normalize_of_toCrs h, ?_⟩
    obtain ⟨same, hsame, h⟩ := Except.bind_eq_ok.mp h
    obtain ⟨crs, hcrs, moved⟩ := Except.bind_eq_ok.mp h
    cases same with
    | true =>
      obtain rfl := Except.ok.inj moved
      obtain ⟨own, id, named, hid, same⟩ := same_eq_true_iff.mp hsame
      obtain rfl := Except.ok.inj (hid.symm.trans hcrs)
      exact .kept named same
    | false =>
      obtain ⟨own, id, named, hid, source, target, before, after, different⟩ :=
        same_eq_false_iff.mp hsame
      obtain rfl := Except.ok.inj (hid.symm.trans hcrs)
      rw [if_neg Bool.false_ne_true] at moved
      obtain ⟨⟨left, right⟩, found, moved⟩ := Except.bind_eq_ok.mp moved
      obtain ⟨hleft, hright, connected⟩ := systems_eq_ok.mp found
      obtain rfl := Except.ok.inj
        ((find_eq_ok.mpr ⟨own, named, before⟩).symm.trans hleft)
      obtain rfl := Except.ok.inj
        ((find_eq_ok.mpr ⟨id, hid, after⟩).symm.trans hright)
      dsimp only at moved
      split at moved
      · next image himage =>
        obtain rfl := Except.ok.inj moved
        obtain ⟨rfl, result, transformed, finite⟩ :=
          transformed_eq_ok_iff.mp himage
        exact .moved named before after different connected transformed finite
          image.ordered
      · cases moved
  · rintro ⟨hcrs, h⟩
    obtain ⟨bounds, crs, ordered⟩ := image
    unfold toCrs
    cases h with
    | kept named same =>
      rw [same_eq_true_iff.mpr ⟨_, crs, named, hcrs, same⟩, hcrs]
      rfl
    | moved named before after different connected transformed finite =>
      have himage : e.transformed g _ _ crs = .ok ⟨bounds, crs, ordered⟩ :=
        transformed_eq_ok_iff.mpr ⟨rfl, _, transformed, finite⟩
      rw [same_eq_false_iff.mpr
          ⟨_, crs, named, hcrs, _, _, before, after, different⟩,
        hcrs, Except.ok_bind, Except.ok_bind, if_neg Bool.false_ne_true,
        systems_eq_ok.mpr ⟨find_eq_ok.mpr ⟨_, named, before⟩,
          find_eq_ok.mpr ⟨crs, hcrs, after⟩, connected⟩, Except.ok_bind]
      dsimp only
      rw [himage]

end Envelope

/-! ## Candidates and their images -/

section Candidates

variable {r candidate image : Envelope} {id : String}

/-- A candidate that can be compared with a reference envelope is compared by
its image. -/
theorem exists_imageIn_of_inSystemOf
    (h : inSystemOf g r candidate = .ok image) :
    ∃ id, normalize (some r.crs) = .ok id ∧
      candidate.ImageIn g id image.bounds := by
  obtain ⟨same, hsame, h⟩ := Except.bind_eq_ok.mp h
  cases same with
  | true =>
    obtain rfl := Except.ok.inj h
    obtain ⟨id, own, hid, named, same⟩ := same_eq_true_iff.mp hsame
    exact ⟨id, hid, .kept named same.symm⟩
  | false =>
    obtain ⟨hid, himage⟩ := Envelope.toCrs_eq_ok_iff.mp h
    exact ⟨image.crs, hid, himage⟩

/-- A candidate with an image in the system of a reference envelope can be
compared with it. -/
theorem exists_inSystemOf_of_imageIn (hid : normalize (some r.crs) = .ok id)
    {b : Bounds Binary64} (h : candidate.ImageIn g id b) :
    ∃ image, inSystemOf g r candidate = .ok image ∧ image.bounds = b := by
  unfold inSystemOf
  cases h with
  | kept named same =>
    rw [same_eq_true_iff.mpr ⟨id, _, hid, named, same.symm⟩]
    exact ⟨candidate, rfl, rfl⟩
  | moved named before after different connected transformed finite ordered =>
    refine ⟨⟨b, id, ordered⟩, ?_, rfl⟩
    rw [same_eq_false_iff.mpr
      ⟨id, _, hid, named, _, _, after, before, different.symm⟩]
    exact Envelope.toCrs_eq_ok_iff.mpr ⟨hid, .moved named before after
      different connected transformed finite ordered⟩

/-- **A candidate intersects a reference envelope** exactly if it has an image
in the system of that, and some point lies in both. -/
theorem intersects_eq_true_iff :
    intersects g r candidate = .ok true ↔
      ∃ id, normalize (some r.crs) = .ok id ∧
        ∃ image : Envelope, candidate.ImageIn g id image.bounds ∧
          ∃ x y, r.Holds x y ∧ image.Holds x y := by
  constructor
  · intro h
    obtain ⟨image, himage, h⟩ := Except.bind_eq_ok.mp h
    obtain ⟨id, hid, shown⟩ := exists_imageIn_of_inSystemOf himage
    exact ⟨id, hid, image, shown,
      Envelope.shape_intersects_iff.mp (Except.ok.inj h)⟩
  · rintro ⟨id, hid, image, shown, x, y, held, common⟩
    obtain ⟨image', himage', same⟩ := exists_inSystemOf_of_imageIn hid shown
    have common' : image'.Holds x y := common.of_within (same ▸ .refl _)
    unfold intersects
    rw [himage', Except.ok_bind,
      Envelope.shape_intersects_iff.mpr ⟨x, y, held, common'⟩]

end Candidates

/-! ## The extent -/

/-- **An extent covers the images** of the envelopes it was taken of, in its
own system. -/
theorem exists_image_of_coalesce {crs : String}
    (hnormalize : normalize reference = .ok crs)
    (stable : normalize (some crs) = .ok crs) {envelopes : List Envelope}
    {e : Envelope} (he : coalesce g reference envelopes = .ok e) :
    e.crs = crs ∧ ∀ f ∈ envelopes,
      (∃ image : Envelope, f.ImageIn g crs image.bounds) ∧
        ∀ image : Envelope, f.ImageIn g crs image.bounds →
          image.bounds.Within e.bounds := by
  have usable : ∀ f ∈ envelopes, ∃ image, f.toCrs g reference = .ok image := by
    intro f hf
    cases h : f.toCrs g reference with
    | ok image => exact ⟨image, rfl⟩
    | error failure =>
      obtain ⟨failure', failed⟩ := exists_coalesce_eq_error hf h
      rw [he] at failed
      cases failed
  have nonempty : envelopes ≠ [] := by
    rintro rfl
    cases he
  obtain ⟨e', he', hecrs, hcover⟩ :=
    exists_coalesce hnormalize stable nonempty usable
  obtain rfl := Except.ok.inj (he.symm.trans he')
  refine ⟨hecrs, fun f hf => ⟨?_, fun image himage => ?_⟩⟩
  · obtain ⟨image, himage⟩ := usable f hf
    obtain ⟨hid, shown⟩ := Envelope.toCrs_eq_ok_iff.mp himage
    obtain rfl := Except.ok.inj (hnormalize.symm.trans hid)
    exact ⟨image, shown⟩
  · -- an image is what the envelope is brought to, whatever it says of itself
    have brought : f.toCrs g reference = .ok ⟨image.bounds, crs, image.ordered⟩ :=
      Envelope.toCrs_eq_ok_iff.mpr ⟨hnormalize, himage⟩
    exact hcover.holds _ ⟨f, hf, _, brought, rfl⟩

/-- **The extent meets all that it was taken of, and all that meets any of
it.** Let envelopes of any systems have an extent, and let the identifier of
its system stay as it is. Then each of the envelopes intersects the extent –
testing this does not fail. And if an envelope in the system of the extent,
under this or any other identifier of it, is intersected by one of the
envelopes, then it is intersected by the extent. -/
theorem intersects_extent {crs : String}
    (hnormalize : normalize reference = .ok crs)
    (stable : normalize (some crs) = .ok crs) {envelopes : List Envelope}
    {e : Envelope} (he : coalesce g reference envelopes = .ok e) :
    (∀ f ∈ envelopes, intersects g e f = .ok true) ∧
    ∀ r : Envelope, Crs.same g (some r.crs) (some e.crs) = .ok true →
      ∀ f ∈ envelopes, intersects g r f = .ok true →
        intersects g r e = .ok true := by
  obtain ⟨rfl, covers⟩ := exists_image_of_coalesce hnormalize stable he
  constructor
  · intro f hf
    obtain ⟨⟨image, himage⟩, within⟩ := covers f hf
    exact intersects_eq_true_iff.mpr ⟨e.crs, stable, image, himage, _, _,
      image.holds_lower.of_within (within image himage), image.holds_lower⟩
  · intro r hsame f hf h
    obtain ⟨id, crs, hid, hcrs, same⟩ := same_eq_true_iff.mp hsame
    obtain rfl := Except.ok.inj (stable.symm.trans hcrs)
    obtain ⟨id', hid', image, himage, x, y, held, common⟩ :=
      intersects_eq_true_iff.mp h
    obtain rfl := Except.ok.inj (hid.symm.trans hid')
    have within := (covers f hf).2 image (himage.congr same)
    exact intersects_eq_true_iff.mpr ⟨id, hid, e, .kept stable same.symm, x, y,
      held, common.of_within within⟩

/-- The extent of two points in systems of different axes meets the one whose
axes are exchanged; and a point that is written with another identifier of the
system of the extent meets it, since it meets the other one. -/
theorem intersects_extent_exchanged :
    let g := Geodesy.standard "unknown"
    let reference := some "urn:ogc:def:crs:EPSG::4326"
    let first := Envelope.origin "EPSG:4326"
    let r := Envelope.origin "EPSG:04326"
    ∃ e, coalesce g reference [first, Envelope.eastward] = .ok e ∧
      intersects g e Envelope.eastward = .ok true ∧
      intersects g r first = .ok true ∧ intersects g r e = .ok true := by
  intro g reference first r
  have taken : (coalesce g reference [first, Envelope.eastward]).isOk = true := by
    decide +kernel
  obtain ⟨e, he⟩ := Except.exists_of_isOk taken
  have hnormalize : normalize reference = .ok "EPSG:4326" := rfl
  have stable : normalize (some "EPSG:4326") = .ok "EPSG:4326" := rfl
  obtain ⟨meets, spreads⟩ := intersects_extent hnormalize stable he
  obtain ⟨hecrs, -⟩ := exists_image_of_coalesce hnormalize stable he
  have same : Crs.same g (some r.crs) (some e.crs) = .ok true := by
    rw [hecrs]
    decide +kernel
  have met : intersects g r first = .ok true := by decide +kernel
  exact ⟨e, he, meets _ (.tail _ (.head _)), met,
    spreads r same first (.head _) met⟩

end GeoCatalogue
