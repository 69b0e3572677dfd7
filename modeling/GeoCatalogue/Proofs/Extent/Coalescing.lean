import GeoCatalogue.Geodesy.Standard
import GeoCatalogue.Proofs.Extent.Merging

/-!
# The extent of envelopes

Envelopes are brought to a common system and united, from the first to the
last. If the identifier of that system stays as it is, what comes out is the
least cover of the images (`exists_coalesce`). A least cover knows nothing of
an order, of repetitions or of the way in which the envelopes were grouped, and
so neither does the extent. An envelope without an image makes every list that
it is in fail (`exists_coalesce_eq_error`).
-/
namespace GeoCatalogue

open Crs Bounds

variable {g : Geodesy} {reference : Option String}

/-! ## Envelopes that have images -/

/-- **The bounds of the images of some envelopes** in the common system. -/
def IsImage (g : Geodesy) (reference : Option String)
    (envelopes : List Envelope) (b : Bounds Binary64) : Prop :=
  ∃ f ∈ envelopes, ∃ image, f.toCrs g reference = .ok image ∧
    b = image.bounds

/-- The bounds of the images of two lists are those of the first and those of
the second. -/
@[simp] theorem isImage_append {front back : List Envelope} {b : Bounds Binary64} :
    IsImage g reference (front ++ back) b ↔
      IsImage g reference front b ∨ IsImage g reference back b := by
  unfold IsImage
  simp only [List.mem_append, or_and_right, exists_or]

/-- **The images of envelopes**: their bounds, and the system that they are
in. -/
theorem exists_images_of_usable {crs : String}
    (hnormalize : normalize reference = .ok crs) {envelopes : List Envelope}
    (usable : ∀ f ∈ envelopes, ∃ image, f.toCrs g reference = .ok image) :
    ∃ images, envelopes.mapM (fun f => f.toCrs g reference) = .ok images ∧
      (∀ image ∈ images, image.crs = crs) ∧
      ∀ b, (∃ image ∈ images, b = image.bounds) ↔
        IsImage g reference envelopes b := by
  obtain ⟨images, himages⟩ := Except.exists_mapM_eq_ok usable
  refine ⟨images, himages, fun image mem => ?_, fun b => ⟨?_, ?_⟩⟩
  · obtain ⟨f, -, himage⟩ := Except.exists_eq_ok_of_mem_result himages mem
    exact Except.ok.inj
      ((Envelope.normalize_of_toCrs himage).symm.trans hnormalize)
  · intro ⟨image, mem, same⟩
    obtain ⟨f, hf, himage⟩ := Except.exists_eq_ok_of_mem_result himages mem
    exact ⟨f, hf, image, himage, same⟩
  · intro ⟨f, hf, image, himage, same⟩
    obtain ⟨image', mem, himage'⟩ := Except.exists_eq_ok_of_mem himages hf
    obtain rfl := Except.ok.inj (himage.symm.trans himage')
    exact ⟨image, mem, same⟩

/-- **The extent of envelopes is the least cover of their images**, in the common system, if
the identifier of that stays as it is. The identifier is read once more for each envelope
that is added, since a union is in the system of the first one, by its name. One that
changes then would give another system to the extent. -/
theorem exists_coalesce {crs : String}
    (hnormalize : normalize reference = .ok crs)
    (stable : normalize (some crs) = .ok crs) {envelopes : List Envelope}
    (nonempty : envelopes ≠ [])
    (usable : ∀ f ∈ envelopes, ∃ image, f.toCrs g reference = .ok image) :
    ∃ e, coalesce g reference envelopes = .ok e ∧ e.crs = crs ∧
      IsLeastCover (IsImage g reference envelopes) e.bounds := by
  obtain ⟨images, himages, hcrs, same⟩ :=
    exists_images_of_usable hnormalize usable
  have added := foldlM_none_eq
    (fun _ _ _ himage => Merger.add_eq (g := g) himage) himages
  match images with
  | [] =>
    have length := (Except.mapM_eq_ok_iff.mp himages).length_eq
    exact absurd (List.eq_nil_of_length_eq_zero length) nonempty
  | first :: rest =>
    obtain ⟨e, united, hecrs, hcover⟩ :=
      exists_unite_of_settled (g := g) hcrs (.inr stable)
    refine ⟨e, ?_, hecrs, hcover.congr same⟩
    unfold coalesce
    rw [added]
    show (unite g first rest).map _ >>= Merger.extent = .ok e
    rw [united]
    rfl

/-! ## Order, repetitions and groups -/

section Usable

variable {crs : String} (hnormalize : normalize reference = .ok crs)
  (stable : normalize (some crs) = .ok crs) {envelopes : List Envelope}
  (usable : ∀ f ∈ envelopes, ∃ image, f.toCrs g reference = .ok image)
  {e : Envelope} (hecrs : e.crs = crs)
  (hcover : IsLeastCover (IsImage g reference envelopes) e.bounds)

include hecrs hcover in
/-- An envelope that covers the images as well is equal to the extent. -/
theorem sameAs_of_isLeastCover {f : Envelope} (hfcrs : f.crs = crs)
    {others : List Envelope} (same : ∀ f, f ∈ others ↔ f ∈ envelopes)
    (hf : IsLeastCover (IsImage g reference others) f.bounds) :
    f.sameAs e = true := by
  have hf' : IsLeastCover (IsImage g reference envelopes) f.bounds := by
    refine hf.congr fun b => ?_
    unfold IsImage
    simp only [same]
  exact Envelope.sameAs_of_within (hfcrs.trans hecrs.symm)
    (hf'.within hcover) (hcover.within hf')

include hnormalize stable usable hecrs hcover in
/-- **The extent depends on which envelopes there are**, and neither on their
order nor on how often each of them occurs. -/
theorem exists_coalesce_sameAs {others : List Envelope} (nonempty : others ≠ [])
    (same : ∀ f, f ∈ others ↔ f ∈ envelopes) :
    ∃ e', coalesce g reference others = .ok e' ∧ e'.sameAs e = true := by
  obtain ⟨e', he', hecrs', hcover'⟩ := exists_coalesce hnormalize stable
    nonempty fun f hf => usable f ((same f).mp hf)
  exact ⟨e', he', sameAs_of_isLeastCover hecrs hcover hecrs' same hcover'⟩

include hnormalize stable usable hecrs hcover in
/-- **The extent of two groups**, united, is that of all of them. -/
theorem exists_union_sameAs {front back : List Envelope} (hfront : front ≠ [])
    (hback : back ≠ []) (same : ∀ f, f ∈ front ++ back ↔ f ∈ envelopes) :
    ∃ a b u, coalesce g reference front = .ok a ∧
      coalesce g reference back = .ok b ∧ a.union g b = .ok u ∧
      u.sameAs e = true := by
  obtain ⟨a, ha, hacrs, hacover⟩ := exists_coalesce hnormalize stable hfront
    fun f hf => usable f ((same f).mp (List.mem_append_left back hf))
  obtain ⟨b, hb, hbcrs, hbcover⟩ := exists_coalesce hnormalize stable hback
    fun f hf => usable f ((same f).mp (List.mem_append_right front hf))
  refine ⟨a, b, _, ha, hb, union_of_crs_eq stable hacrs hbcrs, ?_⟩
  exact sameAs_of_isLeastCover hecrs hcover rfl same
    ((hacover.union hbcover).congr fun _ => isImage_append.symm)

end Usable

/-! ## Envelopes without an image -/

theorem Merger.reference_of_add {m next : Merger} {e : Envelope}
    (h : m.add g e = .ok next) : next.reference = m.reference := by
  obtain ⟨image, joined, -, -, rfl⟩ := exists_of_add h
  rfl

/-- **An envelope without an image cannot be added**, wherever it stands. -/
theorem exists_foldlM_add_eq_error {m : Merger} {f : Envelope}
    {failure : Failure} {envelopes : List Envelope} (mem : f ∈ envelopes)
    (h : f.toCrs g m.reference = .error failure) :
    ∃ failure', envelopes.foldlM (Merger.add g) m = .error failure' := by
  induction envelopes generalizing m with
  | nil => cases mem
  | cons e envelopes ih =>
    rw [List.foldlM_cons]
    cases added : m.add g e with
    | error failure' => exact ⟨failure', rfl⟩
    | ok next =>
      have different : f ≠ e := by
        intro same
        obtain ⟨image, -, himage, -, -⟩ := Merger.exists_of_add added
        rw [← same, h] at himage
        cases himage
      refine ih ((List.mem_cons.mp mem).resolve_left different) ?_
      rw [Merger.reference_of_add added]
      exact h

/-- **The extent of envelopes fails** if one of them has no image. -/
theorem exists_coalesce_eq_error {f : Envelope} {failure : Failure}
    {envelopes : List Envelope} (mem : f ∈ envelopes)
    (h : f.toCrs g reference = .error failure) :
    ∃ failure', coalesce g reference envelopes = .error failure' := by
  obtain ⟨failure', failed⟩ :=
    exists_foldlM_add_eq_error (m := ⟨reference, none⟩) mem h
  exact ⟨failure', Except.bind_eq_error.mpr (.inl failed)⟩

/-! ## The extent of a list -/

/-- **The extent of a list of envelopes.** In a system whose identifier stays
as it is, envelopes that all have images there have an extent: the envelope of
that system that covers all images and lies within every other cover. Any list
of the same envelopes – in another order, with repetitions – has an equal
extent, and the extents of two lists that make up all envelopes have a union
that is equal to it. If some envelope has no image, every list with it fails;
and nothing has no extent. -/
theorem coalesce_isLeastCover (g : Geodesy) (reference : Option String) :
    (∀ crs, normalize reference = .ok crs → normalize (some crs) = .ok crs →
      ∀ envelopes : List Envelope, envelopes ≠ [] →
        (∀ f ∈ envelopes, ∃ image, f.toCrs g reference = .ok image) →
        ∃ e, coalesce g reference envelopes = .ok e ∧ e.crs = crs ∧
          IsLeastCover (IsImage g reference envelopes) e.bounds ∧
          (∀ others, (∀ f, f ∈ others ↔ f ∈ envelopes) →
            ∃ e', coalesce g reference others = .ok e' ∧
              e'.sameAs e = true) ∧
          ∀ front back, front ≠ [] → back ≠ [] →
            (∀ f, f ∈ front ++ back ↔ f ∈ envelopes) →
            ∃ a b u, coalesce g reference front = .ok a ∧
              coalesce g reference back = .ok b ∧ a.union g b = .ok u ∧
              u.sameAs e = true) ∧
    (∀ (envelopes : List Envelope) (f : Envelope) (failure : Failure),
      f ∈ envelopes → f.toCrs g reference = .error failure →
      ∃ failure', coalesce g reference envelopes = .error failure') ∧
    coalesce g reference [] = .error .noExtentData := by
  refine ⟨?_, fun _ _ _ => exists_coalesce_eq_error, rfl⟩
  intro crs hnormalize stable envelopes nonempty usable
  obtain ⟨e, he, hecrs, hcover⟩ :=
    exists_coalesce hnormalize stable nonempty usable
  refine ⟨e, he, hecrs, hcover, fun others same => ?_, ?_⟩
  · refine exists_coalesce_sameAs hnormalize stable usable hecrs hcover ?_ same
    intro empty
    obtain ⟨f, hf⟩ := List.exists_mem_of_ne_nil envelopes nonempty
    rw [← same f, empty] at hf
    cases hf
  · intro front back hfront hback same
    exact exists_union_sameAs hnormalize stable usable hecrs hcover hfront hback
      same

/-- The point at one degree east on the equator, longitude first. -/
def Envelope.eastward : Envelope :=
  ⟨⟨⟨⟨false, Nat.pow 2 52, -52, by decide⟩, .zero false⟩,
      ⟨⟨false, Nat.pow 2 52, -52, by decide⟩, .zero false⟩⟩,
    "OGC:CRS84", by decide +kernel⟩

/-- The extent of two points, one of which is written down with its axes
exchanged, and once more with this point given twice and first. -/
theorem coalesce_isLeastCover_exchanged :
    let g := Geodesy.standard "unknown"
    let reference := some "urn:ogc:def:crs:EPSG::4326"
    let points := [Envelope.origin "EPSG:4326", Envelope.eastward]
    ∃ e, coalesce g reference points = .ok e ∧ e.crs = "EPSG:4326" ∧
      IsLeastCover (IsImage g reference points) e.bounds ∧
      ∃ e', coalesce g reference [Envelope.eastward,
          Envelope.origin "EPSG:4326", Envelope.eastward] = .ok e' ∧
        e'.sameAs e = true := by
  intro g reference points
  have usable : ∀ f ∈ points, ∃ image, f.toCrs g reference = .ok image := by
    intro f hf
    refine Except.exists_of_isOk ?_
    obtain rfl | rfl := List.mem_pair.mp hf
    · decide +kernel
    · decide +kernel
  obtain ⟨e, he, hecrs, hcover, again, -⟩ :=
    (coalesce_isLeastCover g reference).1 "EPSG:4326" rfl rfl points
      (List.cons_ne_nil _ _) usable
  refine ⟨e, he, hecrs, hcover, again _ fun f => ?_⟩
  simp only [points, List.mem_cons, List.not_mem_nil, or_false]
  rw [or_left_comm, or_self]

end GeoCatalogue
