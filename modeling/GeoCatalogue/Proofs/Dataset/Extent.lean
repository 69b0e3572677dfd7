import GeoCatalogue.Dataset
import GeoCatalogue.Proofs.Dataset.Records
import GeoCatalogue.Proofs.Extent.Merging

/-!
# The extent of a dataset

The extent is the union of the images of the boxes that count. It would be
that of one box for each record, its first one, if the second box of a
record with boxes of both kinds did not count as well. So it is what it
ought to be exactly if these second boxes lie within every cover of the
first ones (`extentIn_iff`), and then only in a system whose identifier
stays as it is, unless there is a single box.
-/
namespace GeoCatalogue.Dataset

open Xml XPath Bounds Fault

variable {g : Geodesy} {reference : Option String}

/-! ## The images of the boxes -/

/-- **The envelope of an element in the common system**: it is read, made an
envelope and brought to the system. -/
def imageOf (g : Geodesy) (reference : Option String) (e : Element) :
    Except Fault Envelope := do
  let box ← Box.read e
  Fault.lift (box.image g reference)

/-- **Whether all boxes that count can be used**: they have images in the
common system. -/
def IsUsable (g : Geodesy) (reference : Option String) (root : Element) :
    Prop :=
  ∀ e ∈ (records root).flatMap countedBoxes,
    ∃ image, imageOf g reference e = .ok image

/-- The bounds of the first boxes of the records of a document, in the common
system. -/
def IsFirstImage (g : Geodesy) (reference : Option String) (root : Element)
    (b : Bounds Binary64) : Prop :=
  ∃ r ∈ records root, ∃ e, firstBox? r = some e ∧
    ∃ image, imageOf g reference e = .ok image ∧ b = image.bounds

/-- The bounds of all boxes that count, in the common system. -/
def IsCountedImage (g : Geodesy) (reference : Option String) (root : Element)
    (b : Bounds Binary64) : Prop :=
  ∃ e ∈ (records root).flatMap countedBoxes,
    ∃ image, imageOf g reference e = .ok image ∧ b = image.bounds

theorem IsFirstImage.counted {root : Element} {b : Bounds Binary64}
    (h : IsFirstImage g reference root b) :
    IsCountedImage g reference root b := by
  obtain ⟨r, hr, e, he, himage⟩ := h
  exact ⟨e, List.mem_flatMap.mpr ⟨r, hr, mem_countedBoxes_of_firstBox? he⟩,
    himage⟩

theorem normalize_of_imageOf {e : Element} {image : Envelope}
    (h : imageOf g reference e = .ok image) :
    Crs.normalize reference = .ok image.crs := by
  obtain ⟨box, -, hlift⟩ := Except.bind_eq_ok.mp h
  obtain ⟨envelope, -, htoCrs⟩ := Except.bind_eq_ok.mp (lift_eq_ok.mp hlift)
  exact Envelope.normalize_of_toCrs htoCrs

/-! ## The extent of the images -/

/-- The extent of some images: none, or what they are united to. -/
def extentOf (g : Geodesy) : List Envelope → Except Failure (Option Envelope)
  | [] => .ok none
  | first :: rest => (unite g first rest).map some

/-- **The extent is that of the images of the boxes that count**, each of them once, in some
order. The order is that of the document, and not that of the records with their kinds of
boxes. It does not matter, since the extent of images is their least cover; only the first
one stands out, as the one that the others are joined to. -/
theorem exists_extentIn_eq {root : Element}
    (usable : IsUsable g reference root) :
    ∃ (found : List Element) (images : List Envelope),
      found.Perm ((records root).flatMap countedBoxes) ∧
      found.mapM (imageOf g reference) = .ok images ∧
      extentIn g reference ⟨root, none⟩ = Fault.lift (extentOf g images) := by
  obtain ⟨found, hfound, hperm⟩ := exists_found root
  obtain ⟨images, himages⟩ := Except.exists_mapM_eq_ok
    fun e he => usable e (hperm.mem_iff.mp he)
  refine ⟨found, images, hperm, himages, ?_⟩
  have readable : ∃ boxes, found.mapM Box.read = .ok boxes := by
    refine Except.exists_mapM_eq_ok fun e he => ?_
    obtain ⟨image, himage⟩ := usable e (hperm.mem_iff.mp he)
    obtain ⟨box, hbox, -⟩ := Except.bind_eq_ok.mp himage
    exact ⟨box, hbox⟩
  obtain ⟨boxes, hboxes⟩ := readable
  have boxImages : boxes.mapM (Box.image g reference) = .ok images := by
    rw [← mapM_lift, ← Except.mapM_bind hboxes]
    exact himages
  have all : Dataset.boxes ⟨root, none⟩ = .ok boxes := by
    unfold Dataset.boxes Box.findAll
    rw [hfound, Except.ok_bind, List.mapM_map]
    exact hboxes
  unfold extentIn
  rw [all, Except.ok_bind, mergeBoxes_eq boxImages]
  cases images with
  | nil => rfl
  | cons first rest =>
    show Fault.lift ((unite g first rest).map _) >>= _
      = Fault.lift ((unite g first rest).map some)
    cases unite g first rest with
    | error cause => rfl
    | ok e => rfl

/-- The extent of images is what they are united to. -/
theorem extentOf_cons_eq_ok {first : Envelope} {rest : List Envelope}
    {extent : Option Envelope} :
    extentOf g (first :: rest) = .ok extent ↔
      ∃ e, unite g first rest = .ok e ∧ extent = some e := by
  show (unite g first rest).map some = .ok extent ↔ _
  cases unite g first rest with
  | error cause =>
    constructor
    · intro h
      cases h
    · rintro ⟨e, h, -⟩
      cases h
  | ok e =>
    constructor
    · intro h
      exact ⟨e, rfl, (Except.ok.inj h).symm⟩
    · rintro ⟨e', h, rfl⟩
      rw [Except.ok.inj h]
      rfl

/-- There is no extent exactly if there are no images. -/
@[simp] theorem extentOf_eq_none_iff {images : List Envelope} :
    extentOf g images = .ok none ↔ images = [] := by
  cases images with
  | nil => exact ⟨fun _ => rfl, fun _ => rfl⟩
  | cons first rest =>
    constructor
    · intro h
      obtain ⟨e, -, he⟩ := extentOf_cons_eq_ok.mp h
      cases he
    · intro h
      cases h

/-- **The extent of images is their least cover**, in their system, if that
stays as it is or there is only one of them. -/
theorem exists_extentOf {crs : String} {images : List Envelope}
    (nonempty : images ≠ []) (hcrs : ∀ f ∈ images, f.crs = crs)
    (settled : images.length ≤ 1 ∨ Crs.normalize (some crs) = .ok crs) :
    ∃ e, extentOf g images = .ok (some e) ∧ e.crs = crs ∧
      IsLeastCover (fun b => ∃ f ∈ images, b = f.bounds) e.bounds := by
  cases images with
  | nil => exact absurd rfl nonempty
  | cons first rest =>
    have single : rest = [] ∨ Crs.normalize (some crs) = .ok crs := by
      refine settled.imp_left fun short => ?_
      exact List.eq_nil_of_length_eq_zero (by simpa using short)
    obtain ⟨e, he, hecrs, hcover⟩ := exists_unite_of_settled (g := g) hcrs single
    exact ⟨e, extentOf_cons_eq_ok.mpr ⟨e, he, rfl⟩, hecrs, hcover⟩

/-- An extent in the system of the images is that of one image, or the
system stays as it is. -/
theorem settled_of_extentOf {crs : String} {images : List Envelope}
    (hnormalize : Crs.normalize reference = .ok crs)
    (hcrs : ∀ f ∈ images, f.crs = crs) {e : Envelope}
    (h : extentOf g images = .ok (some e)) (he : e.crs = crs) :
    images.length ≤ 1 ∨ Crs.normalize (some crs) = .ok crs := by
  by_contra unsettled
  obtain ⟨several, unstable⟩ := not_or.mp unsettled
  rcases images with - | ⟨first, - | ⟨second, rest⟩⟩
  · exact several (Nat.zero_le 1)
  · exact several (Nat.le_refl 1)
  · have hfirst := hcrs first List.mem_cons_self
    rw [← hfirst] at hnormalize unstable he
    obtain ⟨joined, hunite, hjoined⟩ := extentOf_cons_eq_ok.mp h
    obtain rfl := Option.some.inj hjoined
    exact crs_unite_ne hnormalize unstable hunite he

/-! ## The extent of the document -/

/-- The images of the boxes that count: how many there are, which bounds they
have, which system they are in, and what the extent is. -/
theorem exists_images {root : Element}
    (usable : IsUsable g reference root) :
    ∃ images : List Envelope,
      images.length = ((records root).flatMap countedBoxes).length ∧
      (∀ b, (∃ f ∈ images, b = f.bounds) ↔
        IsCountedImage g reference root b) ∧
      (∀ f ∈ images, Crs.normalize reference = .ok f.crs) ∧
      extentIn g reference ⟨root, none⟩ = Fault.lift (extentOf g images) := by
  obtain ⟨found, images, hperm, himages, hextent⟩ := exists_extentIn_eq usable
  refine ⟨images, ?_, fun b => ⟨?_, ?_⟩, fun f hf => ?_, hextent⟩
  · exact (Except.mapM_eq_ok_iff.mp himages).length_eq.symm.trans
      hperm.length_eq
  · rintro ⟨f, hf, rfl⟩
    obtain ⟨e, he, himage⟩ := Except.exists_eq_ok_of_mem_result himages hf
    exact ⟨e, hperm.mem_iff.mp he, f, himage, rfl⟩
  · rintro ⟨e, he, f, himage, rfl⟩
    obtain ⟨f', hf', himage'⟩ :=
      Except.exists_eq_ok_of_mem himages (hperm.mem_iff.mpr he)
    rw [himage] at himage'
    exact ⟨f, Except.ok.inj himage' ▸ hf', rfl⟩
  · obtain ⟨e, -, himage⟩ := Except.exists_eq_ok_of_mem_result himages hf
    exact normalize_of_imageOf himage

/-- **There is no extent exactly if no record has a box.** -/
theorem extentIn_eq_none_iff {root : Element}
    (usable : IsUsable g reference root) :
    extentIn g reference ⟨root, none⟩ = .ok none ↔
      ∀ r ∈ records root, firstBox? r = none := by
  obtain ⟨images, length, -, -, hextent⟩ := exists_images usable
  rw [hextent, lift_eq_ok, extentOf_eq_none_iff, ← List.length_eq_zero_iff,
    length, List.length_eq_zero_iff, countedBoxes_eq_nil_iff_records]

/-- **The extent is the least cover of the boxes that count**, if there are
any, in the common system – which has to stay as it is, unless there is a
single box. -/
theorem exists_extentIn {root : Element} {crs : String}
    (usable : IsUsable g reference root)
    (hnormalize : Crs.normalize reference = .ok crs)
    (hboxes : (records root).flatMap countedBoxes ≠ [])
    (settled : ((records root).flatMap countedBoxes).length ≤ 1 ∨
      Crs.normalize (some crs) = .ok crs) :
    ∃ e, extentIn g reference ⟨root, none⟩ = .ok (some e) ∧ e.crs = crs ∧
      IsLeastCover (IsCountedImage g reference root) e.bounds := by
  obtain ⟨images, length, counted, hcrs, hextent⟩ := exists_images usable
  have nonempty : images ≠ [] := by
    rw [ne_eq, ← List.length_eq_zero_iff, length, List.length_eq_zero_iff]
    exact hboxes
  rw [← length] at settled
  obtain ⟨e, he, hecrs, hcover⟩ := exists_extentOf (g := g) nonempty
    (fun f hf => Except.ok.inj ((hcrs f hf).symm.trans hnormalize)) settled
  exact ⟨e, hextent.trans (lift_eq_ok.mpr he), hecrs, hcover.congr counted⟩

/-- Where there is an extent in the common system, there is a single box or
the system stays as it is. -/
theorem settled_of_extentIn {root : Element} {crs : String}
    (usable : IsUsable g reference root)
    (hnormalize : Crs.normalize reference = .ok crs) {e : Envelope}
    (he : extentIn g reference ⟨root, none⟩ = .ok (some e))
    (hecrs : e.crs = crs) :
    ((records root).flatMap countedBoxes).length ≤ 1 ∨
      Crs.normalize (some crs) = .ok crs := by
  obtain ⟨images, length, -, hcrs, hextent⟩ := exists_images usable
  rw [← length]
  exact settled_of_extentOf hnormalize
    (fun f hf => Except.ok.inj ((hcrs f hf).symm.trans hnormalize))
    (lift_eq_ok.mp (hextent.symm.trans he)) hecrs

/-- The extent of data whose extent has not been asked for. -/
@[simp] theorem access_new (root : Element) :
    (access g reference ⟨root, none⟩).1
      = extentIn g reference ⟨root, none⟩ := by
  unfold access
  cases extentIn g reference ⟨root, none⟩ with
  | error fault => rfl
  | ok extent => rfl

/-- **The extent of a dataset**, provided that all boxes that count have
images in the common system: there is none exactly if no record has a box,
and otherwise it is the least cover of the boxes that count. It is that of
the first boxes exactly if these have no cover that leaves out another box
that counts. Where there are several boxes, the identifier of the common
system has to stay as it is. -/
theorem extent_iff {root : Element}
    (usable : IsUsable g reference root) :
    ((access g reference ⟨root, none⟩).1 = .ok none ↔
      ∀ r ∈ records root, firstBox? r = none) ∧
    ∀ crs, Crs.normalize reference = .ok crs →
      (∃ r ∈ records root, firstBox? r ≠ none) →
      (((records root).flatMap countedBoxes).length ≤ 1 ∨
          Crs.normalize (some crs) = .ok crs →
        ∃ e, (access g reference ⟨root, none⟩).1 = .ok (some e) ∧
          e.crs = crs ∧
          IsLeastCover (IsCountedImage g reference root) e.bounds) ∧
      ((∃ e, (access g reference ⟨root, none⟩).1 = .ok (some e) ∧
          e.crs = crs ∧
          IsLeastCover (IsFirstImage g reference root) e.bounds) ↔
        (((records root).flatMap countedBoxes).length ≤ 1 ∨
          Crs.normalize (some crs) = .ok crs) ∧
        ∀ b, IsCountedImage g reference root b →
          ∀ c, (∀ f, IsFirstImage g reference root f → f.Within c) →
            b.Within c) := by
  rw [access_new]
  refine ⟨extentIn_eq_none_iff usable, fun crs hnormalize hfirst => ?_⟩
  have hboxes : (records root).flatMap countedBoxes ≠ [] := by
    rw [ne_eq, countedBoxes_eq_nil_iff_records]
    intro none
    obtain ⟨r, hr, hsome⟩ := hfirst
    exact hsome (none r hr)
  have extent := exists_extentIn usable hnormalize hboxes
  refine ⟨extent, ?_⟩
  -- the extent covers the first boxes in any case; what is left is that it
  -- covers no more than they force it to
  constructor
  · rintro ⟨e, he, hecrs, hcover⟩
    have settled := settled_of_extentIn usable hnormalize he hecrs
    obtain ⟨e', he', -, hcover'⟩ := extent settled
    obtain rfl := Option.some.inj (Except.ok.inj (he.symm.trans he'))
    exact ⟨settled, fun b hb c hc =>
      (hcover'.holds b hb).trans (hcover.least c hc)⟩
  · rintro ⟨settled, within⟩
    obtain ⟨e, he, hecrs, hcover⟩ := extent settled
    exact ⟨e, he, hecrs, fun b hb => hcover.holds b hb.counted,
      fun c hc => hcover.least c fun b hb => within b hb c hc⟩

/-! ## A record with boxes of both kinds -/

/-- The corners of a box. -/
def cornersOf (lower upper : String) : Content :=
  .element ⟨⟨Vocabulary.ows, "LowerCorner"⟩, [], []⟩ (.text lower .nothing)
    (.element ⟨⟨Vocabulary.ows, "UpperCorner"⟩, [], []⟩ (.text upper .nothing)
      .nothing)

/-- A box with a reference to WGS 84, between 0 and 1 degree. -/
def nearBox : Element :=
  ⟨⟨genericName, [(⟨"", "crs"⟩, "OGC:CRS84")], []⟩, cornersOf "0 0" "1 1"⟩

/-- A bounding box of WGS 84, between 10 and 20 degrees. -/
def farBox : Element :=
  ⟨⟨wgs84Name, [], []⟩, cornersOf "10 10" "20 20"⟩

/-- A response with a single record, which has boxes of both kinds. -/
def mixedResponse : Element :=
  ⟨⟨⟨Vocabulary.csw, "GetRecordsResponse"⟩, [], []⟩,
    .element ⟨recordName, [], []⟩
      (.element nearBox.tag nearBox.inside
        (.element farBox.tag farBox.inside .nothing)) .nothing⟩

/-- An image that reaches to a longitude in the system of WGS 84. -/
theorem exists_imageOf_of_upper {e : Element} {longitude : Rat}
    (h : (imageOf Envelope.noSystems (some "OGC:CRS84") e).toOption.map
      (fun f => f.bounds.upper.first.value) = some longitude) :
    ∃ f, imageOf Envelope.noSystems (some "OGC:CRS84") e = .ok f ∧
      f.bounds.upper.first.value = longitude := by
  cases himage : imageOf Envelope.noSystems (some "OGC:CRS84") e with
  | error fault =>
    rw [himage] at h
    cases h
  | ok f =>
    rw [himage] at h
    exact ⟨f, rfl, Option.some.inj h⟩

theorem exists_imageOf_nearBox :
    ∃ f, imageOf Envelope.noSystems (some "OGC:CRS84") nearBox = .ok f ∧
      f.bounds.upper.first.value = 1 :=
  exists_imageOf_of_upper (by decide +kernel)

theorem exists_imageOf_farBox :
    ∃ f, imageOf Envelope.noSystems (some "OGC:CRS84") farBox = .ok f ∧
      f.bounds.upper.first.value = 20 :=
  exists_imageOf_of_upper (by decide +kernel)

/-- Both boxes of the record can be used in the system of WGS 84. -/
theorem isUsable_mixedResponse :
    IsUsable Envelope.noSystems (some "OGC:CRS84") mixedResponse := by
  intro e he
  have both : e ∈ [nearBox, farBox] := he
  rcases List.mem_pair.mp both with rfl | rfl
  · obtain ⟨f, hf, -⟩ := exists_imageOf_nearBox
    exact ⟨f, hf⟩
  · obtain ⟨f, hf, -⟩ := exists_imageOf_farBox
    exact ⟨f, hf⟩

/-- The response has an extent in the system of WGS 84, that of both boxes;
it would be that of the first one if the other lay within it. -/
theorem extent_iff_mixedResponse :
    IsUsable Envelope.noSystems (some "OGC:CRS84") mixedResponse ∧
    Crs.normalize (some "OGC:CRS84") = .ok "OGC:CRS84" ∧
    (access Envelope.noSystems (some "OGC:CRS84") ⟨mixedResponse, none⟩).1
      ≠ .ok none ∧
    ∃ e, (access Envelope.noSystems (some "OGC:CRS84")
        ⟨mixedResponse, none⟩).1 = .ok (some e) ∧ e.crs = "OGC:CRS84" ∧
      IsLeastCover (IsCountedImage Envelope.noSystems (some "OGC:CRS84")
        mixedResponse) e.bounds := by
  have stable : Crs.normalize (some "OGC:CRS84") = .ok "OGC:CRS84" := rfl
  have boxed : ∃ r ∈ records mixedResponse, firstBox? r ≠ none :=
    ⟨_, List.mem_singleton.mpr rfl, Option.some_ne_none nearBox⟩
  obtain ⟨absent, present⟩ := extent_iff isUsable_mixedResponse
  refine ⟨isUsable_mixedResponse, stable, ?_,
    (present "OGC:CRS84" stable boxed).1 (.inr stable)⟩
  rw [ne_eq, absent]
  intro none
  obtain ⟨r, hr, hsome⟩ := boxed
  exact hsome (none r hr)

/-- **A second box that counts**: the only record of the response has its
first box between 0 and 1 degree, and the extent reaches beyond it. -/
theorem extent_mixedResponse :
    (records mixedResponse).map firstBox? = [some nearBox] ∧
    ∃ first e,
      imageOf Envelope.noSystems (some "OGC:CRS84") nearBox = .ok first ∧
      (access Envelope.noSystems (some "OGC:CRS84") ⟨mixedResponse, none⟩).1
        = .ok (some e) ∧
      first.bounds.upper.first.value = 1 ∧
      20 ≤ e.bounds.upper.first.value := by
  obtain ⟨first, hfirst, hnear⟩ := exists_imageOf_nearBox
  obtain ⟨second, hsecond, hfar⟩ := exists_imageOf_farBox
  have stable : Crs.normalize (some "OGC:CRS84") = .ok "OGC:CRS84" := rfl
  obtain ⟨e, he, -, hcover⟩ := exists_extentIn isUsable_mixedResponse stable
    (List.cons_ne_nil nearBox [farBox]) (.inr stable)
  refine ⟨rfl, first, e, hfirst, (access_new mixedResponse).trans he, hnear, ?_⟩
  rw [← hfar]
  exact (hcover.holds second.bounds
    ⟨farBox, List.mem_cons_of_mem nearBox List.mem_cons_self, second, hsecond,
      rfl⟩).upperFirst

end GeoCatalogue.Dataset
