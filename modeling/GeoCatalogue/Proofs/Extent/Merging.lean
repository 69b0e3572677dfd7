import GeoCatalogue.Proofs.Crs.Identifier
import GeoCatalogue.Proofs.Envelope.Identity

/-!
# Areas added one after the other

Areas are added one by one: each is brought to the common system, and what
was there is united with it. So as long as every area has an image in the
common system, their extent is the union of the images, taken from the first
to the last (`foldlM_none_eq`) – for boxes and for envelopes.

Uniting brings the identifier of the common system to its form again. If it
stays as it is, the union is the least cover of the images, in the common
system (`exists_unite`). If it does not, the union of two or more images
fails or ends in some other system (`crs_unite_ne`).
-/
namespace GeoCatalogue

open Crs

variable {g : Geodesy} {reference : Option String}

/-- **The envelope of a box in the system of a reference.** -/
def Box.image (g : Geodesy) (reference : Option String) (box : Box) :
    Except Failure Envelope := do
  let e ← box.normalize
  e.toCrs g reference

/-- **An envelope united with others**, one after the other. -/
def unite (g : Geodesy) (before : Envelope) (images : List Envelope) :
    Except Failure Envelope :=
  images.foldlM (Envelope.union g) before

/-- **The areas of some images**: none, or what the images are united to. -/
def Merger.ofImages (g : Geodesy) (reference : Option String) :
    List Envelope → Except Failure Merger
  | [] => .ok ⟨reference, none⟩
  | first :: rest => (unite g first rest).map fun e => ⟨reference, some e⟩

/-! ## From areas to images -/

/-- Transformed bounds are in the system asked for. -/
theorem Envelope.crs_of_transformed {e image : Envelope}
    {source target : ReferenceSystem} {crs : String}
    (h : e.transformed g source target crs = .ok image) :
    image.crs = crs := by
  unfold transformed ofTransformed at h
  split at h
  · cases h
  · split at h
    · cases h
    · split at h
      · rw [← Except.ok.inj h]
      · cases h

/-- **The system of an image** is the one that was asked for, by its
identifier. -/
theorem Envelope.normalize_of_toCrs {e image : Envelope}
    (h : e.toCrs g reference = .ok image) :
    normalize reference = .ok image.crs := by
  obtain ⟨same, -, h⟩ := Except.bind_eq_ok.mp h
  obtain ⟨crs, hcrs, h⟩ := Except.bind_eq_ok.mp h
  rw [hcrs]
  split at h
  · rw [← Except.ok.inj h]
  · obtain ⟨⟨source, target⟩, -, h⟩ := Except.bind_eq_ok.mp h
    dsimp only at h
    split at h
    · next image' himage =>
      rw [← Except.ok.inj h, Envelope.crs_of_transformed himage]
    · cases h

/-- **What adding an envelope does**, if it goes well: its image is joined to
what there was, and nothing else changes. -/
theorem Merger.exists_of_add {m next : Merger} {e : Envelope}
    (h : m.add g e = .ok next) :
    ∃ image joined, e.toCrs g m.reference = .ok image ∧
      Merger.join g m.merged image = .ok joined ∧
      next = ⟨m.reference, some joined⟩ := by
  obtain ⟨image, himage, h⟩ := Except.bind_eq_ok.mp h
  obtain ⟨joined, hjoined, h⟩ := Except.bind_eq_ok.mp h
  exact ⟨image, joined, himage, hjoined, (Except.ok.inj h).symm⟩

theorem Merger.add_eq {merged : Option Envelope} {e image : Envelope}
    (h : e.toCrs g reference = .ok image) :
    Merger.add g ⟨reference, merged⟩ e = (Merger.join g merged image).map
      fun joined => ⟨reference, some joined⟩ := by
  unfold Merger.add
  rw [h, Except.ok_bind]
  rfl

theorem Merger.addBox_eq {merged : Option Envelope} {box : Box}
    {image : Envelope} (h : box.image g reference = .ok image) :
    Merger.addBox g ⟨reference, merged⟩ box = (Merger.join g merged image).map
      fun joined => ⟨reference, some joined⟩ := by
  obtain ⟨e, he, himage⟩ := Except.bind_eq_ok.mp h
  unfold Merger.addBox
  rw [he, Except.ok_bind, Merger.add_eq himage]

section Adding

variable {α : Type} {add : Merger → α → Except Failure Merger}
  {image : α → Except Failure Envelope}

/-- Adding more areas unites what was there with their images. -/
theorem foldlM_some_eq
    (adds : ∀ merged a e, image a = .ok e → add ⟨reference, merged⟩ a
      = (Merger.join g merged e).map fun joined => ⟨reference, some joined⟩)
    {before : Envelope} {areas : List α} {images : List Envelope}
    (h : areas.mapM image = .ok images) :
    areas.foldlM add ⟨reference, some before⟩
      = (unite g before images).map fun e => ⟨reference, some e⟩ := by
  induction Except.mapM_eq_ok_iff.mp h generalizing before with
  | nil => rfl
  | @cons area e areas images first rest ih =>
    unfold unite
    rw [List.foldlM_cons, List.foldlM_cons, adds _ area e first]
    show (before.union g e).map _ >>= _ = _
    cases before.union g e with
    | error cause => rfl
    | ok joined => exact ih (Except.mapM_eq_ok_iff.mpr rest)

/-- **Areas that are added one after the other are the union of their
images**, from the first to the last – whatever they are added as. -/
theorem foldlM_none_eq
    (adds : ∀ merged a e, image a = .ok e → add ⟨reference, merged⟩ a
      = (Merger.join g merged e).map fun joined => ⟨reference, some joined⟩)
    {areas : List α} {images : List Envelope}
    (h : areas.mapM image = .ok images) :
    areas.foldlM add ⟨reference, none⟩
      = Merger.ofImages g reference images := by
  cases Except.mapM_eq_ok_iff.mp h with
  | nil => rfl
  | @cons area e areas images first rest =>
    rw [List.foldlM_cons, adds none area e first]
    exact foldlM_some_eq adds (Except.mapM_eq_ok_iff.mpr rest)

end Adding

/-- **The extent of boxes is the union of their images**, from the first to
the last. -/
theorem mergeBoxes_eq {boxes : List Box} {images : List Envelope}
    (h : boxes.mapM (Box.image g reference) = .ok images) :
    mergeBoxes g reference boxes = Merger.ofImages g reference images :=
  foldlM_none_eq (fun _ _ _ image => Merger.addBox_eq image) h

/-! ## Uniting two envelopes -/

/-- **What uniting two envelopes does**, if it goes well: the bounds are the
hull of those of the first and of the image of the second, and the identifier
of the first is brought to its form again. -/
theorem exists_of_union {e f joined : Envelope}
    (h : e.union g f = .ok joined) :
    ∃ other, f.toCrs g (some e.crs) = .ok other ∧
      normalize (some e.crs) = .ok joined.crs ∧
      joined.bounds = e.bounds.hull other.bounds := by
  obtain ⟨other, hother, h⟩ := Except.bind_eq_ok.mp h
  obtain ⟨crs, hcrs, h⟩ := Except.bind_eq_ok.mp h
  rw [← Except.ok.inj h]
  exact ⟨other, hother, hcrs, rfl⟩

/-- The system of a union is that of the first envelope, brought to its form
again. -/
theorem normalize_of_union {e f joined : Envelope}
    (h : e.union g f = .ok joined) :
    normalize (some e.crs) = .ok joined.crs := by
  obtain ⟨-, -, hcrs, -⟩ := exists_of_union h
  exact hcrs

/-- A union holds the first envelope, whatever its system becomes. -/
theorem within_of_union {e f joined : Envelope}
    (h : e.union g f = .ok joined) : e.bounds.Within joined.bounds := by
  obtain ⟨other, -, -, hbounds⟩ := exists_of_union h
  rw [hbounds]
  exact (Bounds.hull_within_iff.mp (.refl _)).1

/-! ## In a system that stays as it is -/

/-- **The union of two envelopes of a system** whose identifier stays as it
is. -/
theorem union_of_crs_eq {crs : String}
    (stable : normalize (some crs) = .ok crs) {e f : Envelope}
    (he : e.crs = crs) (hf : f.crs = crs) :
    e.union g f = .ok
      ⟨e.bounds.hull f.bounds, crs, Bounds.ordered_hull e.ordered _⟩ := by
  have other : f.toCrs g (some e.crs) = .ok { f with crs := crs } := by
    rw [he, ← hf, Envelope.toCrs_self, Envelope.renormalized, hf, stable]
    rfl
  unfold Envelope.union
  rw [other, Except.ok_bind]
  simp only [he, stable]
  rfl

/-- **The union of envelopes of a system is their least cover**, if the identifier of the
system stays as it is. The induction is on the envelopes, and it is over all families of
bounds that the first envelope is the least cover of: with each envelope, its bounds come
into the family. -/
theorem exists_unite {crs : String} (stable : normalize (some crs) = .ok crs)
    {kind : Bounds Binary64 → Prop} {before : Envelope}
    (hbefore : before.crs = crs)
    (covers : Bounds.IsLeastCover kind before.bounds)
    {images : List Envelope} (himages : ∀ f ∈ images, f.crs = crs) :
    ∃ e, unite g before images = .ok e ∧ e.crs = crs ∧
      Bounds.IsLeastCover (fun b => kind b ∨ ∃ f ∈ images, b = f.bounds)
        e.bounds := by
  induction images generalizing before kind with
  | nil =>
    refine ⟨before, rfl, hbefore, covers.congr fun b => ?_⟩
    simp
  | cons f images ih =>
    have joined := union_of_crs_eq (g := g) stable hbefore
      (himages f List.mem_cons_self)
    -- what is covered grows by the bounds of one envelope at each step
    have covered : Bounds.IsLeastCover _ (Envelope.mk
      (before.bounds.hull f.bounds) crs
        (Bounds.ordered_hull before.ordered _)).bounds := covers.hull f.bounds
    obtain ⟨e, he, hcrs, hcover⟩ := ih rfl covered
      fun f' hf' => himages f' (List.mem_cons_of_mem f hf')
    refine ⟨e, ?_, hcrs, hcover.congr fun b => ?_⟩
    · unfold unite at he ⊢
      rw [List.foldlM_cons, joined]
      exact he
    · rw [List.exists_mem_cons_iff, or_assoc]

/-- **The union of some envelopes is their least cover**, in their system, if
that stays as it is or there is only one of them. -/
theorem exists_unite_of_settled {crs : String} {first : Envelope}
    {rest : List Envelope} (hcrs : ∀ f ∈ first :: rest, f.crs = crs)
    (settled : rest = [] ∨ normalize (some crs) = .ok crs) :
    ∃ e, unite g first rest = .ok e ∧ e.crs = crs ∧
      Bounds.IsLeastCover (fun b => ∃ f ∈ first :: rest, b = f.bounds)
        e.bounds := by
  obtain ⟨hfirst, hrest⟩ := List.forall_mem_cons.mp hcrs
  have start := Bounds.isLeastCover_self first.bounds
  obtain rfl | stable := settled
  · refine ⟨first, rfl, hfirst, start.congr fun b => ?_⟩
    simp
  · obtain ⟨e, he, hecrs, hcover⟩ :=
      exists_unite (g := g) stable hfirst start hrest
    refine ⟨e, he, hecrs, hcover.congr fun b => ?_⟩
    rw [List.exists_mem_cons_iff]

/-! ## In a system that does not stay as it is -/

/-- Uniting keeps the identifier or makes it lose marks. -/
theorem crs_unite {before e : Envelope} {images : List Envelope}
    (hbefore : normalize reference = .ok before.crs)
    (h : unite g before images = .ok e) :
    e.crs = before.crs ∨ marks e.crs.toList < marks before.crs.toList := by
  induction images generalizing before reference with
  | nil =>
    obtain rfl := Except.ok.inj h
    exact .inl rfl
  | cons f images ih =>
    unfold unite at h ih
    rw [List.foldlM_cons] at h
    obtain ⟨joined, hjoined, hrest⟩ := Except.bind_eq_ok.mp h
    have again := normalize_of_union hjoined
    rcases eq_or_marks_lt_of_normalize hbefore again with same | fewer
    · rw [← same]
      exact ih again hrest
    · rcases ih again hrest with same | fewer'
      · rw [same]
        exact .inr fewer
      · exact .inr (fewer'.trans fewer)

/-- **The union of two or more envelopes of a system that does not stay as
it is** is in some other system, if there is one at all. -/
theorem crs_unite_ne {before f e : Envelope} {images : List Envelope}
    (hbefore : normalize reference = .ok before.crs)
    (unstable : normalize (some before.crs) ≠ .ok before.crs)
    (h : unite g before (f :: images) = .ok e) : e.crs ≠ before.crs := by
  intro same
  unfold unite at h
  rw [List.foldlM_cons] at h
  obtain ⟨joined, hjoined, hrest⟩ := Except.bind_eq_ok.mp h
  have again := normalize_of_union hjoined
  -- marks that are lost in the first union do not come back
  rcases eq_or_marks_lt_of_normalize hbefore again with kept | fewer
  · rw [kept] at again
    exact unstable again
  · rcases crs_unite again hrest with later | later
    · rw [← later, same] at fewer
      exact Nat.lt_irrefl _ fewer
    · rw [same] at later
      exact Nat.lt_asymm fewer later

end GeoCatalogue
