import GeoCatalogue.Proofs.Crs.Identifier
import GeoCatalogue.Proofs.Envelope.Shape
import GeoCatalogue.Proofs.Outcome

/-!
# Envelopes and themselves

An envelope built again from its own corners and identifier, brought to its
own system or united with itself ought to stay as it is, and it ought to
have a point in common with itself. In all four cases the identifier is
brought to its form again, and nothing else can change: the corners stay, and
no transformation is asked for. So this comes down to identifiers
(`Envelope.identity_iff`): the envelope stays as it is exactly if its
identifier has the short form.
-/
namespace GeoCatalogue

@[simp] theorem Bounds.finite?_extended (b : Bounds Binary64) :
    b.extended.finite? = some b := rfl

/-- A reference denotes the same system as itself, if it denotes one. -/
@[simp] theorem Crs.same_self (g : Geodesy) (reference : Option String) :
    Crs.same g reference reference
      = (Crs.normalize reference).map fun _ => true := by
  unfold same
  cases Crs.normalize reference with
  | error cause => rfl
  | ok id =>
    rw [Except.ok_bind, Except.ok_bind, if_pos rfl]
    rfl

namespace Envelope

/-- An envelope whose identifier is brought to its form again. -/
def renormalized (e : Envelope) : Except Failure Envelope :=
  (Crs.normalize (some e.crs)).map fun id => { e with crs := id }

/-- **An envelope built from the corners and the identifier of another.** -/
@[simp] theorem ofBounds_again (e : Envelope) :
    ofBounds e.bounds.extended (some e.crs) = e.renormalized := by
  unfold ofBounds renormalized
  cases Crs.normalize (some e.crs) with
  | error cause => rfl
  | ok id =>
    rw [Except.ok_bind, Bounds.finite?_extended]
    exact dif_pos e.ordered

/-- **An envelope in its own system.** -/
@[simp] theorem toCrs_self (g : Geodesy) (e : Envelope) :
    e.toCrs g (some e.crs) = e.renormalized := by
  unfold toCrs renormalized
  rw [Crs.same_self]
  cases Crs.normalize (some e.crs) with
  | error cause => rfl
  | ok id => rfl

/-- **The union of an envelope with itself.** -/
@[simp] theorem union_self (g : Geodesy) (e : Envelope) :
    e.union g e = e.renormalized := by
  unfold union
  rw [toCrs_self]
  unfold renormalized
  cases Crs.normalize (some e.crs) with
  | error cause => rfl
  | ok id =>
    show Except.ok (Envelope.mk (e.bounds.hull e.bounds) id _)
      = Except.ok (Envelope.mk e.bounds id e.ordered)
    rw [Except.ok.injEq, mk.injEq]
    exact ⟨Bounds.hull_self e.bounds, rfl⟩

/-- **An envelope has a point in common with itself**, if its identifier
denotes a system. -/
@[simp] theorem intersects_self (g : Geodesy) (e : Envelope) :
    intersects g e e = (Crs.normalize (some e.crs)).map fun _ => true := by
  unfold intersects inSystemOf
  rw [Crs.same_self]
  cases Crs.normalize (some e.crs) with
  | error cause => rfl
  | ok id =>
    show Except.ok (e.shape.intersects e.shape) = _
    rw [shape_intersects, Bounds.Ordered.meet_self e.ordered]
    rfl

/-- Whether a computation gives an envelope equal to another. -/
def Gives (x : Except Failure Envelope) (e : Envelope) : Prop :=
  ∃ f, x = .ok f ∧ f.sameAs e = true

/-- Envelopes with the same corners are equal if their identifiers are. -/
theorem sameAs_iff_crs (e : Envelope) (id : String) :
    sameAs { e with crs := id } e = true ↔ id = e.crs := by
  have same (x : Binary64) : x.sameValue x = true :=
    Binary64.sameValue_iff.mpr rfl
  unfold sameAs
  rw [same, same, same, same]
  exact beq_iff_eq

/-- An envelope whose identifier is brought to its form again is equal to
what it was exactly if the identifier is. -/
theorem gives_renormalized_iff (e : Envelope) :
    Gives e.renormalized e ↔ Crs.normalize (some e.crs) = .ok e.crs := by
  unfold Gives renormalized
  cases Crs.normalize (some e.crs) with
  | error cause =>
    constructor
    · rintro ⟨f, h, -⟩
      cases h
    · intro h
      cases h
  | ok id =>
    constructor
    · rintro ⟨f, h, hsame⟩
      obtain rfl := Except.ok.inj h
      rw [(sameAs_iff_crs e id).mp hsame]
    · intro h
      exact ⟨_, rfl, (sameAs_iff_crs e id).mpr (Except.ok.inj h)⟩

/-- **An identifier stays as it is when it is brought to its form again, and
so does every envelope of that system** – built again, brought to its own
system, united with itself – exactly if the identifier has the short form.
An envelope has a point in common with itself exactly if its identifier is a
reference at all. -/
theorem identity_iff {reference : Option String} {id : String}
    (h : Crs.normalize reference = .ok id) :
    (Crs.normalize (some id) = .ok id ↔ Crs.IsShort id) ∧
    ∀ (g : Geodesy) (e : Envelope), e.crs = id →
      (Gives (ofBounds e.bounds.extended (some e.crs)) e ↔ Crs.IsShort id) ∧
      (Gives (e.toCrs g (some e.crs)) e ↔ Crs.IsShort id) ∧
      (Gives (e.union g e) e ↔ Crs.IsShort id) ∧
      (intersects g e e = .ok true ↔
        ∃ again, Crs.normalize (some id) = .ok again) := by
  refine ⟨Crs.normalize_eq_self_iff h, ?_⟩
  rintro g e rfl
  have stays : Gives e.renormalized e ↔ Crs.IsShort e.crs :=
    (gives_renormalized_iff e).trans (Crs.normalize_eq_self_iff h)
  rw [ofBounds_again, toCrs_self, union_self, intersects_self]
  refine ⟨stays, stays, stays, ?_⟩
  cases Crs.normalize (some e.crs) with
  | error cause =>
    constructor
    · intro no
      cases no
    · rintro ⟨again, no⟩
      cases no
  | ok again => exact ⟨fun _ => ⟨again, rfl⟩, fun _ => rfl⟩

/-- A point in a system. -/
def origin (crs : String) : Envelope :=
  ⟨⟨⟨.zero false, .zero false⟩, ⟨.zero false, .zero false⟩⟩, crs,
    by decide +kernel⟩

/-- A geodesy without any system. -/
def noSystems : Geodesy where
  find _ := .error "unknown"
  transformBounds _ _ _ := .error "unknown"

/-- An identifier in short form, that of a URN, and a point in its
system. -/
theorem identity_iff_epsg :
    Crs.normalize (some "urn:ogc:def:crs:epsg:6.6:4326")
      = .ok "EPSG:4326" ∧
    Crs.IsShort "EPSG:4326" ∧
    Crs.normalize (some "EPSG:4326") = .ok "EPSG:4326" ∧
    Gives ((origin "EPSG:4326").union noSystems (origin "EPSG:4326"))
      (origin "EPSG:4326") := by
  have found : Crs.normalize (some "urn:ogc:def:crs:epsg:6.6:4326")
      = .ok "EPSG:4326" := rfl
  have short : Crs.IsShort "EPSG:4326" := by decide +kernel
  obtain ⟨fixed, points⟩ := identity_iff found
  exact ⟨found, short, fixed.mpr short,
    (points noSystems (origin "EPSG:4326") rfl).2.2.1.mpr short⟩

/-- **Identifiers that do not stay as they are.** The code of a URN may hold
a blank: its identifier is no reference, and a point in its system has no
union with itself. The identifier of a URL may be a URN: it becomes another
identifier. -/
theorem normalize_again_differs :
    ofBounds (origin "EPSG:4326 x").bounds.extended
        (some "urn:ogc:def:crs:EPSG::4326 x")
      = .ok (origin "EPSG:4326 x") ∧
    Crs.normalize (some "EPSG:4326 x")
      = .error (.unsupportedCrs (some "EPSG:4326 x") .unrecognized) ∧
    (origin "EPSG:4326 x").union noSystems (origin "EPSG:4326 x")
      = .error (.unsupportedCrs (some "EPSG:4326 x") .unrecognized) ∧
    Crs.normalize
        (some "http://www.opengis.net/def/crs/urn/0/ogc:def:crs:EPSG::4326")
      = .ok "URN:ogc:def:crs:EPSG::4326" ∧
    Crs.normalize (some "URN:ogc:def:crs:EPSG::4326") = .ok "EPSG:4326" := by
  have found : Crs.normalize (some "urn:ogc:def:crs:EPSG::4326 x")
      = .ok "EPSG:4326 x" := rfl
  have refused : Crs.normalize (some "EPSG:4326 x")
      = .error (.unsupportedCrs (some "EPSG:4326 x") .unrecognized) := rfl
  refine ⟨?_, refused, ?_, rfl, rfl⟩
  · unfold ofBounds
    rw [found, Except.ok_bind, Bounds.finite?_extended]
    exact dif_pos (origin "EPSG:4326 x").ordered
  · rw [union_self, renormalized]
    show (Crs.normalize (some "EPSG:4326 x")).map _ = _
    rw [refused]
    rfl

end Envelope

end GeoCatalogue
