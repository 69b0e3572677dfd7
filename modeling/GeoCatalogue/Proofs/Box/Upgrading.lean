import GeoCatalogue.Box.Element
import GeoCatalogue.Proofs.Outcome
import GeoCatalogue.Proofs.Text.Trim

/-!
# Envelopes in the newer GML

An envelope of GML is read by its two corners or, if it names none, by its
positions. Writing one of GML 3.1 in GML 3.2 knows the corners only: these are
written down without the blanks around them, together with the reference, so
that the very same box is read again (`Box.upgraded_of_corners`). An envelope
that is given by two positions is read as well, but not written: it fails for
the lack of a lower corner (`Box.upgraded_keeps_iff`).
-/
namespace GeoCatalogue

open Text Xml

/-- Text that is put in front of a content comes first in its text. -/
@[simp] theorem Xml.Nodes.allText_withText {τ : Type} (value : String)
    (nodes : Nodes τ) :
    (nodes.withText value).allText = value ++ nodes.allText := by
  cases nodes with
  | text next after => exact String.append_assoc
  | nothing =>
    by_cases h : value = ""
    · simp [withText, allText, h]
    · simp [withText, allText, h]
  | element tag inside after =>
    by_cases h : value = ""
    · simp [withText, allText, h]
    · simp [withText, allText, h]
  | remark after =>
    by_cases h : value = ""
    · simp [withText, allText, h]
    · simp [withText, allText, h]

namespace Box

/-- The name of an envelope of GML 3.1. -/
def oldEnvelope : QName := ⟨Vocabulary.gml31, "Envelope"⟩

/-- The name of a lower corner in GML 3.1. -/
def oldLower : QName := ⟨Vocabulary.gml31, "lowerCorner"⟩

/-- The name of an upper corner in GML 3.1. -/
def oldUpper : QName := ⟨Vocabulary.gml31, "upperCorner"⟩

/-- The name of a position in GML 3.1. -/
def oldPosition : QName := ⟨Vocabulary.gml31, "pos"⟩

/-- **An envelope of GML 3.2** with two corners and a reference. -/
def newEnvelope (lower upper reference : String) : Element :=
  let scope : Bindings := [(some "gml", Vocabulary.gml)]
  ⟨⟨⟨Vocabulary.gml, "Envelope"⟩, [(⟨"", "srsName"⟩, reference)], scope⟩,
    gmlCorner scope "lowerCorner" lower
      (gmlCorner scope "upperCorner" upper .nothing)⟩

variable {e : Element} {box : Box} {env : Envelope}

/-! ## Reading envelopes -/

@[simp] theorem text_withText (tag : Tag) (value : String) :
    Element.text ⟨tag, Nodes.withText value .nothing⟩ = trim value := by
  rw [Element.text, Nodes.allText_withText, Nodes.allText, String.append_empty]

theorem read_oldEnvelope (name : e.name = oldEnvelope) :
    read e = .ok (.gml (gmlCorners e) (e.attribute? "srsName")) := by
  unfold read
  rw [name]
  rfl

/-- **An envelope of GML 3.2 is read as it was written**, but for the blanks
around its corners. -/
theorem read_newEnvelope (lower upper reference : String) :
    read (newEnvelope lower upper reference)
      = .ok (.gml [trim lower, trim upper] (some reference)) := by
  have corners : gmlCorners (newEnvelope lower upper reference)
      = [trim lower, trim upper] := by
    rw [← text_withText ⟨⟨Vocabulary.gml, "lowerCorner"⟩, [],
        [(some "gml", Vocabulary.gml)]⟩ lower,
      ← text_withText ⟨⟨Vocabulary.gml, "upperCorner"⟩, [],
        [(some "gml", Vocabulary.gml)]⟩ upper]
    rfl
  rw [← corners]
  rfl

/-- A box that has an envelope has two corners and a reference. -/
theorem exists_of_normalize_gml {corners : List String}
    {srsName : Option String} (h : (gml corners srsName).normalize = .ok env) :
    ∃ lower upper reference,
      corners = [lower, upper] ∧ srsName = some reference := by
  match corners, h with
  | [lower, upper], h =>
    obtain ⟨low, -, h⟩ := Except.bind_eq_ok.mp h
    obtain ⟨high, -, h⟩ := Except.bind_eq_ok.mp h
    obtain ⟨crs, hcrs, -⟩ := Except.bind_eq_ok.mp h
    cases srsName with
    | none => cases hcrs
    | some reference => exact ⟨lower, upper, reference, rfl, rfl⟩

/-- **An envelope with two corners names both of them, or has two positions.** -/
theorem corners_or_positions (name : e.name = oldEnvelope) {lower upper : String}
    (h : gmlCorners e = [lower, upper]) :
    (∃ first second, e.childNamed? oldLower = some first ∧
      e.childNamed? oldUpper = some second) ∨
    (e.childNamed? oldLower = none ∧
      (e.childrenNamed oldPosition).length = 2) := by
  unfold gmlCorners at h
  rw [name] at h
  change List.map Element.text
    (if ((e.childNamed? oldLower).toList
        ++ (e.childNamed? oldUpper).toList).isEmpty
      then e.childrenNamed oldPosition
      else (e.childNamed? oldLower).toList
        ++ (e.childNamed? oldUpper).toList) = _ at h
  have count := congrArg List.length h
  cases hlower : e.childNamed? oldLower with
  | some first =>
    cases hupper : e.childNamed? oldUpper with
    | some second => exact .inl ⟨first, second, rfl, rfl⟩
    | none =>
      rw [hlower, hupper] at count
      cases count
  | none =>
    cases hupper : e.childNamed? oldUpper with
    | some second =>
      rw [hlower, hupper] at count
      cases count
    | none =>
      rw [hlower, hupper] at count
      refine .inr ⟨rfl, ?_⟩
      rwa [List.length_map] at count

/-! ## Writing envelopes anew -/

/-- What is written for an envelope of GML 3.1. -/
theorem upgraded_oldEnvelope (name : e.name = oldEnvelope) :
    upgraded e = (do
      let lower ← cornerText e "lowerCorner"
      let upper ← cornerText e "upperCorner"
      .ok (some (newEnvelope lower upper
        ((e.attribute? "srsName").getD "")))) := by
  unfold upgraded
  rw [if_neg (by rw [name]; decide)]
  rfl

theorem cornerText_of_childNamed? {child : Element} {corner : String}
    (h : e.childNamed? ⟨e.name.namespaceName, corner⟩ = some child) :
    cornerText e corner = .ok child.text := by
  unfold cornerText
  rw [h]

/-- **An envelope with both corners is written so that the same box is read
again.** -/
theorem upgraded_of_corners (name : e.name = oldEnvelope)
    {lower upper : Element} {reference : String}
    (hlower : e.childNamed? oldLower = some lower)
    (hupper : e.childNamed? oldUpper = some upper)
    (href : e.attribute? "srsName" = some reference) :
    upgraded e = .ok (some (newEnvelope lower.text upper.text reference)) ∧
      read (newEnvelope lower.text upper.text reference) = read e := by
  have space : e.name.namespaceName = Vocabulary.gml31 := by
    rw [name]
    rfl
  constructor
  · rw [upgraded_oldEnvelope name, cornerText_of_childNamed? (by rwa [space]),
      cornerText_of_childNamed? (by rwa [space]), href]
    rfl
  · have corners : gmlCorners e = [lower.text, upper.text] := by
      unfold gmlCorners
      dsimp only
      rw [space]
      unfold oldLower at hlower
      unfold oldUpper at hupper
      rw [hlower, hupper]
      rfl
    rw [read_newEnvelope, read_oldEnvelope name, corners, href]
    unfold Element.text
    rw [trim_trim, trim_trim]

/-- An envelope of positions is not written: it has no lower corner. -/
theorem upgraded_of_positions (name : e.name = oldEnvelope)
    (h : e.childNamed? oldLower = none) :
    upgraded e
      = .error (.malformedEnvelope (.missingCorner "lowerCorner" "Envelope")) := by
  rw [upgraded_oldEnvelope name]
  unfold cornerText
  rw [name]
  unfold oldLower at h
  rw [show oldEnvelope.namespaceName = Vocabulary.gml31 from rfl, h]
  rfl

/-- **Writing an envelope in GML 3.2 keeps it exactly if it names its corners.**
Take an envelope of GML 3.1 that is read and normalized. What is written for it is
read and normalized to the same envelope if it has a lower corner; it has an upper
one as well then. Otherwise it has two positions, which are not looked for:
writing it fails for the lack of a lower corner. -/
theorem upgraded_keeps_iff (name : e.name = oldEnvelope)
    (reads : read e = .ok box) (normal : box.normalize = .ok env) :
    ((∃ e' box', upgraded e = .ok (some e') ∧ read e' = .ok box' ∧
        box'.normalize = .ok env) ↔
      ∃ child ∈ e.inside.children, child.name = oldLower) ∧
    ((∀ child ∈ e.inside.children, child.name ≠ oldLower) →
      (e.childrenNamed oldPosition).length = 2 ∧
      upgraded e = .error
        (.malformedEnvelope (.missingCorner "lowerCorner" "Envelope"))) := by
  have same := reads
  rw [read_oldEnvelope name] at same
  obtain rfl := Except.ok.inj same
  obtain ⟨lower, upper, reference, corners, href⟩ :=
    exists_of_normalize_gml normal
  rcases corners_or_positions name corners with
    ⟨first, second, hlower, hupper⟩ | ⟨hlower, positions⟩
  · have named : ∃ child ∈ e.inside.children, child.name = oldLower := by
      unfold Element.childNamed? at hlower
      exact ⟨first, List.mem_of_find?_eq_some hlower,
        beq_iff_eq.mp (List.find?_some hlower :)⟩
    obtain ⟨written, kept⟩ := upgraded_of_corners name hlower hupper href
    refine ⟨⟨fun _ => named, fun _ => ⟨_, _, written, kept.trans reads, normal⟩⟩,
      fun no => ?_⟩
    obtain ⟨child, hchild, same⟩ := named
    exact absurd same (no child hchild)
  · have fails := upgraded_of_positions name hlower
    refine ⟨⟨?_, ?_⟩, fun _ => ⟨positions, fails⟩⟩
    · rintro ⟨e', box', written, -, -⟩
      rw [fails] at written
      cases written
    · rintro ⟨child, hchild, same⟩
      have no := List.find?_eq_none.mp hlower child hchild
      exact absurd (beq_iff_eq.mpr same) no

/-- An envelope of GML 3.1 with some content. -/
def oldEnvelopeWith (inside : Content) : Element :=
  ⟨⟨oldEnvelope, [(⟨"", "srsName"⟩, "EPSG:4326")],
    [(some "g", Vocabulary.gml31)]⟩, inside⟩

/-- A child of that envelope, and what comes after it. -/
def oldChild (name : QName) (inside after : Content) : Content :=
  .element ⟨name, [], [(some "g", Vocabulary.gml31)]⟩ inside after

/-- An envelope with a remark in a corner, blanks around it and a position in
between is kept. -/
theorem upgraded_keeps_iff_corners :
    let e := oldEnvelopeWith
      (oldChild oldUpper (.text " 3 " (.remark (.text "4\n" .nothing)))
        (oldChild oldPosition (.text "0 0" .nothing)
          (oldChild oldLower (.text "1 2" .nothing) .nothing)))
    ∃ box env e' box', read e = .ok box ∧ box.normalize = .ok env ∧
      upgraded e = .ok (some e') ∧ read e' = .ok box' ∧
      box'.normalize = .ok env := by
  intro e
  have reads : read e = .ok (.gml ["1 2", "3 4"] (some "EPSG:4326")) := by
    decide +kernel
  have ordered : (normalize (.gml ["1 2", "3 4"] (some "EPSG:4326"))).isOk
      = true := by decide +kernel
  obtain ⟨env, normal⟩ := Except.exists_of_isOk ordered
  obtain ⟨e', box', written, reads', normal'⟩ :=
    (upgraded_keeps_iff rfl reads normal).1.mpr
      ⟨_, .tail _ (.tail _ (.head _)), rfl⟩
  exact ⟨_, env, e', box', reads, normal, written, reads', normal'⟩

/-- An envelope of two positions, in order. -/
def positionedEnvelope : Element :=
  oldEnvelopeWith
    (oldChild oldPosition (.text "1 2" .nothing)
      (oldChild oldPosition (.text "3 4" .nothing) .nothing))

/-- **An envelope of two positions is normalized, but not written.** -/
theorem upgraded_positionedEnvelope :
    (∃ box env, read positionedEnvelope = .ok box ∧
      box.normalize = .ok env) ∧
    ¬ ∃ e' box' env', upgraded positionedEnvelope = .ok (some e') ∧
      read e' = .ok box' ∧ box'.normalize = .ok env' := by
  have reads : read positionedEnvelope
      = .ok (.gml ["1 2", "3 4"] (some "EPSG:4326")) := by decide +kernel
  have ordered : (normalize (.gml ["1 2", "3 4"] (some "EPSG:4326"))).isOk
      = true := by decide +kernel
  obtain ⟨env, normal⟩ := Except.exists_of_isOk ordered
  refine ⟨⟨_, env, reads, normal⟩, ?_⟩
  rintro ⟨e', box', env', written, -⟩
  have fails : upgraded positionedEnvelope = .error
      (.malformedEnvelope (.missingCorner "lowerCorner" "Envelope")) := rfl
  rw [fails] at written
  cases written

end Box

end GeoCatalogue
