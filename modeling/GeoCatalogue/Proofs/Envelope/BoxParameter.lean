import GeoCatalogue.Proofs.Envelope.Settling
import GeoCatalogue.Proofs.Number.Plain
import GeoCatalogue.Proofs.Text.Parts
import GeoCatalogue.Uri.Character

/-!
# Box parameters

The value of a box parameter is the bounds of an envelope in the system that is asked
for, rounded to six places and divided by commas. Whoever gets it can read the box off
again (`Envelope.exists_recovers`): there are four numbers, **they make an envelope near
the one that was meant**, and that envelope has the same value as its box parameter.
Nothing in it needs to be encoded in a URI.

What is not promised is a notation. Numbers are written as they always are, with an
exponent if they are small or large; **the value is in plain decimal notation exactly if
no coordinate has such a size** (`Envelope.isPlainBox_boxParam_iff`).
-/
namespace GeoCatalogue

open Json Text Number

@[simp] theorem Bounds.toList_map {α β : Type} (f : α → β) (b : Bounds α) :
    (b.map f).toList = b.toList.map f := rfl

theorem Bounds.Ordered.map {f : Binary64 → Binary64} {b : Bounds Binary64}
    (h : b.Ordered) (mono : ∀ x y, x ≤ y → f x ≤ f y) : (b.map f).Ordered :=
  ⟨mono _ _ h.1, mono _ _ h.2⟩

namespace Envelope

variable {g : Geodesy} {e image : Envelope} {b : Bounds Binary64}
  {reference : Option String} {id : String}

/-- The number that a coordinate of a box parameter is written as. -/
def boxNumber (x : Binary64) : Binary64 :=
  x.roundToPlaces boxParamPlaces

/-- **A box parameter divided at its commas** gives the four coordinates. -/
theorem splitOn_boxParamText (b : Bounds Binary64) :
    (boxParamText b).toList.splitOn ',' = b.toList.map fun x => (boxNumber x).chars := by
  have texts : (b.toList.map fun x => (x.roundToPlaces boxParamPlaces).text).map
      String.toList = b.toList.map fun x => (boxNumber x).chars := by
    rw [List.map_map]
    refine List.map_congr_left fun x _ => ?_
    rw [Function.comp_apply, Binary64.text, String.toList_ofList, boxNumber]
  rw [boxParamText, String.toList_intercalate, texts]
  refine List.splitOn_intercalate ',' ?_ (List.cons_ne_nil _ _)
  intro cs hcs comma
  obtain ⟨x, -, rfl⟩ := List.mem_map.mp hcs
  have no := (boxNumber x).isNumber_chars.characters ',' comma
  exact absurd no (by decide)

/-! ## Plain notation -/

/-- **A box in plain decimal notation**: four plain numbers between commas. -/
def IsPlainBox (text : String) : Prop :=
  (text.toList.splitOn ',').length = 4 ∧
    ∀ part ∈ text.toList.splitOn ',', IsPlain part

/-- **A box parameter is in plain decimal notation** exactly if each coordinate is
rounded to zero or has a size from a ten-thousandth up to below `10 ^ 16`. -/
theorem isPlainBox_boxParam_iff (h : e.toCrs g reference = .ok image) :
    ∃ text, e.boxParam g reference = .ok text ∧
      (IsPlainBox text ↔ ∀ x ∈ image.bounds.toList,
        |x.value| ≤ 1 / 2 / 10 ^ 6 ∨
          (199 / 2 / 10 ^ 6 ≤ |x.value| ∧ |x.value| < 10 ^ 16)) := by
  refine ⟨boxParamText image.bounds, ?_, ?_⟩
  · rw [boxParam, h]
    rfl
  · have four : (image.bounds.toList.map fun x => (boxNumber x).chars).length = 4 := rfl
    rw [IsPlainBox, splitOn_boxParamText, and_iff_right four, List.forall_mem_map]
    refine forall₂_congr fun x _ => ?_
    rw [boxNumber, boxParamPlaces]
    exact x.isPlain_roundToPlaces_iff

/-- An envelope that reaches from the origin to `1e-05` and one. -/
def speck : Envelope :=
  ⟨⟨⟨.zero false, .zero false⟩,
      ⟨⟨false, 5902958103587057, -69, by decide⟩, ⟨false, 2 ^ 52, -52, by decide⟩⟩⟩,
    "OGC:CRS84", by decide +kernel⟩

theorem toCrs_speck (g : Geodesy) : speck.toCrs g (some "OGC:CRS84") = .ok speck :=
  toCrs_eq_ok_iff.mpr ⟨rfl, .kept rfl (.refl g "OGC:CRS84")⟩

/-- Whether its box parameter is in plain notation depends on its coordinates. -/
theorem isPlainBox_boxParam_speck :
    speck.toCrs (Geodesy.standard "unknown") (some "OGC:CRS84") = .ok speck ∧
      ∃ text, speck.boxParam (Geodesy.standard "unknown") (some "OGC:CRS84") = .ok text ∧
        (IsPlainBox text ↔ ∀ x ∈ speck.bounds.toList,
          |x.value| ≤ 1 / 2 / 10 ^ 6 ∨
            (199 / 2 / 10 ^ 6 ≤ |x.value| ∧ |x.value| < 10 ^ 16)) :=
  ⟨toCrs_speck _, isPlainBox_boxParam_iff (toCrs_speck _)⟩

/-- One of them is written with an exponent. -/
theorem not_isPlainBox_speck :
    ∃ text, speck.boxParam (Geodesy.standard "unknown") (some "OGC:CRS84") = .ok text ∧
      ¬ IsPlainBox text := by
  have text : boxParamText speck.bounds = "0.0,0.0,1e-05,1.0" := by decide +kernel
  refine ⟨"0.0,0.0,1e-05,1.0", ?_, fun plain => ?_⟩
  · rw [boxParam, toCrs_speck, Except.ok_bind, text]
  · exact (plain.2 "1e-05".toList (by decide)).notMem (by decide)

/-! ## Reading a box parameter -/

/-- **What a box parameter says**: an envelope that is read off it. -/
structure Recovers (g : Geodesy) (reference : Option String) (image : Envelope)
    (text : String) (f : Envelope) : Prop where
  /-- Between the commas there are the four coordinates. -/
  parts : (text.toList.splitOn ',').map (fun part => Extended.ofText? (String.ofList part))
    = f.bounds.toList.map fun x => some (.finite x)
  /-- They are the corners of an envelope. -/
  built : ofBounds f.bounds.extended reference = .ok f
  /-- Each is within a millionth of what was meant. -/
  near : List.Forall₂ (fun x y => |x.value - y.value| ≤ 1 / 10 ^ 6) f.bounds.toList
    image.bounds.toList
  /-- The envelope has that box parameter, too. -/
  again : f.boxParam g reference = .ok text
  /-- Nothing of it needs to be encoded. -/
  unencoded : ∀ c ∈ text.toList, Uri.isUriChar c = true ∧ c ≠ '%'

/-- The characters of numbers have their place in a URI. -/
theorem isUriChar_of_characters {c : Char}
    (h : isAsciiDigit c = true ∨ c ∈ ['.', 'e', 'E', '+', '-']) :
    Uri.isUriChar c = true ∧ c ≠ '%' := by
  rcases h with digit | mark
  · have unreserved : Uri.isUnreserved c = true := by
      have digit : Uri.isDigit c = true := digit
      simp [Uri.isUnreserved, digit]
    refine ⟨by simp [Uri.isUriChar, unreserved], ?_⟩
    rintro rfl
    exact absurd digit (by decide)
  · have marks : ∀ c ∈ ['.', 'e', 'E', '+', '-'], Uri.isUriChar c = true :=
      List.all_eq_true.mp rfl
    refine ⟨marks c mark, ?_⟩
    rintro rfl
    exact absurd mark (by decide)

/-- **No character of a box parameter** needs to be encoded in a URI. -/
theorem isUriChar_of_mem_boxParamText {c : Char} (h : c ∈ (boxParamText b).toList) :
    Uri.isUriChar c = true ∧ c ≠ '%' := by
  rw [eq_intercalate_of_splitOn (splitOn_boxParamText b)] at h
  rcases mem_intercalate h with rfl | ⟨part, member, hc⟩
  · decide
  · obtain ⟨x, -, rfl⟩ := List.mem_map.mp member
    exact isUriChar_of_characters ((boxNumber x).isNumber_chars.characters c hc)

theorem ordered_map_boxNumber (h : b.Ordered) : (b.map boxNumber).Ordered := by
  refine h.map fun x y le => ?_
  rw [boxNumber, boxNumber]
  exact Binary64.roundToPlaces_le_roundToPlaces le boxParamPlaces

/-- Rounded corners have the box parameter of the corners. -/
@[simp] theorem boxParamText_map_boxNumber (b : Bounds Binary64) :
    boxParamText (b.map boxNumber) = boxParamText b := by
  have again (x : Binary64) :
      (boxNumber x).roundToPlaces boxParamPlaces = x.roundToPlaces boxParamPlaces := by
    rw [boxNumber, boxParamPlaces, x.roundToPlaces_six]
  rw [boxParamText, boxParamText, Bounds.toList_map, List.map_map]
  refine congrArg _ (List.map_congr_left fun x _ => ?_)
  rw [Function.comp_apply, again]

/-- **The box is read off its parameter**: an envelope within a millionth of the image,
which has the same parameter. -/
theorem exists_recovers (hid : Crs.normalize reference = .ok id)
    (stable : Crs.normalize (some id) = .ok id)
    (h : e.toCrs g reference = .ok image) :
    ∃ text f, e.boxParam g reference = .ok text ∧
      Recovers g reference image text f := by
  generalize hf : Envelope.mk (image.bounds.map boxNumber) id
    (ordered_map_boxNumber image.ordered) = f
  have bounds : f.bounds = image.bounds.map boxNumber := by rw [← hf]
  have crs : f.crs = id := by rw [← hf]
  have built : ofBounds f.bounds.extended reference = .ok f :=
    ofBounds_extended (crs ▸ hid)
  have kept : f.toCrs g reference = .ok f := by
    rw [← crs] at hid stable
    exact toCrs_eq_ok_iff.mpr ⟨hid, .kept stable (.refl g f.crs)⟩
  refine ⟨boxParamText image.bounds, f, ?_, ⟨?_, built, ?_, ?_, ?_⟩⟩
  · rw [boxParam, h]
    rfl
  case refine_2 =>
    rw [splitOn_boxParamText, bounds, Bounds.toList_map, List.map_map, List.map_map]
    refine List.map_congr_left fun x _ => ?_
    rw [Function.comp_apply, Function.comp_apply, ← Binary64.text, Extended.ofText?_text]
  case refine_3 =>
    rw [bounds, Bounds.toList_map, List.forall₂_map_left_iff, List.forall₂_same]
    intro x _
    rw [boxNumber, boxParamPlaces]
    exact x.abs_value_roundToPlaces_sub_le 6
  case refine_4 =>
    rw [boxParam, kept, Except.ok_bind, bounds, boxParamText_map_boxNumber]
  case refine_5 => exact fun c => isUriChar_of_mem_boxParamText

/-- An envelope is read off a box parameter with an exponent, too. -/
theorem exists_recovers_speck :
    (Crs.normalize (some "OGC:CRS84") = .ok "OGC:CRS84" ∧
      speck.toCrs (Geodesy.standard "unknown") (some "OGC:CRS84") = .ok speck) ∧
      ∃ text f,
        speck.boxParam (Geodesy.standard "unknown") (some "OGC:CRS84") = .ok text ∧
          Recovers (Geodesy.standard "unknown") (some "OGC:CRS84") speck text f :=
  ⟨⟨rfl, toCrs_speck _⟩, exists_recovers rfl rfl (toCrs_speck _)⟩

end Envelope

end GeoCatalogue
