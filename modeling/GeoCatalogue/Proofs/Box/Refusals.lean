import GeoCatalogue.Box.Basic
import GeoCatalogue.Proofs.Envelope.Settling

/-!
# Why a box is refused

A box may be wrong in several ways at once: in the count of its corners, in its
tokens and their count, in the reference to its system and in the order of its
corners. The vocabularies share no code path from end to end, but they agree on
**which defect counts** (`Box.Refused`). The corners are counted first, then the texts
are gone through in order, each for its first token that is no finite number and then
for the count of its tokens, then comes the reference and last the order of the
corners. A box is refused for this defect and for no other, and if there is none, its
envelope is that of its numbers (`Box.normalize_classifies`).

All of this is said of the tokens of the texts. So the texts matter only as sequences of
tokens, except that they are quoted in messages (`Box.normalize_congr`).
-/
namespace GeoCatalogue

open Text

/-- Building an envelope of finite bounds looks at the reference and then at their
order. -/
theorem Envelope.ofBounds_of_extended (bounds : Bounds Binary64)
    (reference : Option String) :
    Envelope.ofBounds bounds.extended reference = (do
      let crs ← Crs.normalize reference
      if ordered : bounds.Ordered then .ok ⟨bounds, crs, ordered⟩
      else .error (.malformedEnvelope (.cornersExchanged bounds crs))) := by
  unfold ofBounds
  rw [Bounds.finite?_extended]

namespace Box

/-! ## What a box is made of -/

/-- **The texts that hold the coordinates of a box**, each after the place that it is
reported under. Corners that are not two are not looked at. -/
def coordinateTexts : Box → List (String × String)
  | generic lower upper _ => [("ows:LowerCorner", lower), ("ows:UpperCorner", upper)]
  | wgs84 lower upper => [("ows:LowerCorner", lower), ("ows:UpperCorner", upper)]
  | geoRss text => [("georss:box", text)]
  | gml [lower, upper] _ => [("gml:lowerCorner", lower), ("gml:upperCorner", upper)]
  | gml _ _ => []

/-- **The count of numbers** that each of its texts has to hold. -/
def numbersEach : Box → Nat
  | geoRss _ => 4
  | _ => 2

/-- What is wrong with a text that holds another count of numbers. -/
def countDefect : Box → String → String → EnvelopeDefect
  | geoRss _, _, text => .boxText text
  | _, source, text => .coordinateCount source (words text).length text

/-- **The identifier of its system**: that of the reference, if the box has one to
write. -/
def system : Box → Except Failure String
  | generic _ _ crs => Crs.normalize crs
  | wgs84 .. => .ok "OGC:CRS84"
  | geoRss _ => .ok "EPSG:4326"
  | gml _ srsName => Crs.normalize srsName

/-- **A token is a finite number.** -/
def IsNumber (token : String) : Prop :=
  (finite? token).isSome = true

/-- **A text of a box is as it has to be**: its tokens are numbers, as many as
needed. -/
def Sound (box : Box) (text : String) : Prop :=
  (∀ token ∈ words text, IsNumber token) ∧ (words text).length = box.numbersEach

/-- **A box holds the numbers of some bounds**: they are its tokens, in order. -/
structure Holds (box : Box) (bounds : Bounds Binary64) : Prop where
  /-- Each text has as many tokens as needed. -/
  counts : ∀ place ∈ box.coordinateTexts,
    (words place.2).length = box.numbersEach
  /-- The tokens of all texts are the four numbers. -/
  numbers : List.Forall₂ (fun token x => finite? token = some x)
    (box.coordinateTexts.flatMap fun place => words place.2) bounds.toList

/-- **Why a box is refused**: the first of its defects. -/
inductive Refused (box : Box) : Failure → Prop where
  /-- An envelope of GML has not two corners. -/
  | corners {corners : List String} {srsName : Option String}
      (envelope : box = .gml corners srsName) (count : corners.length ≠ 2) :
      Refused box (.malformedEnvelope (.cornerCount corners.length))
  /-- A text has a token that is no number; there is none in front of it in the text,
  and the texts before are sound. -/
  | token {before after : List (String × String)} {source text : String}
      {front back : List String} {token : String}
      (place : box.coordinateTexts = before ++ (source, text) :: after)
      (earlier : ∀ place ∈ before, box.Sound place.2)
      (split : words text = front ++ token :: back)
      (numbers : ∀ token ∈ front, IsNumber token) (bad : ¬IsNumber token) :
      Refused box (.invalidCoordinate token source)
  /-- A text has numbers only, but not as many as needed; the texts before are
  sound. -/
  | count {before after : List (String × String)} {source text : String}
      (place : box.coordinateTexts = before ++ (source, text) :: after)
      (earlier : ∀ place ∈ before, box.Sound place.2)
      (numbers : ∀ token ∈ words text, IsNumber token)
      (count : (words text).length ≠ box.numbersEach) :
      Refused box (.malformedEnvelope (box.countDefect source text))
  /-- The texts hold the numbers of some bounds, but the reference is missing or has
  none of the forms. -/
  | reference {bounds : Bounds Binary64} {reference : Option String}
      {defect : CrsDefect} (holds : box.Holds bounds)
      (fails : box.system = .error (.unsupportedCrs reference defect)) :
      Refused box (.unsupportedCrs reference defect)
  /-- The texts hold the numbers of some bounds, there is a system, but the lower corner
  is greater than the upper one on some axis. -/
  | order {bounds : Bounds Binary64} {crs : String} (holds : box.Holds bounds)
      (system : box.system = .ok crs) (inverted : bounds.extended.Inverted) :
      Refused box (.malformedEnvelope (.cornersExchanged bounds crs))

variable {box : Box} {bounds : Bounds Binary64} {failure : Failure}

/-- **Boxes of the same tokens**: of one kind, with the same reference; the texts may
have other blanks. -/
inductive SameTokens : Box → Box → Prop where
  | generic {lower lower' upper upper' : String} (crs : Option String)
      (low : words lower = words lower') (high : words upper = words upper') :
      SameTokens (.generic lower upper crs) (.generic lower' upper' crs)
  | wgs84 {lower lower' upper upper' : String}
      (low : words lower = words lower') (high : words upper = words upper') :
      SameTokens (.wgs84 lower upper) (.wgs84 lower' upper')
  | geoRss {text text' : String} (same : words text = words text') :
      SameTokens (.geoRss text) (.geoRss text')
  | gml {corners corners' : List String} (srsName : Option String)
      (same : corners.map words = corners'.map words) :
      SameTokens (.gml corners srsName) (.gml corners' srsName)

/-- **A failure without the text that it quotes.** -/
def unquoted : Failure → Failure
  | .malformedEnvelope (.coordinateCount source count _) =>
    .malformedEnvelope (.coordinateCount source count "")
  | .malformedEnvelope (.boxText _) => .malformedEnvelope (.boxText "")
  | failure => failure

/-! ## Reading the texts -/

/-- **The numbers of one of the texts of a box.** -/
def readText (box : Box) (place : String × String) :
    Except Failure (List Binary64) := do
  let values ← numbers place.1 place.2
  if values.length = box.numbersEach then .ok values
  else .error (.malformedEnvelope (box.countDefect place.1 place.2))

/-- What the envelope of a box is, once its numbers are known. -/
def build (box : Box) (bounds : Bounds Binary64) : Except Failure Envelope := do
  let crs ← box.system
  if ordered : bounds.Ordered then .ok ⟨bounds, crs, ordered⟩
  else .error (.malformedEnvelope (.cornersExchanged bounds crs))

theorem finite?_eq_none_iff {token : String} :
    finite? token = none ↔ ¬IsNumber token := by
  unfold IsNumber
  rw [Bool.not_eq_true, Option.isSome_eq_false_iff, Option.isNone_iff_eq_none]

/-- **The tokens of a text are numbers**, one by one. -/
theorem numbers_eq_ok {source text : String} {values : List Binary64} :
    numbers source text = .ok values ↔
      List.Forall₂ (fun token x => finite? token = some x) (words text) values := by
  unfold numbers
  rw [Except.mapM_eq_ok_iff]
  refine ⟨fun h => h.imp fun token x hx => ?_, fun h => h.imp fun token x hx => ?_⟩
  · revert hx
    cases finite? token with
    | none => simp
    | some y => simp
  · rw [hx]

/-- **The first token that is no number** is reported. -/
theorem numbers_eq_error {source text : String} :
    numbers source text = .error failure ↔
      ∃ front token back, words text = front ++ token :: back ∧
        (∀ token ∈ front, IsNumber token) ∧ ¬IsNumber token ∧
        failure = .invalidCoordinate token source := by
  unfold numbers
  rw [Except.mapM_eq_error_iff]
  refine exists₃_congr fun front token back => and_congr_right fun _ =>
    and_congr (forall₂_congr fun token _ => ?_) ?_
  · unfold IsNumber
    cases finite? token with
    | none => simp
    | some x => simp
  · unfold IsNumber
    cases finite? token with
    | none => simp [eq_comm]
    | some x => simp

theorem isNumber_of_numbers {source text : String} {values : List Binary64}
    (h : numbers source text = .ok values) : ∀ token ∈ words text, IsNumber token := by
  intro token htoken
  obtain ⟨x, -, hx⟩ := (numbers_eq_ok.mp h).exists_of_mem_left htoken
  exact Option.isSome_iff_exists.mpr ⟨x, hx⟩

theorem exists_numbers_of_isNumber (source : String) {text : String}
    (h : ∀ token ∈ words text, IsNumber token) :
    ∃ values, numbers source text = .ok values := by
  cases read : numbers source text with
  | ok values => exact ⟨values, rfl⟩
  | error failure =>
    obtain ⟨front, token, back, split, -, bad, -⟩ := numbers_eq_error.mp read
    exact absurd (h token (by rw [split]; simp)) bad

/-- **A text is read exactly if it is sound.** -/
theorem readText_eq_ok {place : String × String} {values : List Binary64} :
    box.readText place = .ok values ↔
      List.Forall₂ (fun token x => finite? token = some x) (words place.2) values ∧
        (words place.2).length = box.numbersEach := by
  unfold readText
  rw [Except.bind_eq_ok, ← numbers_eq_ok]
  constructor
  · rintro ⟨values', read, h⟩
    split at h
    · next count =>
      obtain rfl := Except.ok.inj h
      exact ⟨read, (numbers_eq_ok.mp read).length_eq.trans count⟩
    · cases h
  · rintro ⟨read, count⟩
    exact ⟨values, read, if_pos ((numbers_eq_ok.mp read).length_eq.symm.trans count)⟩

/-- **A text that is not read** has a token that is no number, and the first one is
reported; or it has numbers only, but not as many as needed. -/
theorem readText_eq_error {place : String × String} :
    box.readText place = .error failure ↔
      (∃ front token back, words place.2 = front ++ token :: back ∧
        (∀ token ∈ front, IsNumber token) ∧ ¬IsNumber token ∧
        failure = .invalidCoordinate token place.1) ∨
      (∀ token ∈ words place.2, IsNumber token) ∧
        (words place.2).length ≠ box.numbersEach ∧
        failure = .malformedEnvelope (box.countDefect place.1 place.2) := by
  unfold readText
  rw [Except.bind_eq_error, ← numbers_eq_error]
  refine or_congr_right ⟨?_, ?_⟩
  · rintro ⟨values, read, h⟩
    split at h
    · cases h
    · next count =>
      refine ⟨isNumber_of_numbers read, ?_, (Except.error.inj h).symm⟩
      rwa [(numbers_eq_ok.mp read).length_eq]
  · rintro ⟨all, count, rfl⟩
    obtain ⟨values, read⟩ := exists_numbers_of_isNumber place.1 all
    rw [(numbers_eq_ok.mp read).length_eq] at count
    exact ⟨values, read, if_neg count⟩

/-- A text is sound exactly if it is read. -/
theorem sound_iff {place : String × String} :
    box.Sound place.2 ↔ ∃ values, box.readText place = .ok values := by
  constructor
  · rintro ⟨all, count⟩
    obtain ⟨values, read⟩ := exists_numbers_of_isNumber place.1 all
    exact ⟨values, readText_eq_ok.mpr ⟨numbers_eq_ok.mp read, count⟩⟩
  · rintro ⟨values, read⟩
    obtain ⟨each, count⟩ := readText_eq_ok.mp read
    exact ⟨isNumber_of_numbers (numbers_eq_ok.mpr each : numbers "" place.2 = _), count⟩

/-- **A box is unread** with a failure if one of its texts is, and the texts before are
sound. -/
theorem readTexts_eq_error :
    box.coordinateTexts.mapM box.readText = .error failure ↔
      ∃ before place after, box.coordinateTexts = before ++ place :: after ∧
        (∀ place ∈ before, box.Sound place.2) ∧
        box.readText place = .error failure := by
  rw [Except.mapM_eq_error_iff]
  exact exists₃_congr fun before place after => and_congr_right fun _ =>
    and_congr_left fun _ => forall₂_congr fun place _ => sound_iff.symm

/-! ## The numbers of a box -/

/-- The texts of a box that holds numbers are sound. -/
theorem Holds.sound (h : box.Holds bounds) :
    ∀ place ∈ box.coordinateTexts, box.Sound place.2 := by
  intro place hplace
  refine ⟨fun token htoken => ?_, h.counts place hplace⟩
  obtain ⟨x, -, hx⟩ := h.numbers.exists_of_mem_left
    (List.mem_flatMap.mpr ⟨place, hplace, htoken⟩)
  exact Option.isSome_iff_exists.mpr ⟨x, hx⟩

/-- **A box that holds numbers is read.** -/
theorem Holds.readTexts (h : box.Holds bounds) :
    box.coordinateTexts.mapM box.readText ≠ .error failure := by
  intro unread
  obtain ⟨before, place, after, split, -, fails⟩ := readTexts_eq_error.mp unread
  obtain ⟨values, read⟩ := sound_iff.mp (h.sound place (by rw [split]; simp))
  cases read.symm.trans fails

/-- **A box holds the numbers of no other bounds.** -/
theorem Holds.unique {bounds' : Bounds Binary64} (h : box.Holds bounds)
    (h' : box.Holds bounds') : bounds = bounds' := by
  have determined : Relator.RightUnique fun token x => finite? token = some x :=
    fun _ _ _ hx hy => Option.some.inj (hx.symm.trans hy)
  have same := determined.forall₂ h.numbers h'.numbers
  obtain ⟨⟨a, b⟩, c, d⟩ := bounds
  obtain ⟨⟨a', b'⟩, c', d'⟩ := bounds'
  obtain ⟨rfl, rfl, rfl, rfl⟩ : a = a' ∧ b = b' ∧ c = c' ∧ d = d' := by
    simpa [Bounds.toList, Position.toList] using same
  rfl

/-! ## The steps of normalizing -/

/-- **Two numbers are a position**, in a box whose texts hold two numbers each, and what
is wrong with a text is wrong with the position. -/
theorem readText_or_position (pair : box.numbersEach = 2)
    (counted : ∀ source text, box.countDefect source text
      = .coordinateCount source (words text).length text) (source text : String) :
    (∃ p : Position Binary64, box.readText (source, text) = .ok p.toList ∧
      position source text = .ok p.extended) ∨
    ∃ failure, box.readText (source, text) = .error failure ∧
      position source text = .error failure := by
  unfold readText position
  cases read : numbers source text with
  | error failure => exact .inr ⟨failure, rfl, rfl⟩
  | ok values =>
    have count := (numbers_eq_ok.mp read).length_eq
    rw [Except.ok_bind, Except.ok_bind, pair, counted, count]
    match values with
    | [x, y] => exact .inl ⟨⟨x, y⟩, rfl, rfl⟩
    | [] | [_] | _ :: _ :: _ :: _ => exact .inr ⟨_, by simp, rfl⟩

/-- **What normalizing a box comes to** is either to build the envelope of its numbers, or
to fail as its texts do. -/
def ReadOrRefused (box : Box) (outcome : Except Failure Envelope) : Prop :=
  (∃ bounds, box.Holds bounds ∧ outcome = box.build bounds) ∨
    ∃ failure, box.coordinateTexts.mapM box.readText = .error failure ∧
      outcome = .error failure

/-- **A box of two corners** comes to the one or the other. -/
theorem readOrRefused_ofCorners {lowerSource upperSource lower upper : String}
    {reference : Option String} (pair : box.numbersEach = 2)
    (counted : ∀ source text, box.countDefect source text
      = .coordinateCount source (words text).length text)
    (texts : box.coordinateTexts = [(lowerSource, lower), (upperSource, upper)])
    (system : box.system = Crs.normalize reference) :
    box.ReadOrRefused (ofCorners lowerSource upperSource lower upper reference) := by
  unfold ReadOrRefused ofCorners
  rw [texts, List.mapM_cons, List.mapM_cons, List.mapM_nil]
  rcases readText_or_position pair counted lowerSource lower with
    ⟨p, readLow, low⟩ | ⟨failure, readLow, low⟩
  · rcases readText_or_position pair counted upperSource upper with
      ⟨q, readHigh, high⟩ | ⟨failure, readHigh, high⟩
    · obtain ⟨eachLow, countLow⟩ := readText_eq_ok.mp readLow
      obtain ⟨eachHigh, countHigh⟩ := readText_eq_ok.mp readHigh
      refine .inl ⟨⟨p, q⟩, ⟨?_, ?_⟩, ?_⟩
      · rw [texts]
        simp [countLow, countHigh]
      · rw [texts]
        simpa [Bounds.toList] using List.rel_append eachLow eachHigh
      · rw [low, high, build, system]
        exact Envelope.ofBounds_of_extended ⟨p, q⟩ reference
    · refine .inr ⟨failure, ?_, ?_⟩
      · rw [readLow, readHigh]
        rfl
      · rw [low, high]
        rfl
  · refine .inr ⟨failure, ?_, ?_⟩
    · rw [readLow]
      rfl
    · rw [low]
      rfl

/-- **A GeoRSS box** comes to the one or the other. -/
theorem readOrRefused_ofBoxText (text : String) :
    (geoRss text).ReadOrRefused (ofBoxText text) := by
  unfold ReadOrRefused ofBoxText
  show (∃ bounds, (geoRss text).Holds bounds ∧ _) ∨
    ∃ failure, [("georss:box", text)].mapM (geoRss text).readText = _ ∧ _
  rw [List.mapM_cons, List.mapM_nil]
  unfold readText
  cases read : numbers "georss:box" text with
  | error failure => exact .inr ⟨failure, rfl, rfl⟩
  | ok values =>
    have each := numbers_eq_ok.mp read
    have count := each.length_eq
    match values with
    | [a, b, c, d] =>
      refine .inl ⟨⟨⟨a, b⟩, c, d⟩, ⟨?_, ?_⟩, ?_⟩
      · simpa [coordinateTexts, numbersEach] using count
      · simpa [coordinateTexts, Bounds.toList, Position.toList] using each
      · exact Envelope.ofBounds_of_extended ⟨⟨a, b⟩, c, d⟩ (some geoRssReference)
    | [] | [_] | [_, _] | [_, _, _] | _ :: _ :: _ :: _ :: _ :: _ =>
      exact .inr ⟨_, by simp [numbersEach]; rfl, rfl⟩

/-- **Every box that is no envelope of GML with a wrong count of corners** comes to the
one or the other. -/
theorem readOrRefused_normalize (box : Box) :
    box.ReadOrRefused box.normalize ∨
      ∃ corners srsName, box = .gml corners srsName ∧ corners.length ≠ 2 := by
  match box with
  | generic lower upper crs =>
    exact .inl (readOrRefused_ofCorners rfl (fun _ _ => rfl) rfl rfl)
  | wgs84 lower upper =>
    exact .inl (readOrRefused_ofCorners rfl (fun _ _ => rfl) rfl rfl)
  | geoRss text => exact .inl (readOrRefused_ofBoxText text)
  | gml [lower, upper] srsName =>
    exact .inl (readOrRefused_ofCorners rfl (fun _ _ => rfl) rfl rfl)
  | gml [] srsName | gml [_] srsName | gml (_ :: _ :: _ :: _) srsName =>
    exact .inr ⟨_, srsName, rfl, by simp⟩

/-! ## Which defect counts -/

/-- An envelope of GML without two corners has no texts to look at. -/
@[simp] theorem coordinateTexts_of_count {corners : List String} {srsName : Option String}
    (count : corners.length ≠ 2) : (gml corners srsName).coordinateTexts = [] := by
  match corners with
  | [] | [_] | _ :: _ :: _ :: _ => rfl
  | [_, _] => exact absurd rfl count

/-- **An envelope of GML without two corners is refused** for their count. -/
theorem normalize_of_count {corners : List String} {srsName : Option String}
    (count : corners.length ≠ 2) :
    (gml corners srsName).normalize
      = .error (.malformedEnvelope (.cornerCount corners.length)) := by
  match corners with
  | [] | [_] | _ :: _ :: _ :: _ => rfl
  | [_, _] => exact absurd rfl count

/-- **The envelope of a box that holds numbers** is built of them. -/
theorem normalize_of_holds (h : box.Holds bounds) : box.normalize = box.build bounds := by
  rcases readOrRefused_normalize box with
    (⟨bounds', h', built⟩ | ⟨failure, unread, -⟩) | ⟨corners, srsName, rfl, count⟩
  · rw [built, h.unique h']
  · exact absurd unread h.readTexts
  · have none := h.numbers.length_eq
    rw [coordinateTexts_of_count count] at none
    cases none

/-- **A box that is unread is refused** with the same failure. -/
theorem normalize_of_unread (h : box.coordinateTexts.mapM box.readText = .error failure) :
    box.normalize = .error failure := by
  rcases readOrRefused_normalize box with
    (⟨bounds, holds, -⟩ | ⟨failure', unread, refused⟩) | ⟨corners, srsName, rfl, count⟩
  · exact absurd h holds.readTexts
  · obtain rfl := Except.error.inj (unread.symm.trans h)
    exact refused
  · rw [coordinateTexts_of_count count] at h
    cases h

/-- The envelope that is built has the bounds and the system. -/
theorem build_eq_ok {e : Envelope} :
    box.build bounds = .ok e ↔ e.bounds = bounds ∧ box.system = .ok e.crs := by
  unfold build
  rw [Except.bind_eq_ok]
  constructor
  · rintro ⟨crs, system, h⟩
    split at h
    · obtain rfl := Except.ok.inj h
      exact ⟨rfl, system⟩
    · cases h
  · rintro ⟨rfl, system⟩
    exact ⟨e.crs, system, dif_pos e.ordered⟩

/-- Building an envelope fails for its system first, then for the order of its
corners. -/
theorem build_eq_error :
    box.build bounds = .error failure ↔ box.system = .error failure ∨
      ∃ crs, box.system = .ok crs ∧ bounds.extended.Inverted ∧
        failure = .malformedEnvelope (.cornersExchanged bounds crs) := by
  unfold build
  rw [Except.bind_eq_error]
  refine or_congr_right (exists_congr fun crs => and_congr_right fun _ => ?_)
  rw [Bounds.inverted_extended_iff]
  by_cases ordered : bounds.Ordered
  · simp [ordered]
  · simp [ordered, eq_comm]

/-- **A system is missing** only for a reference without an identifier. -/
theorem unsupported_of_system (h : box.system = .error failure) :
    ∃ reference defect, failure = .unsupportedCrs reference defect := by
  cases box with
  | generic lower upper crs => exact ⟨crs, Crs.unsupported_of_normalize h⟩
  | gml corners srsName => exact ⟨srsName, Crs.unsupported_of_normalize h⟩
  | wgs84 lower upper => cases h
  | geoRss text => cases h

/-- **A text that is not read is a reason to refuse the box.** -/
theorem refused_of_unread (h : box.coordinateTexts.mapM box.readText = .error failure) :
    box.Refused failure := by
  obtain ⟨before, ⟨source, text⟩, after, place, earlier, fails⟩ :=
    readTexts_eq_error.mp h
  rcases readText_eq_error.mp fails with
    ⟨front, token, back, split, numbers, bad, rfl⟩ | ⟨numbers, count, rfl⟩
  · exact .token place earlier split numbers bad
  · exact .count place earlier numbers count

/-- **A box is refused for the first of its defects and for no other.** Each case of
`Box.Refused` says that what is looked at before it is sound, so a failure also tells how
far the box has been read. -/
theorem normalize_eq_error_iff : box.normalize = .error failure ↔ box.Refused failure := by
  constructor
  · intro h
    rcases readOrRefused_normalize box with
      (⟨bounds, holds, built⟩ | ⟨failure', unread, refused⟩) | ⟨corners, srsName, rfl, count⟩
    · rcases build_eq_error.mp (built.symm.trans h) with
        fails | ⟨crs, system, inverted, rfl⟩
      · obtain ⟨reference, defect, rfl⟩ := unsupported_of_system fails
        exact .reference holds fails
      · exact .order holds system inverted
    · obtain rfl := Except.error.inj (refused.symm.trans h)
      exact refused_of_unread unread
    · obtain rfl := Except.error.inj ((normalize_of_count count).symm.trans h)
      exact .corners rfl count
  · intro h
    cases h with
    | corners envelope count =>
      rw [envelope]
      exact normalize_of_count count
    | @token before after source text front back token place earlier split numbers bad =>
      exact normalize_of_unread (readTexts_eq_error.mpr
        ⟨before, (source, text), after, place, earlier, readText_eq_error.mpr
          (.inl ⟨front, token, back, split, numbers, bad, rfl⟩)⟩)
    | @count before after source text place earlier numbers count =>
      exact normalize_of_unread (readTexts_eq_error.mpr
        ⟨before, (source, text), after, place, earlier, readText_eq_error.mpr
          (.inr ⟨numbers, count, rfl⟩)⟩)
    | reference holds fails =>
      exact (normalize_of_holds holds).trans (build_eq_error.mpr (.inl fails))
    | @order bounds crs holds system inverted =>
      exact (normalize_of_holds holds).trans
        (build_eq_error.mpr (.inr ⟨crs, system, inverted, rfl⟩))

/-- **A box has an envelope exactly if it holds its numbers and has its system.** -/
theorem normalize_eq_ok_iff {e : Envelope} :
    box.normalize = .ok e ↔ box.Holds e.bounds ∧ box.system = .ok e.crs := by
  constructor
  · intro h
    rcases readOrRefused_normalize box with
      (⟨bounds, holds, built⟩ | ⟨failure, -, refused⟩) | ⟨corners, srsName, rfl, count⟩
    · obtain ⟨rfl, system⟩ := build_eq_ok.mp (built.symm.trans h)
      exact ⟨holds, system⟩
    · cases refused.symm.trans h
    · cases (normalize_of_count count).symm.trans h
  · rintro ⟨holds, system⟩
    exact (normalize_of_holds holds).trans (build_eq_ok.mpr ⟨rfl, system⟩)

/-! ## Texts as sequences of tokens -/

theorem position_congr {source text text' : String} (same : words text = words text') :
    (position source text).mapError unquoted
      = (position source text').mapError unquoted := by
  unfold position numbers
  rw [same]
  refine Except.mapError_bind_congr rfl fun values => ?_
  match values with
  | [x, y] => rfl
  | [] | [_] | _ :: _ :: _ :: _ => rfl

/-- Envelopes of two corners are read token by token. -/
theorem ofCorners_congr {lowerSource upperSource lower lower' upper upper' : String}
    {reference : Option String} (low : words lower = words lower')
    (high : words upper = words upper') :
    (ofCorners lowerSource upperSource lower upper reference).mapError unquoted
      = (ofCorners lowerSource upperSource lower' upper' reference).mapError unquoted :=
  Except.mapError_bind_congr (position_congr low) fun _ =>
    Except.mapError_bind_congr (position_congr high) fun _ => rfl

/-- **Boxes of the same tokens** have the same envelope or are refused for the same
defect. The failures are compared without the texts that they quote, which are those of the
box as it stands and tell more than its tokens. -/
theorem normalize_congr {box' : Box} (same : SameTokens box box') :
    box.normalize.mapError unquoted = box'.normalize.mapError unquoted := by
  cases same with
  | generic crs low high => exact ofCorners_congr low high
  | wgs84 low high => exact ofCorners_congr low high
  | geoRss same =>
    show (ofBoxText _).mapError unquoted = (ofBoxText _).mapError unquoted
    unfold ofBoxText numbers
    rw [same]
    refine Except.mapError_bind_congr rfl fun values => ?_
    match values with
    | [a, b, c, d] => rfl
    | [] | [_] | [_, _] | [_, _, _] | _ :: _ :: _ :: _ :: _ :: _ => rfl
  | @gml corners corners' srsName same =>
    have length : corners.length = corners'.length := by
      simpa using congrArg List.length same
    by_cases count : corners.length = 2
    · obtain ⟨lower, upper, rfl⟩ := List.length_eq_two.mp count
      obtain ⟨lower', upper', rfl⟩ := List.length_eq_two.mp (length.symm.trans count)
      obtain ⟨low, high⟩ : words lower = words lower' ∧ words upper = words upper' := by
        simpa using same
      exact ofCorners_congr low high
    · rw [normalize_of_count count, normalize_of_count (length ▸ count), length]

/-! ## The whole -/

/-- **Every box has the envelope of its numbers, or is refused for the first of its
defects.** It is refused for a failure exactly if that is due, and it has an envelope
exactly if it holds the bounds and has the system. A box of the same tokens goes the same
way, and only the texts that its failure quotes may be others. -/
theorem normalize_classifies (box : Box) :
    (∀ failure, box.normalize = .error failure ↔ box.Refused failure) ∧
    (∀ e : Envelope, box.normalize = .ok e ↔
      box.Holds e.bounds ∧ box.system = .ok e.crs) ∧
    ∀ box', SameTokens box box' →
      box.normalize.mapError unquoted = box'.normalize.mapError unquoted :=
  ⟨fun _ => normalize_eq_error_iff, fun _ => normalize_eq_ok_iff,
    fun _ => normalize_congr⟩

/-- A box with all defects at once is refused for its first token that is no number,
and so is one with other blanks. -/
theorem normalize_classifies_token :
    let box := generic "1 x" "nan 2 3" (some "nowhere")
    let spaced := generic " 1\tx\n" "nan  2 3 " (some "nowhere")
    box.normalize = .error (.invalidCoordinate "x" "ows:LowerCorner") ∧
      SameTokens box spaced ∧
      box.normalize.mapError unquoted = spaced.normalize.mapError unquoted := by
  intro box spaced
  obtain ⟨refused, -, alike⟩ := normalize_classifies box
  have same : SameTokens box spaced := .generic _ (by decide) (by decide)
  have due : box.Refused (.invalidCoordinate "x" "ows:LowerCorner") := by
    refine @Refused.token box [] [("ows:UpperCorner", "nan 2 3")] _ "1 x" ["1"] [] _ rfl
      (List.forall_mem_nil _) (by decide) ?_ ?_
    · unfold IsNumber
      decide
    · unfold IsNumber
      decide
  exact ⟨(refused _).mpr due, same, alike spaced same⟩

end Box

end GeoCatalogue
