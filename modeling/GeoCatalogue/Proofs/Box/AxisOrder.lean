import GeoCatalogue.Proofs.Box.Refusals
import GeoCatalogue.Proofs.Envelope.AxisOrder
import GeoCatalogue.Proofs.Text.Words

/-!
# Boxes in either axis order

A GeoRSS box holds its four numbers in one text, the latitude first; a bounding
box of WGS 84 holds them in two, the longitude first. Both are read token by
token, and what is no finite number is reported before anything else
(`Box.numbers_cases`). So the two boxes of the same four tokens go the same way:
they fail with the same kind of failure, or they have envelopes whose bounds are
the same with the axes exchanged (`Box.exchanged_or_refused`), and these can be put
in the place of each other.
-/
namespace GeoCatalogue.Box

open Text

variable {text s t : String}

/-! ## Numbers -/

/-- Whether a computation fails for a token that is no number. -/
def LacksNumber {α : Type} (x : Except Failure α) : Prop :=
  ∃ token source, x = .error (.invalidCoordinate token source)

/-- The first of two steps decides if it lacks a number. -/
theorem LacksNumber.bind {α β : Type} {x : Except Failure α}
    (h : LacksNumber x) (f : α → Except Failure β) : LacksNumber (x >>= f) := by
  obtain ⟨token, source, rfl⟩ := h
  exact ⟨token, source, rfl⟩

/-- **Either all tokens of a text are numbers, or one of them is reported.** -/
theorem numbers_cases (source text : String) :
    (∃ values, List.Forall₂ (fun token x => finite? token = some x)
      (words text) values ∧ numbers source text = .ok values) ∨
    (∃ token ∈ words text, finite? token = none) ∧
      LacksNumber (numbers source text) := by
  cases read : numbers source text with
  | ok values => exact .inl ⟨values, numbers_eq_ok.mp read, rfl⟩
  | error failure =>
    obtain ⟨front, token, back, split, -, bad, rfl⟩ := numbers_eq_error.mp read
    refine .inr ⟨⟨token, ?_, finite?_eq_none_iff.mpr bad⟩, token, source, rfl⟩
    rw [split]
    exact List.mem_append_right front List.mem_cons_self

/-- **Two tokens are a position, or one of them is reported.** -/
theorem position_cases (source : String) (h : words text = [s, t]) :
    (∃ x y, finite? s = some x ∧ finite? t = some y ∧
      position source text = .ok ⟨.finite x, .finite y⟩) ∨
    (finite? s = none ∨ finite? t = none) ∧
      LacksNumber (position source text) := by
  unfold position
  rcases numbers_cases source text with
    ⟨values, each, whole⟩ | ⟨⟨token, mem, none⟩, lacks⟩
  · rw [h] at each
    obtain _ | ⟨hx, _ | ⟨hy, _ | _⟩⟩ := each
    exact .inl ⟨_, _, hx, hy, by rw [whole]; rfl⟩
  · rw [h] at mem
    refine .inr ⟨?_, lacks.bind _⟩
    rcases List.mem_pair.mp mem with rfl | rfl
    · exact .inl none
    · exact .inr none

/-! ## Boxes of four tokens -/

variable {a b c d : String}

/-- **A GeoRSS box of four tokens.** -/
def latitudesFirst (a b c d : String) : Box :=
  .geoRss (" ".intercalate [a, b, c, d])

/-- **The bounding box of WGS 84 of the same tokens.** -/
def longitudesFirst (a b c d : String) : Box :=
  .wgs84 (" ".intercalate [b, a]) (" ".intercalate [d, c])

/-- **Four tokens are the numbers of some bounds**, corner by corner. -/
structure AreCorners (a b c d : String) (bounds : Bounds Binary64) : Prop where
  /-- The first one is that of the lower corner on the first axis. -/
  lowerFirst : finite? a = some bounds.lower.first
  /-- The second one is that of the lower corner on the second axis. -/
  lowerSecond : finite? b = some bounds.lower.second
  /-- The third one is that of the upper corner on the first axis. -/
  upperFirst : finite? c = some bounds.upper.first
  /-- The fourth one is that of the upper corner on the second axis. -/
  upperSecond : finite? d = some bounds.upper.second

/-- Tokens are the numbers of no other bounds. -/
theorem AreCorners.unique {bounds bounds' : Bounds Binary64}
    (h : AreCorners a b c d bounds) (h' : AreCorners a b c d bounds') :
    bounds = bounds' := by
  obtain ⟨⟨va, vb⟩, ⟨vc, vd⟩⟩ := bounds
  obtain ⟨⟨va', vb'⟩, ⟨vc', vd'⟩⟩ := bounds'
  obtain rfl := Option.some.inj (h.lowerFirst.symm.trans h'.lowerFirst)
  obtain rfl := Option.some.inj (h.lowerSecond.symm.trans h'.lowerSecond)
  obtain rfl := Option.some.inj (h.upperFirst.symm.trans h'.upperFirst)
  obtain rfl := Option.some.inj (h.upperSecond.symm.trans h'.upperSecond)
  rfl

theorem AreCorners.not_exists_none {bounds : Bounds Binary64}
    (h : AreCorners a b c d bounds) :
    ¬ ∃ token ∈ [a, b, c, d], finite? token = none := by
  simp [h.lowerFirst, h.lowerSecond, h.upperFirst, h.upperSecond]

/-- The envelope of finite bounds depends on their order only. -/
theorem ofBounds_of_finite {reference : Option String} {crs : String}
    (hcrs : Crs.normalize reference = .ok crs) (bounds : Bounds Binary64) :
    Envelope.ofBounds bounds.extended reference
      = if ordered : bounds.Ordered then .ok ⟨bounds, crs, ordered⟩
        else .error (.malformedEnvelope (.cornersExchanged bounds crs)) := by
  rw [Envelope.ofBounds_of_extended, hcrs, Except.ok_bind]

@[simp] theorem normalize_geoRssReference :
    Crs.normalize (some geoRssReference) = .ok Crs.latitudeFirst := rfl

@[simp] theorem normalize_wgs84Reference :
    Crs.normalize (some wgs84Reference) = .ok Crs.longitudeFirst := rfl

/-- **Four tokens are the corners of a GeoRSS box**, or one of them is
reported. -/
theorem normalize_latitudesFirst_cases (ha : IsWord a) (hb : IsWord b)
    (hc : IsWord c) (hd : IsWord d) :
    (∃ bounds, AreCorners a b c d bounds ∧
      (latitudesFirst a b c d).normalize
        = Envelope.ofBounds bounds.extended (some geoRssReference)) ∨
    (∃ token ∈ [a, b, c, d], finite? token = none) ∧
      LacksNumber (latitudesFirst a b c d).normalize := by
  have tokens : words (" ".intercalate [a, b, c, d]) = [a, b, c, d] :=
    words_intercalate (by simp [ha, hb, hc, hd])
  simp only [latitudesFirst, normalize, ofBoxText]
  rcases numbers_cases "georss:box" (" ".intercalate [a, b, c, d]) with
    ⟨values, each, whole⟩ | ⟨bad, lacks⟩
  · rw [tokens] at each
    obtain _ | ⟨hva, _ | ⟨hvb, _ | ⟨hvc, _ | ⟨hvd, _ | _⟩⟩⟩⟩ := each
    exact .inl ⟨⟨⟨_, _⟩, ⟨_, _⟩⟩, ⟨hva, hvb, hvc, hvd⟩, by rw [whole]; rfl⟩
  · rw [tokens] at bad
    exact .inr ⟨bad, lacks.bind _⟩

/-- **Four tokens are the corners of a bounding box of WGS 84**, with the axes
exchanged, or one of them is reported. -/
theorem normalize_longitudesFirst_cases (ha : IsWord a) (hb : IsWord b)
    (hc : IsWord c) (hd : IsWord d) :
    (∃ bounds, AreCorners a b c d bounds ∧
      (longitudesFirst a b c d).normalize
        = Envelope.ofBounds bounds.swap.extended (some wgs84Reference)) ∨
    (∃ token ∈ [a, b, c, d], finite? token = none) ∧
      LacksNumber (longitudesFirst a b c d).normalize := by
  have lowerTokens : words (" ".intercalate [b, a]) = [b, a] :=
    words_intercalate (by simp [ha, hb])
  have upperTokens : words (" ".intercalate [d, c]) = [d, c] :=
    words_intercalate (by simp [hc, hd])
  simp only [longitudesFirst, normalize, ofCorners]
  rcases position_cases "ows:LowerCorner" lowerTokens with
    ⟨vb, va, hvb, hva, lower⟩ | ⟨bad, lacks⟩
  · rcases position_cases "ows:UpperCorner" upperTokens with
      ⟨vd, vc, hvd, hvc, upper⟩ | ⟨bad, lacks⟩
    · exact .inl ⟨⟨⟨va, vb⟩, ⟨vc, vd⟩⟩, ⟨hva, hvb, hvc, hvd⟩,
        by rw [lower, upper]; rfl⟩
    · refine .inr ⟨?_, ?_⟩
      · rcases bad with bad | bad
        · exact ⟨d, by simp, bad⟩
        · exact ⟨c, by simp, bad⟩
      · rw [lower]
        exact lacks.bind _
  · refine .inr ⟨?_, lacks.bind _⟩
    rcases bad with bad | bad
    · exact ⟨b, by simp, bad⟩
    · exact ⟨a, by simp, bad⟩

/-- **The two boxes of four tokens go the same way**: they fail with the same
kind of failure, or they have envelopes whose bounds are the same with the axes
exchanged. -/
theorem exchanged_or_refused (ha : IsWord a) (hb : IsWord b) (hc : IsWord c)
    (hd : IsWord d) :
    (∃ e f, (latitudesFirst a b c d).normalize = .ok e ∧
      (longitudesFirst a b c d).normalize = .ok f ∧
      e.crs = Crs.latitudeFirst ∧ f.crs = Crs.longitudeFirst ∧
      f.bounds = e.bounds.swap) ∨
    ∃ failure failure', (latitudesFirst a b c d).normalize = .error failure ∧
      (longitudesFirst a b c d).normalize = .error failure' ∧
      failure.code = failure'.code := by
  rcases normalize_latitudesFirst_cases ha hb hc hd with
    ⟨bounds, corners, first⟩ | ⟨bad, token, source, first⟩
  · rcases normalize_longitudesFirst_cases ha hb hc hd with
      ⟨bounds', corners', second⟩ | ⟨bad, -⟩
    · obtain rfl := corners.unique corners'
      rw [ofBounds_of_finite normalize_geoRssReference] at first
      rw [ofBounds_of_finite normalize_wgs84Reference] at second
      by_cases ordered : bounds.Ordered
      · rw [dif_pos ordered] at first
        rw [dif_pos ordered.swap] at second
        exact .inl ⟨_, _, first, second, rfl, rfl, rfl⟩
      · rw [dif_neg ordered] at first
        rw [dif_neg fun swapped => ordered swapped.swap] at second
        exact .inr ⟨_, _, first, second, rfl⟩
    · exact absurd bad corners.not_exists_none
  · rcases normalize_longitudesFirst_cases ha hb hc hd with
      ⟨bounds, corners, -⟩ | ⟨-, token', source', second⟩
    · exact absurd bad corners.not_exists_none
    · exact .inr ⟨_, _, first, second, rfl⟩

/-- **A GeoRSS box and the bounding box of WGS 84 of the same tokens agree.** Take
four tokens without blanks. Either both boxes are refused, with the same kind of
failure. Or both have envelopes. Then, if the numbers are latitudes and longitudes
of the globe, the two can be put in the place of each other, with any geodesy that
exchanges the axes: each becomes the other one in its system, they have the same
box parameter, and they intersect the same envelopes of the globe. -/
theorem axisOrder_irrelevant (ha : IsWord a) (hb : IsWord b) (hc : IsWord c)
    (hd : IsWord d) :
    (∃ e f, (latitudesFirst a b c d).normalize = .ok e ∧
      (longitudesFirst a b c d).normalize = .ok f ∧
      ∀ (g : Geodesy) (latLon lonLat : ReferenceSystem),
        g.ExchangesAxes latLon lonLat → e.bounds.OnGlobe →
          Envelope.Interchangeable g e f) ∨
    ∃ failure failure', (latitudesFirst a b c d).normalize = .error failure ∧
      (longitudesFirst a b c d).normalize = .error failure' ∧
      failure.code = failure'.code := by
  rcases exchanged_or_refused ha hb hc hd with
    ⟨e, f, first, second, he, hf, exchanged⟩ | refused
  · exact .inl ⟨e, f, first, second, fun g latLon lonLat exchanges onGlobe =>
      Envelope.interchangeable_of_covers exchanges he hf exchanged onGlobe⟩
  · exact .inr refused

/-- Two boxes of the same four tokens, which are written in several ways: with the
standard geodesy they have the same box parameter under another identifier, and
they intersect the same envelope. -/
theorem axisOrder_irrelevant_sample :
    let g := Geodesy.standard "unknown"
    let x := Envelope.origin "OGC:84"
    ∃ e f, (latitudesFirst "-5e1" "-.5" "+51" "7.25").normalize = .ok e ∧
      (longitudesFirst "-5e1" "-.5" "+51" "7.25").normalize = .ok f ∧
      e.toCrs g (some "OGC:CRS84") = .ok f ∧
      f.toCrs g (some "EPSG:4326") = .ok e ∧
      (∃ text, e.boxParam g (some "EPSG:04326") = .ok text ∧
        f.boxParam g (some "EPSG:04326") = .ok text) ∧
      ∃ answer, intersects g e x = .ok answer ∧
        intersects g f x = .ok answer := by
  intro g x
  have onGlobe : ((latitudesFirst "-5e1" "-.5" "+51" "7.25").normalize.toOption.any
      fun e => decide e.bounds.OnGlobe) = true := by decide +kernel
  rcases axisOrder_irrelevant (a := "-5e1") (b := "-.5") (c := "+51") (d := "7.25")
      (by decide) (by decide) (by decide) (by decide) with
    ⟨e, f, first, second, agree⟩ | ⟨failure, -, refused, -, -⟩
  · rw [first] at onGlobe
    obtain ⟨toLonLat, toLatLon, boxParam, meets⟩ :=
      agree g _ _ (Geodesy.exchangesAxes_standard "unknown")
        (of_decide_eq_true onGlobe)
    exact ⟨e, f, first, second, toLonLat, toLatLon,
      boxParam (some "EPSG:04326") (.inl (by decide +kernel)),
      meets x x.bounds.swap (.ofLonLat (by decide +kernel) rfl)
        (by decide +kernel)⟩
  · rw [refused] at onGlobe
    cases onGlobe

end GeoCatalogue.Box
