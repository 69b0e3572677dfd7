import GeoCatalogue.Proofs.Box.Refusals
import GeoCatalogue.Proofs.Box.Upgrading

/-!
# The coordinate tuples of an envelope

An envelope of GML has its coordinates in tuples: a lower corner and an upper one, or
two positions. What is read of it is the first lower corner and the first upper one;
the positions are looked for only if there is neither (`Box.gmlCorners`). So an
envelope may hold tuples that nothing looks at.

Three things may happen (`Box.gmlCorners_cases`). Either the envelope has the two
tuples that it is to have, and these are read. Or it has both corners and further
tuples, a **surplus**, and it goes through as if these were not there. Or the count of
the corners that are read is wrong, and it is refused. Hence an envelope that is
normalized has two tuples exactly if it has no surplus
(`Box.hasTwoTuples_iff_of_normalize`).
-/
namespace GeoCatalogue.Box

open Xml

/-- The name of an envelope of GML 3.2 or 3.1. -/
def IsGmlEnvelope (e : Element) : Prop :=
  e.name.namespaceName ∈ gmlNamespaces ∧ e.name.localName = "Envelope"

/-- A name in the namespace of an element itself. -/
def ownName (e : Element) (localName : String) : QName :=
  ⟨e.name.namespaceName, localName⟩

/-- The lower corners of an envelope. -/
def lowerCorners (e : Element) : List Element :=
  e.childrenNamed (ownName e "lowerCorner")

/-- The upper corners of an envelope. -/
def upperCorners (e : Element) : List Element :=
  e.childrenNamed (ownName e "upperCorner")

/-- The positions of an envelope. -/
def positions (e : Element) : List Element :=
  e.childrenNamed (ownName e "pos")

/-- **The coordinate tuples of an envelope**, in document order: its children of one of
the three names. -/
def tuples (e : Element) : List Element :=
  e.inside.children.filter fun child =>
    child.name == ownName e "lowerCorner" ||
      (child.name == ownName e "upperCorner" || child.name == ownName e "pos")

/-- **An envelope has two tuples**: a lower corner and an upper one, or two
positions. -/
def HasTwoTuples (e : Element) : Prop :=
  (tuples e).length = 2 ∧
    ((lowerCorners e).length = 1 ∧ (upperCorners e).length = 1 ∨
      (positions e).length = 2)

/-- **An envelope has a surplus**: it has both corners and further tuples. -/
def HasSurplus (e : Element) : Prop :=
  lowerCorners e ≠ [] ∧ upperCorners e ≠ [] ∧ 2 < (tuples e).length

variable {e : Element} {env : Envelope}

/-! ## Counting tuples -/

/-- What passes one of two tests that exclude each other is what passes the first and
what passes the second. -/
theorem filter_or_perm {α : Type} {p q : α → Bool}
    (apart : ∀ a, p a = true → q a = false) (l : List α) :
    (l.filter fun a => p a || q a).Perm (l.filter p ++ l.filter q) := by
  induction l with
  | nil => exact .nil
  | cons a l ih =>
    cases first : p a with
    | true => simpa [first, apart a first] using ih.cons a
    | false =>
      cases second : q a with
      | true =>
        simpa [first, second] using (ih.cons a).trans List.perm_middle.symm
      | false => simpa [first, second] using ih

theorem ownName_apart {name other : String} (different : name ≠ other)
    (child : Element) (same : (child.name == ownName e name) = true) :
    (child.name == ownName e other) = false := by
  rw [beq_iff_eq.mp same, beq_eq_false_iff_ne]
  exact fun h => different (congrArg QName.localName h)

/-- **The tuples of an envelope are its lower corners, its upper corners and its
positions.** -/
theorem tuples_perm (e : Element) :
    (tuples e).Perm (lowerCorners e ++ (upperCorners e ++ positions e)) := by
  refine (filter_or_perm (fun child lower => ?_) _).trans (.append_left _ ?_)
  · rw [ownName_apart (by decide) child lower, ownName_apart (by decide) child lower]
    rfl
  · exact filter_or_perm (ownName_apart (by decide)) _

theorem length_tuples (e : Element) :
    (tuples e).length = (lowerCorners e).length +
      ((upperCorners e).length + (positions e).length) := by
  rw [(tuples_perm e).length_eq, List.length_append, List.length_append]

/-! ## What is read -/

/-- **An envelope of GML is read by its corners and its reference.** -/
theorem read_gmlEnvelope (envelope : IsGmlEnvelope e) :
    read e = .ok (.gml (gmlCorners e) (e.attribute? "srsName")) := by
  unfold read
  rw [envelope.2]
  exact if_pos (List.contains_iff_mem.mpr envelope.1)

/-- The corners that are read: the first lower one and the first upper one, or, if
there is neither, all positions. -/
theorem gmlCorners_eq (e : Element) :
    gmlCorners e =
      (if lowerCorners e = [] ∧ upperCorners e = [] then positions e
        else (lowerCorners e).head?.toList ++ (upperCorners e).head?.toList).map
          Element.text := by
  unfold gmlCorners lowerCorners upperCorners positions ownName Element.childNamed?
    Element.childrenNamed
  simp only [← List.head?_filter, List.isEmpty_iff, List.append_eq_nil_iff,
    Option.toList_eq_nil_iff, List.head?_eq_none_iff]

/-- **What is read of an envelope**: its two tuples; or the first corners, if it has a
surplus; or otherwise another count of corners than two. Where there is a corner of
either kind, the first one of each kind is read, and positions are not looked for. So a
surplus goes unnoticed exactly if it stands beside a lower and an upper corner. -/
theorem gmlCorners_cases (e : Element) :
    (HasTwoTuples e ∧ (gmlCorners e).Perm ((tuples e).map Element.text)) ∨
    (HasSurplus e ∧ ∃ lower upper, (lowerCorners e).head? = some lower ∧
      (upperCorners e).head? = some upper ∧ gmlCorners e = [lower.text, upper.text]) ∨
    ¬HasTwoTuples e ∧ ¬HasSurplus e ∧ (gmlCorners e).length ≠ 2 := by
  have all := tuples_perm e
  have count := length_tuples e
  rw [gmlCorners_eq]
  unfold HasTwoTuples HasSurplus
  cases lowers : lowerCorners e with
  | nil =>
    cases uppers : upperCorners e with
    | nil =>
      rw [lowers, uppers] at all count
      by_cases two : (positions e).length = 2
      · exact .inl ⟨⟨by simp [count, two], .inr two⟩, all.symm.map Element.text⟩
      · exact .inr (.inr (by simp [two]))
    | cons upper uppers' =>
      -- the positions are not looked at beside a corner
      rw [lowers, uppers] at count
      refine .inr (.inr ?_)
      simp at count ⊢
      omega
  | cons lower lowers' =>
    cases uppers : upperCorners e with
    | nil =>
      rw [lowers, uppers] at count
      refine .inr (.inr ?_)
      simp at count ⊢
      omega
    | cons upper uppers' =>
      rw [lowers, uppers] at all count
      by_cases two : (tuples e).length = 2
      · have none : lowers' = [] ∧ uppers' = [] ∧ positions e = [] := by
          simp only [← List.length_eq_zero_iff]
          simp at count
          omega
        obtain ⟨rfl, rfl, noPositions⟩ := none
        rw [noPositions] at all
        exact .inl ⟨⟨two, .inl ⟨rfl, rfl⟩⟩, all.symm.map Element.text⟩
      · refine .inr (.inl ⟨⟨nofun, nofun, ?_⟩, lower, upper, rfl, rfl, rfl⟩)
        simp at count
        omega

theorem HasSurplus.not_hasTwoTuples (h : HasSurplus e) : ¬HasTwoTuples e :=
  fun two => absurd two.1 (Nat.ne_of_gt h.2.2)

/-- **An envelope that is normalized has two tuples exactly if it has no surplus.** With
two tuples, both of them are read. With a surplus, the first lower corner and the first
upper one are read as if there were nothing else. With neither, the envelope is refused
for the count of its corners. -/
theorem hasTwoTuples_iff_of_normalize (envelope : IsGmlEnvelope e) :
    ∃ corners srsName, read e = .ok (.gml corners srsName) ∧
      (∀ env, (gml corners srsName).normalize = .ok env →
        (HasTwoTuples e ↔ ¬HasSurplus e)) ∧
      (HasTwoTuples e → corners.Perm ((tuples e).map Element.text)) ∧
      (HasSurplus e → ∃ lower upper, (lowerCorners e).head? = some lower ∧
        (upperCorners e).head? = some upper ∧ corners = [lower.text, upper.text]) ∧
      (¬HasTwoTuples e → ¬HasSurplus e → (gml corners srsName).normalize
        = .error (.malformedEnvelope (.cornerCount corners.length))) := by
  refine ⟨_, _, read_gmlEnvelope envelope, ?_⟩
  rcases gmlCorners_cases e with ⟨two, kept⟩ | ⟨surplus, first⟩ | ⟨notTwo, no, count⟩
  · have no : ¬HasSurplus e := fun surplus => surplus.not_hasTwoTuples two
    exact ⟨fun _ _ => iff_of_true two no, fun _ => kept, fun surplus => absurd surplus no,
      fun notTwo => absurd two notTwo⟩
  · have notTwo := surplus.not_hasTwoTuples
    exact ⟨fun _ _ => iff_of_false notTwo (not_not_intro surplus),
      fun two => absurd two notTwo, fun _ => first, fun _ no => absurd surplus no⟩
  · have refused : (gml (gmlCorners e) (e.attribute? "srsName")).normalize = _ :=
      normalize_of_count count
    refine ⟨fun env normal => ?_, fun two => absurd two notTwo,
      fun surplus => absurd surplus no, fun _ _ => refused⟩
    cases refused.symm.trans normal

/-- A position of another namespace is no tuple: beside it, two corners are all that an
envelope is to have. -/
theorem hasTwoTuples_iff_of_normalize_foreign :
    let e := oldEnvelopeWith
      (oldChild oldLower (.text "1 2" .nothing)
        (oldChild ⟨Vocabulary.gml, "pos"⟩ (.text "5 6" .nothing)
          (oldChild oldUpper (.text "3 4" .nothing) .nothing)))
    ∃ box env, read e = .ok box ∧ box.normalize = .ok env ∧ HasTwoTuples e := by
  intro e
  obtain ⟨corners, srsName, reads, two, -⟩ :=
    hasTwoTuples_iff_of_normalize (e := e) ⟨by decide, rfl⟩
  have known : read e = .ok (.gml ["1 2", "3 4"] (some "EPSG:4326")) := by
    decide +kernel
  have ordered : (normalize (.gml ["1 2", "3 4"] (some "EPSG:4326"))).isOk
      = true := by decide +kernel
  obtain ⟨env, normal⟩ := Except.exists_of_isOk ordered
  obtain ⟨rfl, rfl⟩ := Box.gml.inj (Except.ok.inj (reads.symm.trans known))
  refine ⟨_, env, reads, normal, (two env normal).mpr fun surplus => ?_⟩
  exact absurd surplus.2.2 (by decide)

/-- An envelope of both corners and a position. -/
def surplusEnvelope : Element :=
  oldEnvelopeWith
    (oldChild oldLower (.text "1 2" .nothing)
      (oldChild oldUpper (.text "3 4" .nothing)
        (oldChild oldPosition (.text "5 6" .nothing) .nothing)))

/-- **An envelope of three tuples is normalized**, and the third one is ignored. -/
theorem normalize_surplusEnvelope :
    IsGmlEnvelope surplusEnvelope ∧
    (∃ box env, read surplusEnvelope = .ok box ∧ box.normalize = .ok env) ∧
    (tuples surplusEnvelope).length = 3 ∧ ¬HasTwoTuples surplusEnvelope := by
  have reads : read surplusEnvelope
      = .ok (.gml ["1 2", "3 4"] (some "EPSG:4326")) := by decide +kernel
  have ordered : (normalize (.gml ["1 2", "3 4"] (some "EPSG:4326"))).isOk
      = true := by decide +kernel
  obtain ⟨env, normal⟩ := Except.exists_of_isOk ordered
  have count : (tuples surplusEnvelope).length = 3 := by decide
  refine ⟨⟨by decide, rfl⟩, ⟨_, env, reads, normal⟩, count, fun two => ?_⟩
  rw [two.1] at count
  cases count

end GeoCatalogue.Box
