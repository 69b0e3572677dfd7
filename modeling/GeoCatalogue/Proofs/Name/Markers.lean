import GeoCatalogue.Proofs.Template.Spelling
import GeoCatalogue.Proofs.Text.Trim

/-!
# Markers and white space around names

In a token, a name may have white space around it and a marker after it, which may
have white space around it as well. The module asks what of this
**arrangement** matters. Whether there is a marker is always told
(`Token.isOptional_write`). The name itself does not stay as it is: the token is
trimmed before the marker is taken away, and not again after that. So the white
space in front of a marker becomes part of the name (`Token.name_write`), which
then stands for another parameter, unless it fails anyway because its label is not
bound (`Token.resolve_write_iff`).
-/
namespace GeoCatalogue.Token

open Text

/-- **A name by itself**: without white space at its ends and without a marker. -/
structure IsBare (text : String) : Prop where
  /-- It does not start with white space. -/
  front : ∀ c, text.toList.head? = some c → isBlank c = false
  /-- It does not end with white space. -/
  back : ∀ c, text.toList.getLast? = some c → isBlank c = false
  /-- It does not end with a marker. -/
  unmarked : text.toList.getLast? ≠ some '?'

/-- Whether a name is one by itself is found out from its two ends. -/
theorem isBare_iff {text : String} :
    (text.toList.head?.all (!isBlank ·) = true ∧
      text.toList.getLast?.all (!isBlank ·) = true ∧
      text.toList.getLast? ≠ some '?') ↔ IsBare text := by
  simp only [Option.all_eq_true, Bool.not_eq_true']
  constructor
  · rintro ⟨front, back, unmarked⟩
    exact ⟨front, back, unmarked⟩
  · rintro ⟨front, back, unmarked⟩
    exact ⟨front, back, unmarked⟩

instance (text : String) : Decidable (IsBare text) :=
  decidable_of_decidable_of_iff isBare_iff

/-- **An arrangement of white space** around a name and around a marker after it,
if there is one. -/
structure Arrangement where
  /-- The white space in front of the name. -/
  front : List Char
  /-- The white space after the name. -/
  gap : List Char
  /-- The white space after the marker, if there is a marker. -/
  afterMarker? : Option (List Char)
  /-- All of it is white space. -/
  blank : ∀ c ∈ front ++ gap ++ afterMarker?.getD [], isBlank c = true

namespace Arrangement

/-- Whether there is a marker. -/
def isMarked (a : Arrangement) : Bool :=
  a.afterMarker?.isSome

/-- The marker, if there is one, and the white space after it. -/
def ending (a : Arrangement) : List Char :=
  match a.afterMarker? with
  | some after => '?' :: after
  | none => []

/-- **The token in which a name is written.** -/
def write (a : Arrangement) (text : String) : String :=
  String.ofList (a.front ++ (text.toList ++ (a.gap ++ a.ending)))

/-- **The white space that becomes part of the name**: what is in front of the
marker, unless there is no name in front of that. -/
def keptGap (a : Arrangement) (text : String) : List Char :=
  if a.isMarked = true ∧ text ≠ "" then a.gap else []

/-- No white space and no marker. -/
def plain : Arrangement :=
  ⟨[], [], none, by simp⟩

variable (a : Arrangement) (text : String)

@[simp] theorem write_plain : plain.write text = text := by
  simp [write, plain, ending]

@[simp] theorem keptGap_plain : plain.keptGap text = [] := rfl

theorem blank_front : ∀ c ∈ a.front, isBlank c = true := fun c hc =>
  a.blank c (List.mem_append_left _ (List.mem_append_left _ hc))

theorem blank_gap : ∀ c ∈ a.gap, isBlank c = true := fun c hc =>
  a.blank c (List.mem_append_left _ (List.mem_append_right _ hc))

theorem blank_afterMarker {after : List Char} (h : a.afterMarker? = some after) :
    ∀ c ∈ after, isBlank c = true := fun c hc =>
  a.blank c (List.mem_append_right _ (by rw [h]; exact hc))

theorem blank_keptGap : ∀ c ∈ a.keptGap text, isBlank c = true := by
  unfold keptGap
  split
  · exact a.blank_gap
  · nofun

/-- **White space is kept exactly** if there is a name, a marker and white space
in between. -/
theorem keptGap_eq_nil_iff :
    a.keptGap text = [] ↔ a.isMarked = false ∨ a.gap = [] ∨ text = "" := by
  unfold keptGap
  by_cases marked : a.isMarked = true
  · by_cases named : text = ""
    · simp [named]
    · simp [marked, named]
  · simp [marked]

end Arrangement

variable {text : String} {b : Bindings}

/-! ## The name in a token -/

theorem IsBare.trimList_eq (h : IsBare text) :
    trimList isBlank text.toList = text.toList :=
  trimList_eq_self h.front h.back

/-- **Without a marker only the name is left** when a token is trimmed. -/
theorem trimList_write_of_unmarked (h : IsBare text) {a : Arrangement}
    (unmarked : a.afterMarker? = none) :
    trimList isBlank (a.write text).toList = text.toList := by
  have ending : a.ending = [] := by
    unfold Arrangement.ending
    rw [unmarked]
  rw [Arrangement.write, String.toList_ofList, ending, List.append_nil,
    trimList_between a.blank_front a.blank_gap, h.trimList_eq]

/-- **With a marker the token ends in it** when it is trimmed, and the white space
in front of the marker is still there. -/
theorem trimList_write_of_marked (h : IsBare text) {a : Arrangement}
    {after : List Char} (marked : a.afterMarker? = some after) :
    trimList isBlank (a.write text).toList
      = text.toList ++ a.keptGap text ++ ['?'] := by
  have isMarked : a.isMarked = true := by
    unfold Arrangement.isMarked
    rw [marked]
    rfl
  have token : (a.write text).toList
      = a.front ++ ((text.toList ++ a.gap ++ ['?']) ++ after) := by
    unfold Arrangement.write Arrangement.ending
    rw [marked]
    simp
  rw [token, trimList_between a.blank_front (a.blank_afterMarker marked)]
  by_cases named : text = ""
  · -- without a name, the gap is white space at the front
    subst named
    have alone := trimList_between a.blank_gap (List.forall_mem_nil _) ['?']
    have marker : trimList isBlank ['?'] = ['?'] := rfl
    simpa [Arrangement.keptGap, marker] using alone
  · have kept : a.keptGap text = a.gap := if_pos ⟨isMarked, named⟩
    rw [kept]
    refine trimList_eq_self (fun c hc => h.front c ?_) (fun c hc => ?_)
    · have nonempty : text.toList ≠ [] := by simpa using named
      rwa [List.append_assoc, List.head?_append_of_ne_nil _ nonempty] at hc
    · rw [List.getLast?_concat] at hc
      obtain rfl := Option.some.inj hc
      rfl

/-- **The name in a token** is the name that was written in it, followed by the white
space that is kept. -/
@[simp] theorem name_write (h : IsBare text) (a : Arrangement) :
    name (a.write text) = text.toList ++ a.keptGap text := by
  unfold name
  cases marker : a.afterMarker? with
  | none =>
    have kept : a.keptGap text = [] :=
      a.keptGap_eq_nil_iff text |>.mpr (.inl (by simp [Arrangement.isMarked, marker]))
    rw [trimList_write_of_unmarked h marker, kept]
    simp [h.unmarked]
  | some after =>
    rw [trimList_write_of_marked h marker]
    simp

/-- **The marker is told** however the token is arranged. -/
@[simp] theorem isOptional_write (h : IsBare text) (a : Arrangement) :
    isOptional (a.write text) = a.isMarked := by
  unfold isOptional Arrangement.isMarked
  cases marker : a.afterMarker? with
  | none =>
    rw [trimList_write_of_unmarked h marker]
    simp [h.unmarked]
  | some after =>
    rw [trimList_write_of_marked h marker]
    simp

/-! ## What the name stands for -/

/-- White space after a name has no part in its label. -/
theorem splitLabel_append_blank (cs : List Char) {gap : List Char}
    (blank : ∀ c ∈ gap, isBlank c = true) :
    splitLabel (cs ++ gap) = (splitLabel cs).map fun (label, localName) =>
      (label, localName ++ gap) := by
  induction cs with
  | nil =>
    refine splitLabel_eq_none fun colon => ?_
    exact absurd (blank ':' colon) (by decide)
  | cons c cs ih =>
    rw [List.cons_append, splitLabel, splitLabel, ih]
    split
    · rfl
    · rw [Option.map_map, Option.map_map]
      rfl

/-- The label of the name in a token is that of the name that was written in
it. -/
theorem splitLabel_name_write (h : IsBare text) (a : Arrangement) :
    splitLabel (name (a.write text))
      = (splitLabel text.toList).map fun (label, localName) =>
        (label, localName ++ a.keptGap text) := by
  rw [name_write h, splitLabel_append_blank _ (a.blank_keptGap text)]

/-- **A name without a label** stands for an OpenSearch name that holds the white
space that is kept. -/
theorem resolve_write_of_plain (h : IsBare text)
    (unlabelled : splitLabel text.toList = none) (a : Arrangement) :
    resolve b (a.write text)
      = .ok ⟨Vocabulary.openSearch,
          String.ofList (text.toList ++ a.keptGap text)⟩ := by
  have none : splitLabel (name (a.write text)) = none := by
    rw [splitLabel_name_write h, unlabelled, Option.map_none]
  rw [resolve_of_plain b none, name_write h]

/-- **A name with a label** has the namespace of the label, and its local name holds
the white space that is kept. -/
theorem resolve_write_of_label (h : IsBare text) {label localName : List Char}
    (labelled : splitLabel text.toList = some (label, localName))
    (a : Arrangement) :
    resolve b (a.write text) =
      match b.namespaceOf? (String.ofList label) with
      | some namespaceName =>
        .ok ⟨namespaceName, String.ofList (localName ++ a.keptGap text)⟩
      | none =>
        .error (.unresolvedPrefix (String.ofList label) (a.write text)) := by
  apply resolve_of_label
  rw [splitLabel_name_write h, labelled, Option.map_some]

/-- **Two tokens come to the same**: the same name, or a failure for the same
label. -/
inductive SameOutcome : Except Failure QName → Except Failure QName → Prop where
  /-- They stand for the same name. -/
  | named (name : QName) : SameOutcome (.ok name) (.ok name)
  /-- The same label is not bound. -/
  | unresolved (label token token' : String) :
      SameOutcome (.error (.unresolvedPrefix label token))
        (.error (.unresolvedPrefix label token'))

/-- **Whether the label of a name is not bound**, if it has one. -/
def LacksNamespace (b : Bindings) (text : String) : Prop :=
  ∃ label localName, splitLabel text.toList = some (label, localName) ∧
    b.namespaceOf? (String.ofList label) = none

/-- Names come to the same only if they are the same. -/
theorem SameOutcome.eq {name name' : QName}
    (h : SameOutcome (.ok name) (.ok name')) : name = name' := by
  cases h
  rfl

/-- Names that differ in white space at the end are the same only without that. -/
theorem eq_nil_of_sameOutcome {namespaceName : String} {cs gap : List Char}
    (h : SameOutcome (.ok ⟨namespaceName, String.ofList (cs ++ gap)⟩)
      (.ok ⟨namespaceName, String.ofList cs⟩)) : gap = [] := by
  have chars := congrArg (fun name => name.localName.toList) h.eq
  simpa using chars

/-- **When a token comes to the same as its name**: if no white space is kept, or if
the label of the name is not bound. -/
theorem sameOutcome_iff (h : IsBare text) (b : Bindings) (a : Arrangement) :
    SameOutcome (resolve b (a.write text)) (resolve b text) ↔
      a.keptGap text = [] ∨ LacksNamespace b text := by
  -- the name by itself is written with the plain arrangement
  have alone := Arrangement.write_plain text
  cases labelled : splitLabel text.toList with
  | none =>
    have bound : ¬ LacksNamespace b text := by
      rintro ⟨label, localName, found, -⟩
      rw [labelled] at found
      cases found
    have itself := resolve_write_of_plain (b := b) h labelled Arrangement.plain
    rw [alone, Arrangement.keptGap_plain, List.append_nil] at itself
    rw [resolve_write_of_plain h labelled, itself, or_iff_left bound]
    constructor
    · exact eq_nil_of_sameOutcome
    · intro kept
      rw [kept, List.append_nil]
      exact .named _
  | some parts =>
    obtain ⟨label, localName⟩ := parts
    have itself := resolve_write_of_label (b := b) h labelled Arrangement.plain
    rw [alone, Arrangement.keptGap_plain, List.append_nil] at itself
    rw [resolve_write_of_label h labelled, itself]
    cases namespaced : b.namespaceOf? (String.ofList label) with
    | none =>
      refine iff_of_true (.unresolved _ _ _) (.inr ?_)
      exact ⟨label, localName, labelled, namespaced⟩
    | some namespaceName =>
      have bound : ¬ LacksNamespace b text := by
        rintro ⟨label', localName', found, unbound⟩
        rw [labelled] at found
        obtain ⟨rfl, -⟩ := Prod.mk.inj (Option.some.inj found)
        rw [namespaced] at unbound
        cases unbound
      rw [or_iff_left bound]
      constructor
      · exact eq_nil_of_sameOutcome
      · intro kept
        dsimp only
        rw [kept, List.append_nil]
        exact .named _

/-- **Marker and white space do not change a name, except white space in front of the
marker.** Take a name by itself, written in a token with any white space around it
and around a marker after it, if there is one. The token comes to the same as the
name exactly if there is no marker, or no white space between the name and the
marker, or no name at all, or if the label of the name is not bound. And the marker
is told in all cases. -/
theorem resolve_write_iff (h : IsBare text) (b : Bindings) (a : Arrangement) :
    (SameOutcome (resolve b (a.write text)) (resolve b text) ↔
      a.isMarked = false ∨ a.gap = [] ∨ text = "" ∨ LacksNamespace b text) ∧
    isOptional (a.write text) = a.isMarked := by
  refine ⟨?_, isOptional_write h a⟩
  rw [sameOutcome_iff h, a.keptGap_eq_nil_iff, or_assoc, or_assoc]

/-- White space on all three sides: a name whose label is not bound fails as it does
by itself, and an OpenSearch name is another one. -/
theorem resolve_write_iff_spaced :
    let a : Arrangement :=
      ⟨[' ', Char.ofNat 0xa0], ['\t'], some [Char.ofNat 0x2003],
        List.all_eq_true.mp rfl⟩
    (SameOutcome (resolve [] (a.write "eo:cloudCover"))
        (resolve [] "eo:cloudCover") ∧
      isOptional (a.write "eo:cloudCover") = true) ∧
    (¬ SameOutcome (resolve [] (a.write "count")) (resolve [] "count") ∧
      isOptional (a.write "count") = true) := by
  intro a
  have bare : IsBare "eo:cloudCover" := by decide
  have bare' : IsBare "count" := by decide
  obtain ⟨labelled, told⟩ := resolve_write_iff bare [] a
  obtain ⟨plain, told'⟩ := resolve_write_iff bare' [] a
  refine ⟨⟨labelled.mpr ?_, told⟩, fun same => ?_, told'⟩
  · exact .inr (.inr (.inr ⟨"eo".toList, "cloudCover".toList, by decide, by decide⟩))
  · obtain unmarked | noGap | nameless | ⟨label, localName, labelled, -⟩ :=
      plain.mp same
    · cases unmarked
    · cases noGap
    · exact absurd nameless (by decide)
    · rw [show splitLabel "count".toList = none by decide] at labelled
      cases labelled

/-- **White space in front of a marker becomes part of the name.** -/
theorem resolve_countGap :
    ∃ a : Arrangement, IsBare "count" ∧ a.write "count" = "count ?" ∧
      resolve [] "count ?" = .ok ⟨Vocabulary.openSearch, "count "⟩ ∧
      ¬ SameOutcome (resolve [] (a.write "count")) (resolve [] "count") := by
  have kept : resolve [] "count ?" = .ok ⟨Vocabulary.openSearch, "count "⟩ := by
    decide
  have itself : resolve [] "count" = .ok ⟨Vocabulary.openSearch, "count"⟩ := by
    decide
  refine ⟨⟨[], [' '], some [], List.all_eq_true.mp rfl⟩, by decide, rfl, kept, ?_⟩
  show ¬ SameOutcome (resolve [] "count ?") (resolve [] "count")
  rw [kept, itself]
  exact fun same => absurd same.eq (by decide)

end GeoCatalogue.Token
