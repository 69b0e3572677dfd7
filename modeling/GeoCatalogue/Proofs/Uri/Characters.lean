import GeoCatalogue.Proofs.Name.Tables
import GeoCatalogue.Proofs.Template.Building
import GeoCatalogue.Proofs.Uri.Acceptance
import Mathlib.Data.Char

/-!
# The characters of accepted texts

A text is to be accepted as a URI only if it is written with URI characters,
and if it is not, the characters that no URI has are to be reported, each once
and in ascending order. Both hold of every text without a line feed. A line
feed is treated as if it were not there: at the end of a text it is let
through, and wherever it stands it is missing from the report. What is accepted
has therefore URI characters only, up to one line feed at its end, and the
report is complete up to the line feed (`lineFeed_iff`).
-/
namespace GeoCatalogue.Uri

/-! ## The report -/

/-- **A list of the characters with a property**, each once and in ascending
order. -/
structure Lists (reported : List Char) (p : Char → Prop) : Prop where
  /-- The characters ascend. -/
  ascending : reported.Pairwise (· < ·)
  /-- They are those with the property. -/
  complete : ∀ c, c ∈ reported ↔ p c

/-- Characters that are put in order ascend, if each of them is there once. -/
theorem ascending_mergeSort {cs : List Char} (once : cs.Nodup) :
    (cs.mergeSort (· ≤ ·)).Pairwise (· < ·) := by
  have weak : (cs.mergeSort (· ≤ ·)).Pairwise (· ≤ ·) := by
    refine (List.pairwise_mergeSort ?_ ?_ cs).imp of_decide_eq_true
    · intro a b c hab hbc
      rw [decide_eq_true_eq] at hab hbc ⊢
      exact Char.le_trans hab hbc
    · intro a b
      rw [Bool.or_eq_true, decide_eq_true_eq, decide_eq_true_eq]
      exact Char.le_total a b
  have distinct : (cs.mergeSort (· ≤ ·)).Pairwise (· ≠ ·) :=
    (List.mergeSort_perm cs _).nodup_iff.mpr once
  refine (weak.and distinct).imp ?_
  rintro c d ⟨le, ne⟩
  exact lt_of_le_of_ne le ne

/-- **What is reported** are the characters that no URI has, except for the
line feed. -/
theorem lists_illegalCharacters (cs : List Char) :
    Lists (illegalCharacters cs) fun c =>
      (c ∈ cs ∧ isUriChar c = false) ∧ c ≠ '\n' where
  ascending := ascending_mergeSort (nodup_eraseDups _)
  complete := by
    intro c
    unfold illegalCharacters
    rw [List.mem_mergeSort, List.mem_eraseDups, List.mem_filter]
    simp [and_assoc]

/-! ## Which check reports characters -/

/-- A check that does not report characters. -/
def IsSilent (check : Except Defect Unit) : Prop :=
  ∀ reported, check ≠ .error (.illegalCharacters reported)

@[simp] theorem isSilent_ok : IsSilent (.ok ()) := nofun

@[simp] theorem isSilent_brackets : IsSilent (.error .brackets) := nofun

/-- Two checks that do not report characters do not do so in turn. -/
theorem IsSilent.bind {first : Except Defect Unit}
    {next : Unit → Except Defect Unit} (h : IsSilent first)
    (hnext : IsSilent (next ())) : IsSilent (first >>= next) := by
  cases first with
  | ok _ => exact hnext
  | error defect =>
    intro reported no
    exact h reported no

/-- The check of the place of brackets does not report characters. -/
theorem isSilent_checkBracketPlace (authority : List Char) :
    IsSilent (checkBracketPlace authority) := by
  unfold checkBracketPlace
  simp only
  split
  · split
    · exact isSilent_brackets
    · cases after ']' (after '[' (hostAndPort authority)) with
      | nil => exact isSilent_ok
      | cons c rest =>
        show IsSilent (if c == ':' then .ok () else .error .brackets)
        split
        · exact isSilent_ok
        · exact isSilent_brackets
  · exact isSilent_ok

/-- The check of a host in brackets does not report characters. -/
theorem isSilent_checkBracketed (host : List Char) :
    IsSilent (checkBracketed host) := by
  unfold checkBracketed
  split
  · split
    · exact isSilent_ok
    · exact nofun
  · split
    · exact nofun
    · split
      · exact isSilent_ok
      · exact nofun

/-- The check of brackets does not report characters. -/
theorem isSilent_checkBrackets (authority : List Char) :
    IsSilent (checkBrackets authority) := by
  unfold checkBrackets
  simp only
  split
  · exact isSilent_brackets
  · split
    · exact (isSilent_checkBracketPlace authority).bind
        (isSilent_checkBracketed _)
    · exact isSilent_ok

/-- The check of a port does not report characters. -/
theorem isSilent_checkPort (authority : List Char) :
    IsSilent (checkPort authority) := by
  unfold checkPort
  simp only
  split
  · exact isSilent_ok
  · split
    · exact nofun
    · split
      · exact nofun
      · split
        · exact nofun
        · exact isSilent_ok

/-- **The check of the parts of a URI does not report characters.** -/
theorem isSilent_checkParts (cs : List Char) : IsSilent (checkParts cs) := by
  have silent (a : List Char) : IsSilent (checkAuthority a) :=
    (isSilent_checkBrackets a).bind (isSilent_checkPort a)
  unfold checkParts
  split
  · refine (silent _).bind ?_
    split
    · exact nofun
    · exact isSilent_ok
  · exact (silent _).bind nofun

/-- **Characters are reported exactly if some of those that are looked at are
no URI characters**; they are then the characters of the whole text that no
URI has, without the line feed. -/
theorem checkChars_eq_illegal {cs reported : List Char} :
    checkChars cs = .error (.illegalCharacters reported) ↔
      (∃ c ∈ withoutLineEnd cs, isUriChar c = false) ∧
        reported = illegalCharacters cs := by
  have some_illegal : (withoutLineEnd cs).all isUriChar = false ↔
      ∃ c ∈ withoutLineEnd cs, isUriChar c = false := by
    rw [List.all_eq_false]
    simp only [Bool.not_eq_true]
  rw [← some_illegal]
  unfold checkChars checkCharacters
  cases (withoutLineEnd cs).all isUriChar with
  | false =>
    constructor
    · intro h
      injection h with h
      injection h with h
      exact ⟨rfl, h.symm⟩
    · rintro ⟨-, rfl⟩
      rfl
  | true =>
    constructor
    · intro h
      cases escapes : escapesAreWellFormed cs with
      | false =>
        rw [escapes] at h
        cases h
      | true =>
        rw [escapes] at h
        exact absurd h (isSilent_checkParts _ reported)
    · rintro ⟨no, -⟩
      cases no

/-! ## The line feed -/

/-- **Accepted texts have URI characters only, except for a line feed at the
end.** -/
theorem isUriChar_of_accepted {cs : List Char} (h : checkChars cs = .ok ())
    {c : Char} (hc : c ∈ withoutLineEnd cs) : isUriChar c = true :=
  List.all_eq_true.mp (checkChars_eq_ok.mp h).1 c hc

/-- An accepted text has URI characters only exactly if it has no line
feed. -/
theorem all_isUriChar_iff {cs : List Char} (h : checkChars cs = .ok ()) :
    (∀ c ∈ cs, isUriChar c = true) ↔ '\n' ∉ cs := by
  constructor
  · intro all lineFeed
    exact absurd (all '\n' lineFeed) (by decide)
  · intro none c hc
    rcases mem_or_eq_of_mem hc with hc | rfl
    · exact isUriChar_of_accepted h hc
    · exact absurd hc none

/-- **A report is complete exactly if the text has no line feed.** -/
theorem isDiagnosis_iff {cs reported : List Char}
    (h : checkChars cs = .error (.illegalCharacters reported)) :
    (reported ≠ [] ∧ Lists reported fun c => c ∈ cs ∧ isUriChar c = false) ↔
      '\n' ∉ cs := by
  obtain ⟨⟨d, hd, illegal⟩, rfl⟩ := checkChars_eq_illegal.mp h
  have listed := lists_illegalCharacters cs
  constructor
  · rintro ⟨-, complete⟩ lineFeed
    have : '\n' ∈ illegalCharacters cs :=
      (complete.complete '\n').mpr ⟨lineFeed, by decide⟩
    exact ((listed.complete '\n').mp this).2 rfl
  · intro none
    have others {c : Char} (hc : c ∈ cs) : c ≠ '\n' := by
      rintro rfl
      exact none hc
    refine ⟨?_, listed.ascending, fun c => ?_⟩
    · have hmem := mem_of_mem_withoutLineEnd hd
      exact List.ne_nil_of_mem
        ((listed.complete d).mpr ⟨⟨hmem, illegal⟩, others hmem⟩)
    · rw [listed.complete]
      exact ⟨And.left, fun hc => ⟨hc, others hc.1⟩⟩

/-- **URI characters only – up to the line feed.** A text that is accepted has
URI characters only, and so has every URI that is built, if it has no line
feed; otherwise there is one line feed, and it stands at the end. The
characters reported of a text that is refused for its characters are those
that no URI has, each once and in ascending order, but never the line feed: so
the report is complete, and not empty, exactly if the text has no line
feed. -/
theorem lineFeed_iff (text : String) :
    (∀ uri, request text = .ok uri →
      uri = text ∧ (∀ c ∈ withoutLineEnd text.toList, isUriChar c = true) ∧
      ((∀ c ∈ text.toList, isUriChar c = true) ↔ '\n' ∉ text.toList)) ∧
    (∀ reported, request text
        = .error (.malformedRequestUri text (.illegalCharacters reported)) →
      Lists reported (fun c =>
        (c ∈ text.toList ∧ isUriChar c = false) ∧ c ≠ '\n') ∧
      ((reported ≠ [] ∧
          Lists reported fun c => c ∈ text.toList ∧ isUriChar c = false) ↔
        '\n' ∉ text.toList)) ∧
    ∀ (r : Registry) (t : UrlTemplate) (values : Values),
      r.build t values = .ok text →
        (∀ c ∈ withoutLineEnd text.toList, isUriChar c = true) ∧
        ((∀ c ∈ text.toList, isUriChar c = true) ↔ '\n' ∉ text.toList) := by
  refine ⟨?_, ?_, ?_⟩
  · intro uri h
    obtain ⟨rfl, accepted⟩ := request_eq_ok.mp h
    exact ⟨rfl, fun c => isUriChar_of_accepted accepted,
      all_isUriChar_iff accepted⟩
  · intro reported h
    obtain ⟨defect, same, refused⟩ := request_eq_error.mp h
    injection same with _ same
    rw [← same] at refused
    obtain ⟨-, rfl⟩ := checkChars_eq_illegal.mp refused
    exact ⟨lists_illegalCharacters _, isDiagnosis_iff refused⟩
  · intro r t values h
    obtain ⟨-, accepted⟩ := request_eq_ok.mp (Registry.request_of_build h)
    exact ⟨fun c => isUriChar_of_accepted accepted, all_isUriChar_iff accepted⟩

/-- A text with three characters that no URI has, one of them twice. -/
theorem lineFeed_iff_refused :
    request "http://h/ \x7bq\x7d "
      = .error (.malformedRequestUri "http://h/ \x7bq\x7d "
          (.illegalCharacters [' ', '\x7b', '\x7d'])) ∧
    Lists [' ', '\x7b', '\x7d'] fun c =>
      c ∈ "http://h/ \x7bq\x7d ".toList ∧ isUriChar c = false := by
  have sorted : illegalCharacters "http://h/ \x7bq\x7d ".toList
      = [' ', '\x7b', '\x7d'] := by
    refine List.mergeSort_of_pairwise ?_
    decide
  have refused : request "http://h/ \x7bq\x7d "
      = .error (.malformedRequestUri "http://h/ \x7bq\x7d "
          (.illegalCharacters [' ', '\x7b', '\x7d'])) := by
    refine request_eq_error.mpr ⟨_, rfl, ?_⟩
    exact checkChars_eq_illegal.mpr ⟨⟨' ', by decide, by decide⟩, sorted.symm⟩
  have noLineFeed : '\n' ∉ "http://h/ \x7bq\x7d ".toList := by decide
  exact ⟨refused,
    (((lineFeed_iff "http://h/ \x7bq\x7d ").2.1 _ refused).2.mpr noLineFeed).2⟩

/-- **Line feeds that get through, and that are not reported.** A line feed at
the end is accepted, and a text that is refused for a line feed alone is
refused without a character being reported. -/
theorem request_lineFeed :
    request "http://h/\n" = .ok "http://h/\n" ∧ isUriChar '\n' = false ∧
    request "\nhttp://h/"
      = .error (.malformedRequestUri "\nhttp://h/" (.illegalCharacters [])) := by
  decide +kernel

end GeoCatalogue.Uri
