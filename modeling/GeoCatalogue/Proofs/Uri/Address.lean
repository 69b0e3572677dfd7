import GeoCatalogue.Proofs.Json.Grammar
import GeoCatalogue.Proofs.Text.Parts
import GeoCatalogue.Proofs.Uri.Head

/-!
# The grammar of addresses

What may stand in brackets as the host of a URI is an address of IP version 6 or of a
version still to come. The grammar of these (`Uri.IsAddress`) says how an address is put
together; the check takes it apart at its colons, looks for a part without digits, and
counts. **They agree** (`Uri.checkBracketed_eq_ok`).

What makes this work is that groups of digits have no colon: the parts of an address are
the groups it was put together from, and the empty parts are those at a double colon.
-/
namespace GeoCatalogue.Uri

open Json Text

variable {cs : List Char} {parts : List (List Char)}

/-- A text is divided as usual. -/
theorem splitAt_eq_splitOn (mark : Char) (cs : List Char) :
    splitAt mark cs = cs.splitOn mark := by
  induction cs with
  | nil => rfl
  | cons c cs ih =>
    rw [List.splitOn_cons_eq_if_modifyHead]
    unfold splitAt
    split
    · rw [ih]
    · rw [ih]
      obtain ⟨part, parts, split⟩ := List.exists_cons_of_ne_nil
        (List.splitOn_ne_nil mark cs)
      rw [split]
      rfl

/-! ## Version 4 -/

/-- **An octet** in decimal digits. -/
def IsOctet (digits : List Char) : Prop :=
  ∃ n ≤ 255, digits = Nat.toDigits 10 n

/-- **An address of version 4**: four octets divided by full stops. -/
def IsIpv4 (address : List Char) : Prop :=
  Divided '.' 4 IsOctet address

theorem digitChar_toNat_sub {c : Char} (h : isAsciiDigit c = true) :
    c.toNat - '0'.toNat < 10 ∧ Nat.digitChar (c.toNat - '0'.toNat) = c := by
  obtain ⟨low, high⟩ := isAsciiDigit_iff.mp h
  have digits : ∀ n < 10, Nat.digitChar n = Char.ofNat (0x30 + n) := by decide
  have small : c.toNat - 0x30 < 10 := by omega
  refine ⟨small, (digits _ small).trans ?_⟩
  rw [Nat.add_sub_cancel' low, Char.ofNat_toNat]

/-- Digits without a zero in front are those of their value. -/
theorem toDigits_decimalValue (digits : AreDigits cs)
    (front : cs.length = 1 ∨ cs.head? ≠ some '0') :
    Nat.toDigits 10 (decimalValue cs) = cs := by
  induction cs using List.reverseRecOn with
  | nil => exact absurd rfl digits.1
  | append_singleton init d ih =>
    obtain ⟨small, digit⟩ := digitChar_toNat_sub
      (digits.2 d (List.mem_append_right init List.mem_cons_self))
    have value : decimalValue (init ++ [d])
        = decimalValue init * 10 + (d.toNat - '0'.toNat) := List.foldl_append
    rw [value]
    by_cases first : init = []
    · rw [first, List.nil_append, show decimalValue [] = 0 from rfl, Nat.zero_mul,
        Nat.zero_add, Nat.toDigits_of_lt_base small, digit]
    · have head : init.head? ≠ some '0' := by
        rw [List.head?_append_of_ne_nil _ first] at front
        refine front.resolve_left fun single => first ?_
        rw [List.length_append, List.length_singleton] at single
        exact List.eq_nil_of_length_eq_zero (by omega)
      have own := ih ⟨first, fun c hc => digits.2 c (List.mem_append_left [d] hc)⟩
        (.inr head)
      have positive : 0 < decimalValue init := by
        refine Nat.pos_of_ne_zero fun zero => head ?_
        rw [← own, zero]
        rfl
      rw [Nat.mul_comm, ← Nat.toDigits_append_toDigits (by decide) positive small, own,
        Nat.toDigits_of_lt_base small, digit]

/-- **The check of an octet.** -/
@[simp] theorem isOctet_iff : isOctet cs = true ↔ IsOctet cs := by
  constructor
  · intro h
    simp only [isOctet, Bool.and_eq_true, Bool.or_eq_true, Bool.not_eq_true',
      List.isEmpty_eq_false_iff, List.all_eq_true, decide_eq_true_eq, beq_iff_eq,
      bne_iff_ne] at h
    obtain ⟨⟨⟨⟨nonempty, digits⟩, -⟩, front⟩, small⟩ := h
    exact ⟨decimalValue cs, small, (toDigits_decimalValue ⟨nonempty, digits⟩ front).symm⟩
  · rintro ⟨n, small, rfl⟩
    have octets : ∀ n < 256, isOctet (Nat.toDigits 10 n) = true := by decide +kernel
    exact octets n (Nat.lt_succ_of_le small)

/-- There is no full stop in an octet, nor another mark. -/
theorem IsOctet.isDigit {c : Char} (h : IsOctet cs) (hc : c ∈ cs) :
    isAsciiDigit c = true := by
  obtain ⟨n, -, rfl⟩ := h
  exact (areDigits_toDigits n).2 c hc

/-- **The check of an address of version 4.** -/
@[simp] theorem isIpv4_iff : isIpv4 cs = true ↔ IsIpv4 cs := by
  have foreign : ∀ part, IsOctet part → '.' ∉ part :=
    fun part h mem => absurd (h.isDigit mem) (by decide)
  rw [IsIpv4, divided_iff foreign (by decide), isIpv4, splitAt_eq_splitOn]
  simp only [Bool.and_eq_true, beq_iff_eq, List.all_eq_true, isOctet_iff]

theorem IsIpv4.mem {c : Char} (h : IsIpv4 cs) (hc : c ∈ cs) :
    c = '.' ∨ isAsciiDigit c = true := by
  refine (Divided.mem h hc).imp_right ?_
  rintro ⟨part, octet, inside⟩
  exact octet.isDigit inside

theorem IsIpv4.dot_mem (h : IsIpv4 cs) : '.' ∈ cs := by
  obtain ⟨parts, length, -, rfl⟩ := h
  match parts, length with
  | [a, b, c, d], _ =>
    rw [List.intercalate_cons_cons]
    simp

/-! ## Version 6 -/

/-- **A group**: up to four hexadecimal digits. -/
structure IsGroup (digits : List Char) : Prop where
  /-- There is a digit. -/
  nonempty : digits ≠ []
  /-- There are four digits at most. -/
  short : digits.length ≤ 4
  /-- They are hexadecimal. -/
  hexadecimal : ∀ c ∈ digits, isHexDigit c = true

/-- **Eight groups** divided by colons, one run of which may be left out at a double
colon. -/
inductive IsHexadecimal : List Char → Prop where
  /-- All eight are there. -/
  | full {cs : List Char} (groups : Divided ':' 8 IsGroup cs) : IsHexadecimal cs
  /-- Some are left out. -/
  | compressed {front back : List Char} {m n : ℕ} (before : Divided ':' m IsGroup front)
      (after : Divided ':' n IsGroup back) (room : m + n ≤ 7) :
      IsHexadecimal (front ++ ':' :: ':' :: back)

/-- **An address of version 6 without a zone.** -/
inductive IsPlainIpv6 : List Char → Prop where
  /-- With hexadecimal digits. -/
  | hexadecimal {cs : List Char} (h : IsHexadecimal cs) : IsPlainIpv6 cs
  /-- With an address of version 4 in the place of the last two groups. -/
  | mixed {front address : List Char} (h : IsHexadecimal (front ++ [':', '0', ':', '0']))
      (ipv4 : IsIpv4 address) : IsPlainIpv6 (front ++ ':' :: address)

/-- **An address of version 6**, perhaps with the name of a zone. -/
inductive IsIpv6 : List Char → Prop where
  /-- Without a zone. -/
  | plain {cs : List Char} (h : IsPlainIpv6 cs) : IsIpv6 cs
  /-- With a zone. -/
  | zoned {cs zone : List Char} (h : IsPlainIpv6 cs) (named : zone ≠ [])
      (unmarked : '%' ∉ zone) : IsIpv6 (cs ++ '%' :: zone)

@[simp] theorem isGroup_iff : isGroup cs = true ↔ IsGroup cs := by
  simp only [isGroup, Bool.and_eq_true, Bool.not_eq_true', List.isEmpty_eq_false_iff,
    List.all_eq_true, decide_eq_true_eq]
  exact ⟨fun h => ⟨h.1.1, h.2, h.1.2⟩, fun h => ⟨⟨h.nonempty, h.hexadecimal⟩, h.short⟩⟩

/-- The parts on one side of a double colon; at an end there are none. -/
def run (parts : List (List Char)) : List (List Char) :=
  if parts == [[]] then [] else parts

@[simp] theorem run_nil : run [[]] = [] := rfl

theorem run_of_ne (h : parts ≠ [[]]) : run parts = parts :=
  if_neg (by simpa using h)

@[simp] theorem intercalate_run (parts : List (List Char)) :
    [':'].intercalate (run parts) = [':'].intercalate parts := by
  by_cases none : parts = [[]]
  · rw [none, run_nil]
    rfl
  · rw [run_of_ne none]

theorem IsGroup.colon_notMem (h : IsGroup cs) : ':' ∉ cs :=
  fun mem => absurd (h.hexadecimal ':' mem) (by decide)

/-- **Groups on one side of a double colon.** -/
theorem divided_iff_run {n : ℕ} :
    Divided ':' n IsGroup cs ↔
      (run (cs.splitOn ':')).length = n ∧ ∀ part ∈ run (cs.splitOn ':'), IsGroup part := by
  have colon : ∀ part, IsGroup part → ':' ∉ part := fun _ h => h.colon_notMem
  have empty : cs.splitOn ':' = [[]] ↔ cs = [] := by
    constructor
    · exact eq_intercalate_of_splitOn
    · rintro rfl
      rfl
  by_cases hn : n = 0
  · rw [hn, List.length_eq_zero_iff]
    constructor
    · rintro ⟨parts, none, -, rfl⟩
      rw [List.eq_nil_of_length_eq_zero none]
      exact ⟨rfl, nofun⟩
    · rintro ⟨none, -⟩
      have nothing : cs.splitOn ':' = [[]] := by
        by_contra other
        rw [run_of_ne other] at none
        exact List.splitOn_ne_nil ':' cs none
      exact ⟨[], rfl, nofun, empty.mp nothing⟩
  · rw [divided_iff colon hn]
    by_cases nothing : cs.splitOn ':' = [[]]
    · rw [nothing, run_nil]
      refine iff_of_false (fun h => ?_) (fun h => hn h.1.symm)
      exact (h.2 [] List.mem_cons_self).nonempty rfl
    · rw [run_of_ne nothing]

/-- The parts in front of a run are not empty, but for the first. -/
theorem drop_one_of_run (h : ∀ part ∈ run parts, IsGroup part) :
    ∀ part ∈ parts.drop 1, part.isEmpty = false := by
  intro part member
  by_cases nothing : parts = [[]]
  · rw [nothing] at member
    cases member
  · rw [run_of_ne nothing] at h
    exact List.isEmpty_eq_false_iff.mpr (h part (List.mem_of_mem_drop member)).nonempty

/-- An empty part that is not at an end divides the parts. -/
theorem eq_append_of_findIdx? {index : ℕ}
    (h : ((parts.drop 1).dropLast).findIdx? List.isEmpty = some index) :
    parts = parts.take (index + 1) ++ [] :: parts.drop (index + 2) ∧
      parts.take (index + 1) ≠ [] ∧ parts.drop (index + 2) ≠ [] := by
  obtain ⟨bound, empty, -⟩ := List.findIdx?_eq_some_iff_getElem.mp h
  rw [List.length_dropLast, List.length_drop] at bound
  rw [List.getElem_dropLast, List.getElem_drop, List.isEmpty_iff] at empty
  simp only [Nat.add_comm 1 index] at empty
  refine ⟨?_, ?_, ?_⟩
  · have split := List.drop_eq_getElem_cons (i := index + 1) (l := parts) (by omega)
    rw [empty] at split
    rw [← split, List.take_append_drop]
  · rw [ne_eq, List.take_eq_nil_iff, not_or]
    refine ⟨Nat.succ_ne_zero index, ?_⟩
    rintro rfl
    rw [List.length_nil] at bound
    omega
  · rw [ne_eq, List.drop_eq_nil_iff]
    omega

/-- The first empty part that is not at an end stands behind the groups in front. -/
theorem findIdx?_append_cons {before after : List (List Char)} (hbefore : before ≠ [])
    (hafter : after ≠ []) (h : ∀ part ∈ run before, IsGroup part) :
    (((before ++ [] :: after).drop 1).dropLast).findIdx? List.isEmpty
      = some (before.length - 1) := by
  have inner : ((before ++ [] :: after).drop 1).dropLast
      = before.drop 1 ++ [] :: after.dropLast := by
    rw [List.drop_append_of_le_length (List.length_pos_of_ne_nil hbefore),
      List.dropLast_append_of_ne_nil (List.cons_ne_nil _ _),
      List.dropLast_cons_of_ne_nil hafter]
  rw [inner, List.findIdx?_append, List.findIdx?_eq_none_iff.mpr (drop_one_of_run h),
    List.findIdx?_cons, List.length_drop, List.isEmpty_nil, if_pos rfl, Option.map_some,
    Nat.zero_add]
  rfl

/-- **The check of the parts**: there are eight groups, or a part is empty with a run of groups
on either side. The empty part is what a double colon leaves between its colons, and at an
end of the text it leaves a second one there; hence runs, and not just lists of groups. -/
theorem areGroups_iff :
    areGroups parts = true ↔
      (parts.length = 8 ∧ ∀ part ∈ parts, IsGroup part) ∨
        ∃ before after, parts = before ++ [] :: after ∧ before ≠ [] ∧ after ≠ [] ∧
          (∀ part ∈ run before, IsGroup part) ∧ (∀ part ∈ run after, IsGroup part) ∧
          (run before).length + (run after).length ≤ 7 := by
  have groups (parts : List (List Char)) :
      parts.all isGroup = true ↔ ∀ part ∈ parts, IsGroup part := by
    rw [List.all_eq_true]
    exact forall₂_congr fun part _ => isGroup_iff
  have counts (before after : List (List Char)) :
      ((run before).all isGroup && (run after).all isGroup &&
          decide ((run before).length + (run after).length ≤ 7)) = true ↔
        (∀ part ∈ run before, IsGroup part) ∧ (∀ part ∈ run after, IsGroup part) ∧
          (run before).length + (run after).length ≤ 7 := by
    rw [Bool.and_eq_true, Bool.and_eq_true, decide_eq_true_eq, groups, groups, and_assoc]
  unfold areGroups
  dsimp only
  constructor
  · intro h
    split at h
    · next none =>
      rw [Bool.and_eq_true, beq_iff_eq, groups] at h
      exact .inl h
    · next index found =>
      obtain ⟨split, front, back⟩ := eq_append_of_findIdx? found
      exact .inr ⟨_, _, split, front, back, (counts _ _).mp h⟩
  · rintro (⟨eight, each⟩ | ⟨before, after, rfl, hbefore, hafter, h⟩)
    · have none : ((parts.drop 1).dropLast).findIdx? List.isEmpty = none := by
        refine List.findIdx?_eq_none_iff.mpr fun part member => ?_
        exact List.isEmpty_eq_false_iff.mpr
          (each part (List.mem_of_mem_drop (List.dropLast_subset _ member))).nonempty
      rw [none, Bool.and_eq_true, beq_iff_eq, groups]
      exact ⟨eight, each⟩
    · have length : before.length - 1 + 1 = before.length :=
        Nat.sub_add_cancel (List.length_pos_of_ne_nil hbefore)
      have behind : (before ++ [] :: after).drop (before.length - 1 + 2) = after := by
        rw [List.drop_append, List.drop_of_length_le (by omega), List.nil_append,
          show before.length - 1 + 2 - before.length = 1 by omega, List.drop_one,
          List.tail_cons]
      rw [findIdx?_append_cons hbefore hafter h.1]
      dsimp only
      rw [length, List.take_left, behind]
      exact (counts before after).mpr h

/-- **Eight groups are recognized by their parts.** -/
@[simp] theorem areGroups_splitOn_iff : areGroups (cs.splitOn ':') = true ↔ IsHexadecimal cs := by
  have colon : ∀ part, IsGroup part → ':' ∉ part := fun _ h => h.colon_notMem
  rw [areGroups_iff]
  constructor
  · rintro (full | ⟨before, after, split, hbefore, hafter, front, back, room⟩)
    · exact .full ((divided_iff colon (by decide)).mpr full)
    · have whole : cs = [':'].intercalate before ++ ':' :: ':' :: [':'].intercalate after := by
        rw [eq_intercalate_of_splitOn split,
          intercalate_append hbefore (List.cons_ne_nil _ _),
          List.intercalate_cons_of_ne_nil hafter]
        rfl
      rw [whole]
      exact .compressed ⟨run before, rfl, front, (intercalate_run before).symm⟩
        ⟨run after, rfl, back, (intercalate_run after).symm⟩ room
  · rintro (full | ⟨front, back, room⟩)
    · exact .inl ((divided_iff colon (by decide)).mp full)
    · next before after m n =>
      obtain ⟨rfl, groups⟩ := divided_iff_run.mp front
      obtain ⟨rfl, groups'⟩ := divided_iff_run.mp back
      have double : (before ++ ':' :: ':' :: after).splitOn ':'
          = before.splitOn ':' ++ [] :: after.splitOn ':' := by
        rw [List.splitOn_append_cons_self]
        exact congrArg _ (List.splitOn_append_cons_self [] after)
      exact .inr ⟨_, _, double, List.splitOn_ne_nil _ _, List.splitOn_ne_nil _ _, groups,
        groups', room⟩

/-- There are three parts at least, and nine at most. -/
theorem length_of_areGroups (h : areGroups parts = true) :
    3 ≤ parts.length ∧ parts.length ≤ 9 := by
  rcases areGroups_iff.mp h with ⟨eight, -⟩ | ⟨before, after, rfl, hb, ha, -, -, room⟩
  · omega
  · have count (parts : List (List Char)) (hparts : parts ≠ []) :
        1 ≤ parts.length ∧ parts.length ≤ max 1 (run parts).length := by
      refine ⟨List.length_pos_of_ne_nil hparts, ?_⟩
      by_cases nothing : parts = [[]]
      · rw [nothing]
        decide
      · rw [run_of_ne nothing]
        exact le_max_right _ _
    have front := count before hb
    have back := count after ha
    rw [List.length_append, List.length_cons]
    omega

/-- The parts are groups, or empty. -/
theorem part_of_areGroups (h : areGroups parts = true) {part : List Char}
    (member : part ∈ parts) : part = [] ∨ IsGroup part := by
  have side {parts : List (List Char)} (each : ∀ part ∈ run parts, IsGroup part)
      (member : part ∈ parts) : part = [] ∨ IsGroup part := by
    by_cases nothing : parts = [[]]
    · rw [nothing, List.mem_singleton] at member
      exact .inl member
    · rw [run_of_ne nothing] at each
      exact .inr (each part member)
  rcases areGroups_iff.mp h with ⟨-, each⟩ | ⟨before, after, rfl, -, -, front, back, -⟩
  · exact .inr (each part member)
  · rw [List.mem_append, List.mem_cons] at member
    rcases member with inFront | empty | behind
    · exact side front inFront
    · exact .inl empty
    · exact side back behind

/-- The last part of a text with a colon in front of something without one. -/
theorem splitOn_append_last (front : List Char) {last : List Char} (h : ':' ∉ last) :
    (front ++ ':' :: last).splitOn ':' = front.splitOn ':' ++ [last] := by
  rw [List.splitOn_append_cons_self, List.splitOn_eq_singleton h]

theorem splitOn_append_zeros (front : List Char) :
    (front ++ [':', '0', ':', '0']).splitOn ':' = front.splitOn ':' ++ [['0'], ['0']] :=
  List.splitOn_append_cons_self front ['0', ':', '0']

theorem IsIpv4.colon_notMem (h : IsIpv4 cs) : ':' ∉ cs :=
  fun mem => absurd (h.mem mem) (by decide)

/-- In front of two groups at the end there are two other parts at least. -/
theorem two_le_of_areGroups (hparts : parts ≠ [])
    (h : areGroups (parts ++ [['0'], ['0']]) = true) : 2 ≤ parts.length := by
  match parts, hparts with
  | [part], _ =>
    have none : areGroups [part, ['0'], ['0']] = false := rfl
    rw [List.cons_append, List.nil_append, none] at h
    cases h
  | _ :: _ :: parts, _ => exact Nat.le_add_left 2 parts.length

/-- **The parts with an address of version 4 at the end.** -/
theorem groups?_eq {init : List (List Char)} {last : List Char}
    (split : cs.splitOn ':' = init ++ [last]) :
    groups? cs = if last.contains '.' then
        if isIpv4 last then some (init ++ [['0'], ['0']]) else none
      else some (cs.splitOn ':') := by
  unfold groups?
  dsimp only
  rw [splitAt_eq_splitOn, split, List.getLast?_concat, List.dropLast_concat]

/-- A text with a colon is what stands in front of its last part, and the part. -/
theorem exists_append_last {init : List (List Char)} {last : List Char}
    (split : cs.splitOn ':' = init ++ [last]) (hinit : init ≠ []) (h : ':' ∉ last) :
    ∃ front, cs = front ++ ':' :: last ∧ front.splitOn ':' = init := by
  have whole : cs = [':'].intercalate init ++ ':' :: last := by
    rw [eq_intercalate_of_splitOn split, intercalate_append hinit (List.cons_ne_nil _ _),
      List.intercalate_singleton]
  rw [whole, splitOn_append_last _ h] at split
  exact ⟨_, whole, List.append_cancel_right split⟩

theorem exists_splitOn_eq (cs : List Char) :
    ∃ init last, cs.splitOn ':' = init ++ [last] :=
  ⟨_, _, (List.dropLast_append_getLast (List.splitOn_ne_nil ':' cs)).symm⟩

/-- There is no address of version 4 at the end of groups. -/
theorem groups?_of_areGroups (h : areGroups (cs.splitOn ':') = true) :
    groups? cs = some (cs.splitOn ':') := by
  obtain ⟨init, last, split⟩ := exists_splitOn_eq cs
  rw [groups?_eq split, if_neg]
  intro dot
  rw [List.contains_iff_mem] at dot
  have member : last ∈ cs.splitOn ':' := split ▸ List.mem_concat_self
  rcases part_of_areGroups h member with rfl | group
  · cases dot
  · exact absurd (group.hexadecimal '.' dot) (by decide)

/-- An address of version 4 at the end stands for two groups. -/
theorem groups?_append (front : List Char) {address : List Char} (h : IsIpv4 address) :
    groups? (front ++ ':' :: address) = some (front.splitOn ':' ++ [['0'], ['0']]) := by
  rw [groups?_eq (splitOn_append_last front h.colon_notMem),
    if_pos (List.contains_iff_mem.mpr h.dot_mem), if_pos (isIpv4_iff.mpr h)]

/-- **An address without a zone is recognized by its parts.** -/
theorem isPlainIpv6_iff :
    (3 ≤ (cs.splitOn ':').length ∧
      ∃ parts, groups? cs = some parts ∧ parts.length ≤ 9 ∧ areGroups parts = true) ↔
        IsPlainIpv6 cs := by
  constructor
  · rintro ⟨three, parts, found, -, groups⟩
    obtain ⟨init, last, split⟩ := exists_splitOn_eq cs
    rw [groups?_eq split] at found
    split at found
    · split at found
      · next ipv4 =>
        obtain rfl := Option.some.inj found
        have address := isIpv4_iff.mp ipv4
        have hinit : init ≠ [] := by
          rintro rfl
          rw [split, List.nil_append, List.length_singleton] at three
          omega
        obtain ⟨front, rfl, rfl⟩ := exists_append_last split hinit address.colon_notMem
        rw [← splitOn_append_zeros] at groups
        exact .mixed (areGroups_splitOn_iff.mp groups) address
      · cases found
    · obtain rfl := Option.some.inj found
      exact .hexadecimal (areGroups_splitOn_iff.mp groups)
  · rintro (h | ⟨h, ipv4⟩)
    · have groups := areGroups_splitOn_iff.mpr h
      obtain ⟨three, nine⟩ := length_of_areGroups groups
      exact ⟨three, _, groups?_of_areGroups groups, nine, groups⟩
    · next front address =>
      have groups := areGroups_splitOn_iff.mpr h
      rw [splitOn_append_zeros] at groups
      have two := two_le_of_areGroups (List.splitOn_ne_nil ':' front) groups
      refine ⟨?_, _, groups?_append front ipv4, (length_of_areGroups groups).2, groups⟩
      rw [splitOn_append_last front ipv4.colon_notMem, List.length_append,
        List.length_singleton]
      omega

/-- The characters of groups. -/
theorem IsHexadecimal.mem {c : Char} (h : IsHexadecimal cs) (hc : c ∈ cs) :
    c = ':' ∨ isHexDigit c = true := by
  have inGroups {n : ℕ} {cs : List Char} (h : Divided ':' n IsGroup cs) (hc : c ∈ cs) :
      c = ':' ∨ isHexDigit c = true := by
    refine (h.mem hc).imp_right ?_
    rintro ⟨part, group, inside⟩
    exact group.hexadecimal c inside
  rcases h with groups | ⟨front, back, -⟩
  · exact inGroups groups hc
  · rw [List.mem_append, List.mem_cons, List.mem_cons] at hc
    rcases hc with inFront | colon | colon | behind
    · exact inGroups front inFront
    · exact .inl colon
    · exact .inl colon
    · exact inGroups back behind

/-- There is no percent sign in an address without a zone, nor a letter that is no
digit. -/
theorem IsPlainIpv6.mem {c : Char} (h : IsPlainIpv6 cs) (hc : c ∈ cs) :
    c = ':' ∨ c = '.' ∨ isHexDigit c = true := by
  rcases h with h | ⟨h, ipv4⟩
  · exact (h.mem hc).imp_right .inr
  · rw [List.mem_append, List.mem_cons] at hc
    rcases hc with inFront | colon | behind
    · exact (h.mem (List.mem_append_left _ inFront)).imp_right .inr
    · exact .inl colon
    · refine .inr ((ipv4.mem behind).imp_right fun digit => ?_)
      unfold isAsciiDigit at digit
      simp [isHexDigit, digit]

theorem IsPlainIpv6.colon_mem (h : IsPlainIpv6 cs) : ':' ∈ cs := by
  by_contra none
  have three := (isPlainIpv6_iff.mpr h).1
  rw [List.splitOn_eq_singleton none, List.length_singleton] at three
  omega

theorem withoutZone?_of_notMem (h : '%' ∉ cs) : withoutZone? cs = some cs := by
  have all : cs.dropWhile (· != '%') = [] :=
    List.dropWhile_eq_nil_iff.mpr (bne_of_notMem h)
  unfold withoutZone?
  rw [all]

/-- The first percent sign of an address starts the name of its zone. -/
theorem withoutZone?_append_cons (h : '%' ∉ cs) (zone : List Char) :
    withoutZone? (cs ++ '%' :: zone)
      = if zone.isEmpty || zone.contains '%' then none else some cs := by
  have front : (cs ++ '%' :: zone).takeWhile (· != '%') = cs :=
    before_append_cons h zone
  have back : (cs ++ '%' :: zone).dropWhile (· != '%') = '%' :: zone := by
    rw [List.dropWhile_append_of_pos (bne_of_notMem h),
      List.dropWhile_cons_of_neg (by simp)]
  unfold withoutZone?
  rw [back, front]

/-- The check of an address whose zone has been taken off. -/
theorem isIpv6_eq {plain : List Char} (h : withoutZone? cs = some plain) :
    isIpv6 cs = true ↔ IsPlainIpv6 plain := by
  rw [← isPlainIpv6_iff, ← splitAt_eq_splitOn]
  unfold isIpv6
  rw [h]
  dsimp only
  cases groups? plain with
  | none => simp
  | some parts => simp

/-- **The check of an address of version 6.** -/
@[simp] theorem isIpv6_iff : isIpv6 cs = true ↔ IsIpv6 cs := by
  have unmarked {cs : List Char} (h : IsPlainIpv6 cs) : '%' ∉ cs :=
    fun mem => absurd (h.mem mem) (by decide)
  constructor
  · intro h
    by_cases mark : '%' ∈ cs
    · obtain ⟨plain, zone, rfl, first⟩ := List.eq_append_cons_of_mem mark
      have cut := withoutZone?_append_cons first zone
      split at cut
      · unfold isIpv6 at h
        rw [cut] at h
        cases h
      · next named =>
        rw [Bool.or_eq_true, not_or, List.isEmpty_iff, List.contains_iff_mem] at named
        exact .zoned ((isIpv6_eq cut).mp h) named.1 named.2
    · exact .plain ((isIpv6_eq (withoutZone?_of_notMem mark)).mp h)
  · rintro (h | ⟨h, named, single⟩)
    · exact (isIpv6_eq (withoutZone?_of_notMem (unmarked h))).mpr h
    · refine (isIpv6_eq ?_).mpr h
      rw [withoutZone?_append_cons (unmarked h), if_neg]
      rw [Bool.or_eq_true, not_or, List.isEmpty_iff, List.contains_iff_mem]
      exact ⟨named, single⟩

/-- There is a colon in an address of version 6, with or without a zone. -/
theorem IsIpv6.colon_mem (h : IsIpv6 cs) : ':' ∈ cs := by
  cases h with
  | plain h => exact h.colon_mem
  | zoned h named unmarked => exact List.mem_append_left _ h.colon_mem

/-- An address of version 6 does not start with a letter that is no digit. -/
theorem IsIpv6.not_versioned : ¬ IsIpv6 ('v' :: cs) := by
  have letter : ¬ ('v' = ':' ∨ 'v' = '.' ∨ isHexDigit 'v' = true) := by decide
  intro h
  generalize hall : 'v' :: cs = all at h
  cases h with
  | plain h => exact letter (h.mem (hall ▸ List.mem_cons_self))
  | zoned h named unmarked =>
    rename_i plain zone
    cases plain with
    | nil => cases hall
    | cons c plain =>
      obtain rfl := (List.cons.inj hall).1
      exact letter (h.mem List.mem_cons_self)

/-! ## Versions to come -/

/-- **An address of a version to come**: its number and a text. -/
inductive IsFuture : List Char → Prop where
  /-- Hexadecimal digits between the letter and a full stop. -/
  | versioned {version text : List Char} (numbered : version ≠ [])
      (digits : ∀ c ∈ version, isHexDigit c = true) (nonempty : text ≠ []) :
      IsFuture ('v' :: (version ++ '.' :: text))

/-- **An address that may stand in brackets.** -/
def IsAddress (cs : List Char) : Prop :=
  IsIpv6 cs ∨ IsFuture cs

/-- **The check of an address of a version to come.** -/
theorem isFutureAddress_iff : isFutureAddress ('v' :: cs) = true ↔ IsFuture ('v' :: cs) := by
  unfold isFutureAddress
  rw [List.drop_one, List.tail_cons]
  dsimp only
  simp only [Bool.and_eq_true, Bool.not_eq_true', List.isEmpty_eq_false_iff, beq_iff_eq,
    decide_eq_true_eq]
  constructor
  · rintro ⟨⟨numbered, dot⟩, two⟩
    obtain ⟨text, rest⟩ : ∃ text, cs.dropWhile isHexDigit = '.' :: text :=
      ⟨_, (List.cons_head?_tail dot).symm⟩
    rw [rest, List.length_cons] at two
    have whole : cs = cs.takeWhile isHexDigit ++ '.' :: text := by
      rw [← rest, List.takeWhile_append_dropWhile]
    rw [whole]
    refine .versioned numbered (fun c hc => List.mem_takeWhile_imp hc) ?_
    rintro rfl
    exact absurd two (by decide)
  · generalize hall : 'v' :: cs = all
    rintro ⟨numbered, digits, nonempty⟩
    obtain ⟨-, rfl⟩ := List.cons.inj hall
    rw [List.takeWhile_append_of_pos digits, List.dropWhile_append_of_pos digits,
      List.takeWhile_cons_of_neg (by decide), List.dropWhile_cons_of_neg (by decide),
      List.append_nil]
    refine ⟨⟨numbered, rfl⟩, ?_⟩
    rw [List.length_cons]
    exact Nat.succ_le_succ (List.length_pos_of_ne_nil nonempty)

/-- **The check of a host in brackets.** -/
@[simp] theorem checkBracketed_eq_ok : checkBracketed cs = .ok () ↔ IsAddress cs := by
  unfold checkBracketed IsAddress
  by_cases front : cs.head? = some 'v'
  · obtain ⟨rest, rfl⟩ : ∃ rest, cs = 'v' :: rest :=
      ⟨_, (List.cons_head?_tail front).symm⟩
    rw [if_pos (beq_iff_eq.mpr front), or_iff_right IsIpv6.not_versioned,
      ← isFutureAddress_iff]
    split
    · next accepted => exact iff_of_true rfl accepted
    · next refused => exact iff_of_false nofun refused
  · have unversioned : ¬ IsFuture cs := by
      rintro ⟨⟩
      exact front rfl
    rw [if_neg (beq_iff_eq.not.mpr front), or_iff_left unversioned]
    split
    · next ipv4 =>
      have address := isIpv4_iff.mp ipv4
      exact iff_of_false nofun fun h => address.colon_notMem h.colon_mem
    · rw [← isIpv6_iff]
      split
      · next accepted => exact iff_of_true rfl accepted
      · next refused => exact iff_of_false nofun refused

end GeoCatalogue.Uri
