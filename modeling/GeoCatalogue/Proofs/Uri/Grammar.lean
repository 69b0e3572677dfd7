import GeoCatalogue.Proofs.Uri.Address

/-!
# The grammar of request URIs

A request URI is a scheme, a colon and a rest; if the rest starts with two slashes, there
is an authority behind them: user information, a host and a port. The grammar of these
parts (`Uri.IsRequestUri`) puts them together. The check finds them by looking for marks –
the first colon, the last at sign, the first brackets. **Both agree on every text without
a line feed** (`Uri.request_eq_ok_iff`), and what is not accepted is named with its defect,
whatever was found to be wrong with it.

Which digits a port may have is left open in the grammar. A port is **a number up to 65535
of at most 4300 digits** (`Uri.IsReadablePort`): a longer one is not read, not even if it
is zero (`Uri.request_longPort`).
-/
namespace GeoCatalogue.Uri

open Text

variable {cs user target name tail : List Char} {mark : Char}
  {number : List Char → Prop}

/-! ## Marks -/

theorem before_of_notMem (h : mark ∉ cs) : before mark cs = cs :=
  List.takeWhile_eq_self_iff.mpr (bne_of_notMem h)

theorem after_of_notMem (h : mark ∉ cs) : after mark cs = [] := by
  unfold after
  rw [List.dropWhile_eq_nil_iff.mpr (bne_of_notMem h)]
  rfl

/-! ## Ports -/

/-- **The digits of a port**: a number that is not above the greatest port. -/
def IsPortNumber (digits : List Char) : Prop :=
  (∀ c ∈ digits, isDigit c = true) ∧ decimalValue digits ≤ 65535

/-- **The digits of a port that is read.** -/
def IsReadablePort (digits : List Char) : Prop :=
  IsPortNumber digits ∧ digits.length ≤ 4300

@[simp] theorem isReadablePort_nil : IsReadablePort [] :=
  ⟨⟨nofun, by decide⟩, by decide⟩

/-- **A port behind a host**, with digits of some kind. -/
inductive IsPort (number : List Char → Prop) : List Char → Prop where
  /-- There is none. -/
  | absent : IsPort number []
  /-- There is a colon, and nothing behind it. -/
  | empty : IsPort number [':']
  /-- There are digits. -/
  | numbered {digits : List Char} (h : number digits) : IsPort number (':' :: digits)

/-- **A tail**: it is empty or starts with a colon. -/
def IsTail (tail : List Char) : Prop :=
  tail = [] ∨ tail.head? = some ':'

theorem isPort_iff (nothing : number []) :
    IsPort number tail ↔ IsTail tail ∧ number (after ':' tail) := by
  constructor
  · rintro (_ | _ | h)
    · exact ⟨.inl rfl, nothing⟩
    · exact ⟨.inr rfl, nothing⟩
    · exact ⟨.inr rfl, h⟩
  · rintro ⟨rfl | colon, h⟩
    · exact .absent
    · obtain ⟨digits, rfl⟩ : ∃ digits, tail = ':' :: digits :=
        ⟨_, (List.cons_head?_tail colon).symm⟩
      exact .numbered h

theorem before_append_tail (colon : ':' ∉ name) (h : IsTail tail) :
    before ':' (name ++ tail) = name ∧ after ':' (name ++ tail) = after ':' tail := by
  rcases h with rfl | h
  · rw [List.append_nil, before_of_notMem colon, after_of_notMem colon]
    exact ⟨rfl, rfl⟩
  · obtain ⟨digits, rfl⟩ : ∃ digits, tail = ':' :: digits :=
      ⟨_, (List.cons_head?_tail h).symm⟩
    rw [before_append_cons colon, after_append_cons colon]
    exact ⟨rfl, rfl⟩

theorem exists_tail (cs : List Char) :
    ∃ name tail, cs = name ++ tail ∧ ':' ∉ name ∧ IsTail tail := by
  by_cases colon : ':' ∈ cs
  · obtain ⟨name, digits, rfl, first⟩ := List.eq_append_cons_of_mem colon
    exact ⟨name, ':' :: digits, rfl, first, .inr rfl⟩
  · exact ⟨cs, [], (List.append_nil cs).symm, colon, .inl rfl⟩

/-- **The check of a port.** -/
@[simp] theorem checkPort_eq_ok : checkPort cs = .ok () ↔ IsReadablePort (port cs) := by
  unfold checkPort
  dsimp only
  generalize port cs = digits
  split
  · next none =>
    obtain rfl := List.isEmpty_iff.mp none
    exact iff_of_true rfl isReadablePort_nil
  · split
    · next other =>
      rw [Bool.not_eq_true', List.all_eq_false] at other
      obtain ⟨c, hc, other⟩ := other
      exact iff_of_false nofun fun h => other (h.1.1 c hc)
    · next digitsOnly =>
      rw [Bool.not_eq_true', Bool.not_eq_false, List.all_eq_true] at digitsOnly
      split
      · next long => exact iff_of_false nofun fun h => absurd h.2 (not_le.mpr long)
      · next short =>
        split
        · next large => exact iff_of_false nofun fun h => absurd h.1.2 (not_le.mpr large)
        · next small => exact iff_of_true rfl ⟨⟨digitsOnly, not_lt.mp small⟩, not_lt.mp short⟩

/-! ## Authorities -/

/-- **User information**: nothing, or a text that ends with an at sign. -/
inductive IsUserInfo : List Char → Prop where
  /-- There is none. -/
  | absent : IsUserInfo []
  /-- Some text in front of the at sign. -/
  | present (cs : List Char) : IsUserInfo (cs ++ ['@'])

/-- **What stands behind the user information** of an authority with brackets. -/
inductive IsBracketed (number : List Char → Prop) : List Char → Prop where
  /-- An address in brackets, and perhaps a port. -/
  | closed {host tail : List Char} (address : IsAddress host) (first : ']' ∉ host)
      (port : IsPort number tail) : IsBracketed number ('[' :: (host ++ ']' :: tail))
  /-- An address behind an opening bracket; the closing one is in the user
  information. -/
  | unclosed {host : List Char} (address : IsAddress host) (never : ']' ∉ host) :
      IsBracketed number ('[' :: host)
  /-- An address without an opening bracket, which is in the user information. -/
  | bare {host tail : List Char} (address : IsAddress host) (never : '[' ∉ host)
      (first : ':' ∉ host) (port : IsPort number tail) : IsBracketed number (host ++ tail)

/-- **An authority**, with ports of some kind. -/
inductive IsAuthority (number : List Char → Prop) : List Char → Prop where
  /-- Without brackets. -/
  | plain {user host tail : List Char} (information : IsUserInfo user)
      (last : '@' ∉ host) (first : ':' ∉ host)
      (free : ∀ c ∈ user ++ host, c ≠ '[' ∧ c ≠ ']') (port : IsPort number tail) :
      IsAuthority number (user ++ (host ++ tail))
  /-- With both brackets. -/
  | bracketed {user target : List Char} (information : IsUserInfo user)
      (last : '@' ∉ target) (opened : '[' ∈ user ++ target)
      (closed : ']' ∈ user ++ target) (h : IsBracketed number target) :
      IsAuthority number (user ++ target)

/-- Behind the user information there is the host with its port. -/
theorem hostAndPort_append (h : IsUserInfo user) (last : '@' ∉ target) :
    hostAndPort (user ++ target) = target := by
  have behind : ∀ c ∈ target.reverse, (c != '@') = true :=
    fun c hc => bne_of_notMem last c (List.mem_reverse.mp hc)
  unfold hostAndPort
  rw [List.reverse_append, List.takeWhile_append_of_pos behind]
  cases h with
  | absent => simp
  | present cs => simp

/-- Every text is user information and a rest without an at sign. -/
theorem exists_userInfo (cs : List Char) :
    ∃ user target, cs = user ++ target ∧ IsUserInfo user ∧ '@' ∉ target := by
  by_cases mark : '@' ∈ cs
  · obtain ⟨back, front, split, first⟩ :=
      List.eq_append_cons_of_mem (List.mem_reverse.mpr mark)
    refine ⟨front.reverse ++ ['@'], back.reverse, ?_, .present _, ?_⟩
    · rw [← List.reverse_reverse cs, split, List.reverse_append, List.reverse_cons]
    · rwa [List.mem_reverse]
  · exact ⟨[], cs, rfl, .absent, mark⟩

/-- **The check of the brackets of an authority.** -/
theorem checkBrackets_eq_ok :
    checkBrackets cs = .ok () ↔
      ('[' ∉ cs ∧ ']' ∉ cs) ∨
        ('[' ∈ cs ∧ ']' ∈ cs ∧ checkBracketPlace cs = .ok () ∧ IsAddress (host cs)) := by
  rw [← checkBracketed_eq_ok]
  unfold checkBrackets
  by_cases opened : '[' ∈ cs
  · by_cases closed : ']' ∈ cs
    · simp only [List.contains_iff_mem.mpr opened, List.contains_iff_mem.mpr closed,
        bne_self_eq_false, Bool.false_eq_true, if_false, if_true, opened, closed,
        not_true_eq_false, false_and, false_or, true_and]
      exact Except.bind_eq_ok.trans ⟨fun ⟨_, h⟩ => h, fun h => ⟨(), h⟩⟩
    · simp [opened, closed]
  · by_cases closed : ']' ∈ cs
    · simp [opened, closed]
    · simp [opened, closed]

/-- The check of the place of the brackets. -/
theorem checkBracketPlace_eq_ok :
    checkBracketPlace cs = .ok () ↔
      ('[' ∈ hostAndPort cs → before '[' (hostAndPort cs) = [] ∧
        IsTail (after ']' (after '[' (hostAndPort cs)))) := by
  unfold checkBracketPlace IsTail
  dsimp only
  generalize hostAndPort cs = target
  by_cases opened : '[' ∈ target
  · rw [if_pos (List.contains_iff_mem.mpr opened), forall_prop_of_true opened]
    cases before '[' target with
    | cons c front => simp
    | nil =>
      cases after ']' (after '[' target) with
      | nil => simp
      | cons c rest => simp
  · rw [if_neg (List.contains_iff_mem.not.mpr opened)]
    exact iff_of_true rfl fun no => absurd no opened

/-- Without an opening bracket the host ends at the first colon. -/
theorem host_of_notMem (h : '[' ∉ hostAndPort cs) :
    host cs = before ':' (hostAndPort cs) ∧ port cs = after ':' (hostAndPort cs) := by
  have unopened := List.contains_iff_mem.not.mpr h
  unfold host port
  dsimp only
  rw [if_neg unopened, if_neg unopened]
  exact ⟨rfl, rfl⟩

/-- With one it ends at the closing bracket. -/
theorem host_of_cons {rest : List Char} (h : hostAndPort cs = '[' :: rest) :
    host cs = before ']' rest ∧ port cs = after ':' (after ']' rest) := by
  have opened : (hostAndPort cs).contains '[' = true := by
    rw [h, List.contains_iff_mem]
    exact List.mem_cons_self
  have behind : after '[' (hostAndPort cs) = rest := by
    rw [h]
    exact after_append_cons List.not_mem_nil rest
  unfold host port
  dsimp only
  rw [if_pos opened, if_pos opened, behind]
  exact ⟨rfl, rfl⟩

/-- **What stands behind the user information** of an accepted authority with brackets. -/
theorem isBracketed_of_checked (behind : hostAndPort cs = target)
    (place : checkBracketPlace cs = .ok ()) (address : IsAddress (host cs))
    (readable : IsReadablePort (port cs)) : IsBracketed IsReadablePort target := by
  have place := checkBracketPlace_eq_ok.mp place
  by_cases opened : '[' ∈ target
  · obtain ⟨front, rest, rfl, first⟩ := List.eq_append_cons_of_mem opened
    rw [behind, before_append_cons first, after_append_cons first] at place
    obtain ⟨rfl, htail⟩ := place opened
    obtain ⟨hhost, hport⟩ := host_of_cons behind
    rw [hhost] at address
    rw [hport] at readable
    by_cases closing : ']' ∈ rest
    · obtain ⟨name, tail, rfl, first⟩ := List.eq_append_cons_of_mem closing
      rw [before_append_cons first] at address
      rw [after_append_cons first] at readable htail
      exact .closed address first ((isPort_iff isReadablePort_nil).mpr ⟨htail, readable⟩)
    · rw [before_of_notMem closing] at address
      exact .unclosed address closing
  · obtain ⟨name, tail, rfl, first, htail⟩ := exists_tail target
    obtain ⟨hhost, hport⟩ := host_of_notMem (behind.symm ▸ opened)
    rw [hhost, behind, (before_append_tail first htail).1] at address
    rw [hport, behind, (before_append_tail first htail).2] at readable
    exact .bare address (fun mem => opened (List.mem_append_left tail mem)) first
      ((isPort_iff isReadablePort_nil).mpr ⟨htail, readable⟩)

/-- **What an accepted authority consists of.** -/
theorem isAuthority_of_checked (brackets : checkBrackets cs = .ok ())
    (readable : IsReadablePort (port cs)) : IsAuthority IsReadablePort cs := by
  obtain ⟨user, target, rfl, information, last⟩ := exists_userInfo cs
  have behind := hostAndPort_append information last
  rcases checkBrackets_eq_ok.mp brackets with ⟨unopened, unclosed⟩ |
    ⟨opened, closed, place, address⟩
  · have none : '[' ∉ hostAndPort (user ++ target) :=
      fun mem => unopened (List.mem_append_right user (behind ▸ mem))
    obtain ⟨name, tail, rfl, first, htail⟩ := exists_tail target
    rw [(host_of_notMem none).2, behind, (before_append_tail first htail).2] at readable
    refine .plain information (fun mem => last (List.mem_append_left tail mem)) first ?_
      ((isPort_iff isReadablePort_nil).mpr ⟨htail, readable⟩)
    intro c hc
    rw [← List.append_assoc] at unopened unclosed
    constructor
    · rintro rfl
      exact unopened (List.mem_append_left tail hc)
    · rintro rfl
      exact unclosed (List.mem_append_left tail hc)
  · exact .bracketed information last opened closed
      (isBracketed_of_checked behind place address readable)

/-- A port has no brackets, and no at sign. -/
theorem IsPort.notMem (h : IsPort IsReadablePort tail) :
    '[' ∉ tail ∧ ']' ∉ tail ∧ '@' ∉ tail := by
  have digit {c : Char} (other : c ≠ ':' ∧ isDigit c = false) : c ∉ tail := by
    rcases h with _ | _ | readable
    · exact List.not_mem_nil
    · exact fun mem => other.1 (List.mem_singleton.mp mem)
    · intro mem
      have := readable.1.1 c ((List.mem_cons.mp mem).resolve_left other.1)
      rw [other.2] at this
      cases this
  exact ⟨digit (by decide), digit (by decide), digit (by decide)⟩

/-- **The host and the port of an authority without brackets.** -/
theorem host_append (information : IsUserInfo user) (last : '@' ∉ name) (first : ':' ∉ name)
    (unopened : '[' ∉ name) (h : IsPort IsReadablePort tail) :
    host (user ++ (name ++ tail)) = name ∧ port (user ++ (name ++ tail)) = after ':' tail := by
  obtain ⟨noOpening, -, noAt⟩ := h.notMem
  have behind : hostAndPort (user ++ (name ++ tail)) = name ++ tail := by
    refine hostAndPort_append information ?_
    rw [List.mem_append, not_or]
    exact ⟨last, noAt⟩
  have none : '[' ∉ hostAndPort (user ++ (name ++ tail)) := by
    rw [behind, List.mem_append, not_or]
    exact ⟨unopened, noOpening⟩
  rw [(host_of_notMem none).1, (host_of_notMem none).2, behind]
  exact before_append_tail first ((isPort_iff isReadablePort_nil).mp h).1

/-- **What stands behind the user information is accepted** in an authority with
brackets. -/
theorem checked_of_isBracketed (behind : hostAndPort cs = target)
    (h : IsBracketed IsReadablePort target) :
    checkBracketPlace cs = .ok () ∧ IsAddress (host cs) ∧ IsReadablePort (port cs) := by
  rw [checkBracketPlace_eq_ok]
  -- an opening bracket at the front has nothing in front of it
  have front (rest : List Char) :
      before '[' ('[' :: rest) = [] ∧ after '[' ('[' :: rest) = rest :=
    ⟨before_append_cons List.not_mem_nil rest, after_append_cons List.not_mem_nil rest⟩
  rcases h with ⟨address, first, port⟩ | ⟨address, never⟩ | ⟨address, never, first, port⟩
  · obtain ⟨htail, readable⟩ := (isPort_iff isReadablePort_nil).mp port
    obtain ⟨hhost, hport⟩ := host_of_cons behind
    rw [hhost, hport, behind, (front _).1, (front _).2, before_append_cons first,
      after_append_cons first]
    exact ⟨fun _ => ⟨rfl, htail⟩, address, readable⟩
  · obtain ⟨hhost, hport⟩ := host_of_cons behind
    rw [hhost, hport, behind, (front _).1, (front _).2, before_of_notMem never,
      after_of_notMem never]
    exact ⟨fun _ => ⟨rfl, .inl rfl⟩, address, isReadablePort_nil⟩
  · obtain ⟨htail, readable⟩ := (isPort_iff isReadablePort_nil).mp port
    have none : '[' ∉ hostAndPort cs := by
      rw [behind, List.mem_append, not_or]
      exact ⟨never, port.notMem.1⟩
    obtain ⟨hhost, hport⟩ := host_of_notMem none
    rw [hhost, hport, behind, (before_append_tail first htail).1,
      (before_append_tail first htail).2]
    exact ⟨fun opened => absurd (behind ▸ opened) none, address, readable⟩

/-- **What an authority consists of is accepted.** -/
theorem checked_of_isAuthority (h : IsAuthority IsReadablePort cs) :
    checkBrackets cs = .ok () ∧ IsReadablePort (port cs) := by
  rw [checkBrackets_eq_ok]
  rcases h with ⟨information, last, first, free, port⟩ | ⟨information, last, opened, closed, h⟩
  · next user name tail =>
    obtain ⟨-, readable⟩ := (isPort_iff isReadablePort_nil).mp port
    obtain ⟨noOpening, noClosing, -⟩ := port.notMem
    have unopened : '[' ∉ user ++ name := fun mem => (free '[' mem).1 rfl
    have unclosed : ']' ∉ user ++ name := fun mem => (free ']' mem).2 rfl
    refine ⟨.inl ⟨?_, ?_⟩, ?_⟩
    · rw [← List.append_assoc, List.mem_append, not_or]
      exact ⟨unopened, noOpening⟩
    · rw [← List.append_assoc, List.mem_append, not_or]
      exact ⟨unclosed, noClosing⟩
    · rw [(host_append information last first
        (fun mem => unopened (List.mem_append_right user mem)) port).2]
      exact readable
  · obtain ⟨place, address, readable⟩ :=
      checked_of_isBracketed (hostAndPort_append information last) h
    exact ⟨.inr ⟨opened, closed, place, address⟩, readable⟩

/-- **The check of an authority.** -/
theorem checkAuthority_eq_ok :
    checkAuthority cs = .ok () ↔ IsAuthority IsReadablePort cs := by
  unfold checkAuthority
  rw [Except.bind_eq_ok, checkPort_eq_ok]
  constructor
  · rintro ⟨_, brackets, readable⟩
    exact isAuthority_of_checked brackets readable
  · intro h
    obtain ⟨brackets, readable⟩ := checked_of_isAuthority h
    exact ⟨(), brackets, readable⟩

/-! ## URIs -/

/-- **A scheme**: a letter, and letters, digits and three marks. -/
inductive IsScheme : List Char → Prop where
  /-- The letter and what follows it. -/
  | named {letter : Char} {chars : List Char} (first : isLetter letter = true)
      (others : ∀ c ∈ chars, isSchemeChar c = true) : IsScheme (letter :: chars)

/-- **A rest behind an authority**: it is empty or starts with one of three marks. -/
def IsBehindAuthority (rest : List Char) : Prop :=
  ∀ c, rest.head? = some c → c = '/' ∨ c = '?' ∨ c = '#'

/-- **What stands behind the scheme**: an authority is there if there are two slashes, and
has to be named if it is needed. -/
inductive IsBehindScheme (number : List Char → Prop) (needed : Prop) : List Char → Prop where
  /-- There is no authority. -/
  | without {rest : List Char} (none : ∀ more, rest ≠ '/' :: '/' :: more)
      (unneeded : ¬ needed) : IsBehindScheme number needed rest
  /-- There is one, up to the next slash, question mark or number sign. -/
  | authority {cs rest : List Char} (h : IsAuthority number cs)
      (free : ∀ c ∈ cs, c ≠ '/' ∧ c ≠ '?' ∧ c ≠ '#') (ends : IsBehindAuthority rest)
      (named : needed → cs ≠ []) :
      IsBehindScheme number needed ('/' :: '/' :: (cs ++ rest))

/-- **A request URI**, with ports of some kind. -/
structure IsRequestUri (number : List Char → Prop) (cs : List Char) : Prop where
  /-- All characters are those of URIs. -/
  characters : ∀ c ∈ cs, isUriChar c = true
  /-- Two hexadecimal digits follow every percent sign. -/
  escapes : ∀ front back, cs = front ++ '%' :: back → HasDigitsInFront back
  /-- There is a scheme in front of a colon; those of web pages need an authority. -/
  parts : ∃ scheme rest, cs = scheme ++ ':' :: rest ∧ IsScheme scheme ∧
    IsBehindScheme number (needsHost scheme = true) rest

/-- The check of a scheme. -/
theorem isScheme_iff {scheme : List Char} :
    (scheme.head?.any isLetter = true ∧ scheme.all isSchemeChar = true) ↔
      IsScheme scheme := by
  constructor
  · rintro ⟨letter, characters⟩
    cases scheme with
    | nil => cases letter
    | cons first others =>
      rw [List.all_cons, Bool.and_eq_true, List.all_eq_true] at characters
      exact .named letter characters.2
  · rintro ⟨first, others⟩
    rw [List.all_cons, Bool.and_eq_true, List.all_eq_true]
    refine ⟨first, ?_, others⟩
    unfold isSchemeChar
    rw [first]
    rfl

/-- **The authority is found** between the slashes and the next mark. -/
theorem authority_append_rest {rest : List Char}
    (free : ∀ c ∈ cs, c ≠ '/' ∧ c ≠ '?' ∧ c ≠ '#') (ends : IsBehindAuthority rest) :
    authority ('/' :: '/' :: (cs ++ rest)) = cs := by
  have inside : ∀ c ∈ cs, (c != '/' && c != '?' && c != '#') = true := by
    intro c hc
    obtain ⟨slash, question, hash⟩ := free c hc
    simp [slash, question, hash]
  show (cs ++ rest).takeWhile (fun c => c != '/' && c != '?' && c != '#') = cs
  rw [List.takeWhile_append_of_pos inside]
  cases rest with
  | nil => rw [List.takeWhile_nil, List.append_nil]
  | cons c rest =>
    have stop : (c != '/' && c != '?' && c != '#') = false := by
      rcases ends c rfl with rfl | rfl | rfl
      · rfl
      · rfl
      · rfl
    rw [List.takeWhile_cons_of_neg (by rw [stop]; exact Bool.false_ne_true),
      List.append_nil]

/-- Behind two slashes there is an authority, and a rest. -/
theorem exists_authority (cs : List Char) :
    ∃ front rest, cs = front ++ rest ∧ (∀ c ∈ front, c ≠ '/' ∧ c ≠ '?' ∧ c ≠ '#') ∧
      IsBehindAuthority rest := by
  let inside (c : Char) := c != '/' && c != '?' && c != '#'
  have marks (c : Char) : inside c = true ↔ c ≠ '/' ∧ c ≠ '?' ∧ c ≠ '#' := by
    simp [inside, and_assoc]
  refine ⟨cs.takeWhile inside, cs.dropWhile inside,
    (List.takeWhile_append_dropWhile).symm, fun c hc => ?_, fun c front => ?_⟩
  · exact (marks c).mp (List.mem_takeWhile_imp hc)
  · have stop := List.head?_dropWhile_not inside cs
    rw [front] at stop
    by_contra other
    rw [not_or, not_or, ← ne_eq, ← ne_eq, ← ne_eq, ← marks, stop] at other
    cases other

/-- **The check of what stands behind the scheme.** -/
theorem isBehindScheme_iff {rest : List Char} {needed : Bool} :
    (checkAuthority (authority rest) = .ok () ∧ (needed && (authority rest).isEmpty) = false) ↔
      IsBehindScheme IsReadablePort (needed = true) rest := by
  constructor
  · rintro ⟨accepted, named⟩
    by_cases slashes : ∃ more, rest = '/' :: '/' :: more
    · obtain ⟨more, rfl⟩ := slashes
      obtain ⟨front, back, rfl, free, ends⟩ := exists_authority more
      rw [authority_append_rest free ends] at accepted named
      refine .authority (checkAuthority_eq_ok.mp accepted) free ends ?_
      rintro rfl rfl
      cases named
    · have none : ∀ more, rest ≠ '/' :: '/' :: more := fun more same => slashes ⟨more, same⟩
      rw [authority_eq_nil none, List.isEmpty_nil, Bool.and_true] at named
      exact .without none (Bool.not_eq_true _ ▸ named)
  · rintro (⟨none, unneeded⟩ | ⟨h, free, ends, named⟩)
    · rw [authority_eq_nil none]
      exact ⟨rfl, by simpa using unneeded⟩
    · rw [authority_append_rest free ends]
      refine ⟨checkAuthority_eq_ok.mpr h, ?_⟩
      rw [Bool.and_eq_false_iff, List.isEmpty_eq_false_iff]
      cases needed with
      | false => exact .inl rfl
      | true => exact .inr (named rfl)

/-- **A text without a line feed passes the check exactly if it is a request URI.** -/
theorem checkChars_eq_ok_iff (h : '\n' ∉ cs) :
    checkChars cs = .ok () ↔ IsRequestUri IsReadablePort cs := by
  rw [checkChars_eq_ok, withoutLineEnd_of_notMem h, List.all_eq_true,
    escapesAreWellFormed_iff, checkParts_eq_ok]
  constructor
  · rintro ⟨characters, escapes, scheme, rest, found, behind⟩
    obtain ⟨split, named⟩ := scheme?_eq_some.mp found
    exact ⟨characters, escapes, scheme, rest, split, isScheme_iff.mp named,
      isBehindScheme_iff.mp behind⟩
  · rintro ⟨characters, escapes, scheme, rest, split, named, behind⟩
    exact ⟨characters, escapes, scheme, rest,
      scheme?_eq_some.mpr ⟨split, isScheme_iff.mpr named⟩, isBehindScheme_iff.mpr behind⟩

/-- **A text without a line feed is accepted exactly if it is a request URI**, and else
named with its defect. -/
theorem request_eq_ok_iff {text : String} (h : '\n' ∉ text.toList) :
    (request text = .ok text ↔ IsRequestUri IsReadablePort text.toList) ∧
      (¬ IsRequestUri IsReadablePort text.toList →
        ∃ defect, request text = .error (.malformedRequestUri text defect)) := by
  rw [← checkChars_eq_ok_iff h, request_eq_ok, and_iff_right rfl]
  refine ⟨Iff.rfl, fun refused => ?_⟩
  cases found : checkChars text.toList with
  | ok => exact absurd found refused
  | error defect => exact ⟨defect, request_eq_error.mpr ⟨defect, rfl, found⟩⟩

/-- An address of version 6 with a zone, user information and a port with zeros in front
make a request URI; an address of version 4 in brackets does not. -/
theorem isRequestUri_sample :
    '\n' ∉ "HTTP://u@[fe80::1.2.3.4%25en0]:00080/?q=%20".toList ∧
      IsRequestUri IsReadablePort "HTTP://u@[fe80::1.2.3.4%25en0]:00080/?q=%20".toList ∧
      ¬ IsRequestUri IsReadablePort "http://[1.2.3.4]/".toList := by
  refine ⟨by decide, ?_, fun h => ?_⟩
  · exact (request_eq_ok_iff (by decide)).1.mp (by decide +kernel)
  · exact absurd ((request_eq_ok_iff (by decide)).1.mpr h) (by decide +kernel)

/-! ## Long ports -/

section Zeros

variable {n : ℕ}

/-- A host with so many zeros as its port. -/
def zerosAuthority (n : ℕ) : List Char :=
  'h' :: ':' :: List.replicate n '0'

/-- A text with so many zeros as its port. -/
def zerosUri (n : ℕ) : List Char :=
  "http".toList ++ ':' :: '/' :: '/' :: (zerosAuthority n ++ ['/'])

/-- The characters of such a host with its port. -/
theorem mem_zerosAuthority {c : Char} (h : c ∈ zerosAuthority n) : c ∈ ['h', ':', '0'] := by
  rw [zerosAuthority, List.mem_cons, List.mem_cons] at h
  rcases h with rfl | rfl | zero
  · decide
  · decide
  · rw [List.eq_of_mem_replicate zero]
    decide

/-- The characters of such a text. -/
theorem mem_zerosUri {c : Char} (h : c ∈ zerosUri n) :
    c ∈ ['h', 't', 'p', ':', '/', '0'] := by
  have front : ∀ c ∈ "http".toList ++ [':', '/', '/'], c ∈ ['h', 't', 'p', ':', '/', '0'] := by
    simp
  have middle : ∀ c ∈ ['h', ':', '0'], c ∈ ['h', 't', 'p', ':', '/', '0'] := by simp
  have split : zerosUri n
      = "http".toList ++ [':', '/', '/'] ++ (zerosAuthority n ++ ['/']) := by
    rw [List.append_assoc]
    rfl
  rw [split, List.mem_append, List.mem_append (s := zerosAuthority n),
    List.mem_singleton] at h
  rcases h with h | h | rfl
  · exact front c h
  · exact middle c (mem_zerosAuthority h)
  · decide

/-- It has URI characters only, and there are no escapes and no line feeds in it. -/
theorem zerosUri_characters (n : ℕ) :
    (∀ c ∈ zerosUri n, isUriChar c = true) ∧ '%' ∉ zerosUri n ∧ '\n' ∉ zerosUri n := by
  have each : ∀ c ∈ ['h', 't', 'p', ':', '/', '0'], isUriChar c = true := List.all_eq_true.mp rfl
  exact ⟨fun c hc => each c (mem_zerosUri hc), fun mem => absurd (mem_zerosUri mem) (by decide),
    fun mem => absurd (mem_zerosUri mem) (by decide)⟩

theorem zerosAuthority_free (n : ℕ) :
    (∀ c ∈ zerosAuthority n, c ≠ '/' ∧ c ≠ '?' ∧ c ≠ '#') ∧ IsBehindAuthority ['/'] := by
  have each : ∀ c ∈ ['h', ':', '0'], c ≠ '/' ∧ c ≠ '?' ∧ c ≠ '#' := by simp
  refine ⟨fun c hc => each c (mem_zerosAuthority hc), ?_⟩
  rintro c ⟨⟩
  exact .inl rfl

theorem isPortNumber_zeros (n : ℕ) : IsPortNumber (List.replicate n '0') := by
  have value : decimalValue (List.replicate n '0') = 0 := by
    induction n with
    | zero => rfl
    | succ n ih => exact ih
  refine ⟨fun c hc => ?_, value ▸ Nat.zero_le 65535⟩
  rw [List.eq_of_mem_replicate hc]
  rfl

/-- **It is a request URI** if ports may have any number of digits. -/
theorem isRequestUri_zerosUri (n : ℕ) : IsRequestUri IsPortNumber (zerosUri n) := by
  obtain ⟨characters, escapes, -⟩ := zerosUri_characters n
  have free : ∀ c ∈ [] ++ ['h'], c ≠ '[' ∧ c ≠ ']' := by simp
  have host : IsAuthority IsPortNumber (zerosAuthority n) :=
    .plain .absent (by decide) (by decide) free (.numbered (isPortNumber_zeros n))
  refine ⟨characters, fun front back same => absurd ?_ escapes, "http".toList, _, rfl,
    .named rfl (List.all_eq_true.mp rfl), ?_⟩
  · rw [same]
    exact List.mem_append_right front List.mem_cons_self
  · exact .authority host (zerosAuthority_free n).1 (zerosAuthority_free n).2
      fun _ => List.cons_ne_nil _ _

/-- Its port is too long to be read. -/
theorem checkAuthority_zerosAuthority (long : 4300 < n) :
    checkAuthority (zerosAuthority n) = .error (.portLength n) := by
  have foreign {c : Char} (h : c ∉ ['h', ':', '0']) : c ∉ zerosAuthority n :=
    fun mem => h (mem_zerosAuthority mem)
  have brackets : checkBrackets (zerosAuthority n) = .ok () :=
    checkBrackets_eq_ok.mpr (.inl ⟨foreign (by decide), foreign (by decide)⟩)
  have whole : hostAndPort (zerosAuthority n) = zerosAuthority n :=
    hostAndPort_append .absent (foreign (by decide))
  have zeros : port (zerosAuthority n) = List.replicate n '0' := by
    rw [(host_of_notMem (whole.symm ▸ foreign (by decide))).2, whole]
    have first : ':' ∉ ['h'] := by decide
    exact after_append_cons first _
  have digits : (List.replicate n '0').all isDigit = true := by
    rw [List.all_replicate]
    simp [isDigit]
  unfold checkAuthority checkPort
  rw [brackets, Except.ok_bind, zeros]
  dsimp only
  rw [digits, List.length_replicate, if_neg, if_neg (by decide)]
  · exact if_pos long
  · rw [List.isEmpty_iff, List.replicate_eq_nil_iff]
    omega

/-- **It is not accepted** if there are too many. -/
theorem request_zerosUri (long : 4300 < n) :
    request (String.ofList (zerosUri n)) = .error
      (.malformedRequestUri (String.ofList (zerosUri n)) (.portLength n)) := by
  obtain ⟨characters, escapes, line⟩ := zerosUri_characters n
  obtain ⟨free, ends⟩ := zerosAuthority_free n
  refine request_eq_error.mpr ⟨_, rfl, ?_⟩
  have passed : checkCharacters (zerosUri n) = .ok () := by
    rw [checkCharacters_eq_ok, withoutLineEnd_of_notMem line, List.all_eq_true]
    exact ⟨characters, escapesAreWellFormed_of_notMem escapes⟩
  have scheme : scheme? (zerosUri n)
      = some ("http".toList, '/' :: '/' :: (zerosAuthority n ++ ['/'])) :=
    scheme?_eq_some.mpr ⟨rfl, rfl, rfl⟩
  rw [String.toList_ofList, checkChars, passed, Except.ok_bind,
    withoutLineEnd_of_notMem line, checkParts, scheme]
  dsimp only
  rw [authority_append_rest free ends, checkAuthority_zerosAuthority long]
  rfl

/-- A zero is not read as a port if it is written with 4301 digits. -/
theorem request_longPort :
    '\n' ∉ zerosUri 4301 ∧ IsRequestUri IsPortNumber (zerosUri 4301) ∧
      request (String.ofList (zerosUri 4301)) = .error
        (.malformedRequestUri (String.ofList (zerosUri 4301)) (.portLength 4301)) :=
  ⟨(zerosUri_characters 4301).2.2, isRequestUri_zerosUri 4301, request_zerosUri (by decide)⟩

end Zeros

end GeoCatalogue.Uri
