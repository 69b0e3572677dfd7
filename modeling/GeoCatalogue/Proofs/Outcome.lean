import GeoCatalogue.Fault
import Mathlib.Data.List.Forall2

/-!
# Computations that may fail

Nearly every function of the library gives an `Except`: a value, or what
went wrong. Its proofs take such a computation apart at the places where
one step hands its value to the next, and follow a list through it member
by member.

* `Except.bind_eq_ok` – a computation of two steps gives a value only if
  both of them do;
* `Except.mapError_bind_congr` – computations whose steps tell the same tell
  the same;
* `Except.mapM_eq_ok_iff` – a list goes through as a whole exactly when
  its members do, one by one and in order;
* `Except.mapM_eq_error_iff` – a list fails with the first of its members
  that does;
* `Except.mapM_bind` – two steps for each member are two passes over the
  list, once the first of them goes through;
* `Except.mapM_filter_eq_iff` – leaving members out is noticed unless
  something fails anyway;
* `EStateM.run_ofExcept` – among steps that read and write, one that does
  neither leaves what is there;
* `Fault.lift_eq_ok` – what can only fail gives the same values among all
  that can go wrong.
-/
namespace List.Forall₂

variable {α β : Type} {R : α → β → Prop} {as : List α} {bs : List β}

/-- A member of the first of two related lists has a partner in the
second. -/
theorem exists_of_mem_left (h : Forall₂ R as bs) {a : α} (ha : a ∈ as) :
    ∃ b ∈ bs, R a b := by
  induction h with
  | nil => cases ha
  | @cons c b as bs hb _ ih =>
    rcases List.mem_cons.mp ha with rfl | ha
    · exact ⟨b, List.mem_cons_self, hb⟩
    · obtain ⟨b', hb', hab'⟩ := ih ha
      exact ⟨b', List.mem_cons_of_mem b hb', hab'⟩

/-- A member of the second of two related lists has a partner in the
first. -/
theorem exists_of_mem_right (h : Forall₂ R as bs) {b : β} (hb : b ∈ bs) :
    ∃ a ∈ as, R a b :=
  exists_of_mem_left (Forall₂.flip (R := fun b a => R a b) h) hb

/-- A place in the first of two related lists has a partner in the second, and what
comes after them is related. -/
theorem exists_of_split_left {before after : List α} {a : α}
    (h : Forall₂ R (before ++ a :: after) bs) :
    ∃ front b back, bs = front ++ b :: back ∧ R a b ∧ Forall₂ R after back := by
  induction before generalizing bs with
  | nil =>
    obtain ⟨b, back, hb, rest, rfl⟩ := List.forall₂_cons_left_iff.mp h
    exact ⟨[], b, back, rfl, hb, rest⟩
  | cons c before ih =>
    obtain ⟨d, bs', -, rest, rfl⟩ := List.forall₂_cons_left_iff.mp h
    obtain ⟨front, b, back, rfl, hb, later⟩ := ih rest
    exact ⟨d :: front, b, back, rfl, hb, later⟩

/-- A place in the second of two related lists has a partner in the first, and what
comes after them is related. -/
theorem exists_of_split_right {before after : List β} {b : β}
    (h : Forall₂ R as (before ++ b :: after)) :
    ∃ front a back, as = front ++ a :: back ∧ R a b ∧ Forall₂ R back after := by
  obtain ⟨front, a, back, same, ha, later⟩ :=
    exists_of_split_left (Forall₂.flip (R := fun b a => R a b) h)
  exact ⟨front, a, back, same, ha, later.flip⟩

end List.Forall₂

namespace Except

variable {ε α β : Type}

@[simp] theorem ok_bind (a : α) (f : α → Except ε β) :
    ((.ok a : Except ε α) >>= f) = f a := rfl

@[simp] theorem error_bind (e : ε) (f : α → Except ε β) :
    ((.error e : Except ε α) >>= f) = .error e := rfl

@[simp] theorem pure_eq_ok (a : α) : (pure a : Except ε α) = .ok a := rfl

/-- **Two steps give a value exactly when the first does and the second
goes on from it.** -/
theorem bind_eq_ok {x : Except ε α} {f : α → Except ε β} {b : β} :
    (x >>= f) = .ok b ↔ ∃ a, x = .ok a ∧ f a = .ok b := by
  cases x with
  | error e => simp
  | ok a => simp

/-- A computation that is known to give a value gives one. -/
theorem exists_of_isOk {x : Except ε α} (h : x.isOk = true) :
    ∃ a, x = .ok a := by
  cases x with
  | error e => cases h
  | ok a => exact ⟨a, rfl⟩

/-- **A list goes through as a whole exactly when its members do**, in
order. -/
theorem mapM_eq_ok_iff {f : α → Except ε β} {as : List α} {bs : List β} :
    as.mapM f = .ok bs ↔ List.Forall₂ (fun a b => f a = .ok b) as bs := by
  induction as generalizing bs with
  | nil =>
    rw [List.mapM_nil, List.forall₂_nil_left_iff, pure_eq_ok]
    constructor
    · intro h
      exact (ok.inj h).symm
    · intro h
      rw [h]
  | cons a as ih =>
    rw [List.mapM_cons, bind_eq_ok, List.forall₂_cons_left_iff]
    constructor
    · rintro ⟨b, hb, h⟩
      obtain ⟨rest, hrest, h⟩ := bind_eq_ok.mp h
      exact ⟨b, rest, hb, ih.mp hrest, (ok.inj h).symm⟩
    · rintro ⟨b, rest, hb, hrest, rfl⟩
      exact ⟨b, hb, bind_eq_ok.mpr ⟨rest, ih.mpr hrest, rfl⟩⟩

/-- **Two steps fail if the first one does, or if the second does after
it.** -/
theorem bind_eq_error {x : Except ε α} {f : α → Except ε β} {e : ε} :
    (x >>= f) = .error e ↔
      x = .error e ∨ ∃ a, x = .ok a ∧ f a = .error e := by
  cases x with
  | error e' => simp
  | ok a => simp

/-- **Two computations tell the same**, failures seen through a function, if their
steps do one by one. -/
theorem mapError_bind_congr {ε' : Type} {f : ε → ε'} {x y : Except ε α}
    {g h : α → Except ε β} (first : x.mapError f = y.mapError f)
    (second : ∀ a, (g a).mapError f = (h a).mapError f) :
    (x >>= g).mapError f = (y >>= h).mapError f := by
  cases x with
  | error e =>
    cases y with
    | error e' => exact congrArg Except.error (Except.error.inj first)
    | ok b => cases first
  | ok a =>
    cases y with
    | error e' => cases first
    | ok b =>
      obtain rfl := Except.ok.inj first
      exact second a

/-- **The first member that fails decides how a list fails**: all members in front of it go
through, and those behind it are not looked at. All that is said below of the order in which
something is noticed comes down to this. -/
theorem mapM_eq_error_iff {f : α → Except ε β} {as : List α} {e : ε} :
    as.mapM f = .error e ↔
      ∃ before a after, as = before ++ a :: after ∧
        (∀ c ∈ before, ∃ b, f c = .ok b) ∧ f a = .error e := by
  induction as with
  | nil =>
    constructor
    · intro no
      cases no
    · rintro ⟨before, a, after, no, -⟩
      exact absurd no.symm (List.append_ne_nil_of_right_ne_nil before
        (List.cons_ne_nil a after))
  | cons c as ih =>
    rw [List.mapM_cons, bind_eq_error]
    constructor
    · rintro (first | ⟨b, hb, rest⟩)
      · exact ⟨[], c, as, rfl, nofun, first⟩
      · rcases bind_eq_error.mp rest with rest | ⟨bs, -, no⟩
        · obtain ⟨before, a, after, rfl, through, fails⟩ := ih.mp rest
          refine ⟨c :: before, a, after, rfl, fun d hd => ?_, fails⟩
          rcases List.mem_cons.mp hd with rfl | hd
          · exact ⟨b, hb⟩
          · exact through d hd
        · cases no
    · rintro ⟨before, a, after, same, through, fails⟩
      cases before with
      | nil =>
        obtain ⟨rfl, rfl⟩ := List.cons.inj same
        exact .inl fails
      | cons d before =>
        obtain ⟨rfl, rfl⟩ := List.cons.inj same
        obtain ⟨b, hb⟩ := through c List.mem_cons_self
        have rest := ih.mpr ⟨before, a, after, rfl,
          fun d hd => through d (List.mem_cons_of_mem c hd), fails⟩
        exact .inr ⟨b, hb, bind_eq_error.mpr (.inl rest)⟩

/-- **The first step that fails decides how a loop fails**: all steps in front of it go
through, and it starts from what they leave. -/
theorem foldlM_eq_error_iff {f : β → α → Except ε β} {as : List α} {b : β} {e : ε} :
    as.foldlM f b = .error e ↔
      ∃ before a after c, as = before ++ a :: after ∧ before.foldlM f b = .ok c ∧
        f c a = .error e := by
  induction as generalizing b with
  | nil =>
    constructor
    · intro no
      cases no
    · rintro ⟨before, a, after, c, no, -⟩
      exact absurd no.symm (List.append_ne_nil_of_right_ne_nil before
        (List.cons_ne_nil a after))
  | cons d as ih =>
    rw [List.foldlM_cons, bind_eq_error]
    constructor
    · rintro (first | ⟨next, hnext, rest⟩)
      · exact ⟨[], d, as, b, rfl, rfl, first⟩
      · obtain ⟨before, a, after, c, rfl, through, fails⟩ := ih.mp rest
        refine ⟨d :: before, a, after, c, rfl, ?_, fails⟩
        rw [List.foldlM_cons, hnext]
        exact through
    · rintro ⟨before, a, after, c, same, through, fails⟩
      cases before with
      | nil =>
        obtain ⟨rfl, rfl⟩ := List.cons.inj same
        obtain rfl := ok.inj through
        exact .inl fails
      | cons d' before =>
        obtain ⟨rfl, rfl⟩ := List.cons.inj same
        rw [List.foldlM_cons] at through
        obtain ⟨next, hnext, through⟩ := bind_eq_ok.mp through
        exact .inr ⟨next, hnext, ih.mpr ⟨before, a, after, c, rfl, through, fails⟩⟩

/-- A list goes through if every member of it does. -/
theorem exists_mapM_eq_ok {f : α → Except ε β} {as : List α}
    (h : ∀ a ∈ as, ∃ b, f a = .ok b) : ∃ bs, as.mapM f = .ok bs := by
  induction as with
  | nil => exact ⟨[], rfl⟩
  | cons a as ih =>
    obtain ⟨b, hb⟩ := h a List.mem_cons_self
    obtain ⟨bs, hbs⟩ := ih (fun c hc => h c (List.mem_cons_of_mem a hc))
    refine ⟨b :: bs, ?_⟩
    rw [List.mapM_cons, hb, ok_bind, hbs]
    rfl

/-- **Two steps for each member are two passes**, once the first pass goes
through: what the second one gives or fails with is what the whole
does. -/
theorem mapM_bind {γ : Type} {f : α → Except ε β} {as : List α} {bs : List β}
    (h : as.mapM f = .ok bs) (g : β → Except ε γ) :
    as.mapM (fun a => f a >>= g) = bs.mapM g := by
  induction mapM_eq_ok_iff.mp h with
  | nil => rfl
  | cons hb rest ih =>
    rw [List.mapM_cons, List.mapM_cons, hb, ok_bind,
      ih (mapM_eq_ok_iff.mpr rest)]

/-- **A last step for each member that cannot fail** is a pass over the result. -/
theorem mapM_map {γ : Type} (f : α → Except ε β) (g : β → γ) (as : List α) :
    as.mapM (fun a => (f a).map g) = (as.mapM f).map (List.map g) := by
  induction as with
  | nil => rfl
  | cons a as ih =>
    rw [List.mapM_cons, List.mapM_cons, ih]
    cases f a with
    | error e => rfl
    | ok b =>
      cases as.mapM f with
      | error e => rfl
      | ok bs => rfl

/-! ## Members that are left out -/

theorem exists_eq_ok_of_mem {f : α → Except ε β} {as : List α} {bs : List β}
    (h : as.mapM f = .ok bs) {a : α} (ha : a ∈ as) :
    ∃ b ∈ bs, f a = .ok b :=
  (mapM_eq_ok_iff.mp h).exists_of_mem_left ha

theorem exists_eq_ok_of_mem_result {f : α → Except ε β} {as : List α}
    {bs : List β} (h : as.mapM f = .ok bs) {b : β} (hb : b ∈ bs) :
    ∃ a ∈ as, f a = .ok b :=
  (mapM_eq_ok_iff.mp h).exists_of_mem_right hb

/-- What is picked out of a list comes from a member. -/
theorem exists_of_mem_filterMapM {f : α → Except ε (Option β)} {as : List α}
    {bs : List β} (h : as.filterMapM f = .ok bs) {b : β} (hb : b ∈ bs) :
    ∃ a ∈ as, f a = .ok (some b) := by
  induction as generalizing bs with
  | nil =>
    obtain rfl := ok.inj h
    cases hb
  | cons a as ih =>
    rw [List.filterMapM_cons, bind_eq_ok] at h
    obtain ⟨picked, hpicked, h⟩ := h
    have later {cs : List β} (hcs : as.filterMapM f = .ok cs) (hb : b ∈ cs) :
        ∃ c ∈ a :: as, f c = .ok (some b) := by
      obtain ⟨c, hc, hbc⟩ := ih hcs hb
      exact ⟨c, List.mem_cons_of_mem a hc, hbc⟩
    cases picked with
    | none => exact later h hb
    | some first =>
      obtain ⟨cs, hcs, h⟩ := bind_eq_ok.mp h
      obtain rfl := ok.inj h
      rcases List.mem_cons.mp hb with rfl | hb
      · exact ⟨a, List.mem_cons_self, hpicked⟩
      · exact later hcs hb

/-- **Members are picked out** of a list whose members are all left out or picked out as
a test says. -/
theorem exists_filterMapM_eq_ok {f : α → Except ε (Option β)} {p : α → Bool}
    {R : α → β → Prop} {as : List α}
    (dropped : ∀ a ∈ as, p a = false → f a = .ok none)
    (picked : ∀ a ∈ as, p a = true → ∃ b, f a = .ok (some b) ∧ R a b) :
    ∃ bs, as.filterMapM f = .ok bs ∧ List.Forall₂ R (as.filter p) bs := by
  induction as with
  | nil => exact ⟨[], rfl, .nil⟩
  | cons a as ih =>
    obtain ⟨bs, hbs, related⟩ := ih (fun c hc => dropped c (List.mem_cons_of_mem a hc))
      (fun c hc => picked c (List.mem_cons_of_mem a hc))
    rw [List.filterMapM_cons, List.filter_cons]
    cases hp : p a with
    | false =>
      rw [dropped a List.mem_cons_self hp]
      exact ⟨bs, hbs, related⟩
    | true =>
      obtain ⟨b, hb, hab⟩ := picked a List.mem_cons_self hp
      rw [hb, ok_bind]
      dsimp only
      rw [hbs]
      exact ⟨b :: bs, rfl, .cons hab related⟩

/-- A list with a member that fails does not go through, also if members are picked
out. -/
theorem exists_filterMapM_eq_error {f : α → Except ε (Option β)} {as : List α} {a : α}
    {e : ε} (ha : a ∈ as) (h : f a = .error e) :
    ∃ e', as.filterMapM f = .error e' := by
  induction as with
  | nil => cases ha
  | cons c as ih =>
    rw [List.filterMapM_cons]
    cases hc : f c with
    | error e' => exact ⟨e', rfl⟩
    | ok picked =>
      have later : a ∈ as := by
        refine (List.mem_cons.mp ha).resolve_left ?_
        rintro rfl
        rw [hc] at h
        cases h
      obtain ⟨e', rest⟩ := ih later
      rw [ok_bind]
      cases picked with
      | none => exact ⟨e', rest⟩
      | some b => exact ⟨e', bind_eq_error.mpr (.inl rest)⟩

/-- A list with a member that fails does not go through. -/
theorem exists_mapM_eq_error {f : α → Except ε β} {as : List α} {a : α}
    {e : ε} (ha : a ∈ as) (h : f a = .error e) :
    ∃ e', as.mapM f = .error e' := by
  cases hall : as.mapM f with
  | error e' => exact ⟨e', rfl⟩
  | ok bs =>
    obtain ⟨b, -, hb⟩ := exists_eq_ok_of_mem hall ha
    rw [h] at hb
    cases hb

/-- Members that do not fail can be left out of a list that does not go
through. -/
theorem mapM_filter_of_error {f : α → Except ε β} {p : α → Bool}
    {as : List α} {a : α} {e : ε} (harmless : ∀ c ∈ as, p c = false →
      ∃ b, f c = .ok b) (ha : a ∈ as) (h : f a = .error e) :
    (as.filter p).mapM f = as.mapM f := by
  induction as with
  | nil => rfl
  | cons c as ih =>
    have ih := ih fun d hd => harmless d (List.mem_cons_of_mem c hd)
    rw [List.filter_cons, List.mapM_cons]
    cases hc : f c with
    | error e' =>
      have hp : p c = true := by
        by_contra hp
        obtain ⟨b, hb⟩ := harmless c List.mem_cons_self (by simpa using hp)
        rw [hc] at hb
        cases hb
      rw [if_pos hp, List.mapM_cons, hc]
      rfl
    | ok b =>
      have ha : a ∈ as := by
        refine (List.mem_cons.mp ha).resolve_left ?_
        rintro rfl
        rw [hc] at h
        cases h
      obtain ⟨e', he'⟩ := exists_mapM_eq_error ha h
      cases hp : p c with
      | true => rw [if_pos rfl, List.mapM_cons, hc, ih ha]
      | false =>
        rw [if_neg Bool.false_ne_true, ih ha, he']
        rfl

/-- **Leaving members out is noticed**, unless there are none to leave out
or another member fails: this is for members that do not fail
themselves. -/
theorem mapM_filter_eq_iff {f : α → Except ε β} {p : α → Bool}
    {as : List α} (harmless : ∀ c ∈ as, p c = false → ∃ b, f c = .ok b) :
    (as.filter p).mapM f = as.mapM f ↔
      (∀ a ∈ as, p a = true) ∨ ∃ a ∈ as, ∃ e, f a = .error e := by
  constructor
  · intro h
    by_cases failing : ∃ a ∈ as, ∃ e, f a = .error e
    · exact .inr failing
    · have going : ∀ a ∈ as, ∃ b, f a = .ok b := by
        intro a ha
        cases hfa : f a with
        | error e => exact absurd ⟨a, ha, e, hfa⟩ failing
        | ok b => exact ⟨b, rfl⟩
      obtain ⟨bs, hbs⟩ := exists_mapM_eq_ok going
      refine .inl (List.length_filter_eq_length_iff.mp ?_)
      -- both lists have as many members as there are results
      rw [(mapM_eq_ok_iff.mp (h.trans hbs)).length_eq,
        (mapM_eq_ok_iff.mp hbs).length_eq]
  · rintro (h | ⟨a, ha, e, he⟩)
    · rw [List.filter_eq_self.mpr h]
    · exact mapM_filter_of_error harmless ha he

end Except

namespace EStateM

variable {ε σ α : Type}

/-- A computation that reads and writes nothing leaves what is there. -/
@[simp] theorem run_ofExcept (x : Except ε α) (s : σ) :
    (ofExcept x : EStateM ε σ α).run s = match x with
      | .ok a => .ok a s
      | .error e => .error e s := by
  cases x with
  | ok a => rfl
  | error e => rfl

/-- Neither does a loop of such computations. -/
@[simp] theorem run_foldlM_ofExcept {β : Type} (f : α → β → Except ε α) (bs : List β) (a : α)
    (s : σ) :
    (bs.foldlM (fun a b => (ofExcept (f a b) : EStateM ε σ α)) a).run s
      = match bs.foldlM f a with
        | .ok a => .ok a s
        | .error e => .error e s := by
  induction bs generalizing a with
  | nil => rfl
  | cons b bs ih =>
    rw [List.foldlM_cons, List.foldlM_cons, run_bind, run_ofExcept]
    cases f a b with
    | ok next => exact ih next
    | error e => rfl

end EStateM

namespace GeoCatalogue.Fault

/-- Among all that can go wrong, what can only fail gives the same. -/
@[simp] theorem lift_eq_ok {α : Type} {x : Except Failure α} {a : α} :
    lift x = .ok a ↔ x = .ok a := by
  cases x with
  | ok value =>
    constructor
    · intro h
      rw [Except.ok.inj h]
    · intro h
      rw [Except.ok.inj h]
      rfl
  | error cause =>
    constructor
    · intro h
      cases h
    · intro h
      cases h

/-- What can only fail may be done one after the other. -/
@[simp] theorem foldlM_lift {α β : Type} (f : α → β → Except Failure α) (bs : List β) (a : α) :
    bs.foldlM (fun a b => lift (f a b)) a = lift (bs.foldlM f a) := by
  induction bs generalizing a with
  | nil => rfl
  | cons b bs ih =>
    rw [List.foldlM_cons, List.foldlM_cons]
    cases f a b with
    | ok next => exact ih next
    | error cause => rfl

/-- A list goes through what can only fail the same way. -/
@[simp] theorem mapM_lift {α β : Type} {f : α → Except Failure β} {as : List α}
    {bs : List β} :
    as.mapM (fun a => lift (f a)) = .ok bs ↔ as.mapM f = .ok bs := by
  rw [Except.mapM_eq_ok_iff, Except.mapM_eq_ok_iff]
  simp only [lift_eq_ok]

end GeoCatalogue.Fault
