import GeoCatalogue.Proofs.Text.Upper

/-!
# Letter case

Texts of ASCII characters **agree up to case** if they are the same in small letters
(`AgreeUpToCase`). The table of capitals, which knows of much more, comes to the same
for them: such texts have the same capitals exactly if they agree up to case
(`upper_eq_upper_iff`).
-/
namespace GeoCatalogue.Text

/-- **Texts that agree up to the case of ASCII letters.** -/
def AgreeUpToCase (cs ds : List Char) : Prop :=
  cs.map Char.toLower = ds.map Char.toLower

instance (cs ds : List Char) : Decidable (AgreeUpToCase cs ds) :=
  inferInstanceAs (Decidable (_ = _))

/-- What holds of the characters up to the last small letter, gone through one by
one, holds of every character that is not after it. -/
theorem forall_of_le {p : Char → Prop} (each : ∀ n < 0x7b, p (Char.ofNat n)) {c : Char}
    (h : c.toNat ≤ 0x7a) : p c := by
  have this := each c.toNat (by omega)
  rwa [Char.ofNat_toNat] at this

theorem toLower_toUpper_of_le {c : Char} (h : c.toNat ≤ 0x7a) :
    c.toUpper.toLower = c.toLower :=
  forall_of_le (p := fun c => c.toUpper.toLower = c.toLower) (by decide +kernel) h

theorem toUpper_toLower_of_le {c : Char} (h : c.toNat ≤ 0x7a) :
    c.toLower.toUpper = c.toUpper :=
  forall_of_le (p := fun c => c.toLower.toUpper = c.toUpper) (by decide +kernel) h

/-- **The capital of an ASCII character** is the one that Lean knows. -/
theorem upperChar_of_le {c : Char} (h : c.toNat ≤ 0x7a) :
    upperChar c = [c.toUpper] := by
  by_cases small : isAsciiSmall c = true
  · have capital : isAsciiSmall c = true → c.toUpper = Char.ofNat (c.toNat - 32) :=
      forall_of_le (p := fun c => isAsciiSmall c = true → c.toUpper = Char.ofNat (c.toNat - 32))
        (by decide +kernel) h
    rw [upperChar_of_isAsciiSmall small, capital small]
  · have kept : isAsciiSmall c ≠ true → c.toUpper = c :=
      forall_of_le (p := fun c => isAsciiSmall c ≠ true → c.toUpper = c) (by decide +kernel) h
    have low : c.toNat < 0x61 := by
      rw [isAsciiSmall_iff] at small
      omega
    rw [upperChar_of_lt low, kept small]

/-- The capitals of a text of ASCII characters. -/
theorem upper_of_le {cs : List Char} (h : ∀ c ∈ cs, c.toNat ≤ 0x7a) :
    upper (String.ofList cs) = String.ofList (cs.map Char.toUpper) := by
  rw [upper, String.toList_ofList]
  congr 1
  induction cs with
  | nil => rfl
  | cons c cs ih =>
    obtain ⟨first, rest⟩ := List.forall_mem_cons.mp h
    rw [List.flatMap_cons, upperChar_of_le first, ih rest]
    rfl

theorem map_toLower_map_toUpper {cs : List Char} (h : ∀ c ∈ cs, c.toNat ≤ 0x7a) :
    (cs.map Char.toUpper).map Char.toLower = cs.map Char.toLower := by
  rw [List.map_map]
  exact List.map_congr_left fun c hc => toLower_toUpper_of_le (h c hc)

theorem map_toUpper_map_toLower {cs : List Char} (h : ∀ c ∈ cs, c.toNat ≤ 0x7a) :
    (cs.map Char.toLower).map Char.toUpper = cs.map Char.toUpper := by
  rw [List.map_map]
  exact List.map_congr_left fun c hc => toUpper_toLower_of_le (h c hc)

/-- It does not matter whether texts of ASCII characters are compared in capitals or in
small letters. -/
theorem map_toUpper_eq_iff {cs ds : List Char} (hcs : ∀ c ∈ cs, c.toNat ≤ 0x7a)
    (hds : ∀ c ∈ ds, c.toNat ≤ 0x7a) :
    cs.map Char.toUpper = ds.map Char.toUpper ↔ AgreeUpToCase cs ds := by
  unfold AgreeUpToCase
  constructor
  · intro h
    rw [← map_toLower_map_toUpper hcs, h, map_toLower_map_toUpper hds]
  · intro h
    rw [← map_toUpper_map_toLower hcs, h, map_toUpper_map_toLower hds]

/-- **Texts of ASCII characters have the same capitals exactly if they agree up to
case.** -/
theorem upper_eq_upper_iff {cs ds : List Char} (hcs : ∀ c ∈ cs, c.toNat ≤ 0x7a)
    (hds : ∀ c ∈ ds, c.toNat ≤ 0x7a) :
    upper (String.ofList cs) = upper (String.ofList ds) ↔ AgreeUpToCase cs ds := by
  rw [upper_of_le hcs, upper_of_le hds, String.ofList_inj, map_toUpper_eq_iff hcs hds]

end GeoCatalogue.Text
