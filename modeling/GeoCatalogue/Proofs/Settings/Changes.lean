import GeoCatalogue.Proofs.Name.Tables
import GeoCatalogue.Proofs.Outcome
import GeoCatalogue.Settings.Basic

/-!
# What becomes of settings that are changed

Settings are compared here by the tables that they are written as. When some of them are
changed, those that the changes name get the values given there, the level in capitals,
and all others stay as they are (`Settings.get?_toTable_of_withChanges`). This holds
however many changes follow one another (`Settings.get?_toTable_of_foldlM`), and it is
all that is known here of settings: which values are refused does not matter.
-/
namespace GeoCatalogue

namespace Settings

open Text

variable {s after : Settings} {changes : Table String Json}

/-! ## Single settings -/

/-- The form that a value takes in the settings: a level is written in
capitals. -/
def settle (name : String) (value : Json) : Json :=
  match value with
  | .text level => .text (if name = "log_level" then upper level else level)
  | other => other

/-- **A value is a quantity** exactly if it is that quantity written as a
value. -/
@[simp] theorem quantity?_eq_some {value : Json} {q : Quantity} :
    quantity? value = some q ↔ value = ofQuantity q := by
  constructor
  · intro h
    cases value <;> cases h <;> rfl
  · rintro rfl
    cases q <;> rfl

theorem ofQuantity_injective : Function.Injective ofQuantity := fun _ _ h =>
  Option.some.inj
    ((quantity?_eq_some.mpr rfl).symm.trans (quantity?_eq_some.mpr h))

/-- The quantity that is found in a table. -/
theorem valueOf_of_quantityOf {t : Table String Json} {name : String}
    {q : Quantity} (h : quantityOf t name = .ok q) :
    valueOf t name = ofQuantity q := by
  unfold quantityOf at h
  split at h
  · next found =>
    obtain rfl := Except.ok.inj h
    exact quantity?_eq_some.mp found
  · cases h

/-- The positive quantity that is found in a table. -/
theorem valueOf_of_positiveOf {t : Table String Json} {name : String}
    {q : { q : Quantity // q.isAtMost 0 = false }}
    (h : positiveOf t name = .ok q) : valueOf t name = ofQuantity q.1 := by
  obtain ⟨found, hfound, h⟩ := Except.bind_eq_ok.mp h
  split at h
  · obtain rfl := Except.ok.inj h
    exact valueOf_of_quantityOf hfound
  · cases h

/-- The number of retries that is found in a table. -/
theorem valueOf_of_retriesOf {t : Table String Json} {name : String}
    {q : { q : Quantity // q.isAtLeast 0 = true }}
    (h : retriesOf t name = .ok q) : valueOf t name = ofQuantity q.1 := by
  obtain ⟨found, hfound, h⟩ := Except.bind_eq_ok.mp h
  split at h
  · obtain rfl := Except.ok.inj h
    exact valueOf_of_quantityOf hfound
  · cases h

/-- The level that is found in a table, in capitals. -/
theorem settle_of_levelName {t : Table String Json} {name : String}
    {level : Journal.Level} (h : levelName t = .ok name)
    (found : level? name = some level) :
    settle "log_level" (valueOf t "log_level") = .text level.text := by
  have same : level.text = name := by simpa using List.find?_some found
  unfold levelName at h
  split at h
  · next given hgiven =>
    rw [hgiven, same, ← Except.ok.inj h]
    rfl
  · cases h

/-! ## All settings -/

theorem settle_of_ne {name : String} (other : name ≠ "log_level")
    (value : Json) : settle name value = value := by
  cases value with
  | text level => simp only [settle, if_neg other]
  | _ => rfl

/-- **The settings of a full table** have the values of the table. -/
theorem get?_toTable_of_ofFullTable {t : Table String Json}
    (h : ofFullTable t = .ok s) {name : String}
    (known : standard.toTable.has name = true) :
    s.toTable.get? name = some (settle name (valueOf t name)) := by
  unfold ofFullTable at h
  obtain ⟨level, hlevel, h⟩ := Except.bind_eq_ok.mp h
  obtain ⟨⟨timeout, timeout_pos⟩, htimeout, h⟩ := Except.bind_eq_ok.mp h
  obtain ⟨⟨retries, retries_nonneg⟩, hretries, h⟩ := Except.bind_eq_ok.mp h
  obtain ⟨⟨cacheSize, cacheSize_pos⟩, hcacheSize, h⟩ := Except.bind_eq_ok.mp h
  cases found : level? level with
  | none =>
    simp only [found] at h
    cases h
  | some l =>
    simp only [found] at h
    obtain rfl := Except.ok.inj h
    by_cases isLevel : name = "log_level"
    · subst isLevel
      rw [settle_of_levelName hlevel found]
      rfl
    rw [settle_of_ne isLevel]
    have names := Table.has_iff.mp known
    simp only [toTable, List.map_cons, List.map_nil, List.mem_cons,
      List.not_mem_nil, or_false, isLevel, false_or] at names
    rcases names with rfl | rfl | rfl | rfl | rfl | rfl | rfl
    · rfl
    · rfl
    · rfl
    · rw [valueOf_of_positiveOf htimeout]
      rfl
    · rw [valueOf_of_retriesOf hretries]
      rfl
    · rw [valueOf_of_positiveOf hcacheSize]
      rfl
    · rfl

theorem has_toTable (s : Settings) (name : String) :
    s.toTable.has name = standard.toTable.has name := by
  rw [Bool.eq_iff_iff, Table.has_iff, Table.has_iff]
  rfl

@[simp] theorem upper_levelText (level : Journal.Level) :
    upper level.text = level.text := by
  cases level <;> decide +kernel

/-- The value of a setting is in its form already. -/
theorem settle_of_get?_toTable {name : String} {value : Json}
    (h : s.toTable.get? name = some value) : settle name value = value := by
  by_cases isLevel : name = "log_level"
  · subst isLevel
    obtain rfl : .text s.logLevel.text = value := Option.some.inj h
    exact congrArg Json.text (upper_levelText s.logLevel)
  · exact settle_of_ne isLevel value

/-- Changes that name only settings have no values for other names. -/
theorem get?_eq_none_of_unknownName? (h : unknownName? changes = none)
    {name : String} (unknown : standard.toTable.has name = false) :
    changes.get? name = none := by
  by_contra given
  have mem := Table.has_iff.mp (Option.isSome_iff_ne_none.mpr given)
  have fine := List.find?_eq_none.mp h name mem
  rw [unknown] at fine
  exact fine rfl

/-- **What becomes of settings that are changed.** Those that the changes name
get the values given there, a level in capitals; all others stay as they
are. -/
theorem get?_toTable_of_withChanges (h : s.withChanges changes = .ok after)
    (name : String) :
    after.toTable.get? name
      = ((changes.get? name).map (settle name)).or (s.toTable.get? name) := by
  unfold withChanges at h
  split at h
  · cases h
  · next fine =>
    cases known : standard.toTable.has name with
    | false =>
      have absent (t : Settings) : t.toTable.get? name = none := by
        rw [← has_toTable t name] at known
        exact Option.not_isSome_iff_eq_none.mp (Bool.eq_false_iff.mp known)
      rw [get?_eq_none_of_unknownName? fine known, absent, absent]
      rfl
    | true =>
      rw [get?_toTable_of_ofFullTable h known, valueOf, Table.get?_append]
      cases changes.get? name with
      | some value => rfl
      | none =>
        rw [← has_toTable s name] at known
        obtain ⟨value, hvalue⟩ := Option.isSome_iff_exists.mp known
        rw [hvalue]
        exact congrArg some (settle_of_get?_toTable hvalue)

/-- **The value of a setting after several changes** is the one that was given last, or the one
from before if none was given. What is given is settled on the way: a level comes out in
capitals, and every other value as it is. -/
theorem get?_toTable_of_foldlM {overrides : List (Table String Json)}
    (h : overrides.foldlM withChanges s = .ok after) (name : String) :
    after.toTable.get? name
      = ((Table.get? overrides.flatten name).map (settle name)).or
          (s.toTable.get? name) := by
  induction overrides generalizing s with
  | nil =>
    obtain rfl := Except.ok.inj h
    rfl
  | cons changes overrides ih =>
    rw [List.foldlM_cons] at h
    obtain ⟨next, hnext, h⟩ := Except.bind_eq_ok.mp h
    rw [ih h, get?_toTable_of_withChanges hnext, List.flatten_cons,
      Table.get?_append, Option.map_or, Option.or_assoc]

end Settings

end GeoCatalogue
