import GeoCatalogue.Proofs.Settings.Overrides

/-!
# Files of settings that cannot be used

A file of settings may be missing, it may hold something else, and the settings in it
may be refused, because of a name, a kind or a value. Whoever asks for the settings is to
get sound ones, or to be told that the file is at fault (`Session.IsReported`). It is not
always so. Only a missing file and one that holds something else are put down to the file;
settings that are refused are refused as they would be anywhere else. And the undefined
number is not refused as a time or as a size, since it is not at most zero.

So what is asked for holds **exactly of the files whose settings are proper**
(`Session.isReported_iff`): all names are known, all quantities have their kind and their
sign, the level is one of the five, and what the settings are called has a printed form
(`Settings.IsProper`). If it has none, the request fails when a record is to tell of it,
although there are settings by then. All this looks at the table of the file alone; the
last entry of a name counts, and what is not named is in order.
-/
namespace GeoCatalogue

open Text

namespace Quantity

/-- **The positive quantities.** The undefined number is none of them. -/
def IsPositive : Quantity → Prop
  | flag value => value = true
  | whole value => 0 < value
  | real (.finite x) => 0 < x.value
  | real (.infinite negative) => negative = false
  | real .undefined => False

/-- **The quantities that are zero or positive.** -/
def IsNonnegative : Quantity → Prop
  | flag _ => True
  | whole value => 0 ≤ value
  | real (.finite x) => 0 ≤ x.value
  | real (.infinite negative) => negative = false
  | real .undefined => False

/-- **What is not at most zero** is positive, or undefined. -/
theorem isAtMost_zero_eq_false_iff {q : Quantity} :
    q.isAtMost 0 = false ↔ q.IsPositive ∨ q = .real .undefined := by
  match q with
  | flag value => cases value <;> simp [isAtMost, IsPositive]
  | whole value => simp [isAtMost, IsPositive]
  | real (.finite x) =>
    show decide (x.value ≤ 0) = false ↔ 0 < x.value ∨ real (.finite x) = real .undefined
    rw [decide_eq_false_iff_not, Rat.not_le]
    simp
  | real (.infinite negative) => simp [isAtMost, IsPositive]
  | real .undefined => simp [isAtMost, IsPositive]

/-- **What is at least zero** is zero or positive. -/
@[simp] theorem isAtLeast_zero_iff {q : Quantity} : q.isAtLeast 0 = true ↔ q.IsNonnegative := by
  match q with
  | flag value => cases value <;> simp [isAtLeast, IsNonnegative]
  | whole value => simp [isAtLeast, IsNonnegative]
  | real (.finite x) => simp [isAtLeast, IsNonnegative]
  | real (.infinite negative) => simp [isAtLeast, IsNonnegative]
  | real .undefined => simp [isAtLeast, IsNonnegative]

end Quantity

namespace Settings

/-- **Sound settings**: every one of them is what it has to be. -/
structure IsSound (s : Settings) : Prop where
  /-- The time to wait is positive. -/
  timeout : s.httpTimeout.IsPositive
  /-- The number of repetitions is at least zero. -/
  retries : s.httpRetries.IsNonnegative
  /-- The number of operations kept is positive. -/
  cacheSize : s.transformerCacheSize.IsPositive
  /-- The level is one that the journal can be set to. -/
  level : s.logLevel ∈ levels

/-- **A table of proper settings.** -/
structure IsProper (t : Table String Json) : Prop where
  /-- All names are those of settings. -/
  names : ∀ entry ∈ t, entry.1 ∈ standard.toTable.map Prod.fst
  /-- The time to wait, if it is given, is a positive quantity. -/
  timeout : ∀ value, t.get? "http_timeout" = some value →
    ∃ q, value = ofQuantity q ∧ q.IsPositive
  /-- The number of repetitions, if it is given, is a quantity of at least zero. -/
  retries : ∀ value, t.get? "http_retries" = some value →
    ∃ q, value = ofQuantity q ∧ q.IsNonnegative
  /-- The number of operations kept, if it is given, is a positive quantity. -/
  cacheSize : ∀ value, t.get? "transformer_cache_size" = some value →
    ∃ q, value = ofQuantity q ∧ q.IsPositive
  /-- The level, if it is given, is that of one of the names, in any letter case. -/
  level : ∀ value, t.get? "log_level" = some value →
    ∃ name level, value = .text name ∧ upper name = Journal.Level.text level
  /-- What the settings are called, if it is given, has a printed form. -/
  id : ∀ value, t.get? "id" = some value → value.isPrintable = true

end Settings

/-- **The defects that are put down to a file.** -/
inductive SettingDefect.IsOfFile : SettingDefect → Prop where
  /-- The file is not there. -/
  | missing {path : String} : IsOfFile (.missingFile path)
  /-- The file holds something else. -/
  | other {path found : String} : IsOfFile (.notSettings path found)

/-- **An answer as it is to be**: sound settings, or a defect that is put down to the
file. -/
def Session.IsReported : Except SettingDefect ActiveSettings → Prop
  | .ok active => active.settings.IsSound
  | .error defect => defect.IsOfFile

namespace Settings

variable {s : Settings} {t : Table String Json} {defect : SettingDefect}

/-! ## Settings that are accepted -/

theorem mem_names_of_ofTable (h : ofTable t = .ok s) :
    ∀ entry ∈ t, entry.1 ∈ standard.toTable.map Prod.fst := by
  intro entry mem
  unfold ofTable withChanges at h
  split at h
  · cases h
  · next fine =>
    have known := List.find?_eq_none.mp fine entry.1 (List.mem_map_of_mem mem)
    rw [Bool.not_eq_true, Bool.not_eq_false', Table.has_iff] at known
    exact known

/-- A setting that is given has the value that it is given. -/
theorem get?_toTable_of_ofTable (h : ofTable t = .ok s) {name : String} {value : Json}
    (given : t.get? name = some value) : s.toTable.get? name = some (settle name value) := by
  rw [get?_toTable_of_withChanges h, given]
  rfl

/-- **Sound settings with a printed name come from proper ones.** -/
theorem isProper_of_isSound (h : ofTable t = .ok s) (sound : s.IsSound)
    (printable : s.id.isPrintable = true) : IsProper t where
  names := mem_names_of_ofTable h
  timeout := by
    intro value given
    have found := get?_toTable_of_ofTable h given
    rw [settle_of_ne (by decide)] at found
    exact ⟨s.httpTimeout, (Option.some.inj found).symm, sound.timeout⟩
  retries := by
    intro value given
    have found := get?_toTable_of_ofTable h given
    rw [settle_of_ne (by decide)] at found
    exact ⟨s.httpRetries, (Option.some.inj found).symm, sound.retries⟩
  cacheSize := by
    intro value given
    have found := get?_toTable_of_ofTable h given
    rw [settle_of_ne (by decide)] at found
    exact ⟨s.transformerCacheSize, (Option.some.inj found).symm, sound.cacheSize⟩
  level := by
    intro value given
    have found := get?_toTable_of_ofTable h given
    have same : settle "log_level" value = .text s.logLevel.text :=
      (Option.some.inj found).symm
    cases value with
    | text name => exact ⟨name, s.logLevel, rfl, Json.text.inj same⟩
    | null => cases same
    | bool value => cases same
    | integer value => cases same
    | real value => cases same
    | list items => cases same
    | object members => cases same
  id := by
    intro value given
    have found := get?_toTable_of_ofTable h given
    rw [settle_of_ne (by decide)] at found
    obtain rfl : s.id = value := Option.some.inj found
    exact printable

/-! ## Settings that are refused -/

theorem eq_kind_of_quantityOf {name : String} (h : quantityOf t name = .error defect) :
    defect = .kind name := by
  unfold quantityOf at h
  split at h
  · cases h
  · exact (Except.error.inj h).symm

/-- **A quantity with a bound is refused for its kind or for its value.** -/
theorem not_isOfFile_of_bounded {name : String} {p : Quantity → Prop} [DecidablePred p]
    {refusal : Quantity → SettingDefect}
    (h : (quantityOf t name >>= fun q =>
      if fine : p q then .ok (⟨q, fine⟩ : { q // p q }) else .error (refusal q))
        = .error defect)
    (own : ∀ q, ¬ (refusal q).IsOfFile) : ¬ defect.IsOfFile := by
  rcases Except.bind_eq_error.mp h with h | ⟨q, -, h⟩
  · rw [eq_kind_of_quantityOf h]
    nofun
  · split at h
    · cases h
    · rw [← Except.error.inj h]
      exact own q

/-- **Settings that are refused are not put down to a file.** -/
theorem not_isOfFile_of_ofTable (h : ofTable t = .error defect) : ¬ defect.IsOfFile := by
  unfold ofTable withChanges at h
  split at h
  · rw [← Except.error.inj h]
    nofun
  · unfold ofFullTable at h
    -- the settings are looked at one after the other
    rcases Except.bind_eq_error.mp h with h | ⟨name, -, h⟩
    · unfold levelName at h
      split at h
      · cases h
      · rw [← Except.error.inj h]
        nofun
    rcases Except.bind_eq_error.mp h with h | ⟨⟨timeout, _⟩, -, h⟩
    · exact not_isOfFile_of_bounded h fun _ => nofun
    rcases Except.bind_eq_error.mp h with h | ⟨⟨retries, _⟩, -, h⟩
    · exact not_isOfFile_of_bounded h fun _ => nofun
    rcases Except.bind_eq_error.mp h with h | ⟨⟨cacheSize, _⟩, -, h⟩
    · exact not_isOfFile_of_bounded h fun _ => nofun
    cases found : level? name with
    | none =>
      simp only [found] at h
      rw [← Except.error.inj h]
      nofun
    | some level =>
      simp only [found] at h
      cases h

/-! ## Proper settings -/

/-- What holds of what is given, and of the setting otherwise, holds of the value. -/
theorem valueOf_append {name : String} {p : Json → Prop}
    (given : ∀ value, t.get? name = some value → p value)
    (kept : p (valueOf standard.toTable name)) :
    p (valueOf (standard.toTable ++ t) name) := by
  unfold valueOf
  rw [Table.get?_append]
  cases found : t.get? name with
  | some value => exact given value found
  | none => exact kept

/-- **A quantity within its bound is accepted.** -/
theorem quantityOf_bounded {name : String} {q : Quantity} {p : Quantity → Prop}
    [DecidablePred p] {refusal : Quantity → SettingDefect}
    (given : valueOf t name = ofQuantity q) (fine : p q) :
    (quantityOf t name >>= fun q =>
      if fine : p q then .ok (⟨q, fine⟩ : { q // p q }) else .error (refusal q))
        = .ok ⟨q, fine⟩ := by
  rw [quantityOf, quantity?_eq_some.mpr given]
  exact dif_pos fine

@[simp] theorem level?_text (level : Journal.Level) : level? level.text = some level := by
  cases level <;> decide

/-- The settings that nothing has changed are sound. -/
@[simp] theorem isSound_standard : standard.IsSound where
  timeout :=
    (Quantity.isAtMost_zero_eq_false_iff.mp standard.timeout_pos).resolve_right (by decide)
  retries := Quantity.isAtLeast_zero_iff.mp standard.retries_nonneg
  cacheSize :=
    (Quantity.isAtMost_zero_eq_false_iff.mp standard.cacheSize_pos).resolve_right (by decide)
  level := List.mem_of_find?_eq_some (level?_text .info)

/-- **Proper settings are accepted, and sound.** All names are known, and the values of a table
that is filled up with the packaged ones pass their tests one by one, in the order in which
these are made; so none of the ways to be refused is left. -/
theorem exists_ofTable (proper : IsProper t) :
    ∃ s, ofTable t = .ok s ∧ s.IsSound ∧ s.id.isPrintable = true := by
  have names : unknownName? t = none := by
    refine List.find?_eq_none.mpr fun name mem => ?_
    obtain ⟨entry, hentry, rfl⟩ := List.mem_map.mp mem
    rw [Bool.not_eq_true, Bool.not_eq_false', Table.has_iff]
    exact proper.names entry hentry
  obtain ⟨timeout, timeoutGiven, timeoutPositive⟩ :=
    valueOf_append proper.timeout ⟨_, rfl, isSound_standard.timeout⟩
  obtain ⟨retries, retriesGiven, retriesNonnegative⟩ :=
    valueOf_append proper.retries ⟨_, rfl, isSound_standard.retries⟩
  obtain ⟨cacheSize, cacheSizeGiven, cacheSizePositive⟩ :=
    valueOf_append proper.cacheSize ⟨_, rfl, isSound_standard.cacheSize⟩
  obtain ⟨name, level, levelGiven, levelNamed⟩ := valueOf_append proper.level
    ⟨standard.logLevel.text, standard.logLevel, rfl, upper_levelText standard.logLevel⟩
  have timeout_pos : timeout.isAtMost 0 = false :=
    Quantity.isAtMost_zero_eq_false_iff.mpr (.inl timeoutPositive)
  have retries_nonneg : retries.isAtLeast 0 = true :=
    Quantity.isAtLeast_zero_iff.mpr retriesNonnegative
  have cacheSize_pos : cacheSize.isAtMost 0 = false :=
    Quantity.isAtMost_zero_eq_false_iff.mpr (.inl cacheSizePositive)
  have htimeout : positiveOf (standard.toTable ++ t) "http_timeout" = .ok ⟨timeout, timeout_pos⟩ :=
    quantityOf_bounded timeoutGiven timeout_pos
  have hretries : retriesOf (standard.toTable ++ t) "http_retries"
      = .ok ⟨retries, retries_nonneg⟩ :=
    quantityOf_bounded retriesGiven retries_nonneg
  have hcacheSize : positiveOf (standard.toTable ++ t) "transformer_cache_size"
      = .ok ⟨cacheSize, cacheSize_pos⟩ :=
    quantityOf_bounded cacheSizeGiven cacheSize_pos
  refine ⟨⟨valueOf (standard.toTable ++ t) "id", valueOf (standard.toTable ++ t) "canonical_crs",
    valueOf (standard.toTable ++ t) "box_param_crs", timeout, retries, cacheSize, level,
    valueOf (standard.toTable ++ t) "log_json", timeout_pos, retries_nonneg, cacheSize_pos⟩, ?_,
    ⟨timeoutPositive, retriesNonnegative, cacheSizePositive,
      List.mem_of_find?_eq_some (level?_text level)⟩, valueOf_append proper.id rfl⟩
  rw [ofTable, withChanges, names]
  dsimp only
  rw [ofFullTable, levelName, levelGiven]
  dsimp only
  rw [Except.ok_bind, htimeout, Except.ok_bind, hretries, Except.ok_bind, hcacheSize,
    Except.ok_bind, levelNamed, level?_text]

/-- **Proper tables are those of sound settings** with a printed name; all others are
refused without a word about a file, or accepted with a time or a size that is undefined
or with a name that cannot be printed. -/
theorem isProper_iff (t : Table String Json) :
    IsProper t ↔ match ofTable t with
      | .ok s => s.IsSound ∧ s.id.isPrintable = true
      | .error defect => defect.IsOfFile := by
  constructor
  · intro proper
    obtain ⟨s, accepted, sound⟩ := exists_ofTable proper
    rw [accepted]
    exact sound
  · intro reported
    cases given : ofTable t with
    | ok s =>
      rw [given] at reported
      exact isProper_of_isSound given reported.1 reported.2
    | error defect =>
      rw [given] at reported
      exact absurd reported (not_isOfFile_of_ofTable given)

@[simp] theorem isSound_packaged : packaged.IsSound :=
  ⟨isSound_standard.timeout, isSound_standard.retries, isSound_standard.cacheSize,
    isSound_standard.level⟩

end Settings

namespace Session

variable {s : Session}

/-- Without settings in use, the answer is what is loaded. -/
theorem isReported_get_iff (fresh : s.active = none) (force : Bool) :
    IsReported (s.get force).1 ↔ match s.load with
      | .ok settings => settings.IsSound ∧ settings.id.isPrintable = true
      | .error defect => defect.IsOfFile := by
  have got := got s force
  generalize s.get force = outcome at got ⊢
  cases got with
  | kept inUse free =>
    rw [fresh] at inUse
    cases inUse
  | loaded due found printable =>
    rw [found]
    exact (and_iff_left printable).symm
  | unprintable due found unprintable =>
    rw [found]
    refine iff_of_false nofun fun ⟨_, printable⟩ => ?_
    rw [unprintable] at printable
    cases printable
  | failed due missing =>
    rw [missing]
    rfl

/-- **What becomes of a file of settings.** If no settings are in use and they are asked
for, the answer is sound settings or a defect that is put down to the file, exactly if the
file that the surroundings name is not there, holds something else, or holds proper
settings. -/
theorem isReported_iff (fresh : s.active = none) (force : Bool) :
    IsReported (s.get force).1 ↔
      ∀ path t, s.path = some path → s.files.get? path = some (some (.settings t)) →
        Settings.IsProper t := by
  rw [isReported_get_iff fresh]
  unfold load
  cases named : s.path with
  | none => exact iff_of_true ⟨Settings.isSound_packaged, rfl⟩ nofun
  | some path =>
    have without {content : Option (Option SettingsFile)}
        (held : s.files.get? path = content) (none : ∀ t, content ≠ some (some (.settings t))) :
        ∀ path' t, some path = some path' →
          s.files.get? path' = some (some (.settings t)) → Settings.IsProper t := by
      rintro _ t ⟨⟩ found
      exact absurd (held.symm.trans found) (none t)
    dsimp only
    match held : s.files.get? path with
    | none => exact iff_of_true .missing (without held nofun)
    | some none => exact iff_of_true .missing (without held nofun)
    | some (some .nothing) => exact iff_of_true .other (without held nofun)
    | some (some (.value content)) => exact iff_of_true .other (without held nofun)
    | some (some (.settings t)) =>
      refine (Settings.isProper_iff t).symm.trans
        ⟨fun proper path' t' same found => ?_, fun all => all path t rfl held⟩
      cases same
      cases held.symm.trans found
      exact proper

/-- A session in which the surroundings name a file with some settings. -/
def withFile (t : Table String Json) : Session where
  files := [("settings", some (.settings t))]
  path := some "settings"

/-- A file with a level in small letters and a whole number as the time to wait gives
sound settings. -/
theorem isReported_iff_withFile :
    let t : Table String Json := [("log_level", .text "debug"), ("http_timeout", .integer 5)]
    (withFile t).active = none ∧ Settings.IsProper t ∧
      IsReported ((withFile t).get false).1 := by
  intro t
  have retries : t.get? "http_retries" = none := rfl
  have cacheSize : t.get? "transformer_cache_size" = none := rfl
  have unnamed : t.get? "id" = none := rfl
  have timeout : t.get? "http_timeout" = some (.integer 5) := rfl
  have level : t.get? "log_level" = some (.text "debug") := rfl
  have proper : Settings.IsProper t :=
    { names := by decide
      timeout := fun value given =>
        ⟨.whole 5, (Option.some.inj (timeout.symm.trans given)).symm,
          (by decide : (0 : Int) < 5)⟩
      retries := fun value given => absurd (retries.symm.trans given) nofun
      cacheSize := fun value given => absurd (cacheSize.symm.trans given) nofun
      level := fun value given =>
        ⟨"debug", .debug, (Option.some.inj (level.symm.trans given)).symm, by decide +kernel⟩
      id := fun value given => absurd (unnamed.symm.trans given) nofun }
  refine ⟨rfl, proper, (isReported_iff rfl false).mpr ?_⟩
  rintro _ _ ⟨⟩ ⟨⟩
  exact proper

/-- **Settings that are refused without a word about the file, and settings that are not
refused at all**: a level that there is not is no defect of the file, nor is a name that is
too long a number; and with a time to wait that is no number there are settings, which are
not sound. -/
theorem not_isReported_withFile :
    ((withFile [("log_level", .text "chatty")]).get false).1 = .error (.level "CHATTY") ∧
      ¬ IsReported ((withFile [("log_level", .text "chatty")]).get false).1 ∧
      (∀ n, Number.isPrintable n = false →
        ¬ IsReported ((withFile [("id", .integer n)]).get false).1) ∧
      ((withFile [("http_timeout", .real .undefined)]).get false).1.isOk = true ∧
      ¬ IsReported ((withFile [("http_timeout", .real .undefined)]).get false).1 := by
  have refused : ((withFile [("log_level", .text "chatty")]).get false).1
      = .error (.level "CHATTY") := by
    rfl
  have proper_of (t : Table String Json) (reported : IsReported ((withFile t).get false).1) :
      Settings.IsProper t :=
    (Settings.isProper_iff t).mpr ((isReported_get_iff rfl false).mp reported)
  refine ⟨refused, by rw [refused]; nofun, fun n long => mt (proper_of _) fun proper => ?_,
    by decide +kernel, mt (proper_of _) fun proper => ?_⟩
  · have printable := proper.id (.integer n) rfl
    rw [Json.isPrintable, long] at printable
    cases printable
  · obtain ⟨q, same, positive⟩ := proper.timeout (.real .undefined) rfl
    obtain rfl : .real .undefined = q := Settings.ofQuantity_injective same
    exact positive

end Session

end GeoCatalogue
