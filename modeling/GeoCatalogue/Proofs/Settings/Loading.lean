import GeoCatalogue.Proofs.Outcome
import GeoCatalogue.Settings.Session
import Mathlib.Data.List.Nodup

/-!
# When settings are loaded, and which ones are in use

Files of settings are written and removed, the surroundings name one file or
another, and in between the settings are asked for, loaded anew or forgotten. A
request is written down here as it is carried out (`Chronicle.asking`), and every
attempt to load is noted when it is made, whatever comes of it.

The notes alone decide which settings are in use: **those of the last load that
went well**, unless they have been forgotten since (`latest`). Loads that fail are
passed over, and so is everything that happens to the files and the surroundings.
That is the invariant of a run (`Chronicle.Faithful`), and what a request does
can be read off from it (`Chronicle.run_keeps_latest`).

A load that goes well is not the end of a request: a record is to tell what the
settings are called, and that may have no printed form. By then the settings are in
use. So such a request fails without being a load that has failed, and the next one
gives what it has loaded.
-/
namespace GeoCatalogue

namespace Session

/-! ## Calls and what is noted of them -/

/-- **What is asked of a session** when nothing is overridden. -/
inductive Call where
  /-- To write a file. -/
  | write (path : String) (file : SettingsFile)
  /-- To remove a file. -/
  | remove (path : String)
  /-- To name a file, or none. -/
  | choose (path : Option String)
  /-- The settings. -/
  | get (force : Bool)
  /-- To forget the settings in use. -/
  | flush

/-- The step of a session that a call is. -/
def Call.step : Call → Step
  | write path file => .write path file
  | remove path => .remove path
  | choose path => .choose path
  | get force => .get force
  | flush => .flush

/-- **What is noted.** -/
inductive Event where
  /-- Settings were loaded. -/
  | loaded (active : ActiveSettings)
  /-- Settings could not be loaded. -/
  | failed (defect : SettingDefect)
  /-- The settings in use were forgotten. -/
  | flushed

/-- The settings that were loaded, if any were. -/
def Event.loaded? : Event → Option ActiveSettings
  | loaded active => some active
  | failed _ => none
  | flushed => none

/-- **The settings of the last load that went well**, unless they have been
forgotten since; the last event comes first. -/
def latest : List Event → Option ActiveSettings
  | [] => none
  | .loaded active :: _ => some active
  | .failed _ :: earlier => latest earlier
  | .flushed :: _ => none

/-- **Settings that their numbers tell from one another**, and from the ones that get
the next number. -/
structure Numbered (next : Nat) (known : List ActiveSettings) : Prop where
  /-- The numbers are smaller than the next one. -/
  given : ∀ active ∈ known, active.serial < next
  /-- The numbers are different. -/
  distinct : (known.map ActiveSettings.serial).Nodup

namespace Numbered

variable {next : Nat} {known fewer : List ActiveSettings}

theorem nil (next : Nat) : Numbered next [] where
  given := fun _ mem => absurd mem List.not_mem_nil
  distinct := List.nodup_nil

theorem sublist (h : Numbered next known) (some : fewer.Sublist known) :
    Numbered next fewer where
  given := fun active mem => h.given active (some.subset mem)
  distinct := h.distinct.sublist (some.map _)

/-- Settings with the next number may come. -/
theorem cons (h : Numbered next known) (settings : Settings) :
    Numbered (next + 1) (⟨next, settings⟩ :: known) where
  given := by
    intro active mem
    rcases List.mem_cons.mp mem with rfl | old
    · exact Nat.lt_succ_self next
    · exact Nat.lt_succ_of_lt (h.given active old)
  distinct := by
    refine List.nodup_cons.mpr ⟨fun mem => ?_, h.distinct⟩
    obtain ⟨active, old, same⟩ := List.mem_map.mp mem
    exact absurd same (Nat.ne_of_lt (h.given active old))

end Numbered

end Session

open Session

/-- **A session and what has been noted of it**, the last event first. -/
structure Chronicle where
  /-- The session. -/
  session : Session := {}
  /-- The events. -/
  events : List Event := []

namespace Chronicle

/-- **An attempt to load settings**, step by step. -/
def loading : EStateM SettingDefect Chronicle ActiveSettings := do
  let s := (← get).session
  match s.load with
  | .error defect =>
    modify fun c => { c with events := .failed defect :: c.events }
    throw defect
  | .ok settings =>
    let active : ActiveSettings := ⟨s.next, settings⟩
    modify fun c => { c with events := .loaded active :: c.events }
    modify fun c => { c with session := c.session.activate settings }
    if settings.id.isPrintable then return active
    else throw .unprintable

/-- **A request for the settings**, step by step. -/
def asking (force : Bool) : EStateM SettingDefect Chronicle ActiveSettings := do
  match (← get).session.active with
  | none => loading
  | some active => if force then loading else return active

/-- **A call**, step by step. -/
def perform : Call → EStateM SettingDefect Chronicle (Option ActiveSettings)
  | .write path file => do
    modify fun c => { c with session := c.session.write path file }
    return none
  | .remove path => do
    modify fun c => { c with session := c.session.remove path }
    return none
  | .choose path => do
    modify fun c => { c with session := { c.session with path := path } }
    return none
  | .get force => do return some (← asking force)
  | .flush => do
    modify fun c => ⟨c.session.flush, .flushed :: c.events⟩
    return none

/-- What is there after a call, whether it has failed or not. -/
def after (c : Chronicle) (call : Call) : Chronicle :=
  match (perform call).run c with
  | .ok _ next => next
  | .error _ next => next

/-- **What is there after some calls.** -/
def run (c : Chronicle) (calls : List Call) : Chronicle :=
  calls.foldl after c

/-- What is there after settings have been loaded. -/
def withLoaded (c : Chronicle) (settings : Settings) : Chronicle :=
  ⟨c.session.activate settings, .loaded ⟨c.session.next, settings⟩ :: c.events⟩

/-- The settings that were loaded, the last ones first. -/
def loads (c : Chronicle) : List ActiveSettings :=
  c.events.filterMap Event.loaded?

variable {c next : Chronicle} {force : Bool}

/-! ## One request -/

/-- **The ways in which a request ends**, each with what is there after it. -/
inductive Asked (c : Chronicle) (force : Bool) :
    EStateM.Result SettingDefect Chronicle ActiveSettings → Prop where
  /-- There are settings in use, and none have to be loaded. -/
  | kept {active : ActiveSettings} (inUse : c.session.active = some active)
      (free : force = false) : Asked c force (.ok active c)
  /-- Settings are loaded. -/
  | loaded {settings : Settings}
      (due : c.session.active = none ∨ force = true)
      (found : c.session.load = .ok settings)
      (printable : settings.id.isPrintable = true) :
      Asked c force (.ok ⟨c.session.next, settings⟩ (c.withLoaded settings))
  /-- Settings are loaded that are called something without a printed form. -/
  | unprintable {settings : Settings}
      (due : c.session.active = none ∨ force = true)
      (found : c.session.load = .ok settings)
      (unprintable : settings.id.isPrintable = false) :
      Asked c force (.error .unprintable (c.withLoaded settings))
  /-- Settings are to be loaded, and cannot be. -/
  | failed {defect : SettingDefect}
      (due : c.session.active = none ∨ force = true)
      (missing : c.session.load = .error defect) :
      Asked c force (.error defect
        { c with events := .failed defect :: c.events })

/-- What comes of an attempt to load settings. -/
theorem loading_run (c : Chronicle) :
    loading.run c = match c.session.load with
      | .ok settings =>
        if settings.id.isPrintable then
          .ok ⟨c.session.next, settings⟩ (c.withLoaded settings)
        else .error .unprintable (c.withLoaded settings)
      | .error defect =>
        .error defect { c with events := .failed defect :: c.events } := by
  simp only [loading, EStateM.run_bind, EStateM.run_get]
  cases c.session.load with
  | error defect => rfl
  | ok settings =>
    cases printable : settings.id.isPrintable with
    | true =>
      simp only [printable]
      rfl
    | false =>
      simp only [printable]
      rfl

/-- A request loads settings if it has to. -/
theorem asking_of_due (due : c.session.active = none ∨ force = true) :
    (asking force).run c = loading.run c := by
  simp only [asking, EStateM.run_bind, EStateM.run_get]
  cases inUse : c.session.active with
  | none => rfl
  | some active =>
    rcases due with no | rfl
    · rw [inUse] at no
      cases no
    · rfl

/-- A request gives the settings in use if it does not have to load any. -/
theorem asking_of_inUse {active : ActiveSettings}
    (inUse : c.session.active = some active) :
    (asking false).run c = .ok active c := by
  simp only [asking, EStateM.run_bind, EStateM.run_get, inUse]
  rfl

/-- **Every request ends in one of these ways.** -/
theorem asked (c : Chronicle) (force : Bool) :
    Asked c force ((asking force).run c) := by
  by_cases due : c.session.active = none ∨ force = true
  · rw [asking_of_due due, loading_run]
    split
    · next found =>
      split
      · next printable => exact .loaded due found printable
      · next unprintable =>
        exact .unprintable due found (Bool.eq_false_iff.mpr unprintable)
    · next missing => exact .failed due missing
  · obtain ⟨used, free⟩ := not_or.mp due
    obtain ⟨active, inUse⟩ := Option.ne_none_iff_exists'.mp used
    obtain rfl := Bool.eq_false_iff.mpr free
    rw [asking_of_inUse inUse]
    exact .kept inUse rfl

/-- What comes of a request, and the session after it. -/
def reply {α : Type} : EStateM.Result SettingDefect Chronicle α →
    Except SettingDefect α × Session
  | .ok value next => (.ok value, next.session)
  | .error defect next => (.error defect, next.session)

/-- Settings are loaded exactly if there are none in use or if a load is
forced. -/
@[simp] theorem loads_iff {s : Session} :
    s.loads force = true ↔ s.active = none ∨ force = true := by
  rw [Session.loads, Bool.or_eq_true, Option.isNone_iff_eq_none]

/-- **A request gives what the session gives**, and leaves the session as it leaves
itself. -/
@[simp] theorem reply_asking (c : Chronicle) (force : Bool) :
    reply ((asking force).run c) = c.session.get force := by
  have asked := asked c force
  unfold Session.get
  generalize (asking force).run c = outcome at asked ⊢
  cases asked with
  | kept inUse free =>
    have not : c.session.loads force = false := by
      rw [← Bool.not_eq_true, loads_iff]
      simp [inUse, free]
    simp [reply, not, inUse]
  | loaded due found printable =>
    simp [reply, loads_iff.mpr due, found, recorded, printable, withLoaded]
  | unprintable due found unprintable =>
    simp [reply, loads_iff.mpr due, found, recorded, unprintable, withLoaded]
  | failed due missing => simp [reply, loads_iff.mpr due, missing]

/-- **A call gives what the step of the session gives.** -/
@[simp] theorem reply_perform (c : Chronicle) (call : Call) :
    reply ((perform call).run c) = c.session.step call.step := by
  cases call with
  | get force =>
    simp only [Call.step, Session.step, ← reply_asking, perform,
      EStateM.run_bind]
    cases (asking force).run c with
    | ok active next => rfl
    | error defect next => rfl
  | _ => rfl

@[simp] theorem session_after (c : Chronicle) (call : Call) :
    (c.after call).session = (c.session.step call.step).2 := by
  rw [← reply_perform, after]
  cases (perform call).run c with
  | ok given next => rfl
  | error defect next => rfl

/-- **The session after some calls** is that after their steps. -/
@[simp] theorem session_run (c : Chronicle) (calls : List Call) :
    (c.run calls).session
      = calls.foldl (fun s call => (s.step call.step).2) c.session := by
  induction calls generalizing c with
  | nil => rfl
  | cons call calls ih =>
    show ((c.after call).run calls).session = _
    rw [ih, session_after]
    rfl

/-! ## The notes -/

/-- **Faithful notes**: the settings in use are those of the last load that went
well, and no two loads have given settings of one number. -/
structure Faithful (c : Chronicle) : Prop where
  /-- The settings in use are the latest ones. -/
  inUse : c.session.active = latest c.events
  /-- The settings that were loaded have different numbers. -/
  numbered : Numbered c.session.next c.loads

@[simp] theorem faithful_empty : Faithful {} where
  inUse := rfl
  numbered := .nil 0

/-- **A request keeps the notes faithful.** -/
theorem Faithful.of_asked (h : c.Faithful)
    {outcome : EStateM.Result SettingDefect Chronicle ActiveSettings}
    (asked : Asked c force outcome) :
    (match outcome with
      | .ok _ next => next
      | .error _ next => next).Faithful := by
  cases asked with
  | kept inUse free => exact h
  | failed due missing => exact ⟨h.inUse, h.numbered⟩
  | loaded due found printable => exact ⟨rfl, h.numbered.cons _⟩
  | unprintable due found unprintable => exact ⟨rfl, h.numbered.cons _⟩

/-- **A call keeps the notes faithful.** -/
theorem Faithful.after (h : c.Faithful) (call : Call) :
    (c.after call).Faithful := by
  cases call with
  | get force =>
    have kept := h.of_asked (asked c force)
    simp only [Chronicle.after, perform, EStateM.run_bind]
    generalize (asking force).run c = outcome at kept ⊢
    cases outcome with
    | ok active next => exact kept
    | error defect next => exact kept
  | flush => exact ⟨rfl, h.numbered⟩
  | _ => exact ⟨h.inUse, h.numbered⟩

/-- **Calls keep the notes faithful.** -/
theorem Faithful.run (h : c.Faithful) (calls : List Call) :
    (c.run calls).Faithful := by
  induction calls generalizing c with
  | nil => exact h
  | cons call calls ih => exact ih (h.after call)

/-- **Which settings are in use.** Let any calls follow one another in a new
session. A request for the settings gives those of the last load that went well,
the very ones and without another load, unless they have been forgotten since or a
load is forced – whatever has become of the files and the surroundings. If they
have been forgotten, or none have been loaded, or if a load is forced, settings
are loaded: what is found is new and in use from now on, and what goes wrong
leaves the session as it was, so the next request gives what was in use before.
No two loads give settings of one number.

What is found is given, unless it is called something without a printed form: then
the request fails after the load, and the next one gives the new settings. -/
theorem run_keeps_latest (calls : List Call) :
    let c := run {} calls
    c.session = calls.foldl (fun s call => (s.step call.step).2) {} ∧
    (∀ force, reply ((asking force).run c) = c.session.get force) ∧
    c.session.active = latest c.events ∧
    (c.loads.map ActiveSettings.serial).Nodup ∧
    (∀ active, latest c.events = some active →
      (asking false).run c = .ok active c) ∧
    ∀ force, latest c.events = none ∨ force = true →
      (∀ settings, c.session.load = .ok settings →
        let new : ActiveSettings := ⟨c.session.next, settings⟩
        let next : Chronicle := ⟨c.session.activate settings, .loaded new :: c.events⟩
        (settings.id.isPrintable = true → (asking force).run c = .ok new next) ∧
        (settings.id.isPrintable = false →
          (asking force).run c = .error .unprintable next) ∧
        (asking false).run next = .ok new next) ∧
      ∀ defect, c.session.load = .error defect →
        let next : Chronicle := { c with events := .failed defect :: c.events }
        (asking force).run c = .error defect next ∧
        ∀ active, latest c.events = some active →
          (asking false).run next = .ok active next := by
  intro c
  have faithful : c.Faithful := faithful_empty.run calls
  refine ⟨session_run {} calls, reply_asking c, faithful.inUse, faithful.numbered.distinct,
    fun active h => asking_of_inUse (faithful.inUse.trans h), ?_⟩
  intro force due
  rw [← faithful.inUse] at due
  refine ⟨fun settings found => ⟨fun printable => ?_, fun unprintable => ?_,
    asking_of_inUse rfl⟩, fun defect missing => ⟨?_, ?_⟩⟩
  · rw [asking_of_due due, loading_run, found]
    exact if_pos printable
  · rw [asking_of_due due, loading_run, found]
    exact if_neg (Bool.eq_false_iff.mp unprintable)
  · rw [asking_of_due due, loading_run, missing]
  · intro active h
    exact asking_of_inUse (faithful.inUse.trans h)

/-- A file is loaded, then written anew so that it holds no settings, and removed:
a forced load fails, and what was loaded first is in use still. -/
theorem run_keeps_latest_removed :
    let file := SettingsFile.settings [("log_level", .text "debug")]
    let calls : List Call := [.write "a" file, .choose (some "a"), .get false,
      .write "a" (.value .null), .get true, .remove "a"]
    let c := run {} calls
    ∃ active, latest c.events = some active ∧ active.serial = 0 ∧
      active.settings.logLevel = .debug ∧
      (asking false).run c = .ok active c ∧
      ∃ next, (asking true).run c = .error (.missingFile "a") next ∧
        (asking false).run next = .ok active next := by
  intro file calls c
  have found : (latest c.events).map (fun active =>
      (active.serial, active.settings.logLevel)) = some (0, .debug) := by
    decide +kernel
  have missing : c.session.load = .error (.missingFile "a") := rfl
  obtain ⟨active, inUse, same⟩ := Option.map_eq_some_iff.mp found
  obtain ⟨serial, level⟩ := Prod.mk.inj same
  obtain ⟨-, -, -, -, kept, due⟩ := run_keeps_latest calls
  obtain ⟨fails, stays⟩ := (due true (.inr rfl)).2 _ missing
  exact ⟨active, inUse, serial, level, kept active inUse, _, fails,
    stays active inUse⟩

end Chronicle

end GeoCatalogue
