import GeoCatalogue.Proofs.Settings.Changes
import GeoCatalogue.Proofs.Settings.Loading

/-!
# Overrides that nest

Settings may be overridden for as long as a body of acts lasts. In the body the
settings may be asked for, loaded anew or forgotten, they may be overridden again,
and the body may end by itself or break off; then everything around it breaks off
as well, up to an act that guards against that.

All this goes on over one place for the settings in use and one stack of settings
to go back to. What makes it work is that **every act leaves the stack as it found
it** (`keeps_perform`), which is shown along the nesting of the acts. So an
override that ends finds on top of the stack what it put there, and brings back the
settings that were in use when it began (`overriding_restores`). The same holds of
the overrides in its body: whatever is done there, they are not noticed after they
have ended (`active_overriding`).
-/
namespace GeoCatalogue

namespace Session

/-! ## Acts -/

/-- **How acts end.** -/
inductive Ending where
  /-- All of them have been carried out. -/
  | complete
  /-- One of them has failed, or broken off. -/
  | brokenOff
deriving DecidableEq

/-- **What is done in a session.** -/
inductive Act where
  /-- A call. -/
  | call (call : Call)
  /-- To break off. -/
  | breakOff
  /-- Acts that do not break off what comes after them. -/
  | guarded (body : List Act)
  /-- Acts while settings are overridden. -/
  | overriding (changes : Table String Json) (body : List Act)

/-- The end of an act that gives something or fails. -/
def Ending.of {α : Type} : Except SettingDefect α → Ending
  | .ok _ => .complete
  | .error _ => .brokenOff

mutual

/-- **An act**, how it ends and the session after it. An override that has begun
is ended in any case. -/
def Act.perform (s : Session) : Act → Ending × Session
  | .call call => (.of (s.step call.step).1, (s.step call.step).2)
  | .breakOff => (.brokenOff, s)
  | .guarded body => (.complete, (performAll s body).2)
  | .overriding changes body =>
    match s.override changes with
    | (.error _, after) => (.brokenOff, after)
    | (.ok _, entered) =>
      ((performAll entered body).1, (performAll entered body).2.restore)

/-- Acts one after the other, up to one that breaks off. -/
def performAll (s : Session) : List Act → Ending × Session
  | [] => (.complete, s)
  | act :: acts =>
    match act.perform s with
    | (.brokenOff, after) => (.brokenOff, after)
    | (.complete, after) => performAll after acts

end

mutual

/-- **Whether an act leaves the settings in use alone**: neither loads them anew
nor forgets them, other than while they are overridden in turn. -/
def Act.isQuiet : Act → Bool
  | .call (.get force) => !force
  | .call .flush => false
  | .call _ => true
  | .breakOff => true
  | .guarded body => areQuiet body
  | .overriding _ _ => true

/-- Whether some acts leave the settings in use alone. -/
def areQuiet : List Act → Bool
  | [] => true
  | act :: acts => act.isQuiet && areQuiet acts

end

/-- **A point on the way through some acts**: the session there, after acts that
have left the settings in use alone. -/
inductive Within : Session → List Act → Session → Prop where
  /-- The point in front of the acts. -/
  | here {s : Session} {acts : List Act} : Within s acts s
  /-- A point behind the first act. -/
  | later {s after point : Session} {act : Act} {acts : List Act}
      (quiet : act.isQuiet = true) (ends : act.perform s = (.complete, after))
      (rest : Within after acts point) : Within s (act :: acts) point
  /-- A point in acts that are guarded. -/
  | guarded {s point : Session} {body acts : List Act}
      (inner : Within s body point) : Within s (.guarded body :: acts) point

variable {s next : Session} {active : ActiveSettings} {force : Bool}
  {changes : Table String Json}

/-! ## The settings that a session knows -/

/-- The settings in use and those to go back to. -/
def known (s : Session) : List ActiveSettings :=
  s.active.toList ++ s.overridden

/-- **The numbers tell settings from one another**: no two that a session knows
have the same, and none has that of the settings to come. -/
def TellsApart (s : Session) : Prop :=
  Numbered s.next s.known

/-- **What acts keep**: the settings to go back to, and that numbers tell settings
from one another. -/
structure Keeps (s next : Session) : Prop where
  /-- The settings to go back to are the same. -/
  overridden : next.overridden = s.overridden
  /-- Settings are told from one another still. -/
  apart : s.TellsApart → next.TellsApart

/-- What is done one after the other keeps what either keeps. -/
theorem Keeps.trans {last : Session} (first : s.Keeps next)
    (second : next.Keeps last) : s.Keeps last where
  overridden := second.overridden.trans first.overridden
  apart := second.apart ∘ first.apart

/-- Only files and surroundings are others. -/
theorem keeps_of_same (active : next.active = s.active)
    (overridden : next.overridden = s.overridden) (same : next.next = s.next) :
    s.Keeps next where
  overridden := overridden
  apart := by
    rw [TellsApart, TellsApart, known, known, active, overridden, same]
    exact id

theorem keeps_flush (s : Session) : s.Keeps s.flush where
  overridden := rfl
  apart := fun h => h.sublist (List.sublist_append_right _ _)

/-! ## Requests -/

/-- **The ways in which a request ends.** -/
inductive Got (s : Session) (force : Bool) :
    Except SettingDefect ActiveSettings × Session → Prop where
  /-- The settings in use are given. -/
  | kept {active : ActiveSettings} (inUse : s.active = some active)
      (free : force = false) : Got s force (.ok active, s)
  /-- Settings are loaded. -/
  | loaded {settings : Settings} (due : s.active = none ∨ force = true)
      (found : s.load = .ok settings) (printable : settings.id.isPrintable = true) :
      Got s force (.ok ⟨s.next, settings⟩, s.activate settings)
  /-- Settings are loaded that are called something without a printed form. -/
  | unprintable {settings : Settings} (due : s.active = none ∨ force = true)
      (found : s.load = .ok settings) (unprintable : settings.id.isPrintable = false) :
      Got s force (.error .unprintable, s.activate settings)
  /-- Settings cannot be loaded. -/
  | failed {defect : SettingDefect} (due : s.active = none ∨ force = true)
      (missing : s.load = .error defect) : Got s force (.error defect, s)

/-- **Every request ends in one of these ways.** -/
theorem got (s : Session) (force : Bool) : Got s force (s.get force) := by
  have asked := Chronicle.asked ⟨s, []⟩ force
  rw [← Chronicle.reply_asking ⟨s, []⟩ force]
  generalize (Chronicle.asking force).run ⟨s, []⟩ = outcome at asked ⊢
  cases asked with
  | kept inUse free => exact .kept inUse free
  | loaded due found printable => exact .loaded due found printable
  | unprintable due found unprintable => exact .unprintable due found unprintable
  | failed due missing => exact .failed due missing

theorem get_of_active (h : s.active = some active) :
    s.get false = (.ok active, s) := by
  simp [Session.get, Session.loads, h]

/-- A request that gives settings leaves them in use. -/
theorem active_of_get (h : s.get force = (.ok active, next)) :
    next.active = some active := by
  have got := got s force
  rw [h] at got
  cases got with
  | kept inUse free => exact inUse
  | loaded due found printable => rfl

/-- **A request keeps what acts keep.** -/
theorem keeps_get (s : Session) (force : Bool) : s.Keeps (s.get force).2 := by
  have got := got s force
  generalize s.get force = outcome at got ⊢
  cases got with
  | kept inUse free => exact ⟨rfl, id⟩
  | failed due missing => exact ⟨rfl, id⟩
  | loaded due found printable =>
    exact ⟨rfl, fun h => (h.sublist (List.sublist_append_right _ _)).cons _⟩
  | unprintable due found unprintable =>
    exact ⟨rfl, fun h => (h.sublist (List.sublist_append_right _ _)).cons _⟩

/-- **A request whose load fails** fails in the same way, and leaves the session
alone. -/
theorem get_of_load_error {defect : SettingDefect} (h : (s.get force).1 = .error defect)
    (missing : s.load = .error defect) : s.get force = (.error defect, s) := by
  have got := got s force
  generalize s.get force = outcome at got h ⊢
  cases got with
  | kept inUse free => cases h
  | loaded due found printable => cases h
  | unprintable due found unprintable =>
    rw [found] at missing
    cases missing
  | failed due missing' =>
    obtain rfl := Except.error.inj h
    rfl

/-- **Asking again** gives what has been given. -/
theorem get_get {active : ActiveSettings} (h : (s.get false).1 = .ok active) :
    (s.get false).2.get false = (.ok active, (s.get false).2) :=
  get_of_active (active_of_get (Prod.ext h rfl))

theorem keeps_step (s : Session) (call : Call) :
    s.Keeps (s.step call.step).2 := by
  cases call with
  | get force => exact keeps_get s force
  | flush => exact keeps_flush s
  | _ => exact keeps_of_same rfl rfl rfl

/-! ## How overrides begin and end -/

/-- **The ways in which an override begins.** -/
inductive Begun (s : Session) (changes : Table String Json) :
    Except SettingDefect ActiveSettings × Session → Prop where
  /-- There are no settings to override. -/
  | unloaded {after : Session} {defect : SettingDefect}
      (missing : s.get false = (.error defect, after)) :
      Begun s changes (.error defect, after)
  /-- The changes are rejected. -/
  | rejected {active : ActiveSettings} {after : Session} {defect : SettingDefect}
      (given : s.get false = (.ok active, after))
      (bad : active.settings.withChanges changes = .error defect) :
      Begun s changes (.error defect, after)
  /-- The changes are made. -/
  | entered {active : ActiveSettings} {after : Session} {settings : Settings}
      (given : s.get false = (.ok active, after))
      (good : active.settings.withChanges changes = .ok settings) :
      Begun s changes (.ok ⟨after.next, settings⟩,
        { after.activate settings with overridden := active :: after.overridden })

/-- **Every override begins in one of these ways.** -/
theorem begun (s : Session) (changes : Table String Json) :
    Begun s changes (s.override changes) := by
  unfold Session.override
  cases h : s.get false with
  | mk given after =>
    cases given with
    | error defect => exact .unloaded h
    | ok active =>
      cases made : active.settings.withChanges changes with
      | error defect => simpa only [made] using .rejected h made
      | ok settings => simpa only [made] using .entered h made

/-- **An override begins exactly if there are settings that accept the changes.** -/
theorem fst_override (s : Session) (changes : Table String Json) :
    (s.override changes).1 = (s.get false).1.bind fun active =>
      (active.settings.withChanges changes).map fun settings =>
        ⟨(s.get false).2.next, settings⟩ := by
  have begun := begun s changes
  generalize s.override changes = beginning at begun ⊢
  cases begun with
  | unloaded missing => rw [missing]; rfl
  | rejected given bad => rw [given, Except.bind, bad]; rfl
  | entered given good => rw [given, Except.bind, good]; rfl

/-- An override that does not begin leaves what a request leaves. -/
theorem override_error {defect : SettingDefect}
    (h : s.override changes = (.error defect, next)) :
    next = (s.get false).2 := by
  have begun := begun s changes
  rw [h] at begun
  cases begun with
  | unloaded missing => rw [missing]
  | rejected given bad => rw [given]

/-- An override that has begun has settings in use, and goes back to those that
were in use. -/
theorem override_ok {new : ActiveSettings} {entered : Session}
    (h : s.override changes = (.ok new, entered)) :
    ∃ active, (s.get false).1 = .ok active ∧
      active.settings.withChanges changes = .ok new.settings ∧
      entered.active = some new ∧
      entered.overridden = active :: s.overridden ∧
      (s.TellsApart → entered.TellsApart) := by
  have begun := begun s changes
  rw [h] at begun
  cases begun with
  | @entered active after settings given good =>
    have keeps : s.Keeps after := by simpa only [given] using keeps_get s false
    refine ⟨active, by rw [given], good, rfl,
      congrArg (active :: ·) keeps.overridden, fun h => ?_⟩
    have apart : Numbered after.next (active :: after.overridden) := by
      have apart := keeps.apart h
      rwa [TellsApart, known, active_of_get given] at apart
    exact apart.cons settings

/-- The end of an override brings back the settings on top. -/
theorem restore_of_overridden {rest : List ActiveSettings}
    (h : s.overridden = active :: rest) :
    s.restore = { s with active := some active, overridden := rest } := by
  rw [Session.restore, h]

/-- The end of an override leaves numbers that tell settings from one another. -/
theorem TellsApart.restore (h : s.TellsApart) : s.restore.TellsApart := by
  unfold Session.restore
  split
  · exact h
  · next before rest overridden =>
    rw [TellsApart, known, overridden] at h
    exact h.sublist (List.sublist_append_right _ _)

/-! ## What acts leave as it is -/

theorem performAll_of_complete {act : Act} (acts : List Act)
    (ends : act.perform s = (.complete, next)) :
    performAll s (act :: acts) = performAll next acts := by
  rw [performAll, ends]

theorem performAll_of_brokenOff {act : Act} (acts : List Act)
    (ends : act.perform s = (.brokenOff, next)) :
    performAll s (act :: acts) = (.brokenOff, next) := by
  rw [performAll, ends]

theorem perform_of_override_error {defect : SettingDefect} (body : List Act)
    (h : s.override changes = (.error defect, next)) :
    (Act.overriding changes body).perform s = (.brokenOff, next) := by
  rw [Act.perform, h]

theorem perform_of_override_ok {new : ActiveSettings} (body : List Act)
    (h : s.override changes = (.ok new, next)) :
    (Act.overriding changes body).perform s
      = ((performAll next body).1, (performAll next body).2.restore) := by
  rw [Act.perform, h]

/-- An override whose body keeps what acts keep **brings back the settings that
were given before it**, with the settings to go back to from then. -/
theorem restored {new : ActiveSettings} {entered last : Session}
    (h : s.override changes = (.ok new, entered)) (body : entered.Keeps last) :
    s.Keeps last.restore ∧ ∃ active, (s.get false).1 = .ok active ∧
      last.restore = { last with active := some active, overridden := s.overridden } := by
  obtain ⟨active, given, -, -, overridden, apart⟩ := override_ok h
  have back := restore_of_overridden (body.overridden.trans overridden)
  refine ⟨⟨?_, fun h => (body.apart (apart h)).restore⟩, active, given, back⟩
  rw [back]

mutual

/-- **Every act keeps the settings to go back to**, by the nesting of the acts: an override puts
its own on top, its body keeps them there, also if it breaks off, and the end takes them away
again. The induction is on acts and lists of acts at once. -/
theorem keeps_perform (s : Session) : (act : Act) → s.Keeps (act.perform s).2
  | .call call => keeps_step s call
  | .breakOff => ⟨rfl, id⟩
  | .guarded body => keeps_performAll s body
  | .overriding changes body => by
    cases h : s.override changes with
    | mk beginning entered =>
      cases beginning with
      | error defect =>
        rw [perform_of_override_error body h, override_error h]
        exact keeps_get s false
      | ok new =>
        rw [perform_of_override_ok body h]
        exact (restored h (keeps_performAll entered body)).1

/-- Acts keep the settings to go back to. -/
theorem keeps_performAll (s : Session) :
    (acts : List Act) → s.Keeps (performAll s acts).2
  | [] => ⟨rfl, id⟩
  | act :: acts => by
    have first := keeps_perform s act
    cases h : act.perform s with
    | mk ending next =>
      rw [h] at first
      cases ending with
      | brokenOff =>
        rw [performAll_of_brokenOff acts h]
        exact first
      | complete =>
        rw [performAll_of_complete acts h]
        exact first.trans (keeps_performAll next acts)

end

/-! ## What quiet acts leave as it is -/

/-- **An override leaves the settings in use alone**, whatever is done while it
lasts. -/
theorem active_overriding (changes : Table String Json) (body : List Act)
    (inUse : s.active = some active) :
    ((Act.overriding changes body).perform s).2.active = some active := by
  cases h : s.override changes with
  | mk beginning entered =>
    cases beginning with
    | error defect =>
      rw [perform_of_override_error body h, override_error h, get_of_active inUse]
      exact inUse
    | ok new =>
      obtain ⟨-, before, given, back⟩ := restored h (keeps_performAll entered body)
      rw [get_of_active inUse] at given
      cases given
      rw [perform_of_override_ok body h, back]

mutual

/-- **A quiet act leaves the settings in use alone.** -/
theorem active_perform {s : Session} (inUse : s.active = some active) :
    (act : Act) → act.isQuiet = true → (act.perform s).2.active = some active
  | .call call, quiet => by
    cases call with
    | get force =>
      obtain rfl : force = false := by simpa [Act.isQuiet] using quiet
      rw [Act.perform, Call.step, Session.step, get_of_active inUse]
      exact inUse
    | flush => cases quiet
    | _ => exact inUse
  | .breakOff, _ => inUse
  | .guarded body, quiet => active_performAll inUse body quiet
  | .overriding changes body, _ => active_overriding changes body inUse

/-- Quiet acts leave the settings in use alone. -/
theorem active_performAll {s : Session} (inUse : s.active = some active) :
    (acts : List Act) → areQuiet acts = true →
      (performAll s acts).2.active = some active
  | [], _ => inUse
  | act :: acts, quiet => by
    obtain ⟨now, later⟩ := Bool.and_eq_true_iff.mp quiet
    have first := active_perform inUse act now
    cases h : act.perform s with
    | mk ending next =>
      rw [h] at first
      cases ending with
      | brokenOff =>
        rw [performAll_of_brokenOff acts h]
        exact first
      | complete =>
        rw [performAll_of_complete acts h]
        exact active_performAll first acts later

end

/-- The settings in use are the same all the way. -/
theorem Within.inUse {point : Session} {acts : List Act} (h : Within s acts point)
    (inUse : s.active = some active) : point.active = some active := by
  induction h with
  | here => exact inUse
  | later quiet ends _ ih =>
    have first := active_perform inUse _ quiet
    rw [ends] at first
    exact ih first
  | guarded _ ih => exact ih inUse

/-! ## Overrides -/

/-- **After an override, a request gives what a second one would have given before
it.** -/
theorem get_overriding (s : Session) (changes : Table String Json) (body : List Act) :
    (((Act.overriding changes body).perform s).2.get false).1
      = ((s.get false).2.get false).1 := by
  cases h : s.override changes with
  | mk beginning entered =>
    cases beginning with
    | error defect => rw [perform_of_override_error body h, override_error h]
    | ok new =>
      obtain ⟨-, active, given, back⟩ := restored h (keeps_performAll entered body)
      rw [perform_of_override_ok body h, back, get_get given, get_of_active rfl]

/-- An override that is rejected leaves what a request leaves. -/
theorem overriding_of_error {defect : SettingDefect} (body : List Act)
    (h : (s.override changes).1 = .error defect) :
    (Act.overriding changes body).perform s = (.brokenOff, (s.get false).2) := by
  have rejected : s.override changes = (.error defect, (s.override changes).2) :=
    Prod.ext h rfl
  rw [perform_of_override_error body rejected, override_error rejected]

/-- **Overrides nest, and what they change is brought back.** Let some settings of
a session be overridden while any acts last: calls, failures, and overrides in
turn.

Afterwards a request gives what it would have given before, the very settings, and
there are the same settings to go back to. If there are no settings to override, or
if they do not accept the changes, then no act of the body is carried out. This is so
even if the settings are loaded for the override and cannot be given, since they are
called something without a printed form; then they are given afterwards.

If they do, the override ends as its body does, with the settings from before in
use. In the body, as long as settings are neither loaded anew nor forgotten, a
request gives the very settings that the override gave: other ones than those
around it, with the values that the override names, as they are read, and for the
rest those of the settings around it. -/
theorem overriding_restores (s : Session) (changes : Table String Json)
    (body : List Act) :
    let before := (s.get false).1
    let outcome := (Act.overriding changes body).perform s
    ((outcome.2.get false).1 = ((s.get false).2.get false).1 ∧
      outcome.2.overridden = s.overridden ∧ (s.TellsApart → outcome.2.TellsApart)) ∧
    (∀ defect, before = .error defect →
      outcome = (.brokenOff, (s.get false).2) ∧
      (s.load = .error defect →
        outcome = (.brokenOff, s) ∧ (outcome.2.get false).1 = before)) ∧
    ∀ active, before = .ok active →
      (outcome.2.get false).1 = before ∧
      (∀ defect, active.settings.withChanges changes = .error defect →
        (s.override changes).1 = .error defect ∧
        outcome = (.brokenOff, (s.get false).2)) ∧
      ∀ settings, active.settings.withChanges changes = .ok settings →
        ∃ new entered, s.override changes = (.ok new, entered) ∧
          new.settings = settings ∧
          entered.known = new :: active :: s.overridden ∧
          (s.TellsApart → entered.TellsApart) ∧
          (∀ name, settings.toTable.get? name
            = ((changes.get? name).map (Settings.settle name)).or
              (active.settings.toTable.get? name)) ∧
          (∀ point, Within entered body point → point.get false = (.ok new, point)) ∧
          outcome = ((performAll entered body).1,
            { (performAll entered body).2 with
              active := some active, overridden := s.overridden }) := by
  intro before outcome
  have keeps : s.Keeps outcome.2 := keeps_perform s _
  refine ⟨⟨get_overriding s changes body, keeps.overridden, keeps.apart⟩,
    fun defect (missing : (s.get false).1 = .error defect) => ?_,
    fun active (given : (s.get false).1 = .ok active) => ⟨?_, fun defect bad => ?_,
      fun settings made => ?_⟩⟩
  · have rejected : (s.override changes).1 = .error defect := by
      rw [fst_override, missing]
      rfl
    have unentered : outcome = (.brokenOff, (s.get false).2) :=
      overriding_of_error body rejected
    refine ⟨unentered, fun unloaded => ?_⟩
    have same := get_of_load_error missing unloaded
    rw [unentered, same]
    exact ⟨rfl, rfl⟩
  · show (outcome.2.get false).1 = (s.get false).1
    rw [get_overriding, get_get given, given]
  · have rejected : (s.override changes).1 = .error defect := by
      rw [fst_override, given, Except.bind, bad]
      rfl
    exact ⟨rejected, overriding_of_error body rejected⟩
  · have accepted : (s.override changes).1 = .ok ⟨(s.get false).2.next, settings⟩ := by
      rw [fst_override, given, Except.bind, made]
      rfl
    have begins : s.override changes = (.ok _, (s.override changes).2) :=
      Prod.ext accepted rfl
    obtain ⟨around, given', -, inUse, overridden, apart⟩ := override_ok begins
    obtain rfl := Except.ok.inj (given'.symm.trans given)
    obtain ⟨-, active, given', back⟩ := restored begins (keeps_performAll _ body)
    obtain rfl := Except.ok.inj (given'.symm.trans given)
    refine ⟨_, _, begins, rfl, ?_, apart, Settings.get?_toTable_of_withChanges made,
      fun point within => get_of_active (within.inUse inUse), ?_⟩
    · rw [known, inUse, overridden]
      rfl
    · rw [← back]
      exact perform_of_override_ok body begins

/-- One override in another: in the inner one settings are forgotten and loaded
anew, and it breaks off. Behind it the settings of the outer one are given again,
and after that one the packaged ones. -/
theorem overriding_restores_nested :
    let level (name : String) : Table String Json := [("log_level", .text name)]
    let inner :=
      Act.overriding (level "error") [.call .flush, .call (.get true), .breakOff]
    let outcome := (Act.overriding (level "debug") [.guarded [inner]]).perform {}
    ∃ new entered, Session.override {} (level "debug") = (.ok new, entered) ∧
      new.settings.logLevel = .debug ∧
      ((performAll entered [inner]).2.get false).1 = .ok new ∧
      outcome.1 = .complete ∧ (outcome.2.get false).1 = .ok ⟨0, Settings.packaged⟩ := by
  intro level inner outcome
  have packaged : (Session.get {} false).1 = .ok ⟨0, Settings.packaged⟩ := rfl
  have made : (Settings.packaged.withChanges (level "debug")).toOption.map
      Settings.logLevel = some .debug := by
    decide +kernel
  obtain ⟨-, -, around⟩ := overriding_restores {} (level "debug") [.guarded [inner]]
  obtain ⟨back, -, accepted⟩ := around _ packaged
  cases h : Settings.packaged.withChanges (level "debug") with
  | error defect =>
    rw [h] at made
    cases made
  | ok settings =>
    rw [h] at made
    obtain ⟨new, entered, begins, rfl, -, -, -, inside, ends⟩ :=
      accepted settings h
    have behind : Within entered [.guarded [inner]] (performAll entered [inner]).2 :=
      .later rfl rfl .here
    exact ⟨new, entered, begins, Option.some.inj made,
      congrArg Prod.fst (inside _ behind), congrArg Prod.fst ends,
      back.trans packaged⟩

end Session

end GeoCatalogue
