import GeoCatalogue.Settings.Basic
import GeoCatalogue.Settings.Display

/-!
# Sessions

Settings are loaded once and kept. They come from the file that the
surroundings name, or are the packaged ones. For a while, some of them
can be **overridden**; afterwards the settings from before are there
again, whatever happened in between.

Settings that have been loaded are in use from then on, and only afterwards
a record tells what they are called. If that has no printed form, the
request for the settings fails at this point, and the settings are in use
all the same.

* `Session.load` – the settings that the surroundings name;
* `Session.get` – the settings in use, loaded if there are none or if a
  load is forced. A load that fails leaves the ones in use as they are;
* `Session.override`, `Session.restore` – the beginning and the end of an
  override;
* `Session.step` – one step of a session, with the records it leaves.

Settings in use are told apart by serial numbers: a new number for every
load and for every override.
-/
namespace GeoCatalogue

open Text Journal

/-- **What a file of settings holds.** -/
inductive SettingsFile where
  /-- Settings, by a table of names and values. -/
  | settings (table : Table String Json)
  /-- Some other value in the place of the settings. -/
  | value (content : Json)
  /-- Nothing in the place of the settings. -/
  | nothing

/-- **Settings in use.** -/
structure ActiveSettings where
  /-- The number that tells them from all others. -/
  serial : Nat
  /-- The settings. -/
  settings : Settings

/-- **A session**: the surroundings and the settings in use. -/
structure Session where
  /-- The files of settings, by their paths; the last one of a path
  counts, and an absent one has been removed. -/
  files : Table String (Option SettingsFile) := []
  /-- The path that the surroundings name. -/
  path : Option String := none
  /-- The settings in use, if any have been loaded. -/
  active : Option ActiveSettings := none
  /-- The settings to go back to, the innermost override first. -/
  overridden : List ActiveSettings := []
  /-- The next serial number. -/
  next : Nat := 0

namespace Session

/-- The settings in a file. -/
def readFile (path : String) : Option SettingsFile →
    Except SettingDefect Settings
  | none => .error (.missingFile path)
  | some (.settings table) => Settings.ofTable table
  | some (.value content) => .error (.notSettings path content.kindText)
  | some .nothing => .error (.notSettings path Json.null.kindText)

/-- **The settings that the surroundings name.** -/
def load (s : Session) : Except SettingDefect Settings :=
  match s.path with
  | none => .ok Settings.packaged
  | some path => readFile path ((s.files.get? path).getD none)

/-- The session with settings in use that have a new serial number. -/
def activate (s : Session) (settings : Settings) : Session :=
  { s with active := some ⟨s.next, settings⟩, next := s.next + 1 }

/-- Settings that a record tells of, if what they are called has a printed
form. -/
def recorded (active : ActiveSettings) : Except SettingDefect ActiveSettings :=
  if active.settings.id.isPrintable then .ok active else .error .unprintable

/-- Whether a request for settings makes a session load them. -/
def loads (s : Session) (force : Bool) : Bool :=
  s.active.isNone || force

/-- **The settings in use**, and the session after the request. -/
def get (s : Session) (force : Bool) :
    Except SettingDefect ActiveSettings × Session :=
  if s.loads force then
    match s.load with
    | .ok settings => (recorded ⟨s.next, settings⟩, s.activate settings)
    | .error defect => (.error defect, s)
  else
    match s.active with
    | some active => (.ok active, s)
    | none => (.ok ⟨s.next, Settings.packaged⟩, s)

/-- The records of a request for settings: one for a load, if what the
settings are called has a printed form. -/
def notices (s : Session) (force : Bool) : List Record :=
  if s.loads force then
    match s.load with
    | .ok settings =>
      if settings.id.isPrintable then
        [⟨.info, .settings,
          "Loaded config _config.id=" ++ settings.id.display⟩]
      else []
    | .error _ => []
  else []

/-- The session without settings in use. -/
def flush (s : Session) : Session :=
  { s with active := none }

/-- **The session with some of its settings overridden.** -/
def override (s : Session) (changes : Table String Json) :
    Except SettingDefect ActiveSettings × Session :=
  match s.get false with
  | (.error defect, after) => (.error defect, after)
  | (.ok active, after) =>
    match active.settings.withChanges changes with
    | .error defect => (.error defect, after)
    | .ok settings =>
      (.ok ⟨after.next, settings⟩,
        { after.activate settings with
          overridden := active :: after.overridden })

/-- **The session after the innermost override.** -/
def restore (s : Session) : Session :=
  match s.overridden with
  | [] => s
  | before :: rest => { s with active := some before, overridden := rest }

/-- The session with a file written. -/
def write (s : Session) (path : String) (file : SettingsFile) : Session :=
  { s with files := s.files ++ [(path, some file)] }

/-- The session with a file removed. -/
def remove (s : Session) (path : String) : Session :=
  { s with files := s.files ++ [(path, none)] }

/-- **A step of a session.** -/
inductive Step where
  /-- A file is written. -/
  | write (path : String) (file : SettingsFile)
  /-- A file is removed. -/
  | remove (path : String)
  /-- The surroundings name a file, or none. -/
  | choose (path : Option String)
  /-- The settings are asked for. -/
  | get (force : Bool)
  /-- The settings in use are forgotten. -/
  | flush
  /-- An override begins. -/
  | override (changes : Table String Json)
  /-- The innermost override ends. -/
  | restore

/-- The settings that a step gives, if it gives any. -/
def given (result : Except SettingDefect ActiveSettings) :
    Except SettingDefect (Option ActiveSettings) :=
  result.map some

/-- **What a step gives, and the session after it.** -/
def step (s : Session) :
    Step → Except SettingDefect (Option ActiveSettings) × Session
  | .write path file => (.ok none, s.write path file)
  | .remove path => (.ok none, s.remove path)
  | .choose path => (.ok none, { s with path := path })
  | .get force => (given (s.get force).1, (s.get force).2)
  | .flush => (.ok none, s.flush)
  | .override changes => (given (s.override changes).1, (s.override changes).2)
  | .restore => (.ok none, s.restore)

/-- The records that a step leaves. -/
def stepNotices (s : Session) : Step → List Record
  | .get force => s.notices force
  | .override _ => s.notices false
  | _ => []

end Session

end GeoCatalogue
