import GeoCatalogue.Command.Tasks
import GeoCatalogue.Journal.Setup

/-!
# Reports of the command

The command prints what a task gives as JSON, and exits with status
zero. A fault in values is told in the journal and in a line of its own,
and the exit status is one; any other fault ends the command. What the
journal shows, and how, is for the invocation to choose, and else for the
settings. These are asked for before the task, and settings that cannot be
loaded end the command.

* `runIn` – the report of an invocation in a session;
* `run` – the report of an invocation with the packaged settings;
* `Report.errorText` – the text that goes to the standard error stream.
-/
namespace GeoCatalogue.Command

open Journal

/-- **What comes of an invocation.** -/
structure Report where
  /-- The exit status, or the fault that has ended the command. -/
  status : Except Fault Nat
  /-- The text for the standard output stream. -/
  output : String
  /-- The journal. -/
  logbook : Logbook
  /-- The records left. -/
  records : List Record
  /-- The line that tells a fault in values. -/
  complaint : Option String
  /-- The requests sent. -/
  requests : List Request

/-- The level that an invocation chooses, if it does. -/
def Invocation.level (invocation : Invocation) : Option String :=
  match invocation.verbosity with
  | 0 => none
  | 1 => some "INFO"
  | _ => some "DEBUG"

/-- What an invocation asks of the journal. -/
def Invocation.wish (invocation : Invocation) : Wish :=
  ⟨invocation.level, if invocation.jsonLogs then some true else none⟩

/-- The settings to set the journal up with, and the session afterwards. An
invocation that leaves nothing to the settings does not ask for them. -/
def Invocation.settingsIn (session : Session) (invocation : Invocation) :
    Except SettingDefect Settings × Session :=
  if invocation.wish.needsSettings then
    let (outcome, after) := session.get false
    (outcome.map ActiveSettings.settings, after)
  else (.ok Settings.packaged, session)

/-- The words for a fault in values. -/
def complaintOf (fault : Fault) : String :=
  fault.message?.getD ""

/-- The record of a fault in values. -/
def failureNotice (verb : Verb) (fault : Fault) : Record :=
  ⟨.error, .command, verb.text ++ " failed: " ++ complaintOf fault⟩

/-- The report of a command that has ended before its task. -/
def Report.ended (fault : Fault) (logbook : Logbook) : Report :=
  ⟨.error fault, "", logbook, [], none, []⟩

/-- **The report of what has come of a task.** -/
def Report.ofOutcome (verb : Verb) (logbook : Logbook)
    (outcome : Except Fault Json) (after : Progress) : Report :=
  match outcome with
  | .ok result =>
    ⟨.ok 0, result.indented ++ "\n", logbook, after.records, none,
      after.requests⟩
  | .error fault =>
    if fault.isValueFault then
      ⟨.ok 1, "", logbook, after.records ++ [failureNotice verb fault],
        some (complaintOf fault), after.requests⟩
    else ⟨.error fault, "", logbook, after.records, none, after.requests⟩

/-- **The report of an invocation** in a session. -/
def runIn (s : Surroundings) (session : Session)
    (invocation : Invocation) : Report :=
  let (found, session) := invocation.settingsIn session
  match found with
  | .error defect => .ended (.setting defect) {}
  | .ok settings =>
    match Logbook.setUp {} settings invocation.wish 0 with
    | (.error fault, logbook) => .ended fault logbook
    | (.ok (), logbook) =>
      let (outcome, after) :=
        (invocation.task.perform s).run.run { session := session }
      .ofOutcome invocation.task.verb logbook outcome after

/-- **The report of an invocation** where nothing names other settings than the
packaged ones. -/
def run (s : Surroundings) (invocation : Invocation) : Report :=
  runIn s {} invocation

/-- The lines that records make at a time. -/
def Report.journalLines (report : Report) (time : String) : List String :=
  report.records.flatMap fun record =>
    (report.logbook.write time record.entry).map Prod.snd

/-- **The text for the standard error stream**, its records made at a
time. -/
def Report.errorText (report : Report) (time : String) : String :=
  String.join ((report.journalLines time ++ report.complaint.toList).map
    (· ++ "\n"))

end GeoCatalogue.Command
