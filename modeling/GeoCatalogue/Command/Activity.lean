import GeoCatalogue.Client
import GeoCatalogue.Envelope.Surveyor
import GeoCatalogue.Extent
import GeoCatalogue.Files

/-!
# Activities of the command

While the command works, it leaves records, sends requests, loads the
settings when it first needs them and looks up operations between systems.
An `Activity` gives a result or a fault and keeps account of all this in
its `Progress`, also when it ends in a fault. The results themselves come
from the functions of the library; what is here only adds the account.

* `Activity.note` – records are left;
* `Activity.settings` – the settings;
* `Activity.ask` – something is asked of a service;
* `Activity.prepareOperation` – the operation between two systems is
  looked up.
-/
namespace GeoCatalogue.Command

open Journal

/-- **What has happened so far**, in the session and to the operations of a
surveyor. -/
structure Progress extends Surveyor where
  /-- The records left. -/
  records : List Record := []
  /-- The requests sent. -/
  requests : List Request := []

/-- **Work with a result or a fault**, and an account of it. -/
abbrev Activity := ExceptT Fault (StateM Progress)

/-- **What the command works with.** -/
structure Surroundings where
  /-- The files. -/
  files : Files
  /-- The services. -/
  service : Service
  /-- What is known about systems. -/
  geodesy : Geodesy

namespace Activity

/-- **Leaves records.** -/
def note (records : List Record) : Activity Unit :=
  modify fun progress =>
    { progress with records := progress.records ++ records }

/-- Gives what has been worked out. -/
def give {α : Type} (outcome : Except Fault α) : Activity α :=
  ExceptT.mk (pure outcome)

/-- Gives what has been worked out or fails. -/
def work {α : Type} (outcome : Except Failure α) : Activity α :=
  give (Fault.lift outcome)

/-- **The settings**, loaded if they are not in use yet. -/
def settings : Activity Settings := do
  let session := (← get).session
  note (session.notices false)
  let (outcome, after) := session.get false
  modify fun progress => { progress with session := after }
  match outcome with
  | .ok active => return active.settings
  | .error defect => throw (.setting defect)

/-- **Gives what is asked of a service.** -/
def ask {α : Type} (exchange : Exchange α) : Activity α := do
  modify fun progress =>
    { progress with requests := progress.requests ++ exchange.requests }
  note exchange.records
  give exchange.result

/-- **Looks up the operation between two systems**, if they differ. That
there is none is left for the transformation to tell. -/
def prepareOperation (g : Geodesy) (source target : Option String) :
    Activity Unit := do
  match Crs.same g source target with
  | .ok false => do
    let surveyor := (← get).toSurveyor
    note (surveyor.notices source target)
    let (outcome, after) := surveyor.operation g source target
    modify fun progress => { progress with toSurveyor := after }
    match outcome with
    | .error (.setting defect) => throw (.setting defect)
    | _ => return
  | _ => return

end Activity

end GeoCatalogue.Command
