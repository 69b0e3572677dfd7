import GeoCatalogue.Command.Report
import GeoCatalogue.Proofs.Client.Calls
import GeoCatalogue.Proofs.Settings.Overrides

/-!
# What the tasks of the command come to

While a task is carried out, records are left, requests are sent and settings are
loaded. None of this matters for what the task gives: **wherever some settings are
offered, an activity gives the same outcome** (`Activity.Gives`), and this is found by
following it step by step.

So every task has an outcome that only the functions of the library are needed for
(`Task.outcome`), and carrying the task out gives it (`Task.gives_perform`). What the
command reports is that outcome (`exists_runIn_eq`).
-/
namespace GeoCatalogue

namespace Fault

variable {α β : Type}

theorem lift_bind (x : Except Failure α) (f : α → Except Failure β) :
    lift (x >>= f) = lift x >>= fun a => lift (f a) := by
  cases x with
  | error cause => rfl
  | ok a => rfl

/-- Steps in order among all that can go wrong. -/
theorem lift_foldlM (f : β → α → Except Failure β) (as : List α) (b : β) :
    lift (as.foldlM f b) = as.foldlM (fun b a => lift (f b a)) b := by
  induction as generalizing b with
  | nil => rfl
  | cons a as ih =>
    rw [List.foldlM_cons, List.foldlM_cons, lift_bind]
    exact bind_congr fun b' => ih b'

end Fault

namespace Command

/-! ## Settings on offer -/

/-- **A session offers settings**: asking for the settings in use gives them. -/
def Offers (session : Session) (settings : Settings) : Prop :=
  ∃ active, (session.get false).1 = .ok active ∧ active.settings = settings

/-- Settings that have been asked for are still on offer. -/
theorem Offers.get {session : Session} {settings : Settings} (h : Offers session settings) :
    Offers (session.get false).2 settings := by
  obtain ⟨active, found, same⟩ := h
  exact ⟨active, congrArg Prod.fst (Session.get_get found), same⟩

/-- Where settings are on offer, a surveyor has a store of operations. -/
theorem Offers.getStore {s : Surveyor} {settings : Settings} (h : Offers s.session settings) :
    ∃ store after, s.getStore = (.ok store, after) ∧ Offers after.session settings := by
  unfold Surveyor.getStore
  split
  · next store _ => exact ⟨store, s, rfl, h⟩
  · have later := h.get
    obtain ⟨active, found, -⟩ := h
    generalize s.session.get false = asked at found later
    obtain ⟨answer, after⟩ := asked
    obtain rfl : answer = .ok active := found
    exact ⟨_, _, rfl, later⟩

/-- Where settings are on offer, an operation is found or not by the cache alone. -/
theorem Offers.operation {s : Surveyor} {settings : Settings} (h : Offers s.session settings)
    (g : Geodesy) (source target : Option String) :
    ∃ outcome after, s.operation g source target = (Surveyor.given outcome, after) ∧
      Offers after.session settings := by
  obtain ⟨store, after, got, later⟩ := h.getStore
  unfold Surveyor.operation
  rw [got]
  exact ⟨_, _, rfl, later⟩

namespace Activity

variable {α β : Type} {settings : Settings} {x : Activity α} {y : Except Fault α}

/-- **An activity gives an outcome** wherever the settings are on offer, and leaves them
on offer. -/
def Gives (settings : Settings) (x : Activity α) (y : Except Fault α) : Prop :=
  ∀ p : Progress, Offers p.session settings →
    ∃ q : Progress, x.run.run p = (y, q) ∧ Offers q.session settings

/-- What two activities do one after the other. -/
theorem run_bind (x : Activity α) (f : α → Activity β) (p : Progress) :
    (x >>= f).run.run p = match x.run.run p with
      | (.ok a, q) => (f a).run.run q
      | (.error fault, q) => (.error fault, q) := by
  show (match x.run.run p with | (a, q) => (ExceptT.bindCont f a).run q) = _
  rcases x.run.run p with ⟨_ | _, q⟩
  · rfl
  · rfl

@[simp] theorem run_get (p : Progress) : (get : Activity Progress).run.run p = (.ok p, p) := rfl

@[simp] theorem run_modify (change : Progress → Progress) (p : Progress) :
    (modify change : Activity Unit).run.run p = (.ok (), change p) := rfl

@[simp] theorem run_note (records : List Journal.Record) (p : Progress) :
    (note records).run.run p = (.ok (), { p with records := p.records ++ records }) := rfl

theorem gives_pure (settings : Settings) (a : α) :
    Gives settings (pure a) (.ok a) :=
  fun p offered => ⟨p, rfl, offered⟩

/-- **Two activities one after the other** give what their outcomes come to. -/
theorem Gives.bind {f : α → Activity β} {g : α → Except Fault β} (h : Gives settings x y)
    (next : ∀ a, y = .ok a → Gives settings (f a) (g a)) :
    Gives settings (x >>= f) (y >>= g) := by
  intro p offered
  obtain ⟨q, ran, offered⟩ := h p offered
  rw [run_bind, ran]
  cases y with
  | error fault => exact ⟨q, rfl, offered⟩
  | ok a => exact next a rfl q offered

theorem Gives.then {x : Activity Unit} {z : Activity β} {w : Except Fault β}
    (h : Gives settings x (.ok ())) (next : Gives settings z w) :
    Gives settings (do x; z) w :=
  h.bind fun _ _ => next

theorem gives_note (settings : Settings) (records : List Journal.Record) :
    Gives settings (note records) (.ok ()) :=
  fun p offered => ⟨_, run_note records p, offered⟩

theorem gives_give (settings : Settings) (y : Except Fault α) :
    Gives settings (give y) y :=
  fun p offered => ⟨p, rfl, offered⟩

theorem gives_work (settings : Settings) (y : Except Failure α) :
    Gives settings (work y) (Fault.lift y) :=
  gives_give settings (Fault.lift y)

/-- **Asking for the settings gives those on offer.** -/
theorem gives_settings (settings : Settings) :
    Gives settings Activity.settings (.ok settings) := by
  intro p offered
  have later := offered.get
  obtain ⟨active, found, rfl⟩ := offered
  refine ⟨{ p with
    records := p.records ++ p.session.notices false
    session := (p.session.get false).2 }, ?_, later⟩
  unfold Activity.settings
  simp only [run_bind, run_get, run_note, run_modify, found]
  rfl

/-- An activity that asks for the settings first goes on with those on offer. -/
theorem Gives.of_settings {f : Settings → Activity α} (h : Gives settings (f settings) y) :
    Gives settings (Activity.settings >>= f) y := by
  intro p offered
  obtain ⟨q, ran, offered⟩ := gives_settings settings p offered
  rw [run_bind, ran]
  exact h q offered

theorem gives_ask (settings : Settings) (exchange : Exchange α) :
    Gives settings (ask exchange) exchange.result :=
  fun _ offered => ⟨_, rfl, offered⟩

/-- Looking up an operation between systems gives nothing, and does not fail. -/
theorem gives_prepareOperation (settings : Settings) (g : Geodesy)
    (source target : Option String) :
    Gives settings (prepareOperation g source target) (.ok ()) := by
  unfold prepareOperation
  split
  · intro p offered
    obtain ⟨outcome, after, looked, later⟩ := offered.operation g source target
    refine ⟨{ p with
      records := p.records ++ p.toSurveyor.notices source target
      toSurveyor := after }, ?_, later⟩
    simp only [run_bind, run_get, run_note, run_modify, looked]
    cases outcome <;> rfl
  · exact gives_pure settings ()

/-- **Members that are worked on in order** give what their outcomes come to. -/
theorem gives_mapM {f : α → Activity β} {g : α → Except Fault β}
    (each : ∀ a, Gives settings (f a) (g a)) (as : List α) :
    Gives settings (as.mapM f) (as.mapM g) := by
  induction as with
  | nil => exact gives_pure settings []
  | cons a as ih =>
    rw [List.mapM_cons, List.mapM_cons]
    exact (each a).bind fun b _ => ih.bind fun bs _ => gives_pure settings (b :: bs)

/-- **Steps that are taken in order** give what their outcomes come to. -/
theorem gives_foldlM {f : β → α → Activity β} {g : β → α → Except Fault β}
    (each : ∀ b a, Gives settings (f b a) (g b a)) (as : List α) (b : β) :
    Gives settings (as.foldlM f b) (as.foldlM g b) := by
  induction as generalizing b with
  | nil => exact gives_pure settings b
  | cons a as ih =>
    rw [List.foldlM_cons, List.foldlM_cons]
    exact (each b a).bind fun b' _ => ih b'

end Activity

/-! ## Outcomes of tasks -/

section Outcomes

open Activity

variable (s : Surroundings) (settings : Settings)

/-- The client of the service at an address. -/
def clientOf (url : String) : Client :=
  { url := url, settings := settings }

/-- **The document that a text leads to**: what the service at an address replies, the
text itself, or what a file holds. -/
def documentIn (source : String) : Except Fault Xml.Element :=
  if isAddress source then
    Client.documentIn (s.service [] (clientOf settings source).descriptionRequest)
  else s.files.document source

/-- The description that a text leads to. -/
def descriptionIn (source : String) : Except Fault Description := do
  let root ← documentIn s settings source
  Fault.lift (Description.ofElement 0 0 root)

/-- The URI that a template gives. -/
def builtFrom (d : Description) (params : List String) (t : UrlTemplate) :
    Except Fault String := do
  let values ← params.mapM (valueOf t)
  Fault.lift (d.registry.build t values)

/-- The URI that a template gives, if it is selected. -/
def uriOf (d : Description) (params : List String) (withParam : Option String)
    (t : UrlTemplate) : Except Fault (Option String) := do
  if ← Fault.lift (isSelected d withParam t) then
    let uri ← builtFrom d params t
    return some uri
  else return none

/-- The URIs that the templates of a description give. -/
def urisIn (d : Description) (params : List String) (withParam mediaType : Option String) :
    Except Fault (List String) :=
  (templatesFor d mediaType).filterMapM (uriOf d params withParam)

/-- The extent of boxes in the system that a setting names. -/
def mergedUnder (g : Geodesy) (setting : Json) (boxes : List Box) :
    Except Fault (Option Envelope) :=
  if Settings.isReference setting then do
    let merger ← Fault.lift (mergeBoxes g (Settings.reference? setting) boxes)
    .ok merger.merged
  else Dataset.withoutReference boxes

/-- A checked envelope as JSON. -/
def checkJson (checked : Envelope × Bool) : Json :=
  .object (envelopeMembers checked.1 ++ [("intersects", .bool checked.2)])

/-- The boxes of a response. -/
def boxesOf (source : String) : Except Fault (List Box) := do
  let root ← s.files.document source
  Box.findAll root Box.everywhere

/-- The boxes of a response, checked against an area. -/
def checksIn (source : String) (bounds : Bounds Extended) (crs : String) :
    Except Fault (List (Envelope × Bool)) := do
  let reference ← Fault.lift (Envelope.ofBounds bounds (some crs))
  let boxes ← boxesOf s source
  let candidates ← Fault.lift (boxes.mapM Box.normalize)
  Fault.lift (checkIntersections s.geodesy reference candidates)

/-- **What a task comes to**, as the library has it. -/
def Task.outcome : Task → Except Fault Json
  | templates source => do
    let d ← descriptionIn s settings source
    return .list (d.templates.map (templateJson d))
  | buildUri source params withParam mediaType => do
    let d ← descriptionIn s settings source
    let uris ← urisIn d params withParam mediaType
    return .list (uris.map .text)
  | extent path => do
    let d ← Dataset.ofFile s.files path
    let e ← d.extentUnder s.geodesy settings.canonicalCrs
    return extentJson e
  | intersects source bounds crs => do
    let checked ← checksIn s source bounds crs
    return .list (checked.map checkJson)

variable {s settings}

/-- What the service at an address describes itself by. -/
theorem result_describe (url : String) :
    ((clientOf settings url).describe s.service false).result = (do
      let root ← Client.documentIn (s.service [] (clientOf settings url).descriptionRequest)
      Fault.lift (Description.ofElement 0 0 root)) := by
  have reloaded := Client.reloaded s.service (clientOf settings url)
  show ((clientOf settings url).reload s.service).result = _
  generalize (clientOf settings url).reload s.service = exchange at reloaded ⊢
  cases reloaded with
  | unread broken =>
    rw [show Client.documentIn (s.service [] _) = _ from broken]
    rfl
  | undescribed brought broken =>
    rw [show Client.documentIn (s.service [] _) = _ from brought, Except.ok_bind,
      show Description.ofElement 0 0 _ = _ from broken]
    rfl
  | read brought described =>
    rw [show Client.documentIn (s.service [] _) = _ from brought, Except.ok_bind,
      show Description.ofElement 0 0 _ = _ from described]
    rfl

/-- **The description that a text leads to** is given. -/
theorem gives_description (source : String) :
    Gives settings (description s source) (descriptionIn s settings source) := by
  unfold description descriptionIn documentIn
  split
  · have asked := gives_ask settings ((clientOf settings source).describe s.service false)
    rw [result_describe] at asked
    exact .of_settings asked
  · exact (gives_give settings _).bind fun root _ =>
      (gives_note settings _).then (gives_work settings _)

theorem gives_buildUri (d : Description) (params : List String) (t : UrlTemplate) :
    Gives settings (buildUri d params t) (builtFrom d params t) :=
  (gives_give settings _).bind fun _ _ => (gives_note settings _).then (gives_work settings _)

/-- The URIs of the templates that are selected are given. -/
theorem gives_buildSelected (d : Description) (params : List String)
    (withParam : Option String) (ts : List UrlTemplate) :
    Gives settings (buildSelected d params withParam ts)
      (ts.filterMapM (uriOf d params withParam)) := by
  induction ts with
  | nil => exact gives_pure settings []
  | cons t rest ih =>
    rw [List.filterMapM_cons]
    unfold buildSelected uriOf
    rw [bind_assoc]
    refine (gives_work settings _).bind fun selected _ => ?_
    cases selected with
    | true =>
      rw [if_pos rfl, if_pos rfl, bind_assoc]
      exact (gives_buildUri d params t).bind fun uri _ =>
        ih.bind fun uris _ => gives_pure settings (uri :: uris)
    | false => exact ih

theorem gives_mergeBox (g : Geodesy) (m : Merger) (box : Box) :
    Gives settings (mergeBox g m box) (Fault.lift (m.addBox g box)) := by
  unfold Merger.addBox
  rw [Fault.lift_bind]
  exact (gives_work settings _).bind fun e _ =>
    (gives_prepareOperation settings g _ _).then (gives_work settings _)

theorem gives_mergeAll (g : Geodesy) (setting : Json) (boxes : List Box) :
    Gives settings (mergeAll g setting boxes) (mergedUnder g setting boxes) := by
  unfold mergeAll mergedUnder
  split
  · rw [mergeBoxes, Fault.lift_foldlM]
    exact (gives_foldlM (gives_mergeBox g) boxes _).bind fun m _ =>
      gives_pure settings m.merged
  · exact gives_give settings _

/-- The extent of sample data is that of the boxes of its records. -/
theorem extentUnder_eq (g : Geodesy) (setting : Json) (d : Dataset) :
    d.extentUnder g setting = d.boxes >>= mergedUnder g setting := by
  unfold Dataset.extentUnder Dataset.extentIn mergedUnder
  split
  · rfl
  · rfl

theorem gives_extentOf (path : String) :
    Gives settings (extentOf s path) (Task.outcome s settings (.extent path)) := by
  refine (gives_give settings _).bind fun d _ => (gives_note settings _).then (.of_settings ?_)
  rw [extentUnder_eq, bind_assoc]
  exact (gives_note settings _).then ((gives_give settings _).bind fun boxes _ =>
    (gives_mergeAll s.geodesy _ boxes).bind fun extent _ =>
      gives_pure settings (extentJson extent))

theorem gives_boxesIn (source : String) :
    Gives settings (boxesIn s source) (boxesOf s source) :=
  (gives_give settings _).bind fun _ _ => (gives_note settings _).then (gives_give settings _)

theorem gives_checkEnvelope (g : Geodesy) (reference candidate : Envelope) :
    Gives settings (checkEnvelope g reference candidate)
      (Fault.lift (intersects g reference candidate) >>= fun found =>
        .ok (checkJson (candidate, found))) := by
  refine (gives_prepareOperation settings g _ _).then
    ((gives_work settings _).bind fun found _ => ?_)
  cases found with
  | true => exact gives_pure settings _
  | false => exact (gives_note settings _).then (gives_pure settings _)

/-- Checked envelopes as JSON. -/
theorem mapM_checkJson (g : Geodesy) (reference : Envelope) (candidates : List Envelope) :
    (candidates.mapM fun candidate =>
      Fault.lift (intersects g reference candidate) >>= fun found =>
        .ok (checkJson (candidate, found)))
      = Fault.lift (checkIntersections g reference candidates) >>= fun checked =>
        .ok (checked.map checkJson) := by
  unfold checkIntersections
  induction candidates with
  | nil => rfl
  | cons candidate rest ih =>
    rw [List.mapM_cons, List.mapM_cons, ih]
    cases intersects g reference candidate with
    | error cause => rfl
    | ok found =>
      cases (rest.mapM fun candidate => do
        let found ← intersects g reference candidate
        Except.ok (candidate, found)) with
      | error cause => rfl
      | ok checked => rfl

/-- The boxes of a response are checked. -/
theorem gives_checkBoxes (source : String) (bounds : Bounds Extended) (crs : String) :
    Gives settings (checkBoxes s source bounds crs)
      (Task.outcome s settings (.intersects source bounds crs)) := by
  show Gives settings _ (checksIn s source bounds crs >>= fun checked =>
    .ok (Json.list (checked.map checkJson)))
  unfold checksIn
  rw [bind_assoc]
  refine (gives_work settings _).bind fun reference _ => ?_
  rw [bind_assoc]
  refine (gives_boxesIn source).bind fun boxes _ => ?_
  rw [bind_assoc]
  refine (gives_work settings _).bind fun candidates _ => ?_
  have checked : Gives settings (candidates.mapM (checkEnvelope s.geodesy reference)) _ :=
    gives_mapM (gives_checkEnvelope s.geodesy reference) candidates
  rw [mapM_checkJson] at checked
  have printed := checked.bind (g := fun items => .ok (Json.list items))
    fun items _ => gives_pure settings (Json.list items)
  rwa [bind_assoc] at printed

/-- **Carrying out a task gives its outcome.** -/
theorem Task.gives_perform (task : Task) :
    Gives settings (task.perform s) (task.outcome s settings) := by
  cases task with
  | templates source =>
    exact (gives_description source).bind fun d _ => gives_pure settings _
  | buildUri source params withParam mediaType =>
    refine (gives_description source).bind fun d _ =>
      (gives_buildSelected d params withParam _).bind fun uris _ => ?_
    cases uris with
    | nil => exact (gives_note settings _).then (gives_pure settings _)
    | cons uri rest => exact gives_pure settings _
  | extent path => exact gives_extentOf path
  | intersects source bounds crs => exact gives_checkBoxes source bounds crs

end Outcomes

/-! ## Reports -/

section Reports

open Journal

variable {s : Surroundings} {session : Session} {settings : Settings}

theorem levelName_of_some {wish : Wish} (name : String) (asked : wish.level = some name)
    (nonempty : name ≠ "") : wish.levelName settings = name := by
  unfold Wish.levelName
  rw [asked]
  dsimp only
  rw [decide_eq_false nonempty, Bool.false_and]
  rfl

/-- The journal can be set up as an invocation asks for it: its level is that of the
invocation or that of the settings. -/
theorem exists_setUp_eq (invocation : Invocation) (settings : Settings) :
    ∃ logbook, Logbook.setUp {} settings invocation.wish 0 = (.ok (), logbook) := by
  have known : ∃ threshold,
      thresholds.lookup (Text.upper (invocation.wish.levelName settings)) = some threshold := by
    obtain ⟨verbosity, jsonLogs, task⟩ := invocation
    match verbosity with
    | 0 =>
      show ∃ threshold, thresholds.lookup (Text.upper settings.logLevel.text) = some threshold
      cases settings.logLevel <;> exact ⟨_, rfl⟩
    | 1 =>
      rw [levelName_of_some "INFO" rfl (by simp)]
      exact ⟨_, rfl⟩
    | n + 2 =>
      rw [levelName_of_some "DEBUG" rfl (by simp)]
      exact ⟨_, rfl⟩
  obtain ⟨threshold, found⟩ := known
  unfold Logbook.setUp
  dsimp only
  rw [found]
  exact ⟨_, rfl⟩

/-- The journal is set up with settings that are on offer, and they stay there. -/
theorem Offers.settingsIn (offered : Offers session settings) (invocation : Invocation) :
    ∃ found after, invocation.settingsIn session = (.ok found, after) ∧
      Offers after settings := by
  unfold Invocation.settingsIn
  split
  · have later := offered.get
    obtain ⟨active, found, -⟩ := offered
    refine ⟨active.settings, (session.get false).2, ?_, later⟩
    show ((session.get false).1.map _, _) = _
    rw [found]
    rfl
  · exact ⟨_, _, rfl, offered⟩

/-- **A report tells the outcome of the task**, if settings are on offer. The outcome is that
of a computation without a session or a logbook: once settings are on offer, everybody who
asks for them gets the same, and what is recorded on the way has no part in the result. -/
theorem exists_runIn_eq (offered : Offers session settings) (s : Surroundings)
    (invocation : Invocation) :
    ∃ logbook after, runIn s session invocation
      = .ofOutcome invocation.task.verb logbook (invocation.task.outcome s settings)
          after := by
  obtain ⟨found, start, hfound, offered⟩ := offered.settingsIn invocation
  obtain ⟨logbook, hlogbook⟩ := exists_setUp_eq invocation found
  obtain ⟨after, performed, -⟩ :=
    invocation.task.gives_perform (s := s) { session := start } offered
  refine ⟨logbook, after, ?_⟩
  unfold runIn
  rw [hfound]
  dsimp only
  rw [hlogbook]
  dsimp only
  rw [performed]

end Reports

end Command

end GeoCatalogue
