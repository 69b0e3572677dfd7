import GeoCatalogue.Proofs.Name.Tables
import GeoCatalogue.Proofs.Template.Registration
import GeoCatalogue.Proofs.Template.Substitution
import Mathlib.Data.List.Nodup

/-!
# A registry at work

Templates are made, they are registered – with the parameters that their
placeholders declare or with given ones, once or again, successfully or in
vain – and in between the registry is read. Whatever the order of these
calls is, the registry **reflects the log** of the registrations that went
well (`Workbench.Reflects`): it has the templates of the log, each at the
place of its first entry, and for each of them the parameters of its last
entry.

The log is kept per template, and templates are told apart by number. A
template that is made gets a number that none has had before, so one that says
the same as another has entries of its own (`Workbench.Reflects.same_iff`). Two
kinds of calls change anything at all, making a template and registering one
successfully, and each of them has a step lemma; every other call leaves
everything as it is (`Workbench.after_of_isRead`).
-/
namespace GeoCatalogue

/-- The parameters that a registration is about to put into the registry, if
they can be worked out. -/
def Registration.parameters :
    Registration → Except Failure (List Parameter)
  | declared t => t.parameters
  | given _ parameters => .ok parameters

/-- **Templates that have been made, and a registry for them.** -/
structure Workbench where
  /-- The templates, in the order in which they were made. -/
  made : List UrlTemplate := []
  /-- The registry. -/
  registry : Registry := {}

namespace Workbench

/-! ## Calls -/

/-- **What is asked for.** -/
inductive Call where
  /-- A new template. -/
  | make (template mediaType rel : String) (offsets : Offsets)
      (bindings : Bindings)
  /-- To register a template. -/
  | register (step : Registration)
  /-- The templates that are registered. -/
  | templates
  /-- How many templates are registered. -/
  | size
  /-- Whether a template is registered. -/
  | contains (t : UrlTemplate)
  /-- The parameters of a template. -/
  | parameters (t : UrlTemplate)
  /-- The templates that declare a name, among some or among all that are
  registered. -/
  | filter (name : QName) (among : Option (List UrlTemplate))
  /-- The URI of a request. -/
  | build (t : UrlTemplate) (values : Values)

/-- **What is given back.** -/
inductive Reply where
  /-- A template. -/
  | template (t : UrlTemplate)
  /-- Some templates. -/
  | templates (ts : List UrlTemplate)
  /-- A number. -/
  | count (n : Nat)
  /-- Yes or no. -/
  | truth (answer : Bool)
  /-- Some parameters. -/
  | parameters (ps : List Parameter)
  /-- A URI. -/
  | uri (text : String)

/-- **A call**, step by step. -/
def perform : Call → EStateM Failure Workbench Reply
  | .make template mediaType rel offsets bindings => do
    let t : UrlTemplate :=
      ⟨(← get).made.length, template, mediaType, rel, offsets, bindings⟩
    modify fun w => { w with made := w.made ++ [t] }
    return .template t
  | .register step => do
    let parameters ← ofExcept step.parameters
    modify fun w =>
      { w with registry := w.registry.insert step.template parameters }
    return .template step.template
  | .templates => return .templates (← get).registry.templates
  | .size => return .count (← get).registry.size
  | .contains t => return .truth ((← get).registry.contains t)
  | .parameters t => return .parameters ((← get).registry.parameters t)
  | .filter name among => do
    let r := (← get).registry
    return .templates (r.filterByParam name (among.getD r.templates))
  | .build t values => do
    let uri ← ofExcept ((← get).registry.build t values)
    return .uri uri

/-- What is there after a call, whether it has failed or not. -/
def after (w : Workbench) (call : Call) : Workbench :=
  match (perform call).run w with
  | .ok _ next => next
  | .error _ next => next

/-- **What is there after some calls.** -/
def run (w : Workbench) (calls : List Call) : Workbench :=
  calls.foldl after w

/-- The templates that a call is about. -/
def Call.uses : Call → List UrlTemplate
  | register step => [step.template]
  | contains t => [t]
  | .parameters t => [t]
  | filter _ among => among.getD []
  | build t _ => [t]
  | _ => []

/-- **Calls that can be made one after the other**: each of them is about
templates that have been made before. -/
def isLegal : Workbench → List Call → Bool
  | _, [] => true
  | w, call :: calls =>
    call.uses.all (w.made.contains ·) && isLegal (w.after call) calls

/-- Whether a call only reads. -/
def Call.isRead : Call → Bool
  | make .. => false
  | register _ => false
  | _ => true

/-- The entry of a call in the log, if it is a registration that goes well. -/
def Call.entry : Call → Table UrlTemplate (List Parameter)
  | register step =>
    match step.parameters with
    | .ok ps => [(step.template, ps)]
    | .error _ => []
  | _ => []

/-- **The log of some calls**: the registrations that went well, in order,
with the parameters that were put into the registry. -/
def log (calls : List Call) : Table UrlTemplate (List Parameter) :=
  calls.flatMap Call.entry

end Workbench

/-! ## One registration -/

/-- **Parameters cannot be worked out only because of a label** that stands for
no namespace. -/
theorem Registration.parameters_eq_error {step : Registration}
    {failure : Failure} (h : step.parameters = .error failure) :
    ∃ label token, failure = .unresolvedPrefix label token := by
  cases step with
  | given t ps => cases h
  | declared t =>
    obtain ⟨-, token, -, -, -, failed⟩ := Except.mapM_eq_error_iff.mp h
    rcases Except.bind_eq_error.mp failed with unnamed | ⟨name, -, no⟩
    · obtain ⟨label, -, -, -, rfl⟩ := Token.resolve_eq_error.mp unnamed
      exact ⟨String.ofList label, token, rfl⟩
    · cases no

namespace Registry

/-- **Registering is putting the parameters there**, once they can be worked
out. -/
theorem accept_of_parameters (r : Registry) {step : Registration}
    {ps : List Parameter} (h : step.parameters = .ok ps) :
    r.accept step = r.insert step.template ps := by
  cases step with
  | declared t => exact r.accept_declared_of_ok h
  | given t given =>
    obtain rfl := Except.ok.inj h
    rfl

/-- **A template that is registered comes last if it is new**, and keeps its
place if it is not. -/
@[simp] theorem templates_insert (r : Registry) (t : UrlTemplate)
    (ps : List Parameter) :
    (r.insert t ps).templates
      = r.templates ++ if r.contains t then [] else [t] := by
  obtain ⟨entries⟩ := r
  unfold templates insert contains
  induction entries with
  | nil => rfl
  | cons entry rest ih =>
    simp only at ih ⊢
    unfold put
    cases h : entry.1.same t with
    | true => simp [h]
    | false =>
      rw [List.any_cons, h, Bool.false_or, List.map_cons, List.cons_append,
        ← ih]
      rfl

/-- A template is registered if one of the templates is the same. -/
theorem contains_eq_any (r : Registry) (t : UrlTemplate) :
    r.contains t = r.templates.any (·.same t) := by
  unfold contains templates
  rw [List.any_map]
  rfl

/-- A template that is not registered has no parameters. -/
theorem parameters_of_contains_eq_false {r : Registry} {t : UrlTemplate}
    (h : r.contains t = false) : r.parameters t = [] := by
  have missing : r.entries.find? (·.1.same t) = none := by
    rw [List.find?_eq_none]
    exact fun entry hentry => by
      simpa using List.any_eq_false.mp h entry hentry
  unfold parameters
  rw [missing]
  rfl

end Registry

namespace Workbench

variable {w : Workbench} {noted : Table UrlTemplate (List Parameter)}
  {t u : UrlTemplate}

/-! ## What a call does -/

/-- **Building a URI** reads the registry. -/
theorem perform_build (w : Workbench) (t : UrlTemplate) (values : Values) :
    (perform (.build t values)).run w = match w.registry.build t values with
      | .ok uri => .ok (.uri uri) w
      | .error failure => .error failure w := by
  simp only [perform, EStateM.run_bind, EStateM.run_get,
    EStateM.run_ofExcept]
  cases w.registry.build t values with
  | ok uri => rfl
  | error failure => rfl

/-- **A call that only reads leaves everything as it is**, also if it
fails. -/
theorem after_of_isRead (w : Workbench) {call : Call}
    (h : call.isRead = true) : w.after call = w := by
  cases call with
  | make template mediaType rel offsets bindings => cases h
  | register step => cases h
  | templates => rfl
  | size => rfl
  | contains t => rfl
  | parameters t => rfl
  | filter name among => rfl
  | build t values =>
    cases built : w.registry.build t values with
    | ok uri =>
      unfold after
      rw [perform_build, built]
    | error failure =>
      unfold after
      rw [perform_build, built]

/-- **A registration puts the parameters into the registry, or leaves
everything as it is.** -/
theorem perform_register (w : Workbench) (step : Registration) :
    (perform (.register step)).run w = match step.parameters with
      | .ok ps => .ok (.template step.template)
          { w with registry := w.registry.insert step.template ps }
      | .error failure => .error failure w := by
  rw [perform]
  cases step.parameters with
  | ok ps => rfl
  | error failure => rfl

/-! ## The log -/

/-- **A registry reflects a log**: it has the templates of the log in the order
of their first entries, and the parameters of their last entries. All of these
templates have been made, and none twice. -/
structure Reflects (w : Workbench)
    (noted : Table UrlTemplate (List Parameter)) : Prop where
  /-- Templates are numbered as they are made. -/
  serials : w.made.map UrlTemplate.serial = List.range w.made.length
  /-- What is registered has been made. -/
  known : ∀ t ∈ noted.keys, t ∈ w.made
  /-- The templates, in the order of their first entries. -/
  templates : w.registry.templates = noted.keys
  /-- The parameters of the last entries. -/
  parameters : ∀ t ∈ w.made,
    w.registry.parameters t = (noted.get? t).getD []

theorem reflects_empty : Reflects {} [] where
  serials := rfl
  known := nofun
  templates := rfl
  parameters := nofun

theorem Reflects.nodup_serials (h : w.Reflects noted) :
    (w.made.map UrlTemplate.serial).Nodup := by
  rw [h.serials]
  exact List.nodup_range

/-- **Templates that have been made are the same only if they are equal.** -/
theorem Reflects.same_iff (h : w.Reflects noted) (ht : t ∈ w.made)
    (hu : u ∈ w.made) : t.same u = true ↔ t = u := by
  constructor
  · intro same
    exact List.inj_on_of_nodup_map h.nodup_serials ht hu (beq_iff_eq.mp same)
  · rintro rfl
    exact t.same_self

theorem Reflects.same_eq (h : w.Reflects noted) (ht : t ∈ w.made)
    (hu : u ∈ w.made) : t.same u = (t == u) := by
  rw [Bool.eq_iff_iff, h.same_iff ht hu, beq_iff_eq]

theorem Reflects.pairwise_made (h : w.Reflects noted) :
    w.made.Pairwise fun t u => t.same u = false :=
  (List.pairwise_map.mp h.nodup_serials).imp beq_false_of_ne

/-- A template is registered exactly if the log has an entry of it. -/
theorem Reflects.contains_eq (h : w.Reflects noted) (ht : t ∈ w.made) :
    w.registry.contains t = noted.keys.contains t := by
  rw [Registry.contains_eq_any, h.templates, List.contains_eq_any_beq,
    Bool.eq_iff_iff, List.any_eq_true, List.any_eq_true]
  constructor
  · rintro ⟨u, hu, same⟩
    obtain rfl := (h.same_iff (h.known u hu) ht).mp same
    exact ⟨u, hu, beq_self_eq_true u⟩
  · rintro ⟨u, hu, same⟩
    obtain rfl := beq_iff_eq.mp same
    exact ⟨t, hu, t.same_self⟩

/-- **Making a template** adds nothing to the log. -/
theorem Reflects.make (h : w.Reflects noted) (t : UrlTemplate)
    (fresh : t.serial = w.made.length) :
    Reflects { w with made := w.made ++ [t] } noted where
  serials := by
    rw [List.map_append, h.serials, List.length_append, List.length_singleton,
      List.range_succ, List.map_singleton, fresh]
  known := fun u hu => List.mem_append_left [t] (h.known u hu)
  templates := h.templates
  parameters := by
    intro u hu
    rcases List.mem_append.mp hu with old | new
    · exact h.parameters u old
    · obtain rfl := List.mem_singleton.mp new
      have other : ∀ v ∈ w.made, v.same u = false := by
        intro v hv
        have smaller : v.serial ∈ List.range w.made.length := by
          rw [← h.serials]
          exact List.mem_map_of_mem hv
        refine beq_false_of_ne (Nat.ne_of_lt ?_)
        rw [fresh]
        exact List.mem_range.mp smaller
      have missing : w.registry.contains u = false := by
        rw [Registry.contains_eq_any, h.templates, List.any_eq_false]
        intro v hv
        rw [other v (h.known v hv)]
        exact Bool.false_ne_true
      have unlisted : u ∉ noted.keys := by
        intro hu
        have no := other u (h.known u hu)
        rw [u.same_self] at no
        cases no
      rw [Registry.parameters_of_contains_eq_false missing,
        Table.get?_eq_none unlisted]
      rfl

/-- **Registering a template** adds an entry to the log. -/
theorem Reflects.insert (h : w.Reflects noted) (ht : t ∈ w.made)
    (ps : List Parameter) :
    Reflects { w with registry := w.registry.insert t ps }
      (noted ++ [(t, ps)]) where
  serials := h.serials
  known := by
    intro u hu
    rw [Table.keys_concat] at hu
    rcases List.mem_append.mp hu with old | new
    · exact h.known u old
    · split at new
      · cases new
      · obtain rfl := List.mem_singleton.mp new
        exact ht
  templates := by
    rw [Table.keys_concat, Registry.templates_insert, h.contains_eq ht,
      h.templates]
  parameters := by
    intro u hu
    rw [Registry.parameters_insert, Table.get?_append_entry, h.parameters u hu,
      h.same_eq ht hu, Bool.beq_comm]
    split
    · rfl
    · rfl

/-- **Reading** adds nothing to the log. -/
theorem Reflects.read (h : w.Reflects noted) {call : Call}
    (read : call.isRead = true) :
    (w.after call).Reflects (noted ++ call.entry) := by
  have nothing : call.entry = [] := by
    cases call with
    | make template mediaType rel offsets bindings => rfl
    | register step => cases read
    | _ => rfl
  rw [after_of_isRead w read, nothing, List.append_nil]
  exact h

/-- **A call adds its entry to the log.** A registration that goes well has one, and all other
calls have none: one that makes a template leaves the registry alone, and one that reads or
fails leaves everything. -/
theorem Reflects.after (h : w.Reflects noted) {call : Call}
    (made : ∀ t ∈ call.uses, t ∈ w.made) :
    (w.after call).Reflects (noted ++ call.entry) := by
  cases call with
  | make template mediaType rel offsets bindings =>
    rw [show Call.entry _ = [] from rfl, List.append_nil]
    exact h.make _ rfl
  | register step =>
    unfold Workbench.after
    rw [perform_register, Call.entry]
    cases step.parameters with
    | ok ps => exact h.insert (made _ List.mem_cons_self) ps
    | error failure =>
      rw [List.append_nil]
      exact h
  | _ => exact h.read rfl

/-- **Calls add their entries to the log**, in order. -/
theorem Reflects.run (h : w.Reflects noted) {calls : List Call}
    (legal : isLegal w calls = true) :
    (w.run calls).Reflects (noted ++ Workbench.log calls) := by
  induction calls generalizing w noted with
  | nil =>
    rw [show Workbench.log [] = [] from rfl, List.append_nil]
    exact h
  | cons call calls ih =>
    unfold isLegal at legal
    rw [Bool.and_eq_true, List.all_eq_true] at legal
    have made : ∀ t ∈ call.uses, t ∈ w.made := fun t ht =>
      List.contains_iff_mem.mp (legal.1 t ht)
    rw [show Workbench.log (call :: calls) = call.entry ++ Workbench.log calls
      from List.flatMap_cons, ← List.append_assoc]
    exact ih (h.after made) legal.2

/-- **The templates that declare a name** are told by their last entries. -/
theorem Reflects.filterByParam_eq (h : w.Reflects noted) (name : QName)
    {among : List UrlTemplate} (made : ∀ t ∈ among, t ∈ w.made) :
    w.registry.filterByParam name among = among.filter fun t =>
      ((noted.get? t).getD []).any (·.name == name) := by
  unfold Registry.filterByParam
  refine List.filter_congr fun t ht => ?_
  rw [Registry.declares, h.parameters t (made t ht)]

/-- **Whatever is made, registered and read, the registry can be told from the
log.** After any calls, no two of the templates that have been made are the
same. Those of the log are registered, each once and in the order of their
first entries; their number and the question for one of them agree with that.
The parameters of a template are those of its last entry, or none. The
templates that declare a name, among some or among all, are those with a
parameter of that name, in the order in which they were given. A registration
has an entry if its parameters can be worked out, and fails for a label
without leaving a trace if they cannot. And reading changes nothing. -/
theorem run_reflects_log (calls : List Call)
    (legal : isLegal {} calls = true) :
    let w := run {} calls
    let entries := log calls
    (w.made.Pairwise fun t u => t.same u = false) ∧
    (∀ t ∈ entries.keys, t ∈ w.made) ∧ entries.keys.Nodup ∧
    (perform .templates).run w = .ok (.templates entries.keys) w ∧
    (perform .size).run w = .ok (.count entries.keys.length) w ∧
    (∀ t ∈ w.made,
      (perform (.contains t)).run w
        = .ok (.truth (entries.keys.contains t)) w ∧
      (perform (.parameters t)).run w
        = .ok (.parameters ((entries.get? t).getD [])) w) ∧
    (∀ name among, (∀ t ∈ among.getD [], t ∈ w.made) →
      (perform (.filter name among)).run w = .ok (.templates
        ((among.getD entries.keys).filter fun t =>
          ((entries.get? t).getD []).any (·.name == name))) w) ∧
    (∀ step,
      (∃ ps, step.parameters = .ok ps ∧
        (perform (.register step)).run w = .ok (.template step.template)
          { w with registry := w.registry.accept step }) ∨
      ∃ label token,
        step.parameters = .error (.unresolvedPrefix label token) ∧
        (perform (.register step)).run w
          = .error (.unresolvedPrefix label token) w) ∧
    ∀ call, call.isRead = true → w.after call = w := by
  intro w entries
  have h : w.Reflects entries := reflects_empty.run legal
  refine ⟨h.pairwise_made, h.known, nodup_eraseDups _, ?_, ?_, ?_, ?_, ?_, ?_⟩
  · show EStateM.Result.ok (Reply.templates w.registry.templates) w = _
    rw [h.templates]
  · show EStateM.Result.ok (Reply.count w.registry.size) w = _
    rw [← h.templates, Registry.templates, List.length_map]
    rfl
  · intro t ht
    constructor
    · show EStateM.Result.ok (Reply.truth (w.registry.contains t)) w = _
      rw [h.contains_eq ht]
    · show EStateM.Result.ok (Reply.parameters (w.registry.parameters t)) w = _
      rw [h.parameters t ht]
  · intro name among made
    have known : ∀ t ∈ among.getD entries.keys, t ∈ w.made := by
      cases among with
      | none => exact h.known
      | some among => exact made
    show EStateM.Result.ok (Reply.templates (w.registry.filterByParam name
      (among.getD w.registry.templates))) w = _
    rw [h.templates, h.filterByParam_eq name known]
  · intro step
    rw [perform_register]
    cases hps : step.parameters with
    | ok ps =>
      refine .inl ⟨ps, rfl, ?_⟩
      rw [w.registry.accept_of_parameters hps]
    | error failure =>
      obtain ⟨label, token, rfl⟩ := Registration.parameters_eq_error hps
      exact .inr ⟨label, token, rfl, rfl⟩
  · exact fun call => w.after_of_isRead

/-- Two templates that say the same, registered in the order opposite to that
in which they were made; one of them again, with a parameter that is given
twice; and one in vain. -/
theorem run_reflects_log_twins :
    let written := "http://example.org/?q={searchTerms}"
    let first : UrlTemplate := { serial := 0, template := written }
    let second : UrlTemplate := { serial := 1, template := written }
    let lost : UrlTemplate := { serial := 2, template := "{g:box}" }
    let box : Parameter := { name := ⟨Vocabulary.openSearchGeo, "box"⟩ }
    let calls : List Call := [.make written "" "results" {} [],
      .make written "" "results" {} [], .register (.declared second),
      .register (.declared first), .make "{g:box}" "" "results" {} [],
      .register (.declared lost), .register (.given second [box, box])]
    let w := run {} calls
    isLegal {} calls = true ∧
    (perform .templates).run w = .ok (.templates [second, first]) w ∧
    (perform (.parameters second)).run w = .ok (.parameters [box, box]) w ∧
    (perform (.contains lost)).run w = .ok (.truth false) w ∧
    (perform (.filter box.name none)).run w = .ok (.templates [second]) w := by
  intro written first second lost box calls w
  have legal : isLegal {} calls = true := by decide +kernel
  have made : w.made = [first, second, lost] := by decide +kernel
  have keys : (log calls).keys = [second, first] := by decide +kernel
  have last : (log calls).get? second = some [box, box] := by decide +kernel
  have chosen : [second, first].filter (fun t =>
      (((log calls).get? t).getD []).any (·.name == box.name)) = [second] := by
    decide +kernel
  obtain ⟨-, -, -, templates, -, each, filter, -⟩ := run_reflects_log calls legal
  rw [keys] at templates each filter
  refine ⟨legal, templates, ?_, ?_, ?_⟩
  · have answer := (each second (by rw [made]; simp)).2
    rw [last] at answer
    exact answer
  · exact (each lost (by rw [made]; simp)).1
  · have answer := filter box.name none nofun
    rw [Option.getD_none, chosen] at answer
    exact answer

end Workbench

end GeoCatalogue
