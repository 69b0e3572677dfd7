import GeoCatalogue.Geodesy.Standard
import GeoCatalogue.Proofs.Box.Completeness
import GeoCatalogue.Proofs.Command.Failures
import GeoCatalogue.Proofs.Command.Outcome
import GeoCatalogue.Proofs.Dataset.Records
import GeoCatalogue.Proofs.Json.Grammar

/-!
# How the command ends

An invocation **ends cleanly** with a document on the standard output stream and exit
status zero, or with nothing there, exit status one and a line on the standard error
stream. What prevents this is a fault that is none of values: only those are told.

Of the functions that tasks use, all that work on a document can fail for values only
(`TellsFaults`), whatever the document says – unless an area has to be brought to another
system and there is no operation for it, or what the settings have in the place of the
system of extents is no reference. What is left is reading the document. Sample data may
be missing, and a service may refuse what is asked of it for a value; but a file that is
no document, and a service that nobody answers for, are faults of the surroundings. So an
invocation ends cleanly **exactly if it gets what it works on** (`Task.HasInput`,
`runIn_endsCleanly_iff`).
-/
namespace GeoCatalogue.Command

/-! ## Clean ends -/

/-- **A report of a clean end.** -/
inductive Report.EndsCleanly (r : Report) : Prop where
  /-- A document is printed, and nothing else. -/
  | answered (status : r.status = .ok 0) (output : Json.IsDocument r.output.toList)
  /-- A line tells what is wrong, behind the journal, and nothing is printed. -/
  | told {line : String} (status : r.status = .ok 1) (output : r.output = "")
      (nonempty : line ≠ "")
      (last : ∀ time, ∃ journal, r.errorText time = journal ++ (line ++ "\n"))

/-- **A fault that is told** in a line of its own. -/
structure IsTold (fault : Fault) : Prop where
  /-- It is one of values. -/
  isValueFault : fault.isValueFault = true
  /-- There are words for it. -/
  words : ∃ line, fault.message? = some line ∧ line ≠ ""

/-- **A computation that tells its faults**: every fault that it ends in is told. -/
def TellsFaults {α : Type} (x : Except Fault α) : Prop :=
  ∀ fault, x = .error fault → IsTold fault

namespace TellsFaults

variable {α β : Type} {x : Except Fault α}

theorem of_ok (a : α) : TellsFaults (.ok a : Except Fault α) := by
  rintro _ ⟨⟩

theorem of_error {fault : Fault} (h : IsTold fault) :
    TellsFaults (.error fault : Except Fault α) := by
  rintro _ ⟨⟩
  exact h

/-- Two steps tell their faults if each of them does. -/
theorem bind {f : α → Except Fault β} (h : TellsFaults x)
    (next : ∀ a, x = .ok a → TellsFaults (f a)) : TellsFaults (x >>= f) := by
  intro fault failed
  rcases Except.bind_eq_error.mp failed with first | ⟨a, ha, second⟩
  · exact h fault first
  · exact next a ha fault second

theorem mapM {f : α → Except Fault β} (each : ∀ a, TellsFaults (f a)) (as : List α) :
    TellsFaults (as.mapM f) := by
  intro fault failed
  obtain ⟨-, a, -, -, -, fails⟩ := Except.mapM_eq_error_iff.mp failed
  exact each a fault fails

/-- Members that are picked out tell their faults together. -/
theorem filterMapM {f : α → Except Fault (Option β)} (each : ∀ a, TellsFaults (f a))
    (as : List α) : TellsFaults (as.filterMapM f) := by
  induction as with
  | nil => exact of_ok []
  | cons a as ih =>
    rw [List.filterMapM_cons]
    refine (each a).bind fun picked _ => ?_
    cases picked with
    | none => exact ih
    | some b => exact ih.bind fun bs _ => of_ok (b :: bs)

end TellsFaults

/-- A failure of the library's own is told: its words start with its code in brackets. -/
theorem isTold_failure {cause : Failure} (own : cause.isOwn = true) :
    IsTold (.failure cause) where
  isValueFault := own
  words := by
    refine ⟨cause.message, rfl, fun none => ?_⟩
    have chars := congrArg String.toList none
    unfold Failure.message at chars
    rw [if_pos own] at chars
    simp only [String.toList_append] at chars
    cases chars

/-- **What owns its failures tells its faults.** -/
theorem tellsFaults_lift {α : Type} {x : Except Failure α} (own : OwnsFailures x) :
    TellsFaults (Fault.lift x) := by
  cases x with
  | ok a => exact .of_ok a
  | error cause => exact .of_error (isTold_failure (own cause rfl))

/-- What does not own its failures ends in a fault that is none of values. -/
theorem exists_lift_eq_error {α : Type} {x : Except Failure α} (h : ¬OwnsFailures x) :
    ∃ fault, Fault.lift x = .error fault ∧ fault.isValueFault = false := by
  obtain ⟨cause, rfl, foreign⟩ := OwnsFailures.exists_of_not h
  exact ⟨.failure cause, rfl, foreign⟩

theorem isTold_of_words {fault : Fault} {front rest : String}
    (isValueFault : fault.isValueFault = true) (words : fault.message? = some (front ++ rest))
    (nonempty : front ≠ "") : IsTold fault :=
  ⟨isValueFault, _, words, fun none => nonempty (String.append_eq_empty_iff.mp none).1⟩

/-! ## What is printed -/

/-- Members in front of one another are all writable. -/
theorem isWritable_object {members : List (String × Json)}
    (each : ∀ value ∈ members.map Prod.snd, value.IsWritable) :
    (Json.object members).IsWritable :=
  .object (List.forall_mem_map.mp each)

theorem isWritable_defaultJson (default : DefaultValue) : (defaultJson default).IsWritable := by
  cases default with
  | text value => exact .text value
  | number value => exact .integer value

theorem isWritable_parameterJson (p : Parameter) : (parameterJson p).IsWritable := by
  refine isWritable_object ?_
  simp only [List.map_cons, List.map_nil, List.forall_mem_cons]
  exact ⟨.text _, .bool _, .text _, isWritable_defaultJson _, List.forall_mem_nil _⟩

theorem isWritable_templateJson (d : Description) (t : UrlTemplate) :
    (templateJson d t).IsWritable := by
  have parameters : (Json.list ((d.registry.parameters t).map parameterJson)).IsWritable :=
    .list (List.forall_mem_map.mpr fun p _ => isWritable_parameterJson p)
  refine isWritable_object ?_
  simp only [List.map_cons, List.map_nil, List.forall_mem_cons]
  exact ⟨.text _, .text _, .text _, parameters, List.forall_mem_nil _⟩

/-- **The coordinates of an envelope can be written**, since they are finite. -/
theorem isWritable_envelopeMembers (e : Envelope) :
    ∀ value ∈ (envelopeMembers e).map Prod.snd, value.IsWritable := by
  have position (p : Position Binary64) : (positionJson p).IsWritable :=
    .list (List.forall_mem_map.mpr fun x _ => .real x)
  simp only [envelopeMembers, List.map_cons, List.map_nil, List.forall_mem_cons]
  exact ⟨position _, position _, .text _, List.forall_mem_nil _⟩

theorem isWritable_extentJson (extent : Option Envelope) : (extentJson extent).IsWritable := by
  cases extent with
  | none => exact .null
  | some e => exact isWritable_object (isWritable_envelopeMembers e)

theorem isWritable_checkJson (checked : Envelope × Bool) : (checkJson checked).IsWritable := by
  refine isWritable_object ?_
  rw [List.map_append, List.forall_mem_append]
  exact ⟨isWritable_envelopeMembers checked.1, List.forall_mem_singleton.mpr (.bool _)⟩

/-- **What a task comes to can be written.** -/
theorem Task.isWritable_of_outcome {s : Surroundings} {settings : Settings} {task : Task}
    {result : Json} (h : task.outcome s settings = .ok result) : result.IsWritable := by
  cases task with
  | templates source =>
    obtain ⟨d, -, h⟩ := Except.bind_eq_ok.mp h
    rw [← Except.ok.inj h]
    exact .list (List.forall_mem_map.mpr fun t _ => isWritable_templateJson d t)
  | buildUri source params withParam mediaType =>
    obtain ⟨d, -, h⟩ := Except.bind_eq_ok.mp h
    obtain ⟨uris, -, h⟩ := Except.bind_eq_ok.mp h
    rw [← Except.ok.inj h]
    exact .list (List.forall_mem_map.mpr fun uri _ => .text uri)
  | extent path =>
    obtain ⟨d, -, h⟩ := Except.bind_eq_ok.mp h
    obtain ⟨extent, -, h⟩ := Except.bind_eq_ok.mp h
    rw [← Except.ok.inj h]
    exact isWritable_extentJson extent
  | intersects source bounds crs =>
    obtain ⟨checked, -, h⟩ := Except.bind_eq_ok.mp h
    rw [← Except.ok.inj h]
    exact .list (List.forall_mem_map.mpr fun one _ => isWritable_checkJson one)

/-! ## What can go wrong -/

/-- Reading a box tells its faults. -/
theorem tellsFaults_read (e : Xml.Element) : TellsFaults (Box.read e) := by
  have unsupported : TellsFaults (.error (.unsupportedBox e.name.tag) : Except Fault Box) :=
    .of_error (isTold_of_words rfl rfl (by simp))
  unfold Box.read
  dsimp only
  repeat' split
  · exact tellsFaults_lift ((ownsFailures_cornerText e _).bind fun _ _ =>
      (ownsFailures_cornerText e _).bind fun _ _ => .of_ok _)
  · exact unsupported
  · exact tellsFaults_lift ((ownsFailures_cornerText e _).bind fun _ _ =>
      (ownsFailures_cornerText e _).bind fun _ _ => .of_ok _)
  · exact unsupported
  · exact .of_ok _
  · exact unsupported
  · exact .of_ok _
  · exact unsupported
  · exact unsupported

/-- **The boxes of a document are read, or it is told why not.** -/
theorem tellsFaults_findAll_everywhere (root : Xml.Element) :
    TellsFaults (Box.findAll root Box.everywhere) := by
  rw [Box.findAll_everywhere]
  exact .mapM tellsFaults_read _

/-- **The boxes of records are read, or it is told why not.** -/
theorem tellsFaults_boxes (d : Dataset) : TellsFaults d.boxes := by
  obtain ⟨found, hfound, -⟩ := Dataset.exists_found d.root
  unfold Dataset.boxes Box.findAll
  rw [hfound, Except.ok_bind, List.mapM_map]
  exact .mapM tellsFaults_read _

/-- The value of a parameter is found, or it is told why not. -/
theorem tellsFaults_valueOf (t : UrlTemplate) (param : String) :
    TellsFaults (valueOf t param) := by
  unfold valueOf
  split
  · exact .of_error (isTold_of_words rfl rfl (by simp))
  · exact (tellsFaults_lift (ownsFailures_resolve _ _)).bind fun _ _ => .of_ok _

/-- It is found whether a template is selected, or told why not. -/
theorem ownsFailures_isSelected (d : Description) (withParam : Option String)
    (t : UrlTemplate) : OwnsFailures (isSelected d withParam t) := by
  unfold isSelected
  split
  · exact .of_ok true
  · exact .of_ok true
  · exact (ownsFailures_resolve _ _).bind fun _ _ => .of_ok _

/-- The URI of a template is built, or it is told why not. -/
theorem tellsFaults_uriOf (d : Description) (params : List String)
    (withParam : Option String) (t : UrlTemplate) :
    TellsFaults (uriOf d params withParam t) := by
  refine (tellsFaults_lift (ownsFailures_isSelected d withParam t)).bind fun selected _ => ?_
  cases selected with
  | false => exact .of_ok none
  | true =>
    have built : TellsFaults (builtFrom d params t) :=
      (TellsFaults.mapM (tellsFaults_valueOf t) params).bind fun _ _ =>
        tellsFaults_lift (ownsFailures_build _ _ _)
    exact built.bind fun uri _ => .of_ok (some uri)

/-- The URIs of a description are built, or it is told why not. -/
theorem tellsFaults_urisIn (d : Description) (params : List String)
    (withParam mediaType : Option String) :
    TellsFaults (urisIn d params withParam mediaType) :=
  .filterMapM (tellsFaults_uriOf d params withParam) _

/-! ## What tasks work on -/

/-- **A text leads to a description** that can be looked at: to a document, or to a service
that refuses what is asked of it for a value. -/
inductive LeadsToDescription (s : Surroundings) (settings : Settings) (source : String) :
    Prop where
  /-- There is a document. -/
  | document {root : Xml.Element} (read : documentIn s settings source = .ok root)
  /-- The request is refused, but not for a time to wait beyond all times. -/
  | refused {defect : RequestDefect} {words : Words} (address : isAddress source = true)
      (reply : s.service [] (clientOf settings source).descriptionRequest
        = .refused defect words) (value : defect ≠ .range)

/-- **Boxes can be merged** in the system that a setting names. -/
inductive CanMerge (g : Geodesy) (setting : Json) (boxes : List Box) : Prop where
  /-- The setting is a reference, or nothing, and the operations that the boxes take are
  there. -/
  | connected (reference : Settings.isReference setting = true)
      (connected : AreConnected g (Settings.reference? setting) boxes)
  /-- The setting is no reference, but nobody gets to look at it: there is no box, or
  already the first one has no envelope, or none in a system that can be referred to. -/
  | unused (none : Settings.isReference setting = false)
      (first : ∀ box back e, boxes = box :: back → box.normalize = .ok e →
        ∃ cause, Crs.normalize (some e.crs) = .error cause)

/-- **A task gets what it works on**, as far as it comes to that.

A description is in a document or is refused by a service. Sample data may be missing, and
otherwise they are a document, and their boxes can be merged if all of them can be read. A
response is looked at only if there is an area to compare with; then it is a document, and
its boxes can be compared with the area if all of them have envelopes. -/
def Task.HasInput (s : Surroundings) (settings : Settings) : Task → Prop
  | templates source | buildUri source _ _ _ => LeadsToDescription s settings source
  | extent path =>
    ∀ content, s.files.content? path = some content →
      ∃ root, Files.parse content = .ok root ∧
        ∀ boxes, Dataset.boxes ⟨root, none⟩ = .ok boxes →
          CanMerge s.geodesy settings.canonicalCrs boxes
  | intersects source bounds crs =>
    ∀ reference, Envelope.ofBounds bounds (some crs) = .ok reference →
      ∃ root, s.files.document source = .ok root ∧
        ∀ boxes candidates, Box.findAll root Box.everywhere = .ok boxes →
          boxes.mapM Box.normalize = .ok candidates →
            CanCompare s.geodesy reference candidates

variable {s : Surroundings} {settings : Settings}

/-! ## Reading the document -/

/-- A text that is no document is a fault that is none of values. -/
theorem isValueFault_of_parse {text : String} {fault : Fault}
    (h : Files.parse text = .error fault) : fault.isValueFault = false := by
  unfold Files.parse at h
  split at h
  · cases h
  · rw [← Except.error.inj h]
    rfl

theorem parse_of_ok {text : String} {root : Xml.Element}
    (h : Xml.Element.parse text = .ok root) : Files.parse text = .ok root := by
  unfold Files.parse
  rw [h]

/-- A file without a document is a fault that is none of values. -/
theorem isValueFault_of_document {files : Files} {source : String} {fault : Fault}
    (h : files.document source = .error fault) : fault.isValueFault = false := by
  unfold Files.document at h
  split at h
  · exact isValueFault_of_parse h
  · split at h
    · rw [← Except.error.inj h]
      rfl
    · split at h
      · exact isValueFault_of_parse h
      · rw [← Except.error.inj h]
        rfl

/-- **A reply without a document** is a fault that is none of values, unless the request
has been refused for one. -/
theorem isValueFault_of_reply {reply : Reply} {fault : Fault}
    (h : Client.documentIn reply = .error fault)
    (unrefused : ∀ defect words, reply = .refused defect words → defect = .range) :
    fault.isValueFault = false := by
  unfold Client.documentIn at h
  split at h
  · next defect bodiless =>
    rw [← Except.error.inj h]
    cases reply with
    | answered status body =>
      replace bodiless : (if isErrorStatus status then .error (.status status) else .ok body)
        = Except.error defect := bodiless
      split at bodiless
      · rw [← Except.error.inj bodiless]
        rfl
      · cases bodiless
    | unreachable explanation =>
      rw [← Except.error.inj bodiless]
      rfl
    | refused defect words =>
      obtain rfl := unrefused defect words rfl
      rw [← Except.error.inj bodiless]
      rfl
  · split at h
    · rw [← Except.error.inj h]
      rfl
    · cases h

/-- **A description is found, or it is told why not**, where a text leads to one. -/
theorem tellsFaults_descriptionIn {source : String}
    (h : LeadsToDescription s settings source) :
    TellsFaults (descriptionIn s settings source) := by
  unfold descriptionIn
  cases h with
  | document read =>
    rw [read, Except.ok_bind]
    exact tellsFaults_lift (ownsFailures_ofElement 0 0 _)
  | @refused defect words address reply value =>
    have told : IsTold (.reply (.refused defect words)) :=
      ⟨decide_eq_true value, _, rfl, words.property⟩
    have read : documentIn s settings source = .error (.reply (.refused defect words)) := by
      unfold documentIn
      rw [if_pos address, reply]
      rfl
    rw [read]
    exact .of_error told

/-- A text that leads to no description ends in a fault that is none of values. -/
theorem descriptionIn_eq_error {source : String}
    (h : ¬LeadsToDescription s settings source) :
    ∃ fault, descriptionIn s settings source = .error fault ∧ fault.isValueFault = false := by
  cases read : documentIn s settings source with
  | ok root => exact absurd (.document read) h
  | error fault =>
    refine ⟨fault, Except.bind_eq_error.mpr (.inl read), ?_⟩
    unfold documentIn at read
    split at read
    · next address =>
      refine isValueFault_of_reply read fun defect words reply => ?_
      by_contra value
      exact h (.refused address reply value)
    · exact isValueFault_of_document read

/-! ## Merging boxes -/

/-- **Boxes are merged, or it is told why not**, if they can be. -/
theorem tellsFaults_mergedUnder {g : Geodesy} {setting : Json} {boxes : List Box}
    (h : CanMerge g setting boxes) : TellsFaults (mergedUnder g setting boxes) := by
  unfold mergedUnder
  cases h with
  | connected reference connected =>
    rw [if_pos reference]
    exact (tellsFaults_lift (ownsFailures_mergeBoxes_iff.mpr connected)).bind fun _ _ => .of_ok _
  | unused none first =>
    rw [if_neg (Bool.eq_false_iff.mp none)]
    cases boxes with
    | nil => exact .of_ok _
    | cons box back =>
      refine (tellsFaults_lift (ownsFailures_normalizeBox box)).bind fun e he => ?_
      obtain ⟨cause, unnamed⟩ := first box back e rfl (Fault.lift_eq_ok.mp he)
      rw [unnamed]
      exact .of_error (isTold_failure (ownsFailures_normalize _ cause unnamed))

/-- Boxes that cannot be merged end in a fault that is none of values. -/
theorem mergedUnder_eq_error {g : Geodesy} {setting : Json} {boxes : List Box}
    (h : ¬CanMerge g setting boxes) :
    ∃ fault, mergedUnder g setting boxes = .error fault ∧ fault.isValueFault = false := by
  unfold mergedUnder
  cases reference : Settings.isReference setting with
  | true =>
    have foreign : ¬OwnsFailures (mergeBoxes g (Settings.reference? setting) boxes) :=
      fun own => h (.connected reference (ownsFailures_mergeBoxes_iff.mp own))
    obtain ⟨fault, failed, unfit⟩ := exists_lift_eq_error foreign
    exact ⟨fault, Except.bind_eq_error.mpr (.inl failed), unfit⟩
  | false =>
    rw [if_neg Bool.false_ne_true]
    refine ⟨.notAReference, ?_, rfl⟩
    by_contra other
    refine h (.unused reference fun box back e same normal => ?_)
    subst same
    cases named : Crs.normalize (some e.crs) with
    | error cause => exact ⟨cause, rfl⟩
    | ok crs =>
      refine absurd ?_ other
      unfold Dataset.withoutReference
      dsimp only
      rw [normal]
      show (Fault.lift (Crs.normalize (some e.crs)) >>= fun _ => .error .notAReference) = _
      rw [named]
      rfl

/-! ## Outcomes of tasks -/

/-- **A task that gets what it works on tells its faults.** What is worked on is a
description, a record of boxes or sample data. Once that is there, all that can go wrong is
in the words of the command line or in the data, and there is a line for each of it. -/
theorem Task.tellsFaults_outcome {task : Task} (h : task.HasInput s settings) :
    TellsFaults (task.outcome s settings) := by
  cases task with
  | templates source => exact (tellsFaults_descriptionIn h).bind fun _ _ => .of_ok _
  | buildUri source params withParam mediaType =>
    exact (tellsFaults_descriptionIn h).bind fun d _ =>
      (tellsFaults_urisIn d params withParam mediaType).bind fun _ _ => .of_ok _
  | extent path =>
    unfold outcome Dataset.ofFile
    dsimp only
    split
    · exact .of_error (isTold_of_words rfl rfl (by simp))
    · next content found =>
      obtain ⟨root, parsed, canMerge⟩ := h content found
      rw [parsed, Except.ok_bind, Except.ok_bind, extentUnder_eq]
      exact ((tellsFaults_boxes _).bind fun boxes read =>
        tellsFaults_mergedUnder (canMerge boxes read)).bind fun _ _ => .of_ok _
  | intersects source bounds crs =>
    refine TellsFaults.bind ?_ fun _ _ => .of_ok _
    refine (tellsFaults_lift (ownsFailures_ofBounds _ _)).bind fun reference found => ?_
    obtain ⟨root, read, canCompare⟩ := h reference (Fault.lift_eq_ok.mp found)
    unfold boxesOf
    rw [read, Except.ok_bind]
    refine (tellsFaults_findAll_everywhere root).bind fun boxes found => ?_
    refine (tellsFaults_lift (.mapM ownsFailures_normalizeBox boxes)).bind
      fun candidates normal => tellsFaults_lift ?_
    exact ownsFailures_checkIntersections_iff.mpr
      (canCompare boxes candidates found (Fault.lift_eq_ok.mp normal))

/-- **A task that does not get what it works on** ends in a fault that is none of values.
Such a fault is of the surroundings – a file, the network, the form of a document – or of
geodesy, and the command lets it pass. Together with the theorem before, it says exactly
which tasks tell their faults. -/
theorem Task.outcome_eq_error {task : Task} (h : ¬task.HasInput s settings) :
    ∃ fault, task.outcome s settings = .error fault ∧ fault.isValueFault = false := by
  cases task with
  | templates source =>
    obtain ⟨fault, failed, unfit⟩ := descriptionIn_eq_error h
    exact ⟨fault, Except.bind_eq_error.mpr (.inl failed), unfit⟩
  | buildUri source params withParam mediaType =>
    obtain ⟨fault, failed, unfit⟩ := descriptionIn_eq_error h
    exact ⟨fault, Except.bind_eq_error.mpr (.inl failed), unfit⟩
  | extent path =>
    obtain ⟨content, h⟩ := not_forall.mp h
    obtain ⟨found, unfit⟩ := Classical.not_imp.mp h
    unfold outcome Dataset.ofFile
    dsimp only
    rw [found]
    dsimp only
    cases parsed : Files.parse content with
    | error fault => exact ⟨fault, rfl, isValueFault_of_parse parsed⟩
    | ok root =>
      have unmerged : ¬∀ boxes, Dataset.boxes ⟨root, none⟩ = .ok boxes →
          CanMerge s.geodesy settings.canonicalCrs boxes :=
        fun canMerge => unfit ⟨root, parsed, canMerge⟩
      obtain ⟨boxes, h⟩ := not_forall.mp unmerged
      obtain ⟨read, h⟩ := Classical.not_imp.mp h
      obtain ⟨fault, failed, unfit⟩ := mergedUnder_eq_error h
      rw [Except.ok_bind, Except.ok_bind, extentUnder_eq, read, Except.ok_bind, failed]
      exact ⟨fault, rfl, unfit⟩
  | intersects source bounds crs =>
    obtain ⟨reference, h⟩ := not_forall.mp h
    obtain ⟨found, unfit⟩ := Classical.not_imp.mp h
    suffices ∃ fault, checksIn s source bounds crs = .error fault ∧
        fault.isValueFault = false by
      obtain ⟨fault, failed, unfit⟩ := this
      exact ⟨fault, Except.bind_eq_error.mpr (.inl failed), unfit⟩
    unfold checksIn boxesOf
    rw [Fault.lift_eq_ok.mpr found, Except.ok_bind]
    cases read : s.files.document source with
    | error fault => exact ⟨fault, rfl, isValueFault_of_document read⟩
    | ok root =>
      have uncompared : ¬∀ boxes candidates, Box.findAll root Box.everywhere = .ok boxes →
          boxes.mapM Box.normalize = .ok candidates →
            CanCompare s.geodesy reference candidates :=
        fun canCompare => unfit ⟨root, read, canCompare⟩
      obtain ⟨boxes, h⟩ := not_forall.mp uncompared
      obtain ⟨candidates, h⟩ := not_forall.mp h
      obtain ⟨searched, h⟩ := Classical.not_imp.mp h
      obtain ⟨normal, h⟩ := Classical.not_imp.mp h
      rw [Except.ok_bind, searched, Except.ok_bind, Fault.lift_eq_ok.mpr normal, Except.ok_bind]
      exact exists_lift_eq_error (mt ownsFailures_checkIntersections_iff.mp h)

/-! ## Reports -/

/-- **A report of a result that can be written or of a fault that is told is one of a
clean end.** -/
theorem Report.endsCleanly_ofOutcome {outcome : Except Fault Json} (told : TellsFaults outcome)
    (writable : ∀ result, outcome = .ok result → result.IsWritable) (verb : Verb)
    (logbook : Journal.Logbook) (after : Progress) :
    (ofOutcome verb logbook outcome after).EndsCleanly := by
  cases outcome with
  | ok result => exact .answered rfl (Json.isDocument_indented (writable result rfl))
  | error fault =>
    obtain ⟨isValueFault, line, words, nonempty⟩ := told fault rfl
    have complaint : complaintOf fault = line := by
      unfold complaintOf
      rw [words]
      rfl
    unfold ofOutcome
    dsimp only
    rw [if_pos isValueFault, complaint]
    refine .told rfl rfl nonempty fun time => ?_
    unfold errorText
    rw [List.map_append, String.join_append]
    refine ⟨_, congrArg _ ?_⟩
    show String.join [line ++ "\n"] = _
    rw [String.join_cons, String.join_nil, String.append_empty]

/-- A report of any other fault is none of a clean end. -/
theorem Report.not_endsCleanly_ofOutcome {fault : Fault} (h : fault.isValueFault = false)
    (verb : Verb) (logbook : Journal.Logbook) (after : Progress) :
    ¬(ofOutcome verb logbook (.error fault) after).EndsCleanly := by
  unfold ofOutcome
  dsimp only
  rw [h, if_neg Bool.false_ne_true]
  intro clean
  cases clean with
  | answered status => cases status
  | told status => cases status

/-! ## A place without files -/

/-- Nothing is there: no file, and nobody that replies. -/
def nowhere : Surroundings where
  files := ⟨"/data", []⟩
  service := fun _ _ => .unreachable "nobody"
  geodesy := Geodesy.standard "unknown"

@[simp] theorem content?_nowhere (path : String) : nowhere.files.content? path = none := by
  unfold Files.content?
  split
  · rfl
  · rfl

/-- Without files, no path leads to a document. -/
theorem documentIn_nowhere (path : String) (settings : Settings)
    (noAddress : isAddress path = false) (noDocument : Files.isDocumentText path = false) :
    documentIn nowhere settings path = .error (.unreadable path) := by
  unfold documentIn Files.document
  rw [noAddress, if_neg Bool.false_ne_true, noDocument, if_neg Bool.false_ne_true,
    content?_nowhere]
  split
  · rfl
  · rfl

@[simp] theorem ofFile_nowhere (path : String) :
    Dataset.ofFile nowhere.files path
      = .error (.missingData (Path.absolute "/data" path)) := by
  unfold Dataset.ofFile
  rw [content?_nowhere]
  rfl

/-- A document is read where it stands for itself, wherever that is. -/
theorem documentIn_nestedText (s : Surroundings) (settings : Settings) :
    documentIn s settings Description.nestedText = .ok Description.nestedDocument := by
  have noAddress : isAddress Description.nestedText = false := by decide +kernel
  have document : Files.isDocumentText Description.nestedText = true := by
    unfold Files.isDocumentText Description.nestedText
    rw [String.toList_join]
    decide +kernel
  unfold documentIn Files.document
  rw [noAddress, if_neg Bool.false_ne_true, document, if_pos rfl]
  exact parse_of_ok Description.parse_nestedText

/-! ## Invocations -/

theorem offers_packaged : Offers {} Settings.packaged :=
  ⟨_, rfl, rfl⟩

/-- **An invocation ends cleanly exactly if it gets what it works on.** Let the settings be
such that they can be loaded, whatever they are. Whatever an invocation asks for, and
whatever its document says – labels that are bound nowhere, boxes that are malformed,
systems that are unknown, URIs that are none – it ends with exit status zero and one
document on the standard output stream, or with exit status one, nothing there and a line
of its own on the standard error stream. The conditions are those of `Task.HasInput`: the
description, the sample data or the response is a document, if it is there and needed at
all; no area is brought to a system to which it has no operation; and nobody looks at a
system of extents that is no reference. -/
theorem runIn_endsCleanly_iff {session : Session} {settings : Settings}
    (offered : Offers session settings) (s : Surroundings) (invocation : Invocation) :
    (runIn s session invocation).EndsCleanly ↔ invocation.task.HasInput s settings := by
  obtain ⟨logbook, after, report⟩ := exists_runIn_eq offered s invocation
  rw [report]
  constructor
  · intro clean
    by_contra unread
    obtain ⟨fault, failed, unfit⟩ := Task.outcome_eq_error unread
    rw [failed] at clean
    exact Report.not_endsCleanly_ofOutcome unfit _ _ _ clean
  · intro input
    exact Report.endsCleanly_ofOutcome (Task.tellsFaults_outcome input)
      (fun _ => Task.isWritable_of_outcome) _ _ _

/-- A parameter without an equals sign is told; a service that does not reply ends the
command in another way. -/
theorem runIn_endsCleanly_nowhere :
    Offers {} Settings.packaged ∧
    (runIn nowhere {} ⟨0, false,
      .buildUri Description.nestedText ["g:box"] none none⟩).EndsCleanly ∧
    ¬(runIn nowhere {} ⟨0, false, .templates "http://h/"⟩).EndsCleanly := by
  refine ⟨offers_packaged, ?_, ?_⟩
  · rw [runIn_endsCleanly_iff offers_packaged]
    exact .document (documentIn_nestedText nowhere Settings.packaged)
  · rw [runIn_endsCleanly_iff offers_packaged]
    have address : isAddress "http://h/" = true := by decide +kernel
    rintro (⟨read⟩ | ⟨-, reply, -⟩)
    · unfold documentIn at read
      rw [if_pos address] at read
      cases read
    · cases reply

/-- **A description that is in no file ends the command**, whereas sample data that are
in no file are told to be missing, with exit status one. -/
theorem run_missing :
    Invocation.ofArguments ["templates", "missing.xml"]
      = .ok ⟨0, false, .templates "missing.xml"⟩ ∧
    Offers {} Settings.packaged ∧
    (run nowhere ⟨0, false, .templates "missing.xml"⟩).status
      = .error (.unreadable "missing.xml") ∧
    ¬(run nowhere ⟨0, false, .templates "missing.xml"⟩).EndsCleanly ∧
    (run nowhere ⟨0, false, .extent "missing.xml"⟩).status = .ok 1 ∧
    (run nowhere ⟨0, false, .extent "missing.xml"⟩).complaint
      = some ("Data file does not exist at " ++ Path.absolute "/data" "missing.xml") := by
  have unread : (Task.templates "missing.xml").outcome nowhere Settings.packaged
      = .error (.unreadable "missing.xml") := by
    have unread := documentIn_nowhere "missing.xml" Settings.packaged
      (by decide +kernel) (by decide +kernel)
    exact Except.bind_eq_error.mpr (.inl (Except.bind_eq_error.mpr (.inl unread)))
  have missing : (Task.extent "missing.xml").outcome nowhere Settings.packaged
      = .error (.missingData (Path.absolute "/data" "missing.xml")) :=
    Except.bind_eq_error.mpr (.inl (ofFile_nowhere "missing.xml"))
  obtain ⟨logbook, after, templates⟩ := exists_runIn_eq offers_packaged nowhere
    ⟨0, false, .templates "missing.xml"⟩
  obtain ⟨logbook', after', extent⟩ := exists_runIn_eq offers_packaged nowhere
    ⟨0, false, .extent "missing.xml"⟩
  unfold run
  rw [templates, unread, extent, missing]
  exact ⟨by decide +kernel, offers_packaged, rfl,
    Report.not_endsCleanly_ofOutcome rfl _ _ _, rfl, rfl⟩

end GeoCatalogue.Command
