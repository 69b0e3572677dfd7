import GeoCatalogue.Proofs.Dataset.Extent
import GeoCatalogue.Proofs.Extent.Calls
import GeoCatalogue.Proofs.Extent.Coalescing
import GeoCatalogue.Settings.Session

/-!
# Asking for the extent again and again

The extent of a dataset may be asked for any number of times, and in between the
settings may become others, with another system of extents, or none that can be loaded.
A request is written down here as it is carried out (`Site.accessing`): it looks for an
extent that is kept, asks for the settings, reads all boxes and adds them one after the
other, and what it has written stays written even if it fails later on.

The extent is written at the very end, when nothing can fail any more
(`Site.accessing_run`). So what is kept is always **the answer of the first request that
went well** (`Site.data_run`). Until there is one, every request starts from the whole
document again, and its answer is that of the boxes of the records under the settings of
that moment (`Dataset.freshly`); afterwards every request gives that answer, and asks for
nothing (`Site.extent_computed_once`).
-/
namespace GeoCatalogue

open Xml

variable {g : Geodesy} {reference : Option String}

/-! ## Boxes that are added one after the other -/

namespace Merger

variable {m next : Merger} {boxes : List Box}

/-- **Adding boxes is making them envelopes and adding these**, unless one of them has
none. -/
theorem foldlM_addBox_eq_ok :
    boxes.foldlM (addBox g) m = .ok next ↔
      ∃ envelopes, boxes.mapM Box.normalize = .ok envelopes ∧
        envelopes.foldlM (add g) m = .ok next := by
  induction boxes generalizing m with
  | nil =>
    constructor
    · intro h
      exact ⟨[], rfl, h⟩
    · rintro ⟨envelopes, none, h⟩
      obtain rfl := Except.ok.inj none
      exact h
  | cons box boxes ih =>
    rw [List.foldlM_cons, List.mapM_cons]
    constructor
    · intro h
      obtain ⟨mid, added, h⟩ := Except.bind_eq_ok.mp h
      obtain ⟨e, made, added⟩ := Except.bind_eq_ok.mp added
      obtain ⟨envelopes, others, h⟩ := ih.mp h
      refine ⟨e :: envelopes, ?_, ?_⟩
      · rw [made, others]
        rfl
      · rw [List.foldlM_cons, added]
        exact h
    · rintro ⟨envelopes, made, h⟩
      obtain ⟨e, first, made⟩ := Except.bind_eq_ok.mp made
      obtain ⟨es, others, made⟩ := Except.bind_eq_ok.mp made
      obtain rfl := Except.ok.inj made
      rw [List.foldlM_cons] at h
      obtain ⟨mid, added, h⟩ := Except.bind_eq_ok.mp h
      have start : addBox g m box = .ok mid := by
        rw [addBox, first]
        exact added
      rw [start]
      exact ih.mpr ⟨es, others, h⟩

end Merger

/-- **The extent of boxes is that of their envelopes.** -/
theorem coalesceBoxes_eq_ok {boxes : List Box} {e : Envelope} :
    coalesceBoxes g reference boxes = .ok e ↔
      ∃ envelopes, boxes.mapM Box.normalize = .ok envelopes ∧
        coalesce g reference envelopes = .ok e := by
  unfold coalesceBoxes coalesce mergeBoxes
  simp only [Except.bind_eq_ok, Merger.foldlM_addBox_eq_ok]
  constructor
  · rintro ⟨m, ⟨envelopes, made, added⟩, extent⟩
    exact ⟨envelopes, made, m, added, extent⟩
  · rintro ⟨envelopes, made, m, added, extent⟩
    exact ⟨m, ⟨envelopes, made, added⟩, extent⟩

/-- **All boxes of an extent have images**, wherever they stand. -/
theorem exists_image_of_mergeBoxes {boxes : List Box} {m : Merger}
    (h : mergeBoxes g reference boxes = .ok m) {box : Box} (mem : box ∈ boxes) :
    ∃ image, box.image g reference = .ok image := by
  obtain ⟨envelopes, made, added⟩ := Merger.foldlM_addBox_eq_ok.mp h
  obtain ⟨e, he, normalized⟩ := Except.exists_eq_ok_of_mem made mem
  cases brought : e.toCrs g reference with
  | ok image => exact ⟨image, by rw [Box.image, normalized]; exact brought⟩
  | error failure =>
    obtain ⟨failure', failed⟩ :=
      exists_foldlM_add_eq_error (m := ⟨reference, none⟩) he brought
    exact absurd (added.symm.trans failed) nofun

/-! ## The extent worked out anew -/

/-- The reference to the system of extents. -/
def ActiveSettings.reference? (active : ActiveSettings) : Option String :=
  Settings.reference? active.settings.canonicalCrs

namespace Dataset

/-- **The extent that the boxes of the records have now**, under the settings of a
session: absent if there are no boxes, and otherwise the extent of all of them. -/
def freshly (g : Geodesy) (s : Session) (root : Element) :
    Except Fault (Option Envelope) := do
  let active ← (s.get false).1.mapError Fault.setting
  let found ← Box.findAll root Box.ofRecords
  if found = [] then .ok none
  else (Fault.lift (coalesceBoxes g active.reference? found)).map some

/-- **What adding the boxes leaves is their extent**, if there are any. -/
theorem extentIn_eq (d : Dataset) :
    extentIn g reference d = (Box.findAll d.root Box.ofRecords >>= fun found =>
      if found = [] then .ok none
      else (Fault.lift (coalesceBoxes g reference found)).map some) := by
  unfold extentIn boxes
  cases Box.findAll d.root Box.ofRecords with
  | error fault => rfl
  | ok found =>
    rw [Except.ok_bind, Except.ok_bind]
    split
    · next empty =>
      rw [empty]
      rfl
    · next nonempty =>
      unfold coalesceBoxes
      cases merged : mergeBoxes g reference found with
      | error cause => rfl
      | ok m =>
        obtain ⟨envelopes, made, added⟩ := Merger.foldlM_addBox_eq_ok.mp merged
        have some : envelopes ≠ [] := by
          rintro rfl
          have length := (Except.mapM_eq_ok_iff.mp made).length_eq
          exact nonempty (List.eq_nil_of_length_eq_zero length)
        obtain ⟨e, he⟩ := Merger.exists_merged_of_foldlM some added
        show Except.ok m.merged = (Fault.lift m.extent).map Option.some
        rw [Merger.extent, he]
        rfl

/-- What is worked out anew is the extent in the system of the settings. -/
theorem freshly_eq (g : Geodesy) (s : Session) (d : Dataset) :
    freshly g s d.root = ((s.get false).1.mapError Fault.setting >>= fun active =>
      extentIn g active.reference? d) := by
  unfold freshly
  simp only [extentIn_eq]

/-- **What an extent consists of**: settings are in use, the boxes of the records can be
read, and the extent is that of all of them. -/
theorem exists_of_freshly_eq_ok {s : Session} {root : Element} {extent : Option Envelope}
    (h : freshly g s root = .ok extent) :
    ∃ active found, (s.get false).1 = .ok active ∧
      Box.findAll root Box.ofRecords = .ok found ∧ (extent = none ↔ found = []) ∧
      ∀ e, extent = some e →
        coalesceBoxes g active.reference? found = .ok e ∧
        ∃ envelopes, found.mapM Box.normalize = .ok envelopes ∧
          coalesce g active.reference? envelopes = .ok e := by
  unfold freshly at h
  cases inUse : (s.get false).1 with
  | error defect =>
    rw [inUse] at h
    cases h
  | ok active =>
    rw [inUse, Except.mapError, Except.ok_bind] at h
    obtain ⟨found, hfound, h⟩ := Except.bind_eq_ok.mp h
    refine ⟨active, found, rfl, hfound, ?_⟩
    split at h
    · next empty =>
      obtain rfl := Except.ok.inj h
      exact ⟨iff_of_true rfl empty, fun e same => absurd same.symm (Option.some_ne_none e)⟩
    · next nonempty =>
      cases merged : coalesceBoxes g active.reference? found with
      | error cause =>
        rw [merged] at h
        cases h
      | ok e =>
        rw [merged] at h
        obtain rfl : some e = extent := Except.ok.inj h
        refine ⟨iff_of_false (Option.some_ne_none e) nonempty, fun e' same => ?_⟩
        obtain rfl := Option.some.inj same
        exact ⟨rfl, coalesceBoxes_eq_ok.mp merged⟩

/-- **A box without an image is never passed over**: there is no extent then. -/
theorem exists_freshly_eq_error {s : Session} {root : Element} {active : ActiveSettings}
    (inUse : (s.get false).1 = .ok active) {e : Element}
    (counted : e ∈ (records root).flatMap countedBoxes)
    (unusable : ∀ image, imageOf g active.reference? e ≠ .ok image) :
    ∃ fault, freshly g s root = .error fault := by
  cases worked : freshly g s root with
  | error fault => exact ⟨fault, rfl⟩
  | ok extent =>
    rw [show root = (⟨root, none⟩ : Dataset).root from rfl, freshly_eq, inUse] at worked
    rw [Except.mapError, Except.ok_bind] at worked
    obtain ⟨found, hfound, worked⟩ := Except.bind_eq_ok.mp worked
    obtain ⟨m, merged, -⟩ := Except.bind_eq_ok.mp worked
    -- the box is among those that are read, and they all have images
    obtain ⟨elements, searched, perm⟩ := exists_found root
    unfold boxes Box.findAll at hfound
    rw [searched, Except.ok_bind, List.mapM_map] at hfound
    obtain ⟨box, mem, read⟩ := Except.exists_eq_ok_of_mem hfound (perm.mem_iff.mpr counted)
    obtain ⟨image, brought⟩ := exists_image_of_mergeBoxes (Fault.lift_eq_ok.mp merged) mem
    refine absurd ?_ (unusable image)
    rw [imageOf, show Box.read e = .ok box from read, Except.ok_bind]
    exact Fault.lift_eq_ok.mpr brought

end Dataset

open Dataset

/-! ## Requests -/

/-- **A dataset, and the session that it is used in.** -/
structure Site where
  /-- The session. -/
  session : Session
  /-- The dataset. -/
  data : Dataset

namespace Site

/-- **A request for the settings**, step by step. -/
def asking : EStateM Fault Site ActiveSettings := do
  let s := (← get).session
  modify fun site => { site with session := (s.get false).2 }
  ofExcept ((s.get false).1.mapError Fault.setting)

/-- **A request for the extent**, step by step. -/
def accessing (g : Geodesy) : EStateM Fault Site (Option Envelope) := do
  match (← get).data.kept with
  | some extent => return extent
  | none => do
    let active ← asking
    let found ← ofExcept (← get).data.boxes
    let merger : Merger ← found.foldlM
      (fun m box => ofExcept (Fault.lift (Merger.addBox g m box))) ⟨active.reference?, none⟩
    modify fun site => { site with data := { site.data with kept := some merger.merged } }
    return merger.merged

/-- **What is done at a site.** -/
inductive Act where
  /-- A step of the session. -/
  | configure (step : Session.Step)
  /-- A request for the extent. -/
  | access

/-- The answer to a request for the extent. -/
def answer (g : Geodesy) (site : Site) : Except Fault (Option Envelope) :=
  match (accessing g).run site with
  | .ok extent _ => .ok extent
  | .error fault _ => .error fault

/-- What is there after an act, whether it has failed or not. -/
def next (g : Geodesy) (site : Site) : Act → Site
  | .configure step => { site with session := (site.session.step step).2 }
  | .access =>
    match (accessing g).run site with
    | .ok _ after => after
    | .error _ after => after

/-- **What is there after some acts.** -/
def run (g : Geodesy) (site : Site) (acts : List Act) : Site :=
  acts.foldl (next g) site

/-- **The answers to the requests among some acts**, in order. -/
def answers (g : Geodesy) (site : Site) : List Act → List (Except Fault (Option Envelope))
  | [] => []
  | .configure step :: acts => answers g (site.next g (.configure step)) acts
  | .access :: acts => site.answer g :: answers g (site.next g .access) acts

variable {site : Site} {acts : List Act}

/-! ## One request -/

/-- A request for the settings leaves the dataset alone. -/
theorem asking_run (site : Site) :
    asking.run site = match (site.session.get false).1 with
      | .ok active => .ok active { site with session := (site.session.get false).2 }
      | .error defect => .error (.setting defect)
          { site with session := (site.session.get false).2 } := by
  simp only [asking, EStateM.run_bind, EStateM.run_get, EStateM.run_modify,
    EStateM.run_ofExcept]
  cases (site.session.get false).1 with
  | ok active => rfl
  | error defect => rfl

/-- **A request keeps the extent or nothing.** If one is kept already, it is given, and
nothing is asked for; otherwise settings are asked for, and the dataset is asked for its
extent in their system. -/
theorem accessing_run (g : Geodesy) (site : Site) :
    (accessing g).run site = match site.data.kept with
      | some extent => .ok extent site
      | none => match (site.session.get false).1 with
        | .error defect => .error (.setting defect)
            { site with session := (site.session.get false).2 }
        | .ok active => match site.data.access g active.reference? with
          | (.ok extent, after) => .ok extent ⟨(site.session.get false).2, after⟩
          | (.error fault, after) => .error fault ⟨(site.session.get false).2, after⟩ := by
  unfold accessing Dataset.access
  rw [EStateM.run_bind, EStateM.run_get]
  dsimp only
  cases known : site.data.kept with
  | some extent => rfl
  | none =>
    dsimp only
    rw [EStateM.run_bind, asking_run]
    cases (site.session.get false).1 with
    | error defect => rfl
    | ok active =>
      dsimp only
      unfold extentIn
      rw [EStateM.run_bind, EStateM.run_get]
      dsimp only
      rw [EStateM.run_bind, EStateM.run_ofExcept]
      cases site.data.boxes with
      | error fault => rfl
      | ok found =>
        dsimp only
        rw [Except.ok_bind, EStateM.run_bind,
          EStateM.run_foldlM_ofExcept fun m box => Fault.lift (Merger.addBox g m box),
          Fault.foldlM_lift]
        unfold mergeBoxes
        cases found.foldlM (Merger.addBox g) ⟨active.reference?, none⟩ with
        | error cause => rfl
        | ok merger => rfl

/-- **An extent that is kept is given**, and nothing else is done. -/
theorem access_of_kept (g : Geodesy) {extent : Option Envelope}
    (h : site.data.kept = some extent) :
    site.answer g = .ok extent ∧ site.next g .access = site := by
  unfold answer next
  rw [accessing_run, h]
  exact ⟨rfl, rfl⟩

/-- **An extent that is not kept is worked out anew**, and it is kept then if that goes
well; nothing but that becomes of the dataset. -/
theorem access_of_new (g : Geodesy) (h : site.data.kept = none) :
    site.answer g = freshly g site.session site.data.root ∧
      site.next g .access = ⟨(site.session.get false).2,
        ⟨site.data.root, (freshly g site.session site.data.root).toOption⟩⟩ := by
  obtain ⟨session, root, kept⟩ := site
  obtain rfl : kept = none := h
  unfold answer next
  rw [accessing_run, freshly_eq g session ⟨root, none⟩]
  dsimp only
  cases (session.get false).1 with
  | error defect => exact ⟨rfl, rfl⟩
  | ok active =>
    simp only [Except.mapError, Except.ok_bind, Dataset.access]
    cases extentIn g active.reference? ⟨root, none⟩ with
    | ok extent => exact ⟨rfl, rfl⟩
    | error fault => exact ⟨rfl, rfl⟩

/-! ## Any number of requests -/

/-- Once an extent is kept, all requests are answered with it. -/
theorem answers_of_kept {extent : Option Envelope} (h : site.data.kept = some extent)
    (acts : List Act) : ∀ answer ∈ site.answers g acts, answer = .ok extent := by
  induction acts generalizing site with
  | nil => exact fun _ mem => absurd mem List.not_mem_nil
  | cons act acts ih =>
    cases act with
    | configure step => exact ih h
    | access =>
      obtain ⟨given, same⟩ := access_of_kept g h
      refine List.forall_mem_cons.mpr ⟨given, ?_⟩
      rw [same]
      exact ih h

/-- **What is kept is the first answer**: the document stays as it is, and the first request
that goes well decides on the extent. Requests that fail leave nothing behind, and later ones
do not look at the records any more; so the settings of the first one are those that
count. -/
theorem data_run (g : Geodesy) (site : Site) (acts : List Act) :
    (site.run g acts).data = ⟨site.data.root,
      site.data.kept.or ((site.answers g acts).findSome? Except.toOption)⟩ := by
  induction acts generalizing site with
  | nil => rw [answers, List.findSome?_nil, Option.or_none]; rfl
  | cons act acts ih =>
    rw [run, List.foldl_cons, ← run, ih]
    cases act with
    | configure step => rfl
    | access =>
      rw [answers, List.findSome?_cons]
      cases known : site.data.kept with
      | some extent =>
        rw [(access_of_kept g known).2, known]
        rfl
      | none =>
        obtain ⟨answered, after⟩ := access_of_new g known
        rw [after, answered]
        cases freshly g site.session site.data.root with
        | ok extent => rfl
        | error fault => rfl

/-- **The extent of a dataset is computed once, completely or not at all.** Let any steps
of the session and any requests for the extent come before a request.

The document is the same then, and what is kept is the answer of the first request that
went well, if there was one. In that case the request is answered with it, as are all
later ones, whatever is done in between, and nothing is changed by it.

If none has gone well so far, the request is answered anew, from the document as it was in
the beginning and with the settings of the moment: without boxes there is no extent, and
with boxes it is the extent of all of their envelopes together, in the system of extents
that is set. The answer is kept if there is one, and if not then nothing is, so that the
next request comes to the same again. There is no answer if some box that counts has no
image in the system. -/
theorem extent_computed_once (g : Geodesy) (session : Session) (root : Element)
    (acts : List Act) :
    let start : Site := ⟨session, ⟨root, none⟩⟩
    let site := start.run g acts
    let first := (start.answers g acts).findSome? Except.toOption
    site.data = ⟨root, first⟩ ∧
    (∀ extent, first = some extent →
      site.answer g = .ok extent ∧ site.next g .access = site ∧
      ∀ later, ∀ answer ∈ site.answers g later, answer = .ok extent) ∧
    (first = none →
      site.answer g = freshly g site.session root ∧
      site.next g .access = ⟨(site.session.get false).2,
        ⟨root, (site.answer g).toOption⟩⟩ ∧
      (∀ extent, site.answer g = .ok extent → ∃ active found,
        (site.session.get false).1 = .ok active ∧
        Box.findAll root Box.ofRecords = .ok found ∧
        (extent = none ↔ found = []) ∧
        ∀ e, extent = some e →
          coalesceBoxes g active.reference? found = .ok e ∧
          ∃ envelopes, found.mapM Box.normalize = .ok envelopes ∧
            coalesce g active.reference? envelopes = .ok e) ∧
      ∀ active e, (site.session.get false).1 = .ok active →
        e ∈ (records root).flatMap countedBoxes →
        (∀ image, imageOf g active.reference? e ≠ .ok image) →
        ∃ fault, site.answer g = .error fault) := by
  intro start site first
  have data : site.data = ⟨root, first⟩ := by
    rw [data_run]
    rfl
  refine ⟨data, fun extent some => ?_, fun none => ?_⟩
  · have kept : site.data.kept = Option.some extent := by rw [data, some]
    obtain ⟨given, same⟩ := access_of_kept g kept
    exact ⟨given, same, answers_of_kept kept⟩
  · have new : site.data.kept = Option.none := by rw [data, none]
    obtain ⟨answered, after⟩ := access_of_new g new
    rw [data] at answered after
    rw [answered]
    refine ⟨rfl, after, fun extent worked => ?_,
      fun active e inUse counted unusable => exists_freshly_eq_error inUse counted unusable⟩
    exact exists_of_freshly_eq_ok worked

/-- A request before the file of settings is there, one when it is, and then a file that
holds none. -/
def interrupted : List Act := [
  .access,
  .configure (.write "settings" (.settings [("canonical_crs", .text "OGC:CRS84")])),
  .access,
  .configure (.write "settings" .nothing),
  .configure .flush]

/-- The first request fails, and the second one decides: the extent of the response is
given once more when settings can no longer be loaded. -/
theorem extent_computed_once_interrupted :
    let session : Session := { path := some "settings" }
    let start : Site := ⟨session, ⟨mixedResponse, none⟩⟩
    let site := start.run Envelope.noSystems interrupted
    start.answer Envelope.noSystems = .error (.setting (.missingFile "settings")) ∧
      (site.session.get false).1 = .error (.notSettings "settings" "NoneType") ∧
      ∃ e, (start.answers Envelope.noSystems interrupted).findSome? Except.toOption
          = some (some e) ∧
        site.answer Envelope.noSystems = .ok (some e) := by
  intro session start site
  let configured : Session :=
    session.write "settings" (.settings [("canonical_crs", .text "OGC:CRS84")])
  have stable : Crs.normalize (some "OGC:CRS84") = .ok "OGC:CRS84" := rfl
  obtain ⟨e, he, -, -⟩ := exists_extentIn isUsable_mixedResponse stable
    (List.cons_ne_nil nearBox [farBox]) (.inr stable)
  have second : freshly Envelope.noSystems configured mixedResponse = .ok (some e) :=
    (freshly_eq Envelope.noSystems configured ⟨mixedResponse, none⟩).trans he
  have unopened : start.data.kept = none := rfl
  have unanswered : (⟨configured, ⟨mixedResponse, none⟩⟩ : Site).data.kept = none := rfl
  obtain ⟨failed, before⟩ := access_of_new Envelope.noSystems unopened
  obtain ⟨given, after⟩ := access_of_new Envelope.noSystems unanswered
  have all : start.answers Envelope.noSystems interrupted
      = [.error (.setting (.missingFile "settings")), .ok (some e)] := by
    rw [interrupted, answers, failed, before]
    show _ :: (answer Envelope.noSystems ⟨configured, ⟨mixedResponse, none⟩⟩ :: []) = _
    rw [given, second]
    rfl
  have first : (start.answers Envelope.noSystems interrupted).findSome? Except.toOption
      = some (some e) := by
    rw [all]
    rfl
  have last : site.session = ((configured.get false).2.write "settings" .nothing).flush := by
    show (List.foldl (next Envelope.noSystems) start interrupted).session = _
    rw [interrupted, List.foldl_cons, before]
    show (((next Envelope.noSystems ⟨configured, ⟨mixedResponse, none⟩⟩ .access).session).write
      "settings" .nothing).flush = _
    rw [after]
  have again := extent_computed_once Envelope.noSystems session mixedResponse interrupted
  refine ⟨failed, ?_, e, first, (again.2.1 _ first).1⟩
  rw [last]
  rfl

end Site

end GeoCatalogue
