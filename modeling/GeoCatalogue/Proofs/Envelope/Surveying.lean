import GeoCatalogue.Envelope.Surveyor
import GeoCatalogue.Proofs.Crs.Limits
import GeoCatalogue.Proofs.Envelope.Settling
import GeoCatalogue.Proofs.Settings.Overrides

/-!
# What surveyors bring envelopes to

A surveyor finds the operation that an envelope takes in its store, where it may have been
put long ago, and a store that has to be made takes the settings. Neither shows in what
becomes of the envelope. **The store is sound** (`Surveyor.IsSound`): whatever has been
asked of a surveyor, what its store holds for two identifiers is what would be found for
them now. So a surveyor with settings brings an envelope to where it would be brought
without any store (`Surveyor.IsSound.fst_toCrs`): what comes of it is an envelope of the
system that was asked for, and **settled** there, or a failure with a reason.

What is expected of these failures is that they tell of a system that is not known or of a
transformation without a proper result (`Surveyor.IsAsPromised`). But whatever goes wrong
before there is an operation to transform with is passed on as it is: settings that cannot
be loaded, and the missing operation itself. The outcome is as promised **exactly if an
envelope that has to be moved finds settings and an operation**
(`run_toCrs_settles`).
-/
namespace GeoCatalogue

open Crs

/-! ## Sound caches -/

/-- **An operation joins two identifiers**: it is one from the system of the first to that
of the second, and there is such an operation. -/
structure Operation.Joins (g : Geodesy) (operation : Operation) (first second : String) :
    Prop where
  /-- The system of the first identifier. -/
  source : g.find first = .ok operation.source
  /-- The system of the second identifier. -/
  target : g.find second = .ok operation.target
  /-- There is an operation from the one to the other. -/
  connected : g.operation operation.source operation.target = .ok ()

namespace OperationCache

variable {g : Geodesy} {limit : Quantity} {cache : OperationCache}
  {source target : Option String} {pair : String × String}

/-- **A sound cache**: its operations join the identifiers that they are kept for. -/
def IsSound (g : Geodesy) (cache : OperationCache) : Prop :=
  ∀ entry ∈ cache.entries, entry.2.Joins g entry.1.1 entry.1.2

@[simp] theorem isSound_empty (g : Geodesy) : IsSound g {} :=
  nofun

theorem key_eq_ok : key source target = .ok pair ↔
    normalize source = .ok pair.1 ∧ normalize target = .ok pair.2 := by
  unfold key
  simp only [Except.bind_eq_ok, Except.ok.injEq]
  constructor
  · rintro ⟨first, hfirst, second, hsecond, rfl⟩
    exact ⟨hfirst, hsecond⟩
  · rintro ⟨hfirst, hsecond⟩
    exact ⟨pair.1, hfirst, pair.2, hsecond, rfl⟩

/-- The system of a reference is that of its identifier. -/
theorem find_of_find {reference : Option String} {id : String} {system : ReferenceSystem}
    (named : normalize reference = .ok id) (found : find g reference = .ok system) :
    g.find id = .ok system := by
  obtain ⟨id', named', found⟩ := find_eq_ok.mp found
  obtain rfl := Except.ok.inj (named.symm.trans named')
  exact found

/-- **A request leaves a sound cache sound**, whatever comes of it. -/
theorem IsSound.get (h : cache.IsSound g) (limit : Quantity) (source target : Option String) :
    (cache.get g limit source target).2.IsSound g := by
  have answered := answered_get g limit cache source target
  generalize cache.get g limit source target = outcome at answered ⊢
  obtain ⟨outcome, next⟩ := outcome
  cases answered with
  | unreadable unnamed => exact h
  | held named present => exact h
  | noRoom named absent closed => exact h
  | unknown named absent room missing =>
    obtain ⟨kept, suffix, rfl, -⟩ := exists_kept_of_makeRoom? room
    exact fun entry mem => h entry (suffix.subset mem)
  | added named absent room found =>
    obtain ⟨kept, suffix, rfl, -⟩ := exists_kept_of_makeRoom? room
    obtain ⟨hsource, htarget, connected⟩ := systems_eq_ok.mp found
    obtain ⟨first, second⟩ := key_eq_ok.mp named
    intro entry mem
    rcases List.mem_append.mp mem with old | new
    · exact h entry (suffix.subset old)
    · obtain rfl := List.mem_singleton.mp new
      exact ⟨find_of_find first hsource, find_of_find second htarget, connected⟩

/-- **A sound cache gives the systems that would be found without it**, or fails as looking
them up would. -/
theorem IsSound.systems_get (h : cache.IsSound g) (positive : limit.isAtMost 0 = false)
    (named : key source target = .ok pair) :
    (Surveyor.given (cache.get g limit source target).1).map
      (fun operation => (operation.source, operation.target))
        = Fault.lift (systems g source target) := by
  have answered := answered_get g limit cache source target
  have room : (cache.get g limit source target).1 ≠ .noRoom :=
    get_ne_noRoom positive source target
  generalize cache.get g limit source target = outcome at answered room ⊢
  obtain ⟨outcome, next⟩ := outcome
  cases answered with
  | unreadable unnamed => cases named.symm.trans unnamed
  | @held pair' operation named' present =>
    obtain rfl := Except.ok.inj (named.symm.trans named')
    obtain ⟨first, second⟩ := key_eq_ok.mp named
    have joins := h _ (mem_of_get? present)
    have found : systems g source target = .ok (operation.source, operation.target) :=
      systems_eq_ok.mpr ⟨find_eq_ok.mpr ⟨_, first, joins.source⟩,
        find_eq_ok.mpr ⟨_, second, joins.target⟩, joins.connected⟩
    rw [found]
    rfl
  | noRoom named' absent closed => exact absurd rfl room
  | unknown named' absent roomy missing =>
    rw [missing]
    rfl
  | added named' absent roomy found =>
    rw [found]
    rfl

end OperationCache

/-! ## Sound surveyors -/

namespace Surveyor

variable {g : Geodesy} {s : Surveyor} {e : Envelope}
  {source target reference : Option String} {pair : String × String}

/-- **A sound surveyor** has a sound cache, if it has one yet. -/
def IsSound (g : Geodesy) (s : Surveyor) : Prop :=
  ∀ store, s.store = some store → store.cache.IsSound g

/-- **A surveyor has the settings that it takes**: its store has been made already, or
settings can be loaded. -/
def HasSettings (s : Surveyor) : Prop :=
  s.store ≠ none ∨ ∃ active, (s.session.get false).1 = .ok active

@[simp] theorem isSound_start (g : Geodesy) (session : Session) :
    IsSound g { session := session } := by
  intro store no
  cases no

/-- **The ways in which an operation is looked for.** -/
inductive Looked (g : Geodesy) (s : Surveyor) (source target : Option String) :
    Except Fault Operation × Surveyor → Prop where
  /-- There is no store, and no settings to make one. -/
  | unloaded {defect : SettingDefect} {session : Session} (first : s.store = none)
      (missing : (s.session.get false).1 = .error defect) :
      Looked g s source target (.error (.setting defect), ⟨session, none⟩)
  /-- The cache of the store is asked, which is the one that was there or an empty one. -/
  | asked {store : OperationStore} {session : Session} (ready : s.HasSettings)
      (kept : s.store = some store ∨ store.cache = {}) :
      Looked g s source target
        (given (store.cache.get g store.limit source target).1,
          ⟨session, some { store with
            cache := (store.cache.get g store.limit source target).2 }⟩)

/-- **Every operation is looked for in one of these ways.** -/
theorem looked (g : Geodesy) (s : Surveyor) (source target : Option String) :
    Looked g s source target (s.operation g source target) := by
  unfold operation getStore
  cases kept : s.store with
  | some store => exact .asked (.inl (by rw [kept]; nofun)) (.inl kept)
  | none =>
    dsimp only
    cases asked : s.session.get false with
    | mk answer after =>
      cases answer with
      | error defect =>
        dsimp only
        exact .unloaded kept (congrArg Prod.fst asked)
      | ok active => exact .asked (.inr ⟨active, congrArg Prod.fst asked⟩) (.inr rfl)

/-- The cache that is asked is sound, be it the one of a sound surveyor or a new one. -/
theorem IsSound.cache {store : OperationStore} (h : s.IsSound g)
    (kept : s.store = some store ∨ store.cache = {}) : store.cache.IsSound g := by
  rcases kept with kept | empty
  · exact h store kept
  · rw [empty]
    exact OperationCache.isSound_empty g

/-- **Looking for an operation leaves a sound surveyor sound.** -/
theorem IsSound.operation (h : s.IsSound g) (source target : Option String) :
    (s.operation g source target).2.IsSound g := by
  have looked := looked g s source target
  generalize s.operation g source target = outcome at looked ⊢
  cases looked with
  | unloaded first missing =>
    intro store no
    cases no
  | @asked store session ready kept =>
    rintro _ ⟨⟩
    exact (h.cache kept).get store.limit source target

/-- **A sound surveyor with settings finds the systems that would be found without a
store.** -/
theorem IsSound.systems_operation (h : s.IsSound g) (ready : s.HasSettings)
    (named : OperationCache.key source target = .ok pair) :
    (s.operation g source target).1.map
      (fun operation => (operation.source, operation.target))
        = Fault.lift (systems g source target) := by
  have looked := looked g s source target
  generalize s.operation g source target = outcome at looked ⊢
  cases looked with
  | unloaded first missing =>
    rcases ready with stored | ⟨active, found⟩
    · exact absurd first stored
    · cases missing.symm.trans found
  | @asked store session ready kept =>
    exact (h.cache kept).systems_get store.limit_pos named

/-- A surveyor without settings is told what is wrong with them. -/
theorem exists_operation_eq_error (h : ¬s.HasSettings) (g : Geodesy)
    (source target : Option String) :
    ∃ defect, s.store = none ∧ (s.session.get false).1 = .error defect ∧
      (s.operation g source target).1 = .error (.setting defect) := by
  have looked := looked g s source target
  generalize s.operation g source target = outcome at looked ⊢
  cases looked with
  | unloaded first missing => exact ⟨_, first, missing, rfl⟩
  | asked ready kept => exact absurd ready h

/-! ## Envelopes -/

/-- With the operation that it takes, an envelope is moved. -/
theorem toCrs_eq_moved {operation : Operation}
    (between : e.Between g reference operation.source operation.target)
    (connected : g.operation operation.source operation.target = .ok ()) :
    e.toCrs g reference = moved g e reference operation := by
  obtain ⟨crs, known, -⟩ := find_eq_ok.mp between.after
  unfold Envelope.toCrs moved
  rw [Envelope.exists_between_iff.mp ⟨_, _, between⟩, known,
    systems_of_find between.before between.after, connected]
  rfl

/-- **A sound surveyor brings an envelope to where it would be brought without a store**, if
there are settings for one that has to be moved. In the same system there is nothing to look
for, and in different ones the store gives the systems that a look at geodesy would have
given, or fails as that would: what has been kept is not out of date. -/
theorem IsSound.fst_toCrs (h : s.IsSound g)
    (ready : ∀ source target, e.Between g reference source target → s.HasSettings) :
    (s.toCrs g e reference).1 = Fault.lift (e.toCrs g reference) := by
  unfold Surveyor.toCrs
  cases same : Crs.same g (some e.crs) reference with
  | error failure =>
    unfold Envelope.toCrs
    rw [same]
    rfl
  | ok same' =>
    cases same' with
    | true =>
      unfold Envelope.toCrs
      rw [same, Except.ok_bind]
      cases normalize reference <;> rfl
    | false =>
      obtain ⟨source, target, between⟩ := Envelope.exists_between_iff.mpr same
      obtain ⟨own, named, -⟩ := find_eq_ok.mp between.before
      obtain ⟨crs, known, -⟩ := find_eq_ok.mp between.after
      have key : OperationCache.key (some e.crs) reference = .ok (own, crs) :=
        OperationCache.key_eq_ok.mpr ⟨named, known⟩
      have systems := h.systems_operation (ready source target between) key
      rw [systems_of_find between.before between.after] at systems
      dsimp only
      generalize s.operation g (some e.crs) reference = found at systems ⊢
      obtain ⟨found, after⟩ := found
      cases connected : g.operation source target with
      | error explanation =>
        rw [connected] at systems
        cases found with
        | ok operation => cases systems
        | error fault =>
          rw [Envelope.toCrs_of_unconnected between connected]
          exact congrArg Except.error (Except.error.inj systems)
      | ok there =>
        rw [connected] at systems
        cases found with
        | error fault => cases systems
        | ok operation =>
          obtain ⟨rfl, rfl⟩ := Prod.mk.inj (Except.ok.inj systems)
          rw [toCrs_eq_moved between connected]

/-- **A surveyor without settings moves nothing.** -/
theorem exists_toCrs_eq_error (h : ¬s.HasSettings) {source target : ReferenceSystem}
    (between : e.Between g reference source target) :
    ∃ defect, s.store = none ∧ (s.session.get false).1 = .error defect ∧
      (s.toCrs g e reference).1 = .error (.setting defect) := by
  obtain ⟨defect, first, missing, failed⟩ :=
    exists_operation_eq_error h g (some e.crs) reference
  refine ⟨defect, first, missing, ?_⟩
  unfold toCrs
  rw [Envelope.exists_between_iff.mp ⟨source, target, between⟩]
  dsimp only
  generalize s.operation g (some e.crs) reference = found at failed ⊢
  obtain ⟨found, after⟩ := found
  obtain rfl : found = _ := failed
  rfl

/-- In the same system, an envelope keeps its bounds, and nothing is asked for. -/
theorem toCrs_of_same {crs : String} (same : Crs.same g (some e.crs) reference = .ok true)
    (known : normalize reference = .ok crs) (s : Surveyor) :
    s.toCrs g e reference = (.ok { e with crs := crs }, s) := by
  unfold toCrs
  rw [same, known]
  rfl

theorem IsSound.toCrs (h : s.IsSound g) (e : Envelope) (reference : Option String) :
    (s.toCrs g e reference).2.IsSound g := by
  unfold Surveyor.toCrs
  split
  · exact h
  · exact h
  · have sound := h.operation (some e.crs) reference
    generalize s.operation g (some e.crs) reference = found at sound ⊢
    obtain ⟨found, after⟩ := found
    cases found with
    | error fault => exact sound
    | ok operation => exact sound

/-! ## Runs -/

/-- **What is asked of a surveyor.** -/
inductive Act where
  /-- The session takes a step. -/
  | configure (step : Session.Step)
  /-- An envelope is brought to the system of a reference. -/
  | bring (e : Envelope) (reference : Option String)
  /-- An operation is looked for. -/
  | look (source target : Option String)
  /-- The cache is cleared, if there is one. -/
  | clear

/-- The surveyor after an act, whatever came of it. -/
def next (g : Geodesy) (s : Surveyor) : Act → Surveyor
  | .configure step => { s with session := (s.session.step step).2 }
  | .bring e reference => (s.toCrs g e reference).2
  | .look source target => (s.operation g source target).2
  | .clear =>
    { s with store := s.store.map fun store => { store with cache := store.cache.clear } }

/-- **The surveyor after some acts**, one after the other. -/
def run (g : Geodesy) (s : Surveyor) (acts : List Act) : Surveyor :=
  acts.foldl (next g) s

/-- **Every act leaves a sound surveyor sound.** -/
theorem IsSound.next (h : s.IsSound g) (act : Act) : (s.next g act).IsSound g := by
  cases act with
  | configure step => exact h
  | bring e reference => exact h.toCrs e reference
  | look source target => exact h.operation source target
  | clear =>
    intro store cleared
    obtain ⟨before, -, rfl⟩ := Option.map_eq_some_iff.mp cleared
    exact OperationCache.isSound_empty g

/-- **Whatever is asked of a sound surveyor leaves it sound.** -/
theorem IsSound.run (h : s.IsSound g) (acts : List Act) : (s.run g acts).IsSound g := by
  induction acts generalizing s with
  | nil => exact h
  | cons act acts ih => exact ih (h.next act)

/-! ## Outcomes -/

/-- **What can come of bringing an envelope to the system of a reference** in a session. -/
inductive Surveyed (g : Geodesy) (s : Surveyor) (e : Envelope) (reference : Option String) :
    Except Fault Envelope → Prop where
  /-- The envelope has to be moved for the first time, and there are no settings. -/
  | unloaded {source target : ReferenceSystem} {defect : SettingDefect}
      (between : e.Between g reference source target) (first : s.store = none)
      (missing : (s.session.get false).1 = .error defect) :
      Surveyed g s e reference (.error (.setting defect))
  /-- The envelope is brought there, or not, as it would be without a store. -/
  | brought {outcome : Except Failure Envelope}
      (ready : ∀ source target, e.Between g reference source target → s.HasSettings)
      (brought : e.Brought g reference outcome) :
      Surveyed g s e reference (Fault.lift outcome)

/-- **The outcomes that are promised**: an envelope, or a failure that tells of a system or
of a transformation. -/
inductive IsAsPromised : Except Fault Envelope → Prop where
  /-- An envelope. -/
  | image (e : Envelope) : IsAsPromised (.ok e)
  /-- A reference to no known system. -/
  | unsupported (reference : Option String) (defect : CrsDefect) :
      IsAsPromised (.error (.failure (.unsupportedCrs reference defect)))
  /-- A transformation without a proper result. -/
  | untransformed (source target : String) (defect : TransformDefect) :
      IsAsPromised (.error (.failure (.transformFailure source target defect)))

/-- **Every envelope is brought to a system in one of these ways.** -/
theorem IsSound.surveyed (h : s.IsSound g) (e : Envelope) (reference : Option String) :
    s.Surveyed g e reference (s.toCrs g e reference).1 := by
  by_cases ready : ∀ source target, e.Between g reference source target → s.HasSettings
  · rw [h.fst_toCrs ready]
    exact .brought ready (e.brought g reference)
  · simp only [not_forall] at ready
    obtain ⟨source, target, between, unready⟩ := ready
    obtain ⟨defect, first, missing, failed⟩ := exists_toCrs_eq_error unready between
    rw [failed]
    exact .unloaded between first missing

/-- **The outcome is as promised exactly if an envelope that has to be moved finds settings
and an operation.** These are what is looked for before the transformation is tried, and
what goes wrong there is not put into other words. All that goes wrong afterwards is. -/
theorem IsSound.isAsPromised_iff (h : s.IsSound g) :
    IsAsPromised (s.toCrs g e reference).1 ↔
      ∀ source target, e.Between g reference source target →
        s.HasSettings ∧ g.operation source target = .ok () := by
  constructor
  · intro promised source target between
    have ready : s.HasSettings := by
      by_contra unready
      obtain ⟨defect, -, -, failed⟩ := exists_toCrs_eq_error unready between
      rw [failed] at promised
      cases promised
    refine ⟨ready, ?_⟩
    rw [h.fst_toCrs fun _ _ _ => ready] at promised
    cases missing : g.operation source target with
    | ok there => rfl
    | error explanation =>
      rw [Envelope.toCrs_of_unconnected between missing] at promised
      cases promised
  · intro equipped
    rw [h.fst_toCrs fun source target between => (equipped source target between).1]
    have brought := e.brought g reference
    generalize e.toCrs g reference = outcome at brought ⊢
    cases brought with
    | kept => exact .image _
    | moved => exact .image _
    | unsupported => exact .unsupported _ _
    | unconnected between missing =>
      rw [(equipped _ _ between).2] at missing
      cases missing
    | noImage => exact .untransformed _ _ _
    | nonFinite => exact .untransformed _ _ _
    | inverted => exact .untransformed _ _ _

/-- **An envelope that comes of it was brought to its system.** -/
theorem IsSound.toCrs_eq_ok {image : Envelope} (h : s.IsSound g)
    (brought : (s.toCrs g e reference).1 = .ok image) : e.toCrs g reference = .ok image := by
  rw [h.fst_toCrs fun source target between => ?_] at brought
  · exact Fault.lift_eq_ok.mp brought
  · by_contra unready
    obtain ⟨defect, -, -, failed⟩ := exists_toCrs_eq_error unready between
    cases failed.symm.trans brought

end Surveyor

/-- **Whatever a transformation gives, bringing an envelope to a system gives an envelope
of this system or says what stands in the way.** Let a surveyor start in some session
without a store, and let anything be asked of it. Let the identifier of a reference, if it
has one, stay as it is. Then

* what comes of bringing an envelope to the system of the reference is described by
  `Surveyor.Surveyed`: it keeps its bounds or is moved to the result of a transformation
  that is finite and not inverted – or a system is not known, or the transformation has no
  result, one that is not finite or one that is inverted – or there are no settings, or
  there is no operation;
* the last two are the only ones that are not promised: the outcome is as promised exactly
  if an envelope that has to be moved finds settings and an operation;
* an envelope that comes of it has finite coordinates that are in order, and the
  identifier of the reference; it can be built anew, and it stays as it is when the same
  surveyor brings it to the system again;
* the envelope that would come of it is never malformed;
* in the same system, the bounds are kept, and so is the surveyor. -/
theorem run_toCrs_settles (g : Geodesy) (session : Session) (acts : List Surveyor.Act)
    (e : Envelope) {reference : Option String}
    (stable : ∀ crs, normalize reference = .ok crs → normalize (some crs) = .ok crs) :
    let s := Surveyor.run g { session := session } acts
    let outcome := (s.toCrs g e reference).1
    let after := (s.toCrs g e reference).2
    s.Surveyed g e reference outcome ∧
    (Surveyor.IsAsPromised outcome ↔
      ∀ source target, e.Between g reference source target →
        s.HasSettings ∧ g.operation source target = .ok ()) ∧
    (∀ image, outcome = .ok image →
      image.bounds.extended.AllFinite ∧ ¬image.bounds.extended.Inverted ∧
      normalize reference = .ok image.crs ∧
      Envelope.ofBounds image.bounds.extended reference = .ok image ∧
      after.toCrs g image reference = (.ok image, after)) ∧
    (∀ defect, outcome ≠ .error (.failure (.malformedEnvelope defect))) ∧
    (Crs.same g (some e.crs) reference = .ok true →
      ∃ image, s.toCrs g e reference = (.ok image, s) ∧ image.bounds = e.bounds) := by
  intro s outcome after
  have sound : s.IsSound g := (Surveyor.isSound_start g session).run acts
  have surveyed := sound.surveyed e reference
  refine ⟨surveyed, sound.isAsPromised_iff, fun image h => ?_, fun defect h => ?_,
    fun same => ?_⟩
  · have brought := sound.toCrs_eq_ok h
    have known := Envelope.normalize_of_toCrs brought
    have settled : Crs.same g (some image.crs) reference = .ok true :=
      Crs.same_eq_true_iff.mpr ⟨_, _, stable _ known, known, .refl g image.crs⟩
    exact ⟨Bounds.allFinite_iff.mpr ⟨_, rfl⟩, fun inverted =>
        Bounds.inverted_extended_iff.mp inverted image.ordered,
      known, Envelope.ofBounds_extended known, Surveyor.toCrs_of_same settled known after⟩
  · rw [show (s.toCrs g e reference).1 = _ from h] at surveyed
    generalize outcomeIs : (Except.error (.failure (.malformedEnvelope defect)) :
      Except Fault Envelope) = malformed at surveyed
    cases surveyed with
    | unloaded => cases outcomeIs
    | brought ready brought => cases brought <;> cases outcomeIs
  · obtain ⟨own, crs, -, known, -⟩ := Crs.same_eq_true_iff.mp same
    exact ⟨_, Surveyor.toCrs_of_same same known s, rfl⟩

/-- A point whose axes are exchanged by a transformation is settled after it, also with an
operation that is in the store already. -/
theorem run_toCrs_settles_eastward :
    let g := Geodesy.standard "unknown"
    let reference := some "urn:ogc:def:crs:EPSG::4326"
    let s := Surveyor.run g {} [.bring Envelope.eastward reference, .configure .flush]
    let after := (s.toCrs g Envelope.eastward reference).2
    normalize reference = .ok "EPSG:4326" ∧
    normalize (some "EPSG:4326") = .ok "EPSG:4326" ∧
    ∃ image, (s.toCrs g Envelope.eastward reference).1 = .ok image ∧
      image.crs = "EPSG:4326" ∧ after.toCrs g image reference = (.ok image, after) := by
  intro g reference s after
  have known : normalize reference = .ok "EPSG:4326" := rfl
  have fixed : normalize (some "EPSG:4326") = .ok "EPSG:4326" := rfl
  have stable : ∀ crs, normalize reference = .ok crs →
      normalize (some crs) = .ok crs := by
    intro crs h
    obtain rfl := Except.ok.inj (known.symm.trans h)
    exact fixed
  have moved : (s.toCrs g Envelope.eastward reference).1.isOk = true := by
    decide +kernel
  obtain ⟨image, h⟩ := Except.exists_of_isOk moved
  obtain ⟨-, -, settled, -⟩ := run_toCrs_settles g {}
    [.bring Envelope.eastward reference, .configure .flush] Envelope.eastward stable
  obtain ⟨-, -, hcrs, -, again⟩ := settled image h
  exact ⟨known, fixed, image, h, (Except.ok.inj (known.symm.trans hcrs)).symm, again⟩

/-- **An envelope to which nothing of what is promised happens**: there is no operation from
the earth to the moon, and that is not put down to the transformation. Nor are settings that
are in no file. -/
theorem not_isAsPromised_moon :
    let g := Geodesy.standard "unknown"
    let moon := some "ESRI:104903"
    let settled : Surveyor := {}
    let lost : Surveyor := { session := { path := some "settings" } }
    normalize moon = .ok "ESRI:104903" ∧
    (settled.toCrs g (Envelope.origin "EPSG:4326") moon).1
      = .error (.failure (.noOperation "unknown")) ∧
    ¬Surveyor.IsAsPromised (settled.toCrs g (Envelope.origin "EPSG:4326") moon).1 ∧
    (lost.toCrs g Envelope.eastward (some "EPSG:4326")).1
      = .error (.setting (.missingFile "settings")) ∧
    ¬Surveyor.IsAsPromised (lost.toCrs g Envelope.eastward (some "EPSG:4326")).1 := by
  intro g moon settled lost
  have unconnected : (settled.toCrs g (Envelope.origin "EPSG:4326") moon).1
      = .error (.failure (.noOperation "unknown")) := rfl
  have unloaded : (lost.toCrs g Envelope.eastward (some "EPSG:4326")).1
      = .error (.setting (.missingFile "settings")) := rfl
  refine ⟨rfl, unconnected, fun promised => ?_, unloaded, fun promised => ?_⟩
  · rw [unconnected] at promised
    cases promised
  · rw [unloaded] at promised
    cases promised

end GeoCatalogue
