import GeoCatalogue.Journal.Setup
import GeoCatalogue.Proofs.Outcome
import GeoCatalogue.Settings.Session

/-!
# One setup of the journal after another

The journal may be set up any number of times. In between the settings may become
others, and from elsewhere there may be handlers that have nothing to do with it. A setup
is written down here as it is carried out (`Desk.settingUp`): the handlers of earlier
setups are taken out of the list one by one, while a copy of the list is gone through, then
the new one is put in, and the level comes last. If it fails, what has been done so far
stays.

It comes to the same as leaving out the handlers of setups all at once (`cleared_eq`).
Therefore **the handlers from elsewhere are there always, in their order and in front, with
one handler of a setup behind them at most** (`Desk.Tidy`); this is kept by setups that
fail as well. A setup that returns leaves its own handler, and the level that it was asked
for or has taken from the settings (`Desk.setups_leave_one_handler`).
-/
namespace GeoCatalogue.Journal

open Text

/-! ## Taking handlers away -/

/-- **A list of handlers without those of setups**, taken away one by one while a copy of
the list is gone through. -/
def cleared (copy handlers : List Handler) : List Handler :=
  copy.foldl (fun left existing => if existing.own then left.erase existing else left) handlers

/-- What has been gone through and left there stays, and of the rest what is not of a
setup. -/
@[simp] theorem cleared_append {front : List Handler} (foreign : ∀ h ∈ front, h.own = false)
    (rest : List Handler) : cleared rest (front ++ rest) = front ++ rest.filter (!·.own) := by
  induction rest generalizing front with
  | nil => rfl
  | cons h rest ih =>
    unfold cleared
    rw [List.foldl_cons]
    cases own : h.own with
    | true =>
      -- nothing in front of it is equal to it, since that is from elsewhere
      have absent : h ∉ front := fun mem => by
        rw [foreign h mem] at own
        cases own
      rw [if_pos rfl, List.erase_append_right _ absent, List.erase_cons_head,
        List.filter_cons_of_neg (by simp [own])]
      exact ih foreign
    | false =>
      have more := ih (List.forall_mem_append.mpr ⟨foreign, List.forall_mem_singleton.mpr own⟩)
      rw [List.append_assoc, List.append_assoc] at more
      rw [if_neg Bool.false_ne_true, List.filter_cons_of_pos (by simp [own])]
      exact more

/-- **One by one or all at once**, the same handlers are left. -/
@[simp] theorem cleared_eq (handlers : List Handler) :
    cleared handlers handlers = handlers.filter (!·.own) :=
  cleared_append (List.forall_mem_nil _) handlers

/-! ## Setups -/

section

variable {settings : Settings} {wish : Wish}

/-- A setup that finds the threshold of its level sets it. -/
theorem Logbook.setUp_of_some {threshold : Threshold}
    (known : thresholds.lookup (upper (wish.levelName settings)) = some threshold)
    (book : Logbook) (stream : Nat) :
    book.setUp settings wish stream
      = (.ok (), { book.install ⟨true, wish.format settings, stream⟩ with
          threshold := threshold }) := by
  unfold Logbook.setUp
  dsimp only
  rw [known]

/-- A setup that does not find the threshold of its level has installed its handler. -/
theorem Logbook.setUp_of_none
    (unknown : thresholds.lookup (upper (wish.levelName settings)) = none)
    (book : Logbook) (stream : Nat) :
    book.setUp settings wish stream
      = (.error (.level (upper (wish.levelName settings))),
        book.install ⟨true, wish.format settings, stream⟩) := by
  unfold Logbook.setUp
  dsimp only
  rw [unknown]

end

/-- **The level of a setup**: it is asked for, or taken from the settings. -/
inductive Wish.AsksLevel (wish : Wish) (s : Session) : String → Prop where
  /-- It is asked for a level. -/
  | given {name : String} (asked : wish.level = some name) (nonempty : name ≠ "") :
      AsksLevel wish s name
  /-- The level is that of the settings. -/
  | kept {active : ActiveSettings}
      (left : wish.level = none ∨ wish.level = some "" ∧ wish.json = none)
      (inUse : (s.get false).1 = .ok active) : AsksLevel wish s active.settings.logLevel.text

/-- **The format of the handler of a setup**: it is asked for, or taken from the settings. -/
inductive Wish.AsksFormat (wish : Wish) (s : Session) : Format → Prop where
  /-- It is asked for a format. -/
  | given {json : Bool} (asked : wish.json = some json) :
      AsksFormat wish s (if json then .json else .plain)
  /-- The format is that of the settings. -/
  | kept {active : ActiveSettings} (left : wish.json = none)
      (inUse : (s.get false).1 = .ok active) :
      AsksFormat wish s (if counts active.settings.logJson then .json else .plain)

/-- The settings that a setup looks at, and the session after it has asked for them; if
nothing is left to the settings, they are not asked for, and it does not matter which ones
these are. -/
def Wish.settingsIn (wish : Wish) (s : Session) : Except SettingDefect Settings × Session :=
  if wish.needsSettings then ((s.get false).1.map ActiveSettings.settings, (s.get false).2)
  else (.ok Settings.packaged, s)

/-- **A journal, and the session that it is used in.** -/
structure Desk where
  /-- The session. -/
  session : Session
  /-- The journal. -/
  book : Logbook

namespace Desk

/-- **A request for the level and the format**, step by step: the settings are asked for
them only if one of the two is left to them. -/
def choosing (wish : Wish) : EStateM Fault Desk (String × Format) := do
  if wish.needsSettings then
    let s := (← get).session
    modify fun desk => { desk with session := (s.get false).2 }
    let active ← ofExcept ((s.get false).1.mapError Fault.setting)
    return (wish.levelName active.settings, wish.format active.settings)
  else return (wish.level.getD "", if wish.json.getD false then .json else .plain)

/-- The journal with other handlers. -/
def withHandlers (desk : Desk) (handlers : List Handler) : Desk :=
  { desk with book := { desk.book with handlers := handlers } }

/-- **Taking the handlers of setups away**, step by step, from a copy of the list. -/
def removing (copy : List Handler) : EStateM Fault Desk Unit := do
  for existing in copy do
    if existing.own then
      modify fun desk => desk.withHandlers (desk.book.handlers.erase existing)

/-- **A setup**, step by step. -/
def settingUp (wish : Wish) (stream : Nat) : EStateM Fault Desk Handler := do
  let (name, format) ← choosing wish
  let handler : Handler := ⟨true, format, stream⟩
  removing (← get).book.handlers
  modify fun desk => desk.withHandlers (desk.book.handlers ++ [handler])
  match thresholds.lookup (upper name) with
  | none => throw (.level (upper name))
  | some threshold =>
    modify fun desk => { desk with book := { desk.book with threshold := threshold } }
    return handler

/-- **What is done at a desk.** -/
inductive Act where
  /-- A step of the session. -/
  | configure (step : Session.Step)
  /-- A setup of the journal. -/
  | setUp (wish : Wish) (stream : Nat)

/-- What is there after an act, whether it has failed or not. -/
def next (desk : Desk) : Act → Desk
  | .configure step => { desk with session := (desk.session.step step).2 }
  | .setUp wish stream =>
    match (settingUp wish stream).run desk with
    | .ok _ after => after
    | .error _ after => after

/-- **What is there after some acts.** -/
def run (desk : Desk) (acts : List Act) : Desk :=
  acts.foldl next desk

variable {desk after : Desk} {wish : Wish} {stream : Nat} {handler : Handler}

/-! ## One setup -/

/-- What taking handlers away leaves. -/
@[simp] theorem removing_run (copy : List Handler) (desk : Desk) :
    (removing copy).run desk
      = .ok () (desk.withHandlers (cleared copy desk.book.handlers)) := by
  induction copy generalizing desk with
  | nil => rfl
  | cons existing copy ih =>
    unfold removing at ih ⊢
    rw [List.forIn_cons, EStateM.run_bind]
    have more := ih (if existing.own then
      desk.withHandlers (desk.book.handlers.erase existing) else desk)
    cases own : existing.own with
    | true =>
      rw [own, if_pos rfl] at more
      refine more.trans ?_
      simp only [cleared, List.foldl_cons, own, if_pos]
      rfl
    | false =>
      rw [own, if_neg Bool.false_ne_true] at more
      refine more.trans ?_
      simp only [cleared, List.foldl_cons, own, if_neg Bool.false_ne_true]

/-- What comes of a request for the level and the format. -/
theorem choosing_run (wish : Wish) (desk : Desk) :
    (choosing wish).run desk = match wish.settingsIn desk.session with
      | (.ok settings, s) =>
        .ok (wish.levelName settings, wish.format settings) { desk with session := s }
      | (.error defect, s) => .error (.setting defect) { desk with session := s } := by
  unfold choosing Wish.settingsIn
  cases needs : wish.needsSettings with
  | true =>
    simp only [if_true, EStateM.run_bind, EStateM.run_get, EStateM.run_modify,
      EStateM.run_ofExcept]
    cases (desk.session.get false).1 with
    | ok active => rfl
    | error defect => rfl
  | false =>
    obtain ⟨level, json⟩ := wish
    obtain ⟨left, left'⟩ := Bool.or_eq_false_iff.mp needs
    cases level with
    | none => cases left
    | some name =>
      cases json with
      | none => cases left'
      | some json => simp [Wish.levelName, Wish.format]

/-- **A setup does what the journal does**, with the settings of the session. -/
theorem settingUp_run (wish : Wish) (stream : Nat) (desk : Desk) :
    (settingUp wish stream).run desk = match wish.settingsIn desk.session with
      | (.error defect, s) => .error (.setting defect) { desk with session := s }
      | (.ok settings, s) => match desk.book.setUp settings wish stream with
        | (.ok (), book) => .ok ⟨true, wish.format settings, stream⟩ ⟨s, book⟩
        | (.error fault, book) => .error fault ⟨s, book⟩ := by
  unfold settingUp
  rw [EStateM.run_bind, choosing_run]
  obtain ⟨outcome, s⟩ := wish.settingsIn desk.session
  cases outcome with
  | error defect => rfl
  | ok settings =>
    simp only [EStateM.run_bind, EStateM.run_get, removing_run, EStateM.run_modify, cleared_eq]
    cases found : thresholds.lookup (upper (wish.levelName settings)) with
    | none =>
      rw [Logbook.setUp_of_none found]
      rfl
    | some threshold =>
      rw [Logbook.setUp_of_some found]
      rfl

/-- **What a setup that returns has done.** The handlers are those after installing the new
one, whatever the level was before; and the level is one of those that have a threshold, in
capitals, since the setup would not have returned with any other. -/
theorem exists_of_settingUp (h : (settingUp wish stream).run desk = .ok handler after) :
    ∃ settings s, wish.settingsIn desk.session = (.ok settings, s) ∧
      handler = ⟨true, wish.format settings, stream⟩ ∧
      after.book.handlers = (desk.book.install handler).handlers ∧
      (upper (wish.levelName settings), after.book.threshold) ∈ thresholds := by
  rw [settingUp_run] at h
  cases asked : wish.settingsIn desk.session with
  | mk outcome s =>
    rw [asked] at h
    cases outcome with
    | error defect => cases h
    | ok settings =>
      dsimp only at h
      cases found : thresholds.lookup (upper (wish.levelName settings)) with
      | none =>
        rw [Logbook.setUp_of_none found] at h
        cases h
      | some threshold =>
        rw [Logbook.setUp_of_some found] at h
        cases h
        obtain ⟨before, behind, split, -⟩ := List.lookup_eq_some_iff.mp found
        refine ⟨settings, s, rfl, rfl, rfl, ?_⟩
        rw [split]
        exact List.mem_append_right before List.mem_cons_self

/-- The settings that a setup has looked at are in use, if something is left to them. -/
theorem exists_active_of_settingsIn {s next : Session} {settings : Settings}
    (h : wish.settingsIn s = (.ok settings, next)) (needs : wish.needsSettings = true) :
    ∃ active, (s.get false).1 = .ok active ∧ settings = active.settings := by
  unfold Wish.settingsIn at h
  rw [if_pos needs] at h
  have got := congrArg Prod.fst h
  cases asked : (s.get false).1 with
  | error defect =>
    rw [asked] at got
    cases got
  | ok active =>
    rw [asked] at got
    exact ⟨active, rfl, (Except.ok.inj got).symm⟩

/-- **The level of a setup** is the one that it is asked for, or that of the settings; a
level without a name is none. -/
theorem asksLevel_of_settingsIn {s next : Session} {settings : Settings}
    (h : wish.settingsIn s = (.ok settings, next)) (named : wish.levelName settings ≠ "") :
    wish.AsksLevel s (wish.levelName settings) := by
  unfold Wish.levelName at named ⊢
  cases asked : wish.level with
  | none =>
    have needs : wish.needsSettings = true := by
      rw [Wish.needsSettings, asked]
      rfl
    obtain ⟨active, inUse, rfl⟩ := exists_active_of_settingsIn h needs
    exact .kept (.inl asked) inUse
  | some name =>
    rw [asked] at named
    dsimp only at named ⊢
    split at named
    · next left =>
      obtain ⟨empty, json⟩ := (Bool.and_eq_true _ _).mp left
      obtain rfl := decide_eq_true_eq.mp empty
      have needs : wish.needsSettings = true := by
        rw [Wish.needsSettings, json]
        exact Bool.or_true _
      obtain ⟨active, inUse, rfl⟩ := exists_active_of_settingsIn h needs
      rw [if_pos left]
      exact .kept (.inr ⟨asked, Option.isNone_iff_eq_none.mp json⟩) inUse
    · next given =>
      rw [if_neg given]
      exact .given asked named

/-- **The format of a setup** is the one that it is asked for, or that of the settings. -/
theorem asksFormat_of_settingsIn {s next : Session} {settings : Settings}
    (h : wish.settingsIn s = (.ok settings, next)) :
    wish.AsksFormat s (wish.format settings) := by
  unfold Wish.format
  cases asked : wish.json with
  | some json => exact .given asked
  | none =>
    have needs : wish.needsSettings = true := by
      rw [Wish.needsSettings, asked]
      exact Bool.or_true _
    obtain ⟨active, inUse, rfl⟩ := exists_active_of_settingsIn h needs
    exact .kept asked inUse

/-! ## Any number of setups -/

variable {foreign : List Handler} {book : Logbook}

/-- **A list of handlers that is in order**: those from elsewhere, and behind them one of a
setup at most. -/
def Tidy (foreign : List Handler) (book : Logbook) : Prop :=
  ∃ own : Option Handler, book.handlers = foreign ++ own.toList ∧ ∀ h ∈ own, h.own = true

/-- **A handler that is installed is the only one of a setup.** -/
theorem Tidy.handlers_install (tidy : Tidy foreign book)
    (elsewhere : ∀ h ∈ foreign, h.own = false) (handler : Handler) :
    (book.install handler).handlers = foreign ++ [handler] := by
  obtain ⟨own, handlers, marked⟩ := tidy
  have kept : foreign.filter (!·.own) = foreign :=
    List.filter_eq_self.mpr fun h mem => by rw [elsewhere h mem]; rfl
  have gone : own.toList.filter (!·.own) = [] :=
    List.filter_eq_nil_iff.mpr fun h mem => by
      rw [marked h (Option.mem_toList.mp mem)]
      exact Bool.false_ne_true
  show book.handlers.filter (!·.own) ++ [handler] = _
  rw [handlers, List.filter_append, kept, gone, List.append_nil]

/-- **A setup leaves the handlers in order**, whether it fails or not: first all those of
others, as they were, and then at most one of its own. A setup that fails on the settings has
not touched them, and one that fails on the level has installed its handler already. -/
theorem Tidy.next (tidy : Tidy foreign desk.book) (elsewhere : ∀ h ∈ foreign, h.own = false)
    (act : Act) : Tidy foreign (desk.next act).book := by
  cases act with
  | configure step => exact tidy
  | setUp wish stream =>
    unfold Desk.next
    dsimp only
    rw [settingUp_run]
    obtain ⟨outcome, s⟩ := wish.settingsIn desk.session
    cases outcome with
    | error defect => exact tidy
    | ok settings =>
      have installed := tidy.handlers_install elsewhere ⟨true, wish.format settings, stream⟩
      dsimp only
      cases found : thresholds.lookup (upper (wish.levelName settings)) with
      | none =>
        rw [Logbook.setUp_of_none found]
        exact ⟨some _, installed, by rintro _ ⟨⟩; rfl⟩
      | some threshold =>
        rw [Logbook.setUp_of_some found]
        exact ⟨some _, installed, by rintro _ ⟨⟩; rfl⟩

/-- **The handlers stay in order**, whatever is done. -/
theorem Tidy.run (tidy : Tidy foreign desk.book) (elsewhere : ∀ h ∈ foreign, h.own = false)
    (acts : List Act) : Tidy foreign (desk.run acts).book := by
  induction acts generalizing desk with
  | nil => exact tidy
  | cons act acts ih => exact ih (tidy.next elsewhere act)

/-- Steps of the session leave the journal alone. -/
theorem book_run_of_configure {acts : List Act}
    (quiet : ∀ act ∈ acts, ∃ step, act = .configure step) : (desk.run acts).book = desk.book := by
  induction acts generalizing desk with
  | nil => rfl
  | cons act acts ih =>
    obtain ⟨⟨step, rfl⟩, others⟩ := List.forall_mem_cons.mp quiet
    exact ih others

/-- **The journal after any setups.** Let all handlers of a journal be from elsewhere, and
let any steps of the session and any setups follow, of which the last one returns.

Then the handlers are those from elsewhere, in their order, and behind them the one that
the last setup has returned, which is the only one of a setup. It writes to the stream and
in the format that the last setup was asked for; and the threshold is the one of the level
that it was asked for, in any letter case. What the last setup was not asked for is that of
the settings that were in use when it took place. -/
theorem setups_leave_one_handler {session : Session}
    (elsewhere : ∀ h ∈ book.handlers, h.own = false) (before later : List Act)
    (quiet : ∀ act ∈ later, ∃ step, act = .configure step)
    (returns : (settingUp wish stream).run ((⟨session, book⟩ : Desk).run before)
      = .ok handler after) :
    let last := ((⟨session, book⟩ : Desk).run (before ++ .setUp wish stream :: later)).book
    last.handlers = book.handlers ++ [handler] ∧ handler.own = true ∧
      handler.stream = stream ∧
      wish.AsksFormat ((⟨session, book⟩ : Desk).run before).session handler.format ∧
      ∃ name, wish.AsksLevel ((⟨session, book⟩ : Desk).run before).session name ∧
        (upper name, last.threshold) ∈ thresholds := by
  intro last
  obtain ⟨settings, s, asked, rfl, handlers, threshold⟩ := exists_of_settingUp returns
  have final : last = after.book := by
    show (List.foldl next _ (before ++ .setUp wish stream :: later)).book = _
    rw [List.foldl_append, List.foldl_cons]
    refine (book_run_of_configure quiet).trans ?_
    show (next ((⟨session, book⟩ : Desk).run before) (.setUp wish stream)).book = _
    unfold next
    dsimp only
    rw [returns]
  have tidy : Tidy book.handlers ((⟨session, book⟩ : Desk).run before).book :=
    Tidy.run ⟨none, (List.append_nil _).symm, nofun⟩ elsewhere before
  have named : wish.levelName settings ≠ "" := by
    intro empty
    rw [empty, show upper "" = "" by decide +kernel] at threshold
    have names : ∀ level ∈ thresholds, level.1 ≠ "" := by decide
    exact names _ threshold rfl
  rw [final]
  exact ⟨handlers.trans (tidy.handlers_install elsewhere _), rfl, rfl,
    asksFormat_of_settingsIn asked, _, asksLevel_of_settingsIn asked named, threshold⟩

/-- A setup with a level that there is not, and so with a handler that it leaves behind,
and then one that takes the format from the settings: the handler from elsewhere stays in
front, and the one that was left behind is gone. -/
theorem setups_leave_one_handler_refused :
    let book : Logbook := { handlers := [⟨false, .plain, 7⟩] }
    let desk : Desk := ⟨{}, book⟩
    let refused : Act := .setUp ⟨some "loud", some true⟩ 1
    (desk.next refused).book.handlers = [⟨false, .plain, 7⟩, ⟨true, .json, 1⟩] ∧
      ∃ handler after,
        (settingUp ⟨some "Debug", none⟩ 2).run (desk.run [refused]) = .ok handler after ∧
        (desk.run ([refused] ++ [.setUp ⟨some "Debug", none⟩ 2])).book.handlers
          = [⟨false, .plain, 7⟩, handler] ∧
        handler.stream = 2 := by
  intro book desk refused
  have elsewhere : ∀ h ∈ book.handlers, h.own = false := by decide
  have loud : thresholds.lookup (upper
      ((⟨some "loud", some true⟩ : Wish).levelName Settings.packaged)) = none := by
    decide +kernel
  have debug : thresholds.lookup (upper
      ((⟨some "Debug", none⟩ : Wish).levelName Settings.packaged)) = some (some .debug) := by
    decide +kernel
  have left : desk.next refused = ⟨{}, book.install ⟨true, .json, 1⟩⟩ := by
    have asked : Wish.settingsIn ⟨some "loud", some true⟩ desk.session
        = (.ok Settings.packaged, {}) := rfl
    unfold next
    dsimp only [refused]
    rw [settingUp_run, asked]
    dsimp only
    rw [Logbook.setUp_of_none loud]
    rfl
  have returns : (settingUp ⟨some "Debug", none⟩ 2).run (desk.run [refused])
      = .ok ⟨true, .plain, 2⟩ ⟨({} : Session).activate Settings.packaged,
        { book.install ⟨true, .plain, 2⟩ with threshold := some .debug }⟩ := by
    have asked : Wish.settingsIn ⟨some "Debug", none⟩ {}
        = (.ok Settings.packaged, ({} : Session).activate Settings.packaged) := rfl
    rw [run, List.foldl_cons, left, List.foldl_nil, settingUp_run, asked]
    dsimp only
    rw [Logbook.setUp_of_some debug]
    rfl
  obtain ⟨handlers, -, stream, -⟩ :=
    setups_leave_one_handler elsewhere [refused] [] nofun returns
  exact ⟨congrArg (·.book.handlers) left, _, _, returns, handlers, stream⟩

end Desk

end GeoCatalogue.Journal
