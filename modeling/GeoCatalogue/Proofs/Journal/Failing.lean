import GeoCatalogue.Proofs.Journal.Setups

/-!
# Setups that fail

Whether a setup that fails leaves the journal as it was depends on which handlers are
there, and not only on what they write. Two handlers that write alike to the same stream
are still two, and one in the place of the other is a change. So the handlers have numbers
here, a new one for each that is made (`Roster`), and the journal may have any number for
its level, also one that no level has. Without the numbers, a roster shows nothing else
than what is on a desk (`Roster.Shows.setUp`).

A setup can fail in two places. When the settings are asked for, nothing has been done yet.
The level is looked at last, when the new handler is already there and those of earlier
setups are gone. So **a setup that fails leaves the handlers as they were exactly if it
fails for the settings**, while the level of the journal stays in any case
(`Roster.failed_setUp_keeps_iff`).
-/
namespace GeoCatalogue.Journal

open Text

/-- **A handler told from all others**, also from those that write alike. -/
structure Numbered where
  /-- The number that it got when it was made. -/
  number : Nat
  /-- Where it comes from, and how and where it writes. -/
  handler : Handler
deriving DecidableEq

/-- The rank of a threshold; the one that lets everything through has the least. -/
def rankOf (threshold : Threshold) : Int :=
  threshold.elim 0 fun level => level.rank

/-- **A journal with its handlers told apart**, and the session that it is used in. -/
structure Roster where
  /-- The session. -/
  session : Session := {}
  /-- The rank from which on records are let through. -/
  rank : Int := rankOf (some .warning)
  /-- The handlers, in order. -/
  handlers : List Numbered := []
  /-- The number of the next handler that is made. -/
  next : Nat := 0
  /-- That number has not been given yet, nor has any later one. -/
  earlier : ∀ h ∈ handlers, h.number < next := by decide

/-- **A setup is refused the settings exactly if it needs them and they cannot be
loaded.** -/
theorem Wish.settingsIn_eq_error {wish : Wish} {s : Session} :
    (∃ defect, (wish.settingsIn s).1 = .error defect) ↔
      wish.needsSettings = true ∧ ∃ defect, (s.get false).1 = .error defect := by
  unfold settingsIn
  cases wish.needsSettings with
  | false => simp
  | true =>
    cases (s.get false).1 with
    | error defect => simp [Except.map]
    | ok active => simp [Except.map]

namespace Roster

variable {roster after : Roster} {desk : Desk} {wish : Wish} {stream : Nat} {fault : Fault}

/-- The roster with a new handler in the place of those of earlier setups. -/
def install (roster : Roster) (handler : Handler) : Roster :=
  { roster with
    handlers := roster.handlers.filter (!·.handler.own) ++ [⟨roster.next, handler⟩]
    next := roster.next + 1
    earlier := by
      refine List.forall_mem_append.mpr ⟨fun h mem => ?_, ?_⟩
      · exact Nat.lt_succ_of_lt (roster.earlier h (List.mem_of_mem_filter mem))
      · exact List.forall_mem_singleton.mpr (Nat.lt_succ_self roster.next) }

/-- **A setup**: the settings are asked for, the handler is installed, and the level is
looked at, in this order. -/
def setUp (roster : Roster) (wish : Wish) (stream : Nat) : Except Fault Numbered × Roster :=
  match wish.settingsIn roster.session with
  | (.error defect, s) => (.error (.setting defect), { roster with session := s })
  | (.ok settings, s) =>
    let handler : Handler := ⟨true, wish.format settings, stream⟩
    let installed := { roster with session := s }.install handler
    match thresholds.lookup (upper (wish.levelName settings)) with
    | none => (.error (.level (upper (wish.levelName settings))), installed)
    | some threshold =>
      (.ok ⟨roster.next, handler⟩, { installed with rank := rankOf threshold })

/-! ## Rosters and desks -/

/-- **A roster shows a desk**: it is the same without the numbers. -/
structure Shows (roster : Roster) (desk : Desk) : Prop where
  /-- The session is the same. -/
  session : roster.session = desk.session
  /-- The rank is that of the threshold. -/
  rank : roster.rank = rankOf desk.book.threshold
  /-- The handlers are the same, in the same order. -/
  handlers : roster.handlers.map Numbered.handler = desk.book.handlers

/-- A handler is installed in a roster as it is at the desk. -/
theorem Shows.install (shows : roster.Shows desk) (handler : Handler) :
    (roster.install handler).Shows { desk with book := desk.book.install handler } where
  session := shows.session
  rank := shows.rank
  handlers := by
    show (_ ++ [_]).map Numbered.handler = desk.book.handlers.filter (!·.own) ++ [handler]
    rw [← shows.handlers, List.filter_map, List.map_append]
    rfl

/-- **A setup of a roster shows what a setup at the desk does**, with the same outcome. -/
theorem Shows.setUp (shows : roster.Shows desk) (wish : Wish) (stream : Nat) :
    match (Desk.settingUp wish stream).run desk with
    | .ok handler left => (roster.setUp wish stream).1.map Numbered.handler = .ok handler ∧
        (roster.setUp wish stream).2.Shows left
    | .error fault left => (roster.setUp wish stream).1 = .error fault ∧
        (roster.setUp wish stream).2.Shows left := by
  rw [Desk.settingUp_run]
  unfold Roster.setUp
  rw [shows.session]
  obtain ⟨outcome, s⟩ := wish.settingsIn desk.session
  cases outcome with
  | error defect => exact ⟨rfl, rfl, shows.rank, shows.handlers⟩
  | ok settings =>
    have asked : ({ roster with session := s } : Roster).Shows { desk with session := s } :=
      ⟨rfl, shows.rank, shows.handlers⟩
    have installed := asked.install ⟨true, wish.format settings, stream⟩
    dsimp only
    cases found : thresholds.lookup (upper (wish.levelName settings)) with
    | none =>
      rw [Logbook.setUp_of_none found]
      exact ⟨rfl, installed⟩
    | some threshold =>
      rw [Logbook.setUp_of_some found]
      exact ⟨rfl, installed.session, rfl, installed.handlers⟩

/-! ## What a failed setup leaves -/

/-- **How a setup fails, and what it leaves.** -/
inductive Fails (roster : Roster) (wish : Wish) (stream : Nat) : Fault → Roster → Prop where
  /-- The settings cannot be loaded; nothing has been done. -/
  | settings {defect : SettingDefect} {s : Session}
      (refused : wish.settingsIn roster.session = (.error defect, s)) :
      Fails roster wish stream (.setting defect) { roster with session := s }
  /-- There is no such level; the handler has been installed. -/
  | level {settings : Settings} {s : Session}
      (asked : wish.settingsIn roster.session = (.ok settings, s))
      (unknown : thresholds.lookup (upper (wish.levelName settings)) = none) :
      Fails roster wish stream (.level (upper (wish.levelName settings)))
        ({ roster with session := s }.install ⟨true, wish.format settings, stream⟩)

/-- **A setup fails in these two ways, and in no other.** -/
theorem setUp_eq_error :
    roster.setUp wish stream = (.error fault, after) ↔ roster.Fails wish stream fault after := by
  constructor
  · intro failed
    unfold setUp at failed
    cases asked : wish.settingsIn roster.session with
    | mk outcome s =>
      rw [asked] at failed
      cases outcome with
      | error defect =>
        obtain ⟨⟨⟩, rfl⟩ := Prod.mk.inj failed
        exact .settings asked
      | ok settings =>
        dsimp only at failed
        cases found : thresholds.lookup (upper (wish.levelName settings)) with
        | none =>
          rw [found] at failed
          obtain ⟨⟨⟩, rfl⟩ := Prod.mk.inj failed
          exact .level asked found
        | some threshold =>
          rw [found] at failed
          cases (Prod.mk.inj failed).1
  · rintro (⟨refused⟩ | ⟨asked, unknown⟩)
    · rw [setUp, refused]
    · rw [setUp, asked]
      dsimp only
      rw [unknown]

theorem made_notMem (roster : Roster) (handler : Handler) :
    ⟨roster.next, handler⟩ ∉ roster.handlers :=
  fun mem => Nat.lt_irrefl roster.next (roster.earlier _ mem)

/-- Installing a handler always changes the handlers. -/
theorem handlers_install_ne (roster : Roster) (handler : Handler) :
    (roster.install handler).handlers ≠ roster.handlers := by
  intro same
  refine roster.made_notMem handler ?_
  rw [← same]
  exact List.mem_append_right _ List.mem_cons_self

/-- **A setup that fails leaves the handlers as they were exactly if it fails for the
settings**: something is left to them, and they cannot be loaded. Then all handlers are in
their places. If it fails for the level, those of earlier setups are gone, and the new one,
which nobody has been given, is behind those from elsewhere. The level of the journal stays
in either case. This holds of every journal, whatever handlers and whatever level it has. -/
theorem failed_setUp_keeps_iff (failed : roster.setUp wish stream = (.error fault, after)) :
    after.rank = roster.rank ∧
    (after.handlers = roster.handlers ↔
      wish.needsSettings = true ∧ ∃ defect, (roster.session.get false).1 = .error defect) ∧
    (after.handlers = roster.handlers ∨
      ∃ made ∉ roster.handlers, made.handler.own = true ∧
        after.handlers = roster.handlers.filter (!·.handler.own) ++ [made]) := by
  cases setUp_eq_error.mp failed with
  | @settings defect s refused =>
    have cause := Wish.settingsIn_eq_error.mp ⟨defect, congrArg Prod.fst refused⟩
    exact ⟨rfl, iff_of_true rfl cause, .inl rfl⟩
  | @level settings s asked unknown =>
    let handler : Handler := ⟨true, wish.format settings, stream⟩
    have changed := handlers_install_ne { roster with session := s } handler
    refine ⟨rfl, iff_of_false changed fun cause => ?_,
      .inr ⟨⟨roster.next, handler⟩, roster.made_notMem handler, rfl, rfl⟩⟩
    obtain ⟨defect, refused⟩ := Wish.settingsIn_eq_error.mpr cause
    rw [asked] at refused
    cases refused

/-- The file of the settings is not there: the handler of an earlier setup stays, and so
does a level that has no name. -/
theorem failed_setUp_keeps_missingFile :
    let roster : Roster := {
      session := { path := some "absent.py" }, rank := 15, next := 2,
      handlers := [⟨0, ⟨false, .plain, 7⟩⟩, ⟨1, ⟨true, .json, 1⟩⟩] }
    ∃ after, roster.setUp {} 3 = (.error (.setting (.missingFile "absent.py")), after) ∧
      after.rank = 15 ∧ after.handlers = roster.handlers := by
  intro roster
  have failed : roster.setUp {} 3
      = (.error (.setting (.missingFile "absent.py")), roster) := rfl
  obtain ⟨rank, kept, -⟩ := failed_setUp_keeps_iff failed
  exact ⟨roster, failed, rank, kept.mpr ⟨rfl, _, rfl⟩⟩

/-- **A failed setup that changes the handlers.** There were none, and now there is the one
that should have been given back. -/
theorem failed_setUp_leaves_handler :
    let roster : Roster := {}
    ∃ after, roster.setUp ⟨some "loud", some false⟩ 1 = (.error (.level "LOUD"), after) ∧
      roster.handlers = [] ∧ after.handlers = [⟨0, ⟨true, .plain, 1⟩⟩] := by
  intro roster
  let wish : Wish := ⟨some "loud", some false⟩
  have name : upper (wish.levelName Settings.packaged) = "LOUD" := by decide +kernel
  have asked : wish.settingsIn roster.session = (.ok Settings.packaged, {}) := rfl
  have unknown : thresholds.lookup (upper (wish.levelName Settings.packaged)) = none := by
    rw [name]
    decide
  have fails : roster.Fails wish 1 _ _ := .level asked unknown
  have failed := setUp_eq_error.mpr fails
  rw [name] at failed
  exact ⟨_, failed, rfl, rfl⟩

end Roster

end GeoCatalogue.Journal
