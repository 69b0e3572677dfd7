import GeoCatalogue.Settings.Basic
import GeoCatalogue.Settings.Display

/-!
# Setting up the journal

The journal has a threshold and a list of **handlers**, each of which
writes the entries that the threshold lets through to a stream of its
own, as plain lines or as JSON. Setting the journal up installs a handler
and takes away those that were installed before by a setup; handlers from
elsewhere stay. The new handler is in place before the level is looked
at, so a level that there is not leaves it there and the threshold as it
was.

* `Logbook` – the threshold and the handlers;
* `Logbook.setUp` – the journal after a setup, and whether it succeeded;
* `Format.line` – an entry as a line.
-/
namespace GeoCatalogue.Journal

open Text

/-- **How entries are written.** -/
inductive Format where
  /-- As plain text. -/
  | plain
  /-- As JSON. -/
  | json
deriving DecidableEq, Repr

/-- **An entry of the journal.** -/
structure Entry where
  /-- How serious it is. -/
  level : Level
  /-- The name of what it is about. -/
  name : String
  /-- What it tells. -/
  message : String
deriving DecidableEq, Repr

/-- A record as an entry. -/
def Record.entry (record : Record) : Entry :=
  ⟨record.level, record.channel.text, record.message⟩

/-- **An entry as a line**, with the time it was made at. -/
def Format.line (time : String) (entry : Entry) : Format → String
  | plain =>
    time ++ " " ++ entry.level.text ++ " " ++ entry.name ++ ": " ++
      entry.message
  | json =>
    (Json.object [("asctime", .text time), ("name", .text entry.name),
      ("levelname", .text entry.level.text),
      ("message", .text entry.message)]).inline

/-- **A threshold**: a level, or none, which lets everything through. -/
abbrev Threshold := Option Level

/-- Whether a threshold lets a level through. -/
def lets (threshold : Threshold) (level : Level) : Bool :=
  threshold.all fun least => least.rank ≤ level.rank

/-- The printed name of a threshold. -/
def thresholdText (threshold : Threshold) : String :=
  (threshold.map Level.text).getD "NOTSET"

/-- **The thresholds by their names.** Two levels have a second name. -/
def thresholds : List (String × Threshold) := [
  ("CRITICAL", some .critical), ("FATAL", some .critical),
  ("ERROR", some .error), ("WARN", some .warning),
  ("WARNING", some .warning), ("INFO", some .info),
  ("DEBUG", some .debug), ("NOTSET", none)]

/-- **A handler of entries.** -/
structure Handler where
  /-- Whether it has been installed by a setup. -/
  own : Bool
  /-- How it writes entries. -/
  format : Format
  /-- The stream it writes to. -/
  stream : Nat
deriving DecidableEq, Repr

/-- **The threshold and the handlers of the journal.** -/
structure Logbook where
  /-- The threshold. -/
  threshold : Threshold := some .warning
  /-- The handlers, in order. -/
  handlers : List Handler := []
deriving DecidableEq, Repr

/-- **What is asked of a setup**: a level and a format, each of which may
be left to the settings. -/
structure Wish where
  /-- The name of the level. -/
  level : Option String := none
  /-- Whether entries are written as JSON. -/
  json : Option Bool := none
deriving DecidableEq, Repr

/-- Whether the settings are needed for a setup. -/
def Wish.needsSettings (wish : Wish) : Bool :=
  wish.level.isNone || wish.json.isNone

/-- Whether a value counts as true: it is neither absent, nor false, nor
zero, nor empty. -/
def counts : Json → Bool
  | .null => false
  | .bool value => value
  | .integer value => value != 0
  | .real (.finite value) => value.significand != 0
  | .real _ => true
  | .text value => value != ""
  | .list items => !items.isEmpty
  | .object members => !members.isEmpty

/-- **The name of the level that a setup sets.** The empty name is left to
the settings as well, if they are needed for the format. -/
def Wish.levelName (wish : Wish) (settings : Settings) : String :=
  match wish.level with
  | none => settings.logLevel.text
  | some name =>
    if name = "" && wish.json.isNone then settings.logLevel.text else name

/-- **The format that a setup installs.** -/
def Wish.format (wish : Wish) (settings : Settings) : Format :=
  if wish.json.getD (counts settings.logJson) then .json else .plain

namespace Logbook

/-- The journal with a handler in the place of those of earlier
setups. -/
def install (book : Logbook) (handler : Handler) : Logbook :=
  { book with handlers := book.handlers.filter (!·.own) ++ [handler] }

/-- **The journal after a setup**, and whether it succeeded. -/
def setUp (book : Logbook) (settings : Settings) (wish : Wish)
    (stream : Nat) : Except Fault Unit × Logbook :=
  let installed := book.install ⟨true, wish.format settings, stream⟩
  let name := upper (wish.levelName settings)
  match thresholds.lookup name with
  | some threshold => (.ok (), { installed with threshold := threshold })
  | none => (.error (.level name), installed)

/-- **The lines that an entry makes**, with the streams they go to. -/
def write (book : Logbook) (time : String) (entry : Entry) :
    List (Nat × String) :=
  if lets book.threshold entry.level then
    book.handlers.map fun handler =>
      (handler.stream, handler.format.line time entry)
  else []

end Logbook

/-! ## Messages with arguments -/

/-- A value in the place of a mark in a message. -/
def argumentText? (mark : Char) (argument : Json) : Option String :=
  match mark, argument with
  | 's', .text value => some value
  | 's', value => some value.display
  | 'r', value => some value.display
  | 'd', .integer value => some (toString value)
  | 'd', .bool value => some (if value then "1" else "0")
  | _, _ => none

/-- **A message with its marks filled in**: a percent sign and a letter
stand for the next argument, two percent signs for one. Nothing comes of
a message whose marks do not fit the arguments. -/
def fillIn : List Char → List Json → Option (List Char)
  | [], [] => some []
  | [], _ :: _ => none
  | '%' :: '%' :: rest, arguments =>
    (fillIn rest arguments).map ('%' :: ·)
  | '%' :: mark :: rest, argument :: others => do
    let text ← argumentText? mark argument
    let filled ← fillIn rest others
    some (text.toList ++ filled)
  | '%' :: _, _ => none
  | c :: rest, arguments => (fillIn rest arguments).map (c :: ·)

/-- The message of an entry. Without arguments, it is taken as it is. -/
def messageOf? (message : String) (arguments : List Json) : Option String :=
  if arguments.isEmpty then some message
  else (fillIn message.toList arguments).map String.ofList

end GeoCatalogue.Journal
