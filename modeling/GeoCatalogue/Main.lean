import GeoCatalogue.Command.Report
import GeoCatalogue.Geodesy.Standard
import Std.Time.DateTime.PlainDateTime
import Std.Time.DateTime.Timestamp

/-!
# The command

The outermost layer: it reads the file that a task names and the clock,
runs the task and prints its report. There is no network here, so services
cannot be reached.
-/
namespace GeoCatalogue.Command

/-- The words for how to call the command. -/
def usage : String :=
  "usage: [-h] [-v] [--json-logs] templates DESCRIPTION\n" ++
    "       [-h] [-v] [--json-logs] build-uri DESCRIPTION " ++
    "[--param NAME=VALUE] [--with-param NAME] [--type TYPE]\n" ++
    "       [-h] [-v] [--json-logs] extent FILE\n" ++
    "       [-h] [-v] [--json-logs] intersects RESPONSE " ++
    "--bbox MIN1 MIN2 MAX1 MAX2 [--crs CRS]"

/-- The text that a task is given to work on. -/
def Task.source : Task → String
  | templates source | buildUri source .. | intersects source .. => source
  | extent path => path

/-- The files with the content of one, if there is a file at the path. -/
def filesWith (path : String) : IO Files := do
  let directory := (← IO.currentDir).toString
  try
    let content ← IO.FS.readFile path
    let root := if Path.isAbsolute path then "/" else directory
    return ⟨root, [(Path.names path, content)]⟩
  catch _ => return ⟨directory, []⟩

/-- A number in decimal digits, with zeros in front up to a width. -/
def padded (width number : Nat) : String :=
  let digits := toString number
  String.ofList (List.replicate (width - digits.length) '0') ++ digits

/-- The time of the clock, to the millisecond. -/
def clockText : IO String := do
  let now ← Std.Time.Timestamp.now
  let time := Std.Time.PlainDateTime.ofWallTime
    (.ofNanoseconds now.toNanosecondsSinceUnixEpoch)
  let date := "-".intercalate [padded 4 time.date.year.toInt.toNat,
    padded 2 time.date.month.val.toNat, padded 2 time.date.day.val.toNat]
  let clock := ":".intercalate [padded 2 time.time.hour.val.toNat,
    padded 2 time.time.minute.val.toNat, padded 2 time.time.second.val.toNat]
  let thousandths := time.time.nanosecond.val.toNat / 1000000
  return date ++ " " ++ clock ++ "," ++ padded 3 thousandths

/-- A service that cannot be reached. -/
def noService : Service :=
  fun _ _ => .unreachable "there is no network"

/-- The words for a fault that ends the command. -/
def endingText : Fault → String
  | .unreadable path => "cannot read " ++ path
  | .document _ => "the document is not well-formed"
  | .reply _ => "the service does not reply"
  | fault => fault.message?.getD "the command has failed"

/-- Runs an invocation and prints its report. -/
def perform (invocation : Invocation) : IO UInt32 := do
  let files ← filesWith invocation.task.source
  let geodesy := Geodesy.standard "it is not known"
  let report := run ⟨files, noService, geodesy⟩ invocation
  IO.print report.output
  IO.eprint (report.errorText (← clockText))
  match report.status with
  | .ok status => return status.toUInt32
  | .error fault =>
    IO.eprintln (endingText fault)
    return 1

end GeoCatalogue.Command

/-- Runs the command with its arguments. -/
def main (texts : List String) : IO UInt32 := do
  match GeoCatalogue.Command.Invocation.ofArguments texts with
  | .ok invocation => GeoCatalogue.Command.perform invocation
  | .error stop =>
    if stop = .help then IO.println GeoCatalogue.Command.usage
    else IO.eprintln GeoCatalogue.Command.usage
    return stop.status.toUInt32
