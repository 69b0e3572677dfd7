import GeoCatalogue.Box.Basic
import GeoCatalogue.Text.DecimalDigit

/-!
# Arguments of the command

The command is called with options of its own, a **verb**, and the
options and the one operand of the verb. An option may be abbreviated as
long as it stays the only one with that beginning; a value stands behind
an equals sign or in the arguments that follow; options of one letter can
be joined. After two dashes, everything is an operand, and so is what
looks like a negative number or has a space in it.

Arguments are read from left to right. Reading stops with `Stop.help`
where help is asked for, and with `Stop.usage` where something does not
fit; unknown options and further operands are only counted, and refused at
the end.

* `Argument.ofText` – what a single argument is;
* `Choices.scan` – the choices that arguments make;
* `Invocation.ofArguments` – what the arguments ask for.
-/
namespace GeoCatalogue.Command

open Text

/-- **Why reading arguments stops.** -/
inductive Stop where
  /-- Help is asked for. -/
  | help
  /-- The arguments do not fit. -/
  | usage
deriving DecidableEq, Repr

/-- The exit status after a stop. -/
def Stop.status : Stop → Nat
  | help => 0
  | usage => 2

/-- **An option**, however it is spelled. -/
inductive Flag where
  | help
  | verbose
  | jsonLogs
  | param
  | withParam
  | mediaType
  | box
  | crs
deriving DecidableEq, Repr

/-- How many values an option takes. -/
def Flag.arity : Flag → Nat
  | help | verbose | jsonLogs => 0
  | param | withParam | mediaType | crs => 1
  | box => 4

/-- The spellings of options. -/
abbrev Spellings := List (String × Flag)

/-- **What the command can do.** -/
inductive Verb where
  /-- List templates. -/
  | templates
  /-- Build request URIs. -/
  | buildUri
  /-- Work out the extent of sample data. -/
  | extent
  /-- Check boxes against an area. -/
  | intersects
deriving DecidableEq, Repr

/-- The printed verb. -/
def Verb.text : Verb → String
  | templates => "templates"
  | buildUri => "build-uri"
  | extent => "extent"
  | intersects => "intersects"

/-- The verb of a text. -/
def Verb.ofText? (text : String) : Option Verb :=
  [templates, buildUri, extent, intersects].find? (·.text == text)

/-- The spellings that are known everywhere. -/
def commonSpellings : Spellings :=
  [("-h", .help), ("--help", .help)]

/-- The spellings that are known in front of the verb. -/
def mainSpellings : Spellings :=
  commonSpellings ++
    [("-v", .verbose), ("--verbose", .verbose), ("--json-logs", .jsonLogs)]

/-- The spellings that are known behind a verb. -/
def Verb.spellings : Verb → Spellings
  | templates | extent => commonSpellings
  | buildUri =>
    commonSpellings ++
      [("--param", .param), ("--with-param", .withParam),
        ("--type", .mediaType)]
  | intersects => commonSpellings ++ [("--bbox", .box), ("--crs", .crs)]

/-! ## Single arguments -/

/-- **What is attached to an option** in the same argument. -/
inductive Attached where
  /-- Nothing. -/
  | nothing
  /-- A text behind an equals sign. -/
  | value (text : String)
  /-- More letters, directly behind an option of one letter. -/
  | letters (text : List Char)
deriving DecidableEq, Repr

/-- **What an argument is.** -/
inductive Argument where
  /-- The two dashes in front of operands. -/
  | separator
  /-- An operand, or the value of an option. -/
  | plain (text : String)
  /-- An option and what is attached to it. -/
  | option (flag : Flag) (attached : Attached)
  /-- Something that looks like an option and is none. -/
  | unknown
deriving DecidableEq, Repr

/-- The text of an operand. -/
def Argument.plain? : Argument → Option String
  | plain text => some text
  | _ => none

/-- Whether a text has two dashes in front. -/
def startsLong (cs : List Char) : Bool :=
  ['-', '-'].isPrefixOf cs

/-- The name in front of an equals sign, and the value behind it. -/
def nameAndValue (cs : List Char) : List Char × Option String :=
  match cs.dropWhile (· != '=') with
  | [] => (cs, none)
  | _ :: value => (cs.takeWhile (· != '='), some (String.ofList value))

/-- The value behind an equals sign as something attached. -/
def Attached.ofValue : Option String → Attached
  | none => nothing
  | some text => value text

/-- Whether a text is a negative number; one line end may follow. -/
def isNegativeNumber : List Char → Bool
  | '-' :: rest =>
    let body := if rest.getLast? == some '\n' then rest.dropLast else rest
    match body.dropWhile isDecimalDigit with
    | [] => !body.isEmpty
    | '.' :: fraction => !fraction.isEmpty && fraction.all isDecimalDigit
    | _ => false
  | _ => false

/-- The options that a text with two dashes may abbreviate. -/
def longCandidates (spellings : Spellings) (cs : List Char) :
    List Argument :=
  let (name, value) := nameAndValue cs
  spellings.filterMap fun (spelling, flag) =>
    if name.isPrefixOf spelling.toList then
      some (.option flag (.ofValue value))
    else none

/-- The options that a text with one dash may stand for: one letter and
what is attached to it, or an abbreviation. -/
def shortCandidates (spellings : Spellings) (cs : List Char) :
    List Argument :=
  spellings.filterMap fun (spelling, flag) =>
    if spelling.toList = cs.take 2 then
      some (.option flag (.letters (cs.drop 2)))
    else if cs.isPrefixOf spelling.toList then some (.option flag .nothing)
    else none

/-- The option with exactly the spelling of an argument, or of its part in
front of an equals sign. -/
def exactOption? (spellings : Spellings) (cs : List Char) :
    Option Argument :=
  match spellings.lookup (String.ofList cs) with
  | some flag => some (.option flag .nothing)
  | none =>
    let (name, value) := nameAndValue cs
    (spellings.lookup (String.ofList name)).map fun flag =>
      .option flag (.ofValue value)

/-- What an argument is that starts with a dash and spells no option. -/
def inexactOption (spellings : Spellings) (cs : List Char) :
    Except Stop Argument :=
  let candidates :=
    if startsLong cs then longCandidates spellings cs
    else shortCandidates spellings cs
  match candidates with
  | [only] => .ok only
  | _ :: _ :: _ => .error .usage
  | [] =>
    if isNegativeNumber cs || cs.contains ' ' then
      .ok (.plain (String.ofList cs))
    else .ok .unknown

/-- **What an argument is**, if two dashes have not come before. -/
def Argument.ofText (spellings : Spellings) (text : String) :
    Except Stop Argument :=
  match text.toList with
  | '-' :: c :: rest =>
    match exactOption? spellings ('-' :: c :: rest) with
    | some argument => .ok argument
    | none => inexactOption spellings ('-' :: c :: rest)
  | _ => .ok (.plain text)

/-- **What arguments are.** -/
def Argument.ofTexts (spellings : Spellings) :
    List String → Except Stop (List Argument)
  | [] => .ok []
  | text :: rest =>
    if text = "--" then .ok (.separator :: rest.map .plain)
    else do
      let argument ← Argument.ofText spellings text
      let others ← Argument.ofTexts spellings rest
      .ok (argument :: others)

/-! ## Choices -/

/-- **What options choose.** The option of a later argument counts, and
parameters are collected. -/
structure Choices where
  /-- How much is told. -/
  verbosity : Nat := 0
  /-- Whether the journal is written as JSON. -/
  jsonLogs : Bool := false
  /-- Names and values of parameters. -/
  params : List String := []
  /-- The parameter that templates have to declare. -/
  withParam : Option String := none
  /-- The media type that templates have to have. -/
  mediaType : Option String := none
  /-- The bounds of an area. -/
  bounds : Option (Bounds Extended) := none
  /-- The reference to the system of the bounds. -/
  crs : String := Box.wgs84Reference
deriving DecidableEq

namespace Choices

/-- The bounds that four texts give. -/
def boundsOf? (texts : List String) : Option (Bounds Extended) := do
  match ← texts.mapM Extended.ofText? with
  | [a, b, c, d] => some ⟨⟨a, b⟩, ⟨c, d⟩⟩
  | _ => none

/-- **The choices with one more option and its values.** -/
def take (choices : Choices) (flag : Flag) (values : List String) :
    Except Stop Choices :=
  match flag with
  | .help => .error .help
  | .verbose => .ok { choices with verbosity := choices.verbosity + 1 }
  | .jsonLogs => .ok { choices with jsonLogs := true }
  | .param => .ok { choices with params := choices.params ++ values }
  | .withParam => .ok { choices with withParam := values.head? }
  | .mediaType => .ok { choices with mediaType := values.head? }
  | .crs => .ok { choices with crs := values.headD choices.crs }
  | .box =>
    match boundsOf? values with
    | some bounds => .ok { choices with bounds := some bounds }
    | none => .error .usage

end Choices

/-- **Options in one argument**: all but the last take no values, and the
last one may have a value in the same argument. -/
structure Joined where
  /-- The options in front. -/
  front : List Flag := []
  /-- The last option, absent if its letter is that of no option. -/
  last : Option Flag
  /-- Its value. -/
  value : Option String := none
deriving DecidableEq, Repr

namespace Joined

/-- An option with a value behind an equals sign. -/
def ofValue (flag : Flag) (text : String) : Except Stop Joined :=
  if flag.arity = 1 then .ok { last := some flag, value := some text }
  else .error .usage

/-- **The options that an option and more letters stand for.** If the
option takes a value, the letters are its value; if it takes none, they are
further options. -/
def ofLetters (spellings : Spellings) (flag : Flag) :
    List Char → Except Stop Joined
  | [] => .error .usage
  | c :: rest =>
    if flag.arity = 1 then ofValue flag (String.ofList (c :: rest))
    else if flag.arity ≠ 0 || c = '-' then .error .usage
    else
      match spellings.lookup (String.ofList ['-', c]) with
      | none => .ok { front := [flag], last := none }
      | some next => do
        let joined ←
          match rest with
          | [] => .ok { last := some next }
          | '=' :: text => ofValue next (String.ofList text)
          | _ => ofLetters spellings next rest
        .ok { joined with front := flag :: joined.front }

/-- The options that an option with something attached stands for. -/
def ofAttached (spellings : Spellings) (flag : Flag) :
    Attached → Except Stop Joined
  | .nothing => .ok { last := some flag }
  | .value text => ofValue flag text
  | .letters text => ofLetters spellings flag text

/-- How many of the arguments that follow are values of the options. -/
def valueCount (joined : Joined) : Nat :=
  match joined.last, joined.value with
  | some flag, none => flag.arity
  | _, _ => 0

/-- **The values of the last option**: the text in the same argument, or
else the operands that follow. -/
def values (joined : Joined) (after : List Argument) :
    Except Stop (List String) :=
  match joined.value with
  | some text => .ok [text]
  | none =>
    let count := joined.valueCount
    let texts := (after.take count).filterMap Argument.plain?
    if texts.length = count then .ok texts else .error .usage

end Joined

/-- The choices with the options of one argument. -/
def Choices.takeJoined (choices : Choices) (joined : Joined)
    (after : List Argument) : Except Stop Choices := do
  let values ← joined.values after
  let front ← joined.front.foldlM (fun taken flag => taken.take flag []) choices
  match joined.last with
  | some flag => front.take flag values
  | none => .ok front

/-- **What has been read of arguments.** -/
structure Scanned where
  /-- The choices made. -/
  choices : Choices
  /-- The operand. -/
  operand : Option String := none
  /-- Whether there is something that does not belong there. -/
  excess : Bool := false
deriving DecidableEq

namespace Scanned

/-- What has been read with something that does not belong there. -/
def withExcess (done : Scanned) : Scanned :=
  { done with excess := true }

/-- What has been read with an operand; a second one does not belong
there. -/
def withOperand (done : Scanned) (text : String) : Scanned :=
  match done.operand with
  | none => { done with operand := some text }
  | some _ => done.withExcess

/-- What has been read with two dashes and the operands behind them; they
are needed in front of the operand only. -/
def withOperands (done : Scanned) (arguments : List Argument) : Scanned :=
  if done.operand.isSome || arguments.isEmpty then done.withExcess
  else (arguments.filterMap Argument.plain?).foldl withOperand done

/-- How many separators come directly behind the operand, where one does
not matter. -/
def separatorCount (done : Scanned) (arguments : List Argument) : Nat :=
  if done.operand.isNone && arguments.head? = some .separator then 1 else 0

/-- **The choices that arguments make**, and the operand. Two dashes may
stand on either side of the operand. -/
def scan (spellings : Spellings) (done : Scanned)
    (arguments : List Argument) : Except Stop Scanned :=
  match arguments with
  | [] => .ok done
  | .separator :: rest => .ok (done.withOperands rest)
  | .plain text :: rest =>
    scan spellings (done.withOperand text)
      (rest.drop (done.separatorCount rest))
  | .unknown :: rest => scan spellings done.withExcess rest
  | .option flag attached :: rest => do
    let joined ← Joined.ofAttached spellings flag attached
    let choices ← done.choices.takeJoined joined rest
    let excess := done.excess || joined.last.isNone
    scan spellings { done with choices := choices, excess := excess }
      (rest.drop joined.valueCount)
termination_by arguments.length
decreasing_by
  all_goals simp only [List.length_cons, List.length_drop]; omega

end Scanned

/-! ## Invocations -/

/-- **A task**, which is a verb with all that it needs. -/
inductive Task where
  /-- List the templates of a description. -/
  | templates (source : String)
  /-- Build the URIs of requests: with parameters, from the templates that
  declare a parameter and have a media type. -/
  | buildUri (source : String) (params : List String)
    (withParam mediaType : Option String)
  /-- Work out the extent of the sample data in a file. -/
  | extent (path : String)
  /-- Check the boxes of a response against bounds in a system. -/
  | intersects (source : String) (bounds : Bounds Extended) (crs : String)
deriving DecidableEq

/-- The verb of a task. -/
def Task.verb : Task → Verb
  | templates _ => .templates
  | buildUri .. => .buildUri
  | extent _ => .extent
  | intersects .. => .intersects

/-- **What the command is asked for.** -/
structure Invocation where
  /-- How much is told. -/
  verbosity : Nat
  /-- Whether the journal is written as JSON. -/
  jsonLogs : Bool
  /-- What is to be done. -/
  task : Task
deriving DecidableEq

/-- The task of a verb with an operand and choices. -/
def Task.ofChoices? (verb : Verb) (operand : String) (choices : Choices) :
    Option Task :=
  match verb with
  | .templates => some (.templates operand)
  | .buildUri =>
    some (.buildUri operand choices.params choices.withParam
      choices.mediaType)
  | .extent => some (.extent operand)
  | .intersects => choices.bounds.map (.intersects operand · choices.crs)

/-- The task that the arguments behind a verb ask for. -/
def taskOf (verb : Verb) (texts : List String) (excess : Bool) :
    Except Stop Task := do
  let arguments ← Argument.ofTexts verb.spellings texts
  let scanned ← Scanned.scan verb.spellings ⟨{}, none, excess⟩ arguments
  match scanned.operand.bind (Task.ofChoices? verb · scanned.choices) with
  | some task => if scanned.excess then .error .usage else .ok task
  | none => .error .usage

/-- **What the arguments ask for.** The first operand is the verb, and all
that comes after it is read with the spellings of the verb. -/
def Invocation.ofArguments (texts : List String) :
    Except Stop Invocation := do
  let arguments ← Argument.ofTexts mainSpellings texts
  let front := arguments.takeWhile (·.plain?.isNone)
  let scanned ← Scanned.scan mainSpellings ⟨{}, none, false⟩ front
  match texts.drop front.length with
  | [] => .error .usage
  | name :: rest =>
    if front.contains .separator then .error .usage
    else
      match Verb.ofText? name with
      | none => .error .usage
      | some verb =>
        let task ← taskOf verb rest scanned.excess
        .ok ⟨scanned.choices.verbosity, scanned.choices.jsonLogs, task⟩

end GeoCatalogue.Command
