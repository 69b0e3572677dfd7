import GeoCatalogue.Fault
import GeoCatalogue.Journal.Record
import GeoCatalogue.Json
import GeoCatalogue.Name.Bindings
import GeoCatalogue.Text.Upper

/-!
# Settings

The **settings** say in which systems extents and box parameters are
given, how long and how often a service is asked, how many operations
are kept, and what the journal shows. They are built from a table of
names and values. A name that there is not is refused first, then a level
that is no text; then the quantities are checked one after the other, and
at last the level.

* `Settings` – the settings, with the bounds that they keep;
* `Settings.ofTable` – the settings of a table;
* `Settings.withChanges` – settings with some of them changed.
-/
namespace GeoCatalogue

open Text

/-- **Settings.** -/
structure Settings where
  /-- What the settings are called. -/
  id : Json := .null
  /-- The system of extents. -/
  canonicalCrs : Json := .text "EPSG:4326"
  /-- The system of box parameters. -/
  boxParamCrs : Json := .text "urn:ogc:def:crs:OGC:1.3:CRS84"
  /-- How many seconds a request waits. -/
  httpTimeout : Quantity
  /-- How often a request is repeated. -/
  httpRetries : Quantity := .whole 3
  /-- How many operations between systems are kept. -/
  transformerCacheSize : Quantity := .whole 64
  /-- The level from which on the journal shows records. -/
  logLevel : Journal.Level := .info
  /-- Whether the journal is written as JSON. -/
  logJson : Json := .bool false
  /-- The time to wait is not zero or less. -/
  timeout_pos : httpTimeout.isAtMost 0 = false
  /-- The number of repetitions is at least zero. -/
  retries_nonneg : httpRetries.isAtLeast 0 = true := by decide
  /-- The number of operations kept is not zero or less. -/
  cacheSize_pos : transformerCacheSize.isAtMost 0 = false := by decide

namespace Settings

/-- The time to wait unless another one is set: thirty seconds. -/
def defaultTimeout : Quantity :=
  .real (.finite ⟨false, 30 * Nat.pow 2 48, -48, by decide⟩)

/-- **The settings that nothing has changed.** -/
def standard : Settings where
  httpTimeout := defaultTimeout
  timeout_pos := by decide

/-- A quantity as a value. -/
def ofQuantity : Quantity → Json
  | .flag value => .bool value
  | .whole value => .integer value
  | .real value => .real value

/-- The quantity that a value is, if it is one. -/
def quantity? : Json → Option Quantity
  | .bool value => some (.flag value)
  | .integer value => some (.whole value)
  | .real value => some (.real value)
  | _ => none

/-- The levels that the journal can be set to. -/
def levels : List Journal.Level :=
  [.debug, .info, .warning, .error, .critical]

/-- The level of a name, in capitals. -/
def level? (name : String) : Option Journal.Level :=
  levels.find? (·.text == name)

/-- **The table of the settings.** -/
def toTable (s : Settings) : Table String Json := [
  ("id", s.id), ("canonical_crs", s.canonicalCrs),
  ("box_param_crs", s.boxParamCrs),
  ("http_timeout", ofQuantity s.httpTimeout),
  ("http_retries", ofQuantity s.httpRetries),
  ("transformer_cache_size", ofQuantity s.transformerCacheSize),
  ("log_level", .text s.logLevel.text), ("log_json", s.logJson)]

/-- The first name in a table that no setting has. -/
def unknownName? (t : Table String Json) : Option String :=
  (t.map Prod.fst).find? fun name => !standard.toTable.has name

/-- The value of a setting in a table, which has one. -/
def valueOf (t : Table String Json) (name : String) : Json :=
  (t.get? name).getD .null

/-- The name of the level in a table, in capitals. -/
def levelName (t : Table String Json) : Except SettingDefect String :=
  match valueOf t "log_level" with
  | .text name => .ok (upper name)
  | _ => .error (.kind "log_level")

/-- A quantity in a table. -/
def quantityOf (t : Table String Json) (name : String) :
    Except SettingDefect Quantity :=
  match quantity? (valueOf t name) with
  | some q => .ok q
  | none => .error (.kind name)

/-- A quantity in a table that is not zero or less. -/
def positiveOf (t : Table String Json) (name : String) :
    Except SettingDefect { q : Quantity // q.isAtMost 0 = false } := do
  let q ← quantityOf t name
  if h : q.isAtMost 0 = false then .ok ⟨q, h⟩
  else .error (.notPositive name q)

/-- A quantity in a table that is at least zero. -/
def retriesOf (t : Table String Json) (name : String) :
    Except SettingDefect { q : Quantity // q.isAtLeast 0 = true } := do
  let q ← quantityOf t name
  if h : q.isAtLeast 0 = true then .ok ⟨q, h⟩
  else .error .negativeRetries

/-- **The settings of a table** that names all of them. -/
def ofFullTable (t : Table String Json) : Except SettingDefect Settings := do
  let name ← levelName t
  let ⟨timeout, timeout_pos⟩ ← positiveOf t "http_timeout"
  let ⟨retries, retries_nonneg⟩ ← retriesOf t "http_retries"
  let ⟨cacheSize, cacheSize_pos⟩ ← positiveOf t "transformer_cache_size"
  match level? name with
  | none => .error (.level name)
  | some level =>
    .ok ⟨valueOf t "id", valueOf t "canonical_crs",
      valueOf t "box_param_crs", timeout, retries, cacheSize, level,
      valueOf t "log_json", timeout_pos, retries_nonneg, cacheSize_pos⟩

/-- **Settings with some of them changed.** -/
def withChanges (s : Settings) (changes : Table String Json) :
    Except SettingDefect Settings :=
  match unknownName? changes with
  | some name => .error (.unknownName name)
  | none => ofFullTable (s.toTable ++ changes)

/-- **The settings of a table**; what it does not name stays as it is by
itself. -/
def ofTable (t : Table String Json) : Except SettingDefect Settings :=
  standard.withChanges t

/-- The settings that are used when none are given. -/
def packaged : Settings :=
  { standard with id := .text "default" }

/-- Whether a value can stand in the place of a reference: a text, or
nothing. -/
def isReference : Json → Bool
  | .text _ | .null => true
  | _ => false

/-- **The reference that a value is**, absent if it is no text. -/
def reference? : Json → Option String
  | .text value => some value
  | _ => none

/-- **A reference, or that of a setting** when it is absent or empty. -/
def referenceOr (setting : Json) : Option String → Option String
  | some "" => reference? setting
  | some given => some given
  | none => reference? setting

end Settings

end GeoCatalogue
