/-!
# Journal records

What happens on the way to an answer is told in **records**: a level,
the channel that the record is about, and a message. An operation that
has something to tell comes with a function that lists its records; the
answer itself does not depend on them.
-/
namespace GeoCatalogue.Journal

/-- **How serious a record is**, from the least serious level on. -/
inductive Level where
  | debug
  | info
  | warning
  | error
  | critical
deriving DecidableEq, Repr

/-- The rank of a level; a threshold lets through the records whose rank
is at least its own. -/
def Level.rank : Level → Nat
  | debug => 10
  | info => 20
  | warning => 30
  | error => 40
  | critical => 50

/-- The printed name of a level. -/
def Level.text : Level → String
  | debug => "DEBUG"
  | info => "INFO"
  | warning => "WARNING"
  | error => "ERROR"
  | critical => "CRITICAL"

/-- **What a record is about.** -/
inductive Channel where
  | parameters
  | templates
  | description
  | client
  | systems
  | boxes
  | extent
  | dataset
  | settings
  | command
deriving DecidableEq, Repr

/-- The printed name of a channel. -/
def Channel.text : Channel → String
  | parameters => "opensearchgeo.opensearch.parameters"
  | templates => "opensearchgeo.opensearch.templates"
  | description => "opensearchgeo.opensearch.description"
  | client => "opensearchgeo.opensearch.client"
  | systems => "opensearchgeo.spatial.crs"
  | boxes => "opensearchgeo.spatial.boxes"
  | extent => "opensearchgeo.spatial.extent"
  | dataset => "opensearchgeo.dataset"
  | settings => "opensearchgeo.config.load"
  | command => "opensearchgeo.cli"

/-- **A record of the journal.** -/
structure Record where
  /-- How serious it is. -/
  level : Level
  /-- What it is about. -/
  channel : Channel
  /-- What it tells. -/
  message : String
deriving DecidableEq, Repr

/-- The records that a threshold lets through. -/
def atLeast (threshold : Level) (records : List Record) : List Record :=
  records.filter fun record => threshold.rank ≤ record.level.rank

end GeoCatalogue.Journal
