import GeoCatalogue.Crs.Operations
import GeoCatalogue.Envelope.Transformation
import GeoCatalogue.Fault
import GeoCatalogue.Settings.Session

/-!
# Surveyors

A **surveyor** brings envelopes to other systems in a session. The operations
that are needed for it are kept in a cache, and how many of them may be kept is
a setting. So the first operation ever needed makes the surveyor ask for the
settings; the limit that they give then stays the limit of the cache, whatever
becomes of the settings later on.

An envelope that is in the system already needs no operation. For any other one
there are two things that can go wrong before there is anything to transform:
the settings may not be there, and the systems may have no operation between
them. Neither is a failure of the transformation.

* `Surveyor.operation` – the operation between two references;
* `Surveyor.toCrs` – an envelope in another system.
-/
namespace GeoCatalogue

/-- **A cache of operations with its limit**, which lets it hold one. -/
structure OperationStore where
  /-- How many operations may be kept. -/
  limit : Quantity
  /-- The cache. -/
  cache : OperationCache := {}
  /-- The limit is not zero or less. -/
  limit_pos : limit.isAtMost 0 = false

/-- **A session and the operations that are kept in it**, once one has been
needed. -/
structure Surveyor where
  /-- The session. -/
  session : Session := {}
  /-- The operations. -/
  store : Option OperationStore := none

namespace Surveyor

/-- The store that settings give. -/
def storeOf (settings : Settings) : OperationStore where
  limit := settings.transformerCacheSize
  limit_pos := settings.cacheSize_pos

/-- **The store of operations**, made when it is first asked for. -/
def getStore (s : Surveyor) : Except SettingDefect OperationStore × Surveyor :=
  match s.store with
  | some store => (.ok store, s)
  | none =>
    match s.session.get false with
    | (.error defect, after) => (.error defect, { s with session := after })
    | (.ok active, after) =>
      (.ok (storeOf active.settings), ⟨after, some (storeOf active.settings)⟩)

/-- What comes of a request to a store. -/
def given : OperationCache.Outcome → Except Fault Operation
  | .found operation => .ok operation
  | .failed failure => .error (.failure failure)
  | .noRoom => .error .noRoom

/-- **The operation between two references**, and the surveyor afterwards. -/
def operation (g : Geodesy) (s : Surveyor) (source target : Option String) :
    Except Fault Operation × Surveyor :=
  match s.getStore with
  | (.error defect, after) => (.error (.setting defect), after)
  | (.ok store, after) =>
    let (outcome, cache) := store.cache.get g store.limit source target
    (given outcome, { after with store := some { store with cache := cache } })

/-- The records of a request for an operation. -/
def notices (s : Surveyor) (source target : Option String) :
    List Journal.Record :=
  let loading := if s.store.isNone then s.session.notices false else []
  match s.getStore with
  | (.error _, _) => loading
  | (.ok store, _) =>
    loading ++ store.cache.notices store.limit source target

/-- The bounds of an envelope moved by an operation, as an envelope in the
system of a reference. -/
def moved (g : Geodesy) (e : Envelope) (reference : Option String)
    (operation : Operation) : Except Failure Envelope := do
  let crs ← Crs.normalize reference
  match e.transformed g operation.source operation.target crs with
  | .ok image => .ok image
  | .error defect =>
    .error (.transformFailure e.crs (reference.getD "") defect)

/-- **An envelope in another system**, and the surveyor afterwards. -/
def toCrs (g : Geodesy) (s : Surveyor) (e : Envelope)
    (reference : Option String) : Except Fault Envelope × Surveyor :=
  match Crs.same g (some e.crs) reference with
  | .error failure => (.error (.failure failure), s)
  | .ok true =>
    (Fault.lift ((Crs.normalize reference).map fun crs =>
      { e with crs := crs }), s)
  | .ok false =>
    match s.operation g (some e.crs) reference with
    | (.error fault, after) => (.error fault, after)
    | (.ok operation, after) =>
      (Fault.lift (moved g e reference operation), after)

end Surveyor

end GeoCatalogue
