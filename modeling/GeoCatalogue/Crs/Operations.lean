import GeoCatalogue.Crs.System
import GeoCatalogue.Journal.Record
import GeoCatalogue.Number.Quantity

/-!
# The cache of operations

Looking up how to get from one system to another is costly, so the
operations found are kept, at most so many at a time. When the cache is
full, **the oldest operation makes room** for the next one – before the
next one is looked up, so room is made even if that lookup fails, for a
system that is not known or for want of an operation.

Operations are told apart by serial numbers: a new number for every
operation that is looked up.

* `OperationCache.get` – an operation and the cache after the request;
* `OperationCache.clear` – the cache without operations.
-/
namespace GeoCatalogue

/-- **An operation between two systems.** -/
structure Operation where
  /-- The number that tells an operation from all others. -/
  serial : Nat
  /-- The system that is transformed from. -/
  source : ReferenceSystem
  /-- The system that is transformed to. -/
  target : ReferenceSystem
deriving DecidableEq, Repr

/-- **A cache of operations**, the oldest one first. -/
structure OperationCache where
  /-- The identifiers of source and target, with their operation. -/
  entries : List ((String × String) × Operation) := []
  /-- The serial number of the next operation. -/
  next : Nat := 0
deriving Repr

namespace OperationCache

/-- The operation between two identifiers, if it is in the cache. -/
def get? (cache : OperationCache) (key : String × String) :
    Option Operation :=
  cache.entries.lookup key

/-- How many operations are in the cache. -/
def size (cache : OperationCache) : Nat :=
  cache.entries.length

/-- The pairs of identifiers in the cache, the oldest first. -/
def keys (cache : OperationCache) : List (String × String) :=
  cache.entries.map Prod.fst

/-- The cache without operations. -/
def clear (cache : OperationCache) : OperationCache :=
  { cache with entries := [] }

/-- **What comes of a request**: an operation, a failure, or no room – the
cache is empty and may still hold nothing. -/
inductive Outcome where
  /-- The operation asked for. -/
  | found (operation : Operation)
  /-- A reference that cannot be used, or no operation to use. -/
  | failed (failure : Failure)
  /-- No operation that could make room. -/
  | noRoom
deriving DecidableEq

/-- **The cache with room for one more operation**, if there can be: the
oldest operation goes when the limit has been reached. -/
def makeRoom? (limit : Quantity) (cache : OperationCache) :
    Option OperationCache :=
  if limit.isAtMost cache.size then
    match cache.entries with
    | _ :: rest => some { cache with entries := rest }
    | [] => none
  else some cache

/-- The cache with one more operation, and the operation. -/
def add (cache : OperationCache) (key : String × String)
    (source target : ReferenceSystem) : Operation × OperationCache :=
  let operation := ⟨cache.next, source, target⟩
  (operation, ⟨cache.entries ++ [(key, operation)], cache.next + 1⟩)

/-- The pair of identifiers of two references. -/
def key (source target : Option String) : Except Failure (String × String) := do
  let first ← Crs.normalize source
  let second ← Crs.normalize target
  .ok (first, second)

/-- **The operation between two references**, and the cache after the
request. -/
def get (g : Geodesy) (limit : Quantity) (cache : OperationCache)
    (source target : Option String) : Outcome × OperationCache :=
  match key source target with
  | .error failure => (.failed failure, cache)
  | .ok pair =>
    match cache.get? pair with
    | some operation => (.found operation, cache)
    | none =>
      match cache.makeRoom? limit with
      | none => (.noRoom, cache)
      | some roomy =>
        match Crs.systems g source target with
        | .error failure => (.failed failure, roomy)
        | .ok (first, second) =>
          let (operation, filled) := roomy.add pair first second
          (.found operation, filled)

/-- The records of a request: one when an operation has to be looked
up. -/
def notices (limit : Quantity) (cache : OperationCache)
    (source target : Option String) : List Journal.Record :=
  match key source target with
  | .error _ => []
  | .ok pair =>
    if (cache.get? pair).isSome || (cache.makeRoom? limit).isNone then []
    else
      [⟨.debug, .systems,
        "Creating transformer " ++ pair.1 ++ " -> " ++ pair.2⟩]

end OperationCache

end GeoCatalogue
