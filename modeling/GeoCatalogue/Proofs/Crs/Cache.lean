import GeoCatalogue.Crs.Operations
import GeoCatalogue.Geodesy.Standard

/-!
# What a request does to the cache of operations

A request for an operation ends in one of five ways, and `Answered` lists
them with what has become of the cache. Two of them are failures, and they
differ in what they leave behind. A reference in none of the known forms is
noticed before anything is done. A reference that only names no system, and a
missing operation, are noticed when the operation is looked up, and by then
room has been made for it: if the cache was full, its oldest operation is gone.
So a failed request changes nothing exactly if it failed early or the cache had
room (`failed_get_keeps_iff`).
-/
namespace GeoCatalogue

namespace OperationCache

variable {g : Geodesy} {limit : Quantity} {cache : OperationCache}
  {source target : Option String}

/-! ## The ways in which a request ends -/

/-- **The outcomes of a request**, each with the cache after it. -/
inductive Answered (g : Geodesy) (limit : Quantity) (cache : OperationCache)
    (source target : Option String) : Outcome → OperationCache → Prop where
  /-- A reference has none of the known forms. -/
  | unreadable {failure : Failure}
      (unnamed : key source target = .error failure) :
      Answered g limit cache source target (.failed failure) cache
  /-- The operation is in the cache. -/
  | held {pair : String × String} {operation : Operation}
      (named : key source target = .ok pair)
      (present : cache.get? pair = some operation) :
      Answered g limit cache source target (.found operation) cache
  /-- The cache is empty and may still hold nothing. -/
  | noRoom {pair : String × String} (named : key source target = .ok pair)
      (absent : cache.get? pair = none)
      (closed : cache.makeRoom? limit = none) :
      Answered g limit cache source target .noRoom cache
  /-- A reference names no system, or there is no operation, which is noticed
  once there is room. -/
  | unknown {pair : String × String} {roomy : OperationCache}
      {failure : Failure} (named : key source target = .ok pair)
      (absent : cache.get? pair = none)
      (room : cache.makeRoom? limit = some roomy)
      (missing : Crs.systems g source target = .error failure) :
      Answered g limit cache source target (.failed failure) roomy
  /-- The operation is looked up and kept. -/
  | added {pair : String × String} {roomy : OperationCache}
      {first second : ReferenceSystem} (named : key source target = .ok pair)
      (absent : cache.get? pair = none)
      (room : cache.makeRoom? limit = some roomy)
      (found : Crs.systems g source target = .ok (first, second)) :
      Answered g limit cache source target
        (.found (roomy.add pair first second).1)
        (roomy.add pair first second).2

/-- **Every request ends in one of these ways.** The cases are those of `Answered`, in the
order in which a request meets them: the identifiers come first, then the cache, then the
room in it, and the systems only at the end – after the room has been made. -/
theorem answered_get (g : Geodesy) (limit : Quantity) (cache : OperationCache)
    (source target : Option String) :
    Answered g limit cache source target (cache.get g limit source target).1
      (cache.get g limit source target).2 := by
  unfold get
  split
  · next unnamed => exact .unreadable unnamed
  · next named =>
    split
    · next present => exact .held named present
    · next absent =>
      split
      · next closed => exact .noRoom named absent closed
      · next room =>
        split
        · next missing => exact .unknown named absent room missing
        · next found => exact .added named absent room found

/-! ## Making room -/

/-- A cache that has not reached its limit has room as it is. -/
theorem makeRoom?_of_roomy (h : limit.isAtMost cache.size = false) :
    cache.makeRoom? limit = some cache := by
  unfold makeRoom?
  rw [h]
  rfl

/-- **A full cache makes room by its oldest operation.** -/
theorem exists_oldest_of_makeRoom? {roomy : OperationCache}
    (full : limit.isAtMost cache.size = true)
    (h : cache.makeRoom? limit = some roomy) :
    ∃ oldest, cache.entries = oldest :: roomy.entries := by
  unfold makeRoom? at h
  rw [if_pos full] at h
  split at h
  · next oldest rest entries =>
    obtain rfl := Option.some.inj h
    exact ⟨oldest, entries⟩
  · cases h

/-! ## Failed requests -/

/-- **A failed request changes nothing exactly if it fails before room is
made, or if there is room already.** A request that fails for a reference in
none of the known forms leaves all operations of the cache in their places;
so does any other failed request, as long as the cache is not full. In a full
cache the oldest operation is lost, and no other. This holds of every cache,
however it was filled, and for every limit. -/
theorem failed_get_keeps_iff {failure : Failure} {after : OperationCache}
    (failed : cache.get g limit source target = (.failed failure, after)) :
    (after.entries = cache.entries ↔
      (∃ cause, key source target = .error cause) ∨
        limit.isAtMost cache.size = false) ∧
    (after.entries = cache.entries ∨
      ∃ oldest, cache.entries = oldest :: after.entries) := by
  have answered := answered_get g limit cache source target
  rw [failed] at answered
  cases answered with
  | unreadable unnamed =>
    exact ⟨⟨fun _ => .inl ⟨_, unnamed⟩, fun _ => rfl⟩, .inl rfl⟩
  | unknown named absent room missing =>
    cases full : limit.isAtMost cache.size with
    | false =>
      rw [makeRoom?_of_roomy full] at room
      obtain rfl := Option.some.inj room
      exact ⟨⟨fun _ => .inr rfl, fun _ => rfl⟩, .inl rfl⟩
    | true =>
      obtain ⟨oldest, entries⟩ := exists_oldest_of_makeRoom? full room
      refine ⟨⟨?_, ?_⟩, .inr ⟨oldest, entries⟩⟩
      · intro same
        rw [same] at entries
        exact absurd entries (List.cons_ne_self oldest _).symm
      · rintro (⟨cause, unnamed⟩ | no)
        · rw [named] at unnamed
          cases unnamed
        · cases no

/-- A reference to no known system. -/
def unlisted : String := "EPSG:999999"

/-- What is known about systems, as in the standard geodesy. -/
def sampleGeodesy : Geodesy := Geodesy.standard "unknown"

/-- A cache after one request, with a single operation. -/
def filledCache : OperationCache :=
  (get sampleGeodesy (.whole 1) {} (some "EPSG:4326") (some "OGC:CRS84")).2

/-- With room for a second operation the first one stays when a request
fails. -/
theorem failed_get_keeps_roomy :
    (filledCache.get sampleGeodesy (.whole 2) (some "EPSG:4326")
      (some unlisted)).1
      = .failed (.unsupportedCrs (some unlisted) (.unknown "unknown")) ∧
    (filledCache.get sampleGeodesy (.whole 2) (some "EPSG:4326")
      (some unlisted)).2.entries = filledCache.entries := by
  have failed : filledCache.get sampleGeodesy (.whole 2) (some "EPSG:4326")
      (some unlisted)
      = (.failed (.unsupportedCrs (some unlisted) (.unknown "unknown")),
        filledCache) := rfl
  have roomy : (Quantity.whole 2).isAtMost filledCache.size = false := rfl
  rw [failed]
  exact ⟨rfl, (failed_get_keeps_iff failed).1.mpr (.inr roomy)⟩

/-- **A failed request that changes the cache.** There is no room for a second
operation, and the request fails for a system that is not known: the only
operation is lost. -/
theorem failed_get_loses_oldest :
    filledCache.keys = [("EPSG:4326", "OGC:CRS84")] ∧
    filledCache.get sampleGeodesy (.whole 1) (some "EPSG:4326") (some unlisted)
      = (.failed (.unsupportedCrs (some unlisted) (.unknown "unknown")),
        { filledCache with entries := [] }) := by
  constructor
  · rfl
  · rfl

end OperationCache

end GeoCatalogue
