import GeoCatalogue.Proofs.Crs.Cache
import Mathlib.Data.List.DropRight
import Mathlib.Data.List.Nodup

/-!
# The cache of operations as a queue

Requests and clearings follow one another, and the cache that they leave is a
**queue of bounded length**: it holds the last pairs of identifiers that were
asked for in vain since it was cleared, and no others
(`keys_run_of_allSucceed`).

All of it rests on what one call can leave (`Leaves`): the operations that
stay are those at the end of the cache, and at most one is added behind them –
of a pair that was not there, under a number that no operation had before.
Hence no pair occurs twice, and no number is given out twice (`Tidy`). An
operation that is found again is therefore the one that was found before, and
this happens exactly as long as no call has removed its pair
(`serial_eq_iff_of_found`).
-/
namespace GeoCatalogue

namespace OperationCache

variable {g : Geodesy} {limit : Quantity} {cache next : OperationCache}
  {source target : Option String} {pair : String × String}
  {operation : Operation}

/-! ## Calls -/

/-- **What is asked of a cache.** -/
inductive Call where
  /-- The operation between two references. -/
  | get (source target : Option String)
  /-- To be cleared. -/
  | clear

/-- The cache after a call, whatever came of it. -/
def after (g : Geodesy) (limit : Quantity) (cache : OperationCache) :
    Call → OperationCache
  | .get source target => (cache.get g limit source target).2
  | .clear => cache.clear

/-- **The cache after some calls**, one after the other. -/
def run (g : Geodesy) (limit : Quantity) (cache : OperationCache)
    (calls : List Call) : OperationCache :=
  calls.foldl (after g limit) cache

/-- Whether an operation was found. -/
def Outcome.isFound : Outcome → Bool
  | found _ => true
  | failed _ => false
  | noRoom => false

/-- What comes of a request that finds an operation. -/
theorem exists_of_isFound {x : Outcome × OperationCache}
    (h : x.1.isFound = true) : ∃ operation, x = (.found operation, x.2) := by
  obtain ⟨outcome, next⟩ := x
  cases outcome with
  | found operation => exact ⟨operation, rfl⟩
  | failed failure => cases h
  | noRoom => cases h

/-- Whether a call succeeds. -/
def succeeds (g : Geodesy) (limit : Quantity) (cache : OperationCache) :
    Call → Bool
  | .get source target => (cache.get g limit source target).1.isFound
  | .clear => true

/-- Whether all of some calls succeed. -/
def allSucceed (g : Geodesy) (limit : Quantity) :
    OperationCache → List Call → Bool
  | _, [] => true
  | cache, call :: calls =>
    cache.succeeds g limit call && allSucceed g limit (cache.after g limit call) calls

/-- The pair that a request asks for in vain, if it does. -/
def missed (cache : OperationCache) (source target : Option String) :
    List (String × String) :=
  match key source target with
  | .ok pair => if pair ∈ cache.keys then [] else [pair]
  | .error _ => []

/-- **The pairs that were asked for in vain** since the cache was cleared, in
order: those noted so far, and those of some more calls. -/
def misses (g : Geodesy) (limit : Quantity) :
    OperationCache → List (String × String) → List Call →
      List (String × String)
  | _, noted, [] => noted
  | cache, _, .clear :: calls => misses g limit cache.clear [] calls
  | cache, noted, .get source target :: calls =>
    misses g limit (cache.after g limit (.get source target))
      (noted ++ cache.missed source target) calls

/-- **A call removes a pair** from the cache – makes room by it, or clears the
cache. -/
def Removes (g : Geodesy) (limit : Quantity) (cache : OperationCache)
    (call : Call) (pair : String × String) : Prop :=
  pair ∈ cache.keys ∧ pair ∉ (cache.after g limit call).keys

/-- None of some calls removes a pair. -/
def Keeps (g : Geodesy) (limit : Quantity) (cache : OperationCache)
    (calls : List Call) (pair : String × String) : Prop :=
  ∀ front call back, calls = front ++ call :: back →
    ¬ Removes g limit (cache.run g limit front) call pair

/-! ## What one call can leave -/

/-- **What a call can leave of a cache.** -/
inductive Leaves (limit : Quantity) (cache : OperationCache) :
    OperationCache → Prop where
  /-- Operations at the end of the cache. -/
  | fewer {kept : List ((String × String) × Operation)}
      (suffix : kept <:+ cache.entries) :
      Leaves limit cache { cache with entries := kept }
  /-- Operations at the end of the cache, with room for one more behind them,
  and the operation of a pair that was not there. -/
  | more {kept : List ((String × String) × Operation)}
      {pair : String × String} {source target : ReferenceSystem}
      (suffix : kept <:+ cache.entries)
      (room : limit.isAtMost kept.length = false ∨ kept.length < cache.size)
      (absent : pair ∉ cache.keys) :
      Leaves limit cache
        (add { cache with entries := kept } pair source target).2

/-- **Making room** takes the oldest operation away if there is no room. -/
theorem exists_kept_of_makeRoom? (h : cache.makeRoom? limit = some next) :
    ∃ kept, kept <:+ cache.entries ∧ next = { cache with entries := kept } ∧
      (limit.isAtMost kept.length = false ∨ kept.length < cache.size) := by
  unfold makeRoom? at h
  split at h
  · split at h
    · next oldest rest entries =>
      refine ⟨rest, ⟨[oldest], entries.symm⟩, (Option.some.inj h).symm, .inr ?_⟩
      rw [size, entries]
      exact Nat.lt_succ_self rest.length
    · cases h
  · next roomy =>
    refine ⟨cache.entries, List.suffix_refl _, (Option.some.inj h).symm, .inl ?_⟩
    exact Bool.eq_false_iff.mpr roomy

/-- A pair is not in the cache if no operation is found for it. -/
@[simp] theorem get?_eq_none_iff : cache.get? pair = none ↔ pair ∉ cache.keys := by
  unfold get? keys
  rw [List.lookup_eq_none_iff]
  constructor
  · intro h mem
    obtain ⟨entry, hentry, rfl⟩ := List.mem_map.mp mem
    simpa using h entry hentry
  · intro h entry hentry
    rw [bne_iff_ne]
    rintro rfl
    exact h (List.mem_map_of_mem hentry)

/-- What is found for a pair is in the cache, under that pair. -/
theorem mem_of_get? (h : cache.get? pair = some operation) :
    (pair, operation) ∈ cache.entries := by
  obtain ⟨front, back, entries, -⟩ := List.lookup_eq_some_iff.mp h
  rw [entries]
  exact List.mem_append_right front List.mem_cons_self

/-- A request leaves one of these. -/
theorem leaves_get (g : Geodesy) (limit : Quantity) (cache : OperationCache)
    (source target : Option String) :
    Leaves limit cache (cache.get g limit source target).2 := by
  have unchanged : Leaves limit cache cache := .fewer (List.suffix_refl _)
  have answered := answered_get g limit cache source target
  generalize cache.get g limit source target = outcome at answered ⊢
  obtain ⟨outcome, next⟩ := outcome
  cases answered with
  | unreadable unnamed => exact unchanged
  | held named present => exact unchanged
  | noRoom named absent closed => exact unchanged
  | unknown named absent room missing =>
    obtain ⟨kept, suffix, rfl, -⟩ := exists_kept_of_makeRoom? room
    exact .fewer suffix
  | added named absent room found =>
    obtain ⟨kept, suffix, rfl, roomy⟩ := exists_kept_of_makeRoom? room
    exact .more suffix roomy (get?_eq_none_iff.mp absent)

/-- **Every call leaves one of these.** -/
theorem leaves_after (g : Geodesy) (limit : Quantity) (cache : OperationCache)
    (call : Call) : Leaves limit cache (cache.after g limit call) := by
  cases call with
  | get source target => exact leaves_get g limit cache source target
  | clear => exact .fewer (List.nil_suffix)

/-- **An operation that a call leaves was there before**, or it is new: it has
a new number, and its pair was not there. -/
theorem Leaves.mem_or_new (h : Leaves limit cache next)
    {entry : (String × String) × Operation} (mem : entry ∈ next.entries) :
    entry ∈ cache.entries ∨
      entry.2.serial = cache.next ∧ entry.1 ∉ cache.keys := by
  cases h with
  | fewer suffix => exact .inl (suffix.subset mem)
  | more suffix room absent =>
    rcases List.mem_append.mp mem with old | new
    · exact .inl (suffix.subset old)
    · obtain rfl := List.mem_singleton.mp new
      exact .inr ⟨rfl, absent⟩

theorem Leaves.next_le (h : Leaves limit cache next) :
    cache.next ≤ next.next := by
  cases h with
  | fewer suffix => exact Nat.le_refl _
  | more suffix room absent => exact Nat.le_succ _

/-! ## Caches that are tidy -/

/-- The numbers of the operations in the cache. -/
def serials (cache : OperationCache) : List Nat :=
  cache.entries.map fun entry => entry.2.serial

/-- An operation is added at the end, under its pair. -/
@[simp] theorem keys_add (cache : OperationCache) (pair : String × String)
    (first second : ReferenceSystem) :
    (cache.add pair first second).2.keys = cache.keys ++ [pair] := by
  simp [add, keys]

@[simp] theorem serials_add (cache : OperationCache) (pair : String × String)
    (first second : ReferenceSystem) :
    (cache.add pair first second).2.serials
      = cache.serials ++ [cache.next] := by
  simp [add, serials]

/-- **A tidy cache**: no pair is there twice, no two operations have one
number, and all numbers have been given out. -/
structure Tidy (cache : OperationCache) : Prop where
  /-- The pairs are different. -/
  pairs : cache.keys.Nodup
  /-- The numbers are different. -/
  serials : cache.serials.Nodup
  /-- The numbers are smaller than the next one. -/
  given : ∀ entry ∈ cache.entries, entry.2.serial < cache.next

theorem tidy_empty : Tidy {} where
  pairs := List.nodup_nil
  serials := List.nodup_nil
  given := nofun

/-- What is left of a tidy cache is tidy. -/
theorem Tidy.of_suffix (h : cache.Tidy)
    {kept : List ((String × String) × Operation)}
    (suffix : kept <:+ cache.entries) :
    Tidy { cache with entries := kept } where
  pairs := h.pairs.sublist (suffix.sublist.map _)
  serials := h.serials.sublist (suffix.sublist.map _)
  given := fun entry mem => h.given entry (suffix.subset mem)

/-- A tidy cache stays tidy when the operation of a pair is added that is not
there. -/
theorem Tidy.add (h : cache.Tidy) (absent : pair ∉ cache.keys)
    (first second : ReferenceSystem) : (cache.add pair first second).2.Tidy where
  pairs := by
    rw [keys_add, List.nodup_append_comm]
    exact List.nodup_cons.mpr ⟨absent, h.pairs⟩
  serials := by
    have fresh : cache.next ∉ cache.serials := by
      intro mem
      obtain ⟨entry, hentry, same⟩ := List.mem_map.mp mem
      exact absurd same (Nat.ne_of_lt (h.given entry hentry))
    rw [serials_add, List.nodup_append_comm]
    exact List.nodup_cons.mpr ⟨fresh, h.serials⟩
  given := by
    intro entry mem
    rcases List.mem_append.mp mem with old | new
    · exact Nat.lt_succ_of_lt (h.given entry old)
    · obtain rfl := List.mem_singleton.mp new
      exact Nat.lt_succ_self cache.next

/-- **A call leaves a tidy cache tidy.** -/
theorem Tidy.leaves (h : cache.Tidy) (left : Leaves limit cache next) :
    next.Tidy := by
  cases left with
  | fewer suffix => exact h.of_suffix suffix
  | more suffix room absent =>
    exact (h.of_suffix suffix).add
      (fun mem => absent ((suffix.sublist.map Prod.fst).subset mem)) _ _

/-- **Calls leave a tidy cache tidy.** -/
theorem Tidy.run (h : cache.Tidy) (calls : List Call) :
    (cache.run g limit calls).Tidy := by
  induction calls generalizing cache with
  | nil => exact h
  | cons call calls ih => exact ih (h.leaves (leaves_after g limit cache call))

/-- An operation in a tidy cache is found for its pair. -/
theorem Tidy.get?_of_mem (h : cache.Tidy)
    (mem : (pair, operation) ∈ cache.entries) :
    cache.get? pair = some operation := by
  cases found : cache.get? pair with
  | none => exact absurd (List.mem_map_of_mem mem) (get?_eq_none_iff.mp found)
  | some other =>
    have same := List.inj_on_of_nodup_map h.pairs mem (mem_of_get? found) rfl
    rw [(Prod.mk.inj same).2]

/-! ## The length of the queue -/

/-- What a limit is at most, every larger number is. -/
theorem isAtMost_mono {m n : ℤ} (h : limit.isAtMost m = true) (hmn : m ≤ n) :
    limit.isAtMost n = true := by
  cases limit with
  | flag value =>
    simp only [Quantity.isAtMost, decide_eq_true_eq] at h ⊢
    exact Int.le_trans h hmn
  | whole value =>
    simp only [Quantity.isAtMost, decide_eq_true_eq] at h ⊢
    exact Int.le_trans h hmn
  | real value =>
    cases value with
    | finite x =>
      simp only [Quantity.isAtMost, decide_eq_true_eq] at h ⊢
      exact Rat.le_trans h (Rat.intCast_le_intCast.mpr hmn)
    | infinite negative => exact h
    | undefined => exact h

/-- **A call does not let the cache grow beyond any number that the limit is at
most.** -/
theorem Leaves.size_le {n : ℕ} (h : Leaves limit cache next)
    (within : limit.isAtMost n = true) (small : cache.size ≤ n) :
    next.size ≤ n := by
  cases h with
  | fewer suffix => exact suffix.length_le.trans small
  | @more kept _ _ _ suffix room absent =>
    have fits : kept.length < n := by
      rcases room with free | fewer
      · by_contra full
        have reached := isAtMost_mono within (Int.ofNat_le.mpr (not_lt.mp full))
        rw [free] at reached
        cases reached
      · exact fewer.trans_le small
    show (kept ++ [_]).length ≤ n
    rw [List.length_append]
    exact fits

/-- **Calls do not let the cache grow beyond any number that the limit is at
most.** -/
theorem size_run_le_of_isAtMost {n : ℕ} (within : limit.isAtMost n = true)
    (small : cache.size ≤ n) (calls : List Call) :
    (cache.run g limit calls).size ≤ n := by
  induction calls generalizing cache with
  | nil => exact small
  | cons call calls ih =>
    exact ih ((leaves_after g limit cache call).size_le within small)

/-- **Calls do not let the cache grow beyond its limit.** -/
theorem size_run_le {n : ℕ} (small : cache.size ≤ n) (calls : List Call) :
    (cache.run g (.whole n) calls).size ≤ n := by
  have within : (Quantity.whole n).isAtMost n = true := by
    simp [Quantity.isAtMost]
  exact size_run_le_of_isAtMost within small calls

/-! ## What is in the queue -/

/-- **What is in the cache is found**, and nothing changes. -/
theorem get_of_get? (named : key source target = .ok pair)
    (found : cache.get? pair = some operation) :
    cache.get g limit source target = (.found operation, cache) := by
  unfold get
  simp only [named, found]

/-- A pair that is in the cache has an operation there. -/
theorem exists_get?_of_mem_keys (mem : pair ∈ cache.keys) :
    ∃ operation, cache.get? pair = some operation := by
  refine Option.ne_none_iff_exists'.mp fun none => ?_
  exact get?_eq_none_iff.mp none mem

/-- **What a successful request leaves**: the operation found is in the cache,
under the pair that was asked for. -/
theorem mem_of_found (h : cache.get g limit source target = (.found operation, next)) :
    ∃ pair, key source target = .ok pair ∧
      (pair, operation) ∈ next.entries := by
  have answered := answered_get g limit cache source target
  rw [h] at answered
  cases answered with
  | held named present => exact ⟨_, named, mem_of_get? present⟩
  | added named absent room found =>
    exact ⟨_, named, List.mem_append_right _ List.mem_cons_self⟩

/-- The queue with room at its end. -/
theorem keys_of_makeRoom? {n : Nat} (small : cache.size ≤ n)
    (h : cache.makeRoom? (.whole n) = some next) :
    next.keys = cache.keys.rtake (n - 1) := by
  have length : cache.keys.length = cache.size := List.length_map _
  unfold List.rtake
  rw [length]
  cases full : (Quantity.whole n).isAtMost cache.size with
  | true =>
    obtain ⟨oldest, entries⟩ := exists_oldest_of_makeRoom? full h
    have reached : n ≤ cache.size := by simpa [Quantity.isAtMost] using full
    have longer : cache.size = next.size + 1 := congrArg List.length entries
    have keys : cache.keys = oldest.1 :: next.keys :=
      congrArg (List.map Prod.fst) entries
    have one : cache.size - (n - 1) = 1 := by omega
    rw [one, keys, List.drop_succ_cons, List.drop_zero]
  | false =>
    have fewer : cache.size < n := by simpa [Quantity.isAtMost] using full
    rw [makeRoom?_of_roomy full] at h
    obtain rfl := Option.some.inj h
    rw [Nat.sub_eq_zero_of_le (by omega), List.drop_zero]

/-- **A pair that was asked for in vain goes to the end of the queue**, for
which the oldest pair leaves a full one. -/
theorem keys_of_missed {n : Nat} (small : cache.size ≤ n)
    (named : key source target = .ok pair) (absent : pair ∉ cache.keys)
    (found : (cache.get g (.whole n) source target).1.isFound = true) :
    (cache.get g (.whole n) source target).2.keys
      = cache.keys.rtake (n - 1) ++ [pair] := by
  have answered := answered_get g (.whole n) cache source target
  generalize cache.get g (.whole n) source target = outcome
    at answered found ⊢
  obtain ⟨outcome, next⟩ := outcome
  cases answered with
  | unreadable unnamed => cases found
  | noRoom named absent closed => cases found
  | unknown named absent room missing => cases found
  | held named' present =>
    obtain rfl := Except.ok.inj (named.symm.trans named')
    rw [get?_eq_none_iff.mpr absent] at present
    cases present
  | @added pair' roomy first second named' absent' room known =>
    obtain rfl := Except.ok.inj (named.symm.trans named')
    rw [← keys_of_makeRoom? small room]
    exact keys_add roomy pair first second

theorem rtake_concat {α : Type} {n : Nat} (positive : 1 ≤ n) (as : List α)
    (a : α) : (as ++ [a]).rtake n = (as.rtake n).rtake (n - 1) ++ [a] := by
  obtain ⟨m, rfl⟩ := Nat.exists_eq_add_of_le' positive
  rw [List.rtake_concat_succ, Nat.add_sub_cancel]
  simp [List.rtake_eq_reverse_take_reverse, List.take_take]

/-- **The queue holds the last pairs that were asked for in vain**, as many as there may be,
as long as all calls succeed. The induction is on the calls, and what it carries along is
the list of all pairs that have been asked for in vain so far, of which the queue is the
end: a pair that is found changes neither, and one that is not goes to the end of both. -/
theorem keys_run_of_allSucceed {n : Nat} (positive : 1 ≤ n)
    {noted : List (String × String)} (start : cache.keys = noted.rtake n)
    {calls : List Call} (h : allSucceed g (.whole n) cache calls = true) :
    (cache.run g (.whole n) calls).keys
      = (misses g (.whole n) cache noted calls).rtake n := by
  induction calls generalizing cache noted with
  | nil => exact start
  | cons call calls ih =>
    obtain ⟨succeeds, later⟩ := (Bool.and_eq_true _ _).mp h
    cases call with
    | clear => exact ih (List.rtake_nil n).symm later
    | get source target =>
      have small : cache.size ≤ n := by
        rw [size, ← List.length_map (f := Prod.fst)]
        show cache.keys.length ≤ n
        rw [start, List.rtake, List.length_drop]
        omega
      suffices (cache.get g (.whole n) source target).2.keys
          = (noted ++ cache.missed source target).rtake n from ih this later
      cases named : key source target with
      | error failure =>
        have refused : cache.get g (.whole n) source target
            = (.failed failure, cache) := by
          unfold get
          simp only [named]
        simp [OperationCache.succeeds, refused, Outcome.isFound] at succeeds
      | ok pair =>
        by_cases mem : pair ∈ cache.keys
        · obtain ⟨operation, found⟩ := exists_get?_of_mem_keys mem
          have nothing : cache.missed source target = [] := by
            simp [missed, named, mem]
          rw [get_of_get? named found, nothing, List.append_nil]
          exact start
        · have one : cache.missed source target = [pair] := by
            simp [missed, named, mem]
          rw [keys_of_missed small named mem succeeds, one,
            rtake_concat positive, start]

/-! ## Operations that are found again -/

theorem run_append (front back : List Call) :
    cache.run g limit (front ++ back)
      = (cache.run g limit front).run g limit back :=
  List.foldl_append

theorem next_le_run (calls : List Call) :
    cache.next ≤ (cache.run g limit calls).next := by
  induction calls generalizing cache with
  | nil => exact Nat.le_refl _
  | cons call calls ih =>
    exact (leaves_after g limit cache call).next_le.trans ih

/-- **An operation with an old number is an old one**: it was there before the
calls that left it. -/
theorem mem_of_mem_run {entry : (String × String) × Operation}
    (old : entry.2.serial < cache.next) {calls : List Call}
    (mem : entry ∈ (cache.run g limit calls).entries) :
    entry ∈ cache.entries := by
  induction calls generalizing cache with
  | nil => exact mem
  | cons call calls ih =>
    have left := leaves_after g limit cache call
    rcases left.mem_or_new (ih (old.trans_le left.next_le) mem) with h | h
    · exact h
    · exact absurd h.1 (Nat.ne_of_lt old)

/-- **An operation stays as long as no call removes its pair.** -/
theorem Tidy.mem_run_of_keeps (h : cache.Tidy)
    (mem : (pair, operation) ∈ cache.entries) {calls : List Call}
    (kept : Keeps g limit cache calls pair) :
    (pair, operation) ∈ (cache.run g limit calls).entries := by
  induction calls generalizing cache with
  | nil => exact mem
  | cons call calls ih =>
    have left := leaves_after g limit cache call
    have present : pair ∈ cache.keys := List.mem_map_of_mem mem
    refine ih (h.leaves left) ?_ fun front last back same =>
      kept (call :: front) last back (congrArg (call :: ·) same)
    -- something stays under the pair, and it can only be what was there
    have stays : pair ∈ (cache.after g limit call).keys := by
      by_contra gone
      exact kept [] call calls rfl ⟨present, gone⟩
    obtain ⟨entry, hentry, rfl⟩ := List.mem_map.mp stays
    rcases left.mem_or_new hentry with old | ⟨-, absent⟩
    · have same := List.inj_on_of_nodup_map h.pairs old mem rfl
      rw [← same]
      exact hentry
    · exact absurd present absent

/-- **Two requests find the same operation** exactly if they are for the same pair, and no
call between them has removed it. Operations are told apart by their numbers, which are given
out in order and never again: so an operation that has been removed and made anew has
another number, even though it joins the same systems. -/
theorem Tidy.serial_eq_iff_of_found (h : cache.Tidy)
    (first : cache.get g limit source target = (.found operation, next))
    {between : List Call} {source' target' : Option String}
    {operation' : Operation} {last : OperationCache}
    (second : (next.run g limit between).get g limit source' target'
      = (.found operation', last)) :
    operation'.serial = operation.serial ↔
      key source' target' = key source target ∧
        ∀ pair, key source target = .ok pair →
          Keeps g limit next between pair := by
  have tidy : next.Tidy := h.leaves (first ▸ leaves_get g limit cache _ _)
  obtain ⟨pair, named, mem⟩ := mem_of_found first
  constructor
  · intro same
    obtain ⟨pair', named', mem'⟩ := mem_of_found second
    have behind : last
        = next.run g limit (between ++ [.get source' target']) := by
      rw [run_append]
      exact (congrArg Prod.snd second).symm
    rw [behind] at mem'
    have old : operation'.serial < next.next := same ▸ tidy.given _ mem
    have equal := List.inj_on_of_nodup_map tidy.serials
      (mem_of_mem_run old mem') mem same
    obtain ⟨rfl, rfl⟩ := Prod.mk.inj equal
    refine ⟨named'.trans named.symm, ?_⟩
    intro pair hpair front call back parts removed
    obtain rfl := Except.ok.inj (named.symm.trans hpair)
    -- what is there in the end is there after every call
    rw [parts, List.append_assoc, List.cons_append,
      List.append_cons, run_append] at mem'
    have there := mem_of_mem_run (old.trans_le (next_le_run _)) mem'
    rw [run_append] at there
    exact removed.2 (List.mem_map_of_mem there)
  · rintro ⟨same, kept⟩
    have stays := tidy.mem_run_of_keeps mem (kept pair named)
    have again : (next.run g limit between).get g limit source' target'
        = (.found operation, next.run g limit between) :=
      get_of_get? (same.trans named) ((tidy.run between).get?_of_mem stays)
    rw [again] at second
    obtain ⟨rfl⟩ := Outcome.found.inj (Prod.mk.inj second).1
    rfl

/-- **The cache is a queue of bounded length.** Let a cache that may hold some
operations, at least one, be new, and let any calls follow. No pair is there
twice, and there are never more than may be – whatever comes of the calls. If
all of them succeed, the pairs in the cache are, in order, the last ones that
were asked for in vain since it was cleared. A request for a pair that is there
finds an operation and changes nothing. After a request that finds an operation
its pair is there; and a later one finds the same operation exactly if it is
for the same pair and no call between the two has removed that. -/
theorem calls_bounded_queue (g : Geodesy) {n : Nat} (positive : 1 ≤ n)
    (calls : List Call) :
    let limit := Quantity.whole n
    let cache := run g limit {} calls
    (cache.keys.Nodup ∧ cache.size ≤ n) ∧
    (allSucceed g limit {} calls = true →
      cache.keys = (misses g limit {} [] calls).rtake n) ∧
    (∀ source target pair, key source target = .ok pair → pair ∈ cache.keys →
      ∃ operation, cache.get g limit source target = (.found operation, cache)) ∧
    ∀ source target operation next,
      cache.get g limit source target = (.found operation, next) →
      (∃ pair, key source target = .ok pair ∧ pair ∈ next.keys) ∧
      ∀ between source' target' operation' last,
        (next.run g limit between).get g limit source' target'
            = (.found operation', last) →
          (operation'.serial = operation.serial ↔
            key source' target' = key source target ∧
              ∀ pair, key source target = .ok pair →
                Keeps g limit next between pair) := by
  intro limit cache
  have tidy : cache.Tidy := tidy_empty.run calls
  refine ⟨⟨tidy.pairs, size_run_le (Nat.zero_le n) calls⟩, ?_, ?_, ?_⟩
  · have start : keys {} = ([] : List (String × String)).rtake n :=
      (List.rtake_nil n).symm
    exact keys_run_of_allSucceed positive start
  · intro source target pair named mem
    obtain ⟨operation, found⟩ := exists_get?_of_mem_keys mem
    exact ⟨operation, get_of_get? named found⟩
  · intro source target operation next first
    obtain ⟨pair, named, mem⟩ := mem_of_found first
    refine ⟨⟨pair, named, List.mem_map_of_mem mem⟩, ?_⟩
    intro between source' target' operation' last second
    exact tidy.serial_eq_iff_of_found first second

/-- A cache for two operations and requests for three pairs, one of them twice,
in different words. The second request for it finds the operation of the first;
a third one, after both of the others, does not. -/
theorem calls_bounded_queue_respelled :
    let g := Geodesy.standard "unknown"
    let limit := Quantity.whole (2 : Nat)
    let there := Call.get (some "EPSG:4326") (some "OGC:CRS84")
    let again := Call.get (some "urn:ogc:def:crs:EPSG::4326")
      (some "urn:ogc:def:crs:OGC:1.3:CRS84")
    let back := Call.get (some "OGC:CRS84") (some "EPSG:4326")
    let onward := Call.get (some "EPSG:4326") (some "EPSG:3857")
    let calls := [there, back, again, onward]
    1 ≤ 2 ∧ allSucceed g limit {} calls = true ∧
    (run g limit {} calls).keys
      = [("OGC:CRS84", "EPSG:4326"), ("EPSG:4326", "EPSG:3857")] ∧
    ∃ operation next operation' last,
      get g limit {} (some "EPSG:4326") (some "OGC:CRS84")
        = (.found operation, next) ∧
      (next.run g limit [back, again, onward]).get g limit
          (some "EPSG:4326") (some "OGC:CRS84") = (.found operation', last) ∧
      operation'.serial ≠ operation.serial := by
  intro g limit there again back onward calls
  let pair := ("EPSG:4326", "OGC:CRS84")
  let one := get g limit {} (some "EPSG:4326") (some "OGC:CRS84")
  let two := get g limit (one.2.run g limit [back, again, onward])
    (some "EPSG:4326") (some "OGC:CRS84")
  have facts : allSucceed g limit {} calls = true ∧
      misses g limit {} [] calls
        = [pair, ("OGC:CRS84", "EPSG:4326"), ("EPSG:4326", "EPSG:3857")] ∧
      one.1.isFound = true ∧ two.1.isFound = true ∧
      pair ∈ (one.2.run g limit [back, again]).keys := by
    decide +kernel
  obtain ⟨succeed, missed, isFound, isFound', there'⟩ := facts
  have queue := (calls_bounded_queue g (n := 2) (by decide) calls).2.1 succeed
  rw [missed] at queue
  obtain ⟨operation, first⟩ := exists_of_isFound isFound
  obtain ⟨operation', second⟩ := exists_of_isFound isFound'
  refine ⟨by decide, succeed, queue, operation, _, operation', _, first, second,
    fun same => ?_⟩
  -- the last of the calls between has removed the pair
  have gone : pair ∉ (run g limit {} calls).keys := by
    rw [queue]
    decide
  have found := (calls_bounded_queue g (n := 2) (by decide) []).2.2.2 _ _ _ _
    first
  exact ((found.2 _ _ _ _ _ second).mp same).2 pair rfl [back, again] onward []
    rfl ⟨there', gone⟩

end OperationCache

end GeoCatalogue
