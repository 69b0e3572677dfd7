import GeoCatalogue.Proofs.Crs.Queue
import GeoCatalogue.Proofs.Crs.Spelling
import GeoCatalogue.Proofs.Settings.Changes
import Mathlib.Algebra.Order.Archimedean.Basic
import Mathlib.Data.Nat.Find

/-!
# The limit that settings give to the cache

How many operations are kept is a setting, and it may be given as a whole number, as a
truth value or as a number with a fraction: it only has to be positive – or rather, it
must not be zero or less, which is not the same, since the undefined number is neither.
That is enough for the cache to find room always, since an empty cache is below every such
limit (`get_ne_noRoom`).

It is not enough for the limit to be kept. The cache makes room when it has as many
operations as the limit or more, and so it stops growing at **the first whole number that
is not below the limit**. No number is a bound that the limit is not at most
(`bounds_iff`): requests for pairs that are all different fill the cache up to there. With
a limit of two and a half there come to be three operations. And the undefined number is
below no number at all, so nothing makes room and the cache grows as long as there are
requests. The limit is kept **exactly if it is a whole number or infinite**
(`calls_within_limit_iff`).
-/
namespace GeoCatalogue

/-- **A quantity that is a whole number**, in whatever form it is given. -/
def Quantity.IsWhole (q : Quantity) : Prop :=
  ∃ n : ℤ, q.isAtMost n = true ∧ q.isAtLeast n = true

namespace OperationCache

variable {g : Geodesy} {limit : Quantity} {cache : OperationCache}

/-- There is no room only in an empty cache that may hold nothing. -/
theorem isAtMost_zero_of_makeRoom? (h : cache.makeRoom? limit = none) :
    limit.isAtMost 0 = true := by
  unfold makeRoom? at h
  split at h
  · next full =>
    split at h
    · cases h
    · next empty =>
      rw [size, empty] at full
      exact full
  · cases h

/-- **With a positive limit there is room always.** -/
theorem get_ne_noRoom (positive : limit.isAtMost 0 = false)
    (source target : Option String) :
    (cache.get g limit source target).1 ≠ .noRoom := by
  have answered := answered_get g limit cache source target
  generalize cache.get g limit source target = outcome at answered ⊢
  obtain ⟨outcome, next⟩ := outcome
  rintro rfl
  cases answered with
  | noRoom named absent closed =>
    rw [isAtMost_zero_of_makeRoom? closed] at positive
    cases positive

/-- A limit that is at least a number is at least every smaller one. -/
theorem isAtLeast_mono {m n : ℤ} (h : limit.isAtLeast n = true) (hmn : m ≤ n) :
    limit.isAtLeast m = true := by
  cases limit with
  | flag value =>
    simp only [Quantity.isAtLeast, decide_eq_true_eq] at h ⊢
    exact Int.le_trans hmn h
  | whole value =>
    simp only [Quantity.isAtLeast, decide_eq_true_eq] at h ⊢
    exact Int.le_trans hmn h
  | real value =>
    cases value with
    | finite x =>
      simp only [Quantity.isAtLeast, decide_eq_true_eq] at h ⊢
      exact Rat.le_trans (Rat.intCast_le_intCast.mpr hmn) h
    | infinite negative => exact h
    | undefined => exact h

/-- **A whole limit is kept to the letter.** -/
theorem isAtLeast_size_run (positive : limit.isAtMost 0 = false)
    (whole : limit.IsWhole) (calls : List Call) :
    limit.isAtLeast (run g limit {} calls).size = true := by
  obtain ⟨n, atMost, atLeast⟩ := whole
  have above : 0 ≤ n := by
    by_contra below
    rw [isAtMost_mono atMost (by omega)] at positive
    cases positive
  obtain ⟨k, rfl⟩ := Int.eq_ofNat_of_zero_le above
  have empty : size {} ≤ k := Nat.zero_le k
  exact isAtLeast_mono atLeast
    (Int.ofNat_le.mpr (size_run_le_of_isAtMost atMost empty calls))

/-- **The limit is the one that was written last**, or sixty-four if none was. -/
theorem getD_eq_cacheSize {table : Table String Json}
    {overrides : List (Table String Json)} {s : Settings}
    (accepted : (Settings.ofTable table >>= fun first =>
      overrides.foldlM Settings.withChanges first) = .ok s) :
    (Table.get? (table :: overrides).flatten "transformer_cache_size").getD
      (.integer 64) = Settings.ofQuantity s.transformerCacheSize := by
  have made : (table :: overrides).foldlM Settings.withChanges .standard
      = .ok s := by
    rw [List.foldlM_cons]
    exact accepted
  have written := Settings.get?_toTable_of_foldlM made "transformer_cache_size"
  have unwritten : Settings.standard.toTable.get? "transformer_cache_size"
      = some (.integer 64) := rfl
  -- a limit is no level, so its value is taken as it is
  have asGiven : Settings.settle "transformer_cache_size" = id :=
    funext (Settings.settle_of_ne (by decide))
  rw [asGiven, Option.map_id, unwritten, Option.or_some] at written
  exact (Option.some.inj written).symm

/-! ## Filling the cache -/

/-- A geodesy with a system for every identifier. -/
def everySystem : Geodesy where
  find id := .ok ⟨id, [], false, .other⟩
  transformBounds _ _ _ := .error "unknown"

@[simp] theorem length_keys (cache : OperationCache) : cache.keys.length = cache.size :=
  List.length_map _

/-- An identifier for every number. -/
def numbered (n : ℕ) : String :=
  "EPSG:" ++ String.ofList (List.replicate (n + 1) '1')

/-- Requests for as many pairs of identifiers, no two of them the same. -/
def numberedRequests (n : ℕ) : List Call :=
  (List.range n).map fun i => .get (some (numbered i)) (some (numbered i))

/-- An identifier of a number stays as it is. -/
@[simp] theorem normalize_numbered (n : ℕ) :
    Crs.normalize (some (numbered n)) = .ok (numbered n) := by
  have plain : ∀ c ∈ List.replicate (n + 1) '1', Crs.isShortCodeChar c = true := by
    intro c mem
    rw [List.eq_of_mem_replicate mem]
    rfl
  have letters : ∀ c ∈ "EPSG".toList, Crs.isAsciiLetter c = true :=
    List.all_eq_true.mp rfl
  have spells : Crs.Spells (numbered n) "EPSG".toList (List.replicate (n + 1) '1') :=
    { named := nofun
      letters := letters
      coded := nofun
      plain := plain
      written := ⟨[], _, [], by simp [numbered], nofun, nofun, .short⟩ }
  rw [spells.normalize_eq, Crs.identifier_epsg]
  rfl

theorem numbered_injective : Function.Injective numbered := by
  intro m n same
  have lengths := congrArg String.length same
  simp only [numbered, String.length_append, String.length_ofList,
    List.length_replicate] at lengths
  omega

/-- **As long as there is room, requests for different pairs fill the cache.** -/
theorem keys_run_numberedRequests {n : ℕ} (room : ∀ k < n, limit.isAtMost k = false) :
    (run everySystem limit {} (numberedRequests n)).keys
      = (List.range n).map fun i => (numbered i, numbered i) := by
  induction n with
  | zero => rfl
  | succ n ih =>
    have filled := ih fun k hk => room k (Nat.lt_succ_of_lt hk)
    unfold numberedRequests at filled ⊢
    rw [List.range_succ, List.map_append, List.map_append, run_append]
    generalize run everySystem limit {} _ = cache at filled ⊢
    rw [← filled]
    have size : cache.size = n := by
      rw [← length_keys, filled, List.length_map, List.length_range]
    have absent : cache.get? (numbered n, numbered n) = none := by
      rw [get?_eq_none_iff, filled]
      intro mem
      obtain ⟨i, below, same⟩ := List.mem_map.mp mem
      obtain rfl := numbered_injective (Prod.mk.inj same).1
      exact absurd (List.mem_range.mp below) (Nat.lt_irrefl i)
    have roomy : cache.makeRoom? limit = some cache :=
      makeRoom?_of_roomy (by rw [size]; exact room n (Nat.lt_succ_self n))
    show (cache.get everySystem limit (some (numbered n)) (some (numbered n))).2.keys = _
    unfold get key Crs.systems Crs.find
    rw [normalize_numbered, Except.ok_bind, Except.ok_bind]
    dsimp only
    rw [absent, roomy]
    exact keys_add cache _ _ _

theorem size_run_numberedRequests {n : ℕ} (room : ∀ k < n, limit.isAtMost k = false) :
    (run everySystem limit {} (numberedRequests n)).size = n := by
  rw [← length_keys, keys_run_numberedRequests room, List.length_map, List.length_range]

/-- **A number bounds the cache** in all runs exactly if the limit is at most it. In the one
direction, a call that adds something finds room first. In the other, requests for different
pairs fill the cache up to the first number that is not below the limit, since all of them
are known to a geodesy that knows everything. -/
theorem bounds_iff (n : ℕ) :
    (∀ g calls, (run g limit {} calls).size ≤ n) ↔ limit.isAtMost n = true := by
  constructor
  · intro bounds
    by_contra above
    have room : ∀ k < n + 1, limit.isAtMost k = false := by
      intro k hk
      by_contra reached
      exact above (isAtMost_mono (Bool.of_not_eq_false reached) (by omega))
    have filled := bounds everySystem (numberedRequests (n + 1))
    rw [size_run_numberedRequests room] at filled
    exact Nat.not_succ_le_self n filled
  · intro within g calls
    have empty : size {} ≤ n := Nat.zero_le n
    exact size_run_le_of_isAtMost within empty calls

/-! ## Limits that are kept -/

/-- **A limit is kept**: no requests to whatever geodesy let a new cache have more
operations. -/
def IsKept (limit : Quantity) : Prop :=
  ∀ g calls, limit.isAtLeast (run g limit {} calls).size = true

/-- **A limit is kept exactly if it is a whole number or infinite.** Up to a limit with a
fraction there is room for one operation more than it says, as many as the next whole number;
and the undefined number is not kept by an empty cache even, since nothing is below it. -/
theorem isKept_iff (positive : limit.isAtMost 0 = false) :
    IsKept limit ↔ limit.IsWhole ∨ limit = .real (.infinite false) := by
  constructor
  · intro kept
    by_cases bounded : ∃ n : ℕ, limit.isAtMost n = true
    · -- the first number that is not below the limit is reached, so it is the limit
      classical
      have room : ∀ k < Nat.find bounded, limit.isAtMost k = false :=
        fun k hk => Bool.eq_false_iff.mpr (Nat.find_min bounded hk)
      have reached := kept everySystem (numberedRequests (Nat.find bounded))
      rw [size_run_numberedRequests room] at reached
      exact .inl ⟨_, Nat.find_spec bounded, reached⟩
    · refine .inr ?_
      have unbounded (n : ℕ) : limit.isAtMost n = false :=
        Bool.eq_false_iff.mpr fun atMost => bounded ⟨n, atMost⟩
      match limit with
      | .flag value => cases value <;> cases unbounded 1
      | .whole value =>
        have above := unbounded value.toNat
        simp only [Quantity.isAtMost, decide_eq_false_iff_not] at above
        omega
      | .real (.finite x) =>
        obtain ⟨n, hn⟩ := exists_nat_ge x.value
        have above := unbounded n
        simp only [Quantity.isAtMost, decide_eq_false_iff_not, Int.cast_natCast] at above
        exact absurd hn above
      | .real (.infinite true) => cases positive
      | .real (.infinite false) => rfl
      | .real .undefined => cases kept everySystem []
  · rintro (whole | rfl) g calls
    · exact isAtLeast_size_run positive whole calls
    · rfl

/-- **A cache with a limit from settings.** Let settings be made from a table, and let
some of them be changed, once or again; and let a new cache have the limit that they give
– the one that was written last, in whatever form it was accepted. Then requests always
find room. A number bounds the cache in all runs exactly if the limit is at most it, and
the limit itself is kept exactly if it is a whole number or infinite: not if it has a
fraction, and not if it is undefined, which no number is. -/
theorem calls_within_limit_iff {table : Table String Json}
    {overrides : List (Table String Json)} {s : Settings}
    (accepted : (Settings.ofTable table >>= fun first =>
      overrides.foldlM Settings.withChanges first) = .ok s) :
    let limit := s.transformerCacheSize
    (Table.get? (table :: overrides).flatten "transformer_cache_size").getD
        (.integer 64) = Settings.ofQuantity limit ∧
    (∀ g calls source target,
      ((run g limit {} calls).get g limit source target).1 ≠ .noRoom) ∧
    (∀ n : ℕ, (∀ g calls, (run g limit {} calls).size ≤ n) ↔ limit.isAtMost n = true) ∧
    (IsKept limit ↔ limit.IsWhole ∨ limit = .real (.infinite false)) :=
  ⟨getD_eq_cacheSize accepted,
    fun _ _ source target => get_ne_noRoom s.cacheSize_pos source target,
    bounds_iff, isKept_iff s.cacheSize_pos⟩

/-- Two and a half. -/
def twoAndAHalf : Extended :=
  .finite ⟨false, 5 * Nat.pow 2 50, -51, by decide⟩

/-- A limit of seven that is changed, together with the level, to two and a half: three is
a bound, two is none, and the limit is not kept. -/
theorem calls_within_limit_changed :
    let changes := [("log_level", .text "debug"),
      ("transformer_cache_size", .real twoAndAHalf)]
    ∃ s : Settings,
      (Settings.ofTable [("transformer_cache_size", .integer 7)] >>=
        fun first => [changes].foldlM Settings.withChanges first) = .ok s ∧
      s.transformerCacheSize = .real twoAndAHalf ∧
      (∀ g calls, (run g s.transformerCacheSize {} calls).size ≤ 3) ∧
      (¬∀ g calls, (run g s.transformerCacheSize {} calls).size ≤ 2) ∧
      ¬IsKept s.transformerCacheSize := by
  intro changes
  have fine : (Settings.ofTable [("transformer_cache_size", .integer 7)] >>=
      fun first => [changes].foldlM Settings.withChanges first).isOk = true := by
    decide +kernel
  obtain ⟨s, accepted⟩ := Except.exists_of_isOk fine
  obtain ⟨written, -, bounds, kept⟩ := calls_within_limit_iff accepted
  have limit : s.transformerCacheSize = .real twoAndAHalf :=
    Settings.ofQuantity_injective written.symm
  rw [limit] at bounds kept
  refine ⟨s, accepted, limit, ?_⟩
  rw [limit]
  refine ⟨(bounds 3).mpr (by decide +kernel), fun two => ?_, fun keeps => ?_⟩
  · exact absurd ((bounds 2).mp two) (by decide +kernel)
  · rcases kept.mp keeps with ⟨n, atMost, atLeast⟩ | ⟨⟨⟩⟩
    have low : ¬n ≤ 2 := fun small =>
      absurd (isAtMost_mono atMost small) (by decide +kernel)
    have high : ¬3 ≤ n := fun large =>
      absurd (isAtLeast_mono atLeast large) (by decide +kernel)
    omega

/-- The settings with nothing but a limit. -/
theorem exists_ofTable_limit (limit : Quantity)
    (fine : (Settings.ofTable
      [("transformer_cache_size", Settings.ofQuantity limit)]).isOk = true) :
    ∃ s, Settings.ofTable [("transformer_cache_size", Settings.ofQuantity limit)] = .ok s ∧
      s.transformerCacheSize = limit := by
  obtain ⟨s, accepted⟩ := Except.exists_of_isOk fine
  have unchanged : (Settings.ofTable [("transformer_cache_size", Settings.ofQuantity limit)] >>=
      fun first => [].foldlM Settings.withChanges first) = .ok s := by
    rw [accepted]
    rfl
  exact ⟨s, accepted, Settings.ofQuantity_injective (getD_eq_cacheSize unchanged).symm⟩

/-- **Limits that bound nothing, and one that is exceeded.** Settings accept an undefined
limit, and with it the cache comes to have any number of operations. They accept a limit of
two and a half, and three requests leave three operations. -/
theorem calls_exceed_limit :
    (∃ s : Settings,
      Settings.ofTable [("transformer_cache_size", .real .undefined)] = .ok s ∧
      ∀ n, ∃ g calls, (run g s.transformerCacheSize {} calls).size = n) ∧
    ∃ s : Settings,
      Settings.ofTable [("transformer_cache_size", .real twoAndAHalf)] = .ok s ∧
      (run sampleGeodesy s.transformerCacheSize {}
        [.get (some "EPSG:4326") (some "OGC:CRS84"), .get (some "OGC:CRS84") (some "EPSG:4326"),
          .get (some "EPSG:4326") (some "EPSG:3857")]).size = 3 := by
  constructor
  · obtain ⟨s, accepted, limit⟩ :=
      exists_ofTable_limit (.real .undefined) (by decide +kernel)
    refine ⟨s, accepted, fun n => ⟨everySystem, numberedRequests n, ?_⟩⟩
    rw [limit]
    exact size_run_numberedRequests fun _ _ => rfl
  · obtain ⟨s, accepted, limit⟩ :=
      exists_ofTable_limit (.real twoAndAHalf) (by decide +kernel)
    refine ⟨s, accepted, ?_⟩
    rw [limit]
    decide +kernel

end OperationCache

end GeoCatalogue
