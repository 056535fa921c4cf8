import WeatherApp.Engine.ResourceLaw

/-!
# Eviction from the cache

`cache` drops the expired entries and the one it replaces, and then the entries used least recently
until the new resource fits. The marks of use come from one counter that registrations share, so
that no two entries have the same one as long as the counter does not wrap.

## Main definitions

* `ResourceState.usageOrder`: the entries that can be evicted, in the order of their last use.
* `ShortestEviction`: the shortest evicted part that leaves room.
* `UsageInv`: the marks of use are distinct and not ahead of the counter.

## Main results

* `makeRoom_evicts`: the loop of `cache` evicts the shortest part.
* `cache_evicts_least_recent`: so does `cache`, in every state reached without a panic.
* `cache_overevicts`: after a panic of `cache` it can evict more.
-/

namespace WeatherApp

open ResourceState

/-! ## The shortest eviction -/

/-- A resource fits beside the entries. The bytes are added as `cache` adds them. -/
def Fits (limits : ResourceLimits) (resourceBytes : ℕ) (entries : List (String × CacheEntry)) :
    Prop :=
  saturatingAdd (entries.map (·.2.byteLength)).sum resourceBytes ≤ limits.maxBytes

/-- Below the greatest `usize` the resource fits exactly when the sum is within the limit. -/
theorem fits_iff {limits : ResourceLimits} (hlimit : limits.maxBytes < usizeMax)
    {resourceBytes : ℕ} {entries : List (String × CacheEntry)} :
    Fits limits resourceBytes entries ↔
      (entries.map (·.2.byteLength)).sum + resourceBytes ≤ limits.maxBytes := by
  rw [Fits, saturatingAdd, min_le_iff, or_iff_left (not_le.2 hlimit)]

/-- The entries are evicted from the front of the order, and no shorter part leaves enough room. -/
structure ShortestEviction (limits : ResourceLimits) (resourceBytes : ℕ)
    (order evicted kept : List (String × CacheEntry)) : Prop where
  split : order = evicted ++ kept
  fits : Fits limits resourceBytes kept
  shortest : ∀ evicted' kept', order = evicted' ++ kept' → Fits limits resourceBytes kept' →
    evicted.length ≤ evicted'.length

/-- Nothing is evicted when the resource fits beside all entries. -/
theorem ShortestEviction.of_fits {limits : ResourceLimits} {resourceBytes : ℕ}
    {order : List (String × CacheEntry)} (h : Fits limits resourceBytes order) :
    ShortestEviction limits resourceBytes order [] order :=
  ⟨rfl, h, fun _ _ _ _ => Nat.zero_le _⟩

/-- The first entry is evicted when the resource does not fit beside all of them. -/
theorem ShortestEviction.cons {limits : ResourceLimits} {resourceBytes : ℕ}
    {entry : String × CacheEntry} {order evicted kept : List (String × CacheEntry)}
    (hfull : ¬ Fits limits resourceBytes (entry :: order))
    (h : ShortestEviction limits resourceBytes order evicted kept) :
    ShortestEviction limits resourceBytes (entry :: order) (entry :: evicted) kept := by
  refine ⟨congrArg (entry :: ·) h.split, h.fits, fun evicted' kept' hsplit hfits => ?_⟩
  cases evicted' with
  | nil =>
    rw [List.nil_append] at hsplit
    rw [← hsplit] at hfits
    exact absurd hfits hfull
  | cons first evicted' =>
    rw [List.cons_append, List.cons.injEq] at hsplit
    exact Nat.succ_le_succ (h.shortest evicted' kept' hsplit.2 hfits)

/-! ## The loop of `cache` -/

/-- The entry whose mark is less than all others' is the one used least recently. -/
theorem oldestEntry_eq_some_of_least {α : Type} {lastUsed : α → ℕ} {entries : List (String × α)}
    {entry : String × α} (hmem : entry ∈ entries)
    (hleast : ∀ other ∈ entries, other = entry ∨ lastUsed entry.2 < lastUsed other.2) :
    oldestEntry lastUsed entries = some entry.1 := by
  cases hmin : entries.argmin fun entry => lastUsed entry.2 with
  | none =>
    rw [List.argmin_eq_none] at hmin
    rw [hmin] at hmem
    cases hmem
  | some least =>
    have hle : lastUsed least.2 ≤ lastUsed entry.2 :=
      List.le_of_mem_argmin (f := fun entry => lastUsed entry.2) hmem hmin
    rcases hleast least (List.argmin_mem hmin) with rfl | hlt
    · rw [oldestEntry, hmin, Option.map_some]
    · exact absurd hle (not_le.2 hlt)

/-- Dropping the first of the cached entries leaves the others. -/
theorem cache_removeCacheEntry_perm {s : ResourceState} {entry : String × CacheEntry}
    {order : List (String × CacheEntry)} (h : s.cache.rows.Perm (entry :: order)) :
    (s.removeCacheEntry entry.1).cache.rows.Perm order := by
  have hget : s.cache.get entry.1 = some entry.2 :=
    KeyedMap.get_eq_some_iff.2 (h.mem_iff.2 List.mem_cons_self)
  have hkeys : ((entry :: order).map Prod.fst).Nodup := (h.map Prod.fst).nodup_iff.1 s.cache.nodup
  have hothers : (entry :: order).filter (fun other => !decide (other.1 = entry.1)) = order := by
    rw [List.filter_cons_of_neg (by simp), List.filter_eq_self]
    intro other hother
    rw [Bool.not_eq_true', decide_eq_false_iff_not]
    intro hsame
    rw [List.map_cons, List.nodup_cons] at hkeys
    exact hkeys.1 (hsame ▸ List.mem_map_of_mem hother)
  rw [removeCacheEntry_of_get_some hget]
  have hfiltered := h.filter fun other => !decide (other.1 = entry.1)
  rw [hothers] at hfiltered
  exact hfiltered

/-- The counter tells whether a resource fits. -/
theorem AccountingInv.fits_iff {limits : ResourceLimits} {s : ResourceState}
    (hinv : AccountingInv limits s) {order : List (String × CacheEntry)}
    (hperm : s.cache.rows.Perm order) {resourceBytes : ℕ} :
    saturatingAdd s.cacheBytes resourceBytes ≤ limits.maxBytes ↔
      Fits limits resourceBytes order := by
  by_cases hlimit : limits.maxBytes < usizeMax
  · have hsum : s.cachedBytes = (order.map (·.2.byteLength)).sum := by
      rw [ResourceState.cachedBytes, KeyedMap.total, KeyedMap.values, List.map_map]
      exact (hperm.map _).sum_eq
    rw [Fits, hinv.exact hlimit, hsum]
  · -- a capped sum is never above such a limit
    rw [not_lt] at hlimit
    exact iff_of_true ((min_le_right _ _).trans hlimit) ((min_le_right _ _).trans hlimit)

/-- The loop of `cache` evicts the shortest part of the entries in the order of their last use. -/
theorem makeRoom_evicts {limits : ResourceLimits} {resourceBytes n : ℕ} {s : ResourceState}
    {order : List (String × CacheEntry)} (hinv : AccountingInv limits s)
    (hperm : s.cache.rows.Perm order)
    (hsorted : order.Pairwise fun a b => a.2.lastUsed < b.2.lastUsed)
    (hn : s.cache.size ≤ n) (hbytes : resourceBytes ≤ limits.maxBytes) :
    ∃ evicted kept, ShortestEviction limits resourceBytes order evicted kept ∧
      (makeRoom limits.maxBytes resourceBytes n s).cache.rows.Perm kept := by
  induction order generalizing s n with
  | nil =>
    have hfits : Fits limits resourceBytes [] := by
      rw [Fits, List.map_nil, List.sum_nil, saturatingAdd, zero_add]
      exact (min_le_left _ _).trans hbytes
    refine ⟨[], [], .of_fits hfits, ?_⟩
    have hempty : ∀ resourceId,
        (makeRoom limits.maxBytes resourceBytes n s).cache.get resourceId = none := by
      refine makeRoom_induction (P := fun s' => ∀ resourceId, s'.cache.get resourceId = none)
        (fun s' other h resourceId => ?_) (fun resourceId => ?_) _ _ _
      · rw [get_cache_removeCacheEntry, h, ite_self]
      · rw [KeyedMap.eq_empty_of_rows_eq_nil hperm.eq_nil, KeyedMap.get_empty]
    rw [List.perm_nil, List.eq_nil_iff_forall_not_mem]
    intro entry hentry
    have hget := KeyedMap.get_eq_some_iff.2 hentry
    rw [hempty] at hget
    cases hget
  | cons entry order ih =>
    by_cases hfits : Fits limits resourceBytes (entry :: order)
    · refine ⟨[], entry :: order, .of_fits hfits, ?_⟩
      have hroom := not_lt.2 ((hinv.fits_iff hperm).2 hfits)
      have hunchanged : makeRoom limits.maxBytes resourceBytes n s = s := by
        cases n with
        | zero => rfl
        | succ n => rw [makeRoom, if_neg hroom]
      rw [hunchanged]
      exact hperm
    · have hfull : saturatingAdd s.cacheBytes resourceBytes > limits.maxBytes :=
        not_le.1 fun hroom => hfits ((hinv.fits_iff hperm).1 hroom)
      obtain ⟨hfirst, hrest⟩ := List.pairwise_cons.1 hsorted
      have hsize : s.cache.size = order.length + 1 := hperm.length_eq
      cases n with
      | zero =>
        rw [hsize] at hn
        exact absurd hn (Nat.not_succ_le_zero _)
      | succ n =>
        -- the first of the order is the entry that the loop drops
        have holdest : oldestEntry (·.lastUsed) s.cache.rows = some entry.1 := by
          refine oldestEntry_eq_some_of_least (hperm.mem_iff.2 List.mem_cons_self) ?_
          intro other hother
          exact (List.mem_cons.1 (hperm.mem_iff.1 hother)).imp_right (hfirst other)
        have hdropped := cache_removeCacheEntry_perm hperm
        have hsmaller : (s.removeCacheEntry entry.1).cache.size ≤ n := by
          have hlength : (s.removeCacheEntry entry.1).cache.size = order.length :=
            hdropped.length_eq
          omega
        obtain ⟨evicted, kept, hshortest, hkept⟩ :=
          ih (hinv.removeCacheEntry entry.1) hdropped hrest hsmaller
        refine ⟨entry :: evicted, kept, hshortest.cons hfits, ?_⟩
        rw [makeRoom, if_pos hfull, holdest]
        exact hkept

/-! ## The marks of use -/

/-- The entries that `cache` may evict for a resource, in the order of their last use: those that
have not expired and are not replaced. -/
def ResourceState.usageOrder (s : ResourceState) (resourceId : String) (purgedAt : Instant) :
    List (String × CacheEntry) :=
  s.cache.select (fun a b => a.2.lastUsed ≤ b.2.lastUsed)
    fun entry => purgedAt < entry.2.expiresAt ∧ entry.1 ≠ resourceId

/-- The marks of use are not ahead of the counter, and each belongs to one entry. -/
structure UsageInv (s : ResourceState) : Prop where
  used : ∀ entry ∈ s.cache, entry.2.lastUsed ≤ s.sequence
  distinct : ∀ entry ∈ s.cache, ∀ other ∈ s.cache,
    entry.2.lastUsed = other.2.lastUsed → entry = other

/-- The entries of `s'` are among those of `s`, and the counter has not gone back. -/
structure CacheShrinks (s s' : ResourceState) : Prop where
  mem : ∀ entry ∈ s'.cache, entry ∈ s.cache
  sequence : s.sequence ≤ s'.sequence

namespace CacheShrinks

variable {s s' s'' : ResourceState}

theorem refl (s : ResourceState) : CacheShrinks s s := ⟨fun _ h => h, le_rfl⟩

theorem trans (h : CacheShrinks s s') (h' : CacheShrinks s' s'') : CacheShrinks s s'' :=
  ⟨fun entry hentry => h.mem entry (h'.mem entry hentry), h.sequence.trans h'.sequence⟩

theorem removeCacheEntry (s : ResourceState) (resourceId : String) :
    CacheShrinks s (s.removeCacheEntry resourceId) := by
  cases h : s.cache.get resourceId with
  | none =>
    rw [removeCacheEntry_of_get_none h]
    exact refl s
  | some entry =>
    rw [removeCacheEntry_of_get_some h]
    exact ⟨fun _ hentry => (KeyedTable.mem_deleteWhere.1 hentry).1, le_rfl⟩

theorem evict (s : ResourceState) (resourceId : String) :
    CacheShrinks s (s.evict resourceId) :=
  have h := removeCacheEntry { s with
    registrations := s.registrations.remove resourceId
    fetches := s.fetches.remove resourceId } resourceId
  ⟨h.mem, h.sequence⟩

theorem evictRegistrations (maxRegistrations n : ℕ) (s : ResourceState) :
    CacheShrinks s (evictRegistrations maxRegistrations n s).2 := by
  induction n generalizing s with
  | zero => exact refl s
  | succ n ih =>
    unfold ResourceState.evictRegistrations
    split_ifs
    · split
      next => exact refl s
      next oldest _ => exact (evict s oldest).trans (ih _)
    · exact refl s

theorem nextSequence (h : s.sequence + 1 < 2 ^ 64) : CacheShrinks s s.nextSequence := by
  refine ⟨fun _ hentry => hentry, ?_⟩
  show s.sequence ≤ (s.sequence + 1) % 2 ^ 64
  rw [Nat.mod_eq_of_lt h]
  exact Nat.le_succ _

theorem dropExpired (s : ResourceState) (resourceId : String) (now : Instant) :
    CacheShrinks s (s.dropExpired resourceId now) := by
  unfold ResourceState.dropExpired
  split_ifs
  · exact removeCacheEntry s resourceId
  · exact refl s

theorem planFetch (s : ResourceState) (resourceId sourceUrl : String) (now : Instant) :
    CacheShrinks s (s.planFetch resourceId sourceUrl now).2 := by
  have hfailure : CacheShrinks s (s.dropFailure resourceId now) := by
    unfold ResourceState.dropFailure
    split_ifs
    · exact ⟨fun _ h => h, le_rfl⟩
    · exact refl s
  simp only [ResourceState.planFetch]
  split
  next => exact hfailure
  next => exact hfailure
  next => exact hfailure.trans ⟨fun _ h => h, le_rfl⟩

/-- Before it stores the resource, `cache` only drops entries. -/
theorem clearedFor (h : s.sequence + 1 < 2 ^ 64) (limits : ResourceLimits) (resourceId : String)
    (resource : ProviderResource) (purgedAt : Instant) :
    CacheShrinks s (s.clearedFor limits resourceId resource purgedAt) ∧
      (s.clearedFor limits resourceId resource purgedAt).sequence = s.sequence + 1 := by
  have hdrop : ∀ (s' : ResourceState) (other : String),
      CacheShrinks s s' ∧ s'.sequence = s.sequence →
        CacheShrinks s (s'.removeCacheEntry other) ∧
          (s'.removeCacheEntry other).sequence = s.sequence := by
    rintro s' other ⟨hshrinks, hsequence⟩
    refine ⟨hshrinks.trans (removeCacheEntry s' other), ?_⟩
    rw [← hsequence]
    unfold ResourceState.removeCacheEntry
    split <;> rfl
  obtain ⟨hroom, hsequence⟩ := makeRoom_induction hdrop
    (hdrop _ resourceId (purgeExpired_induction hdrop ⟨refl s, rfl⟩ purgedAt)) limits.maxBytes
    resource.bytes.length ((s.purgeExpired purgedAt).removeCacheEntry resourceId).cache.size
  refine ⟨hroom.trans (nextSequence ?_), ?_⟩
  · rw [hsequence]
    exact h
  · show (_ + 1) % 2 ^ 64 = s.sequence + 1
    rw [hsequence]
    exact Nat.mod_eq_of_lt h

end CacheShrinks

namespace UsageInv

variable {s s' : ResourceState}

theorem of_shrinks (h : UsageInv s) (hshrinks : CacheShrinks s s') : UsageInv s' :=
  ⟨fun entry hentry => (h.used entry (hshrinks.mem entry hentry)).trans hshrinks.sequence,
    fun entry hentry other hother =>
      h.distinct entry (hshrinks.mem entry hentry) other (hshrinks.mem other hother)⟩

/-- An entry that is stored with a new value of the counter has a mark of its own. -/
theorem store (h : UsageInv s) {cache : KeyedMap String CacheEntry} {resourceId : String}
    {entry : CacheEntry} (hs' : s'.cache = cache.set resourceId entry)
    (hcache : ∀ entry ∈ cache, entry ∈ s.cache) (hentry : s.sequence < entry.lastUsed)
    (hsequence : entry.lastUsed ≤ s'.sequence) : UsageInv s' := by
  have hmem : ∀ other ∈ s'.cache, other = (resourceId, entry) ∨ other ∈ s.cache := by
    intro other hother
    rw [hs'] at hother
    exact (KeyedTable.mem_upsert_true.1 hother).symm.imp_right fun h => hcache other h.1
  -- the marks before are less than the new one
  have hold : ∀ other ∈ s.cache, other.2.lastUsed < entry.lastUsed :=
    fun other hother => (h.used other hother).trans_lt hentry
  constructor
  · intro other hother
    rcases hmem other hother with rfl | hbefore
    · exact hsequence
    · exact (hold other hbefore).le.trans hsequence
  · intro a ha b hb hsame
    rcases hmem a ha with rfl | ha <;> rcases hmem b hb with rfl | hb
    · rfl
    · exact absurd hsame (hold b hb).ne'
    · exact absurd hsame (hold a ha).ne
    · exact h.distinct a ha b hb hsame

/-- Every operation keeps the marks of use apart, as long as the counter does not wrap. -/
theorem perform [Sha256] {limits : ResourceLimits} (h : UsageInv s)
    (hwrap : s.sequence + 1 < 2 ^ 64) (op : ResourceOp) : UsageInv (s.perform limits op) := by
  have hnext := CacheShrinks.nextSequence hwrap
  have hsequence : s.nextSequence.sequence = s.sequence + 1 := Nat.mod_eq_of_lt hwrap
  cases op with
  | register sourceUrl =>
    refine h.of_shrinks ?_
    simp only [ResourceState.perform, register]
    split_ifs
    · exact .refl s
    · split
      next =>
        split_ifs
        · exact ⟨hnext.mem, hnext.sequence⟩
        · exact hnext
      next =>
        have hevicted := hnext.trans (CacheShrinks.evictRegistrations limits.maxRegistrations
          s.nextSequence.registrations.size s.nextSequence)
        split
        next s' hloop =>
          rw [hloop] at hevicted
          exact hevicted
        next s' hloop =>
          rw [hloop] at hevicted
          exact ⟨hevicted.mem, hevicted.sequence⟩
  | beginFetch resourceId now =>
    simp only [ResourceState.perform, beginFetch]
    split
    next => exact h.of_shrinks hnext
    next registration _ =>
      generalize htouched : s.nextSequence.setRegistration resourceId
        { registration with lastUsed := s.nextSequence.sequence } = touched
      have hnext' : CacheShrinks s touched := by
        rw [← htouched]
        exact ⟨hnext.mem, hnext.sequence⟩
      have hdropped := CacheShrinks.dropExpired touched resourceId now
      have hcounter : s.sequence < (touched.dropExpired resourceId now).sequence := by
        refine lt_of_lt_of_le ?_ hdropped.sequence
        rw [← htouched]
        exact (Nat.lt_succ_self _).trans_eq hsequence.symm
      split
      next entry _ =>
        exact h.store rfl (hnext'.trans hdropped).mem hcounter le_rfl
      next => exact h.of_shrinks ((hnext'.trans hdropped).trans (.planFetch _ resourceId _ now))
  | cache resourceId resource purgedAt storedAt =>
    rw [ResourceState.perform]
    generalize hresult : s.cacheResource limits resourceId resource purgedAt storedAt = result
    obtain ⟨result, s'⟩ := result
    rcases cacheResource_cases hresult with ⟨rfl, -⟩ | ⟨-, -, mid, rfl, hstored⟩
    · exact h
    · obtain ⟨hcleared, hcounter⟩ :=
        CacheShrinks.clearedFor hwrap limits resourceId resource purgedAt
      rcases hstored with ⟨expiresAt, -, -, rfl⟩ | ⟨-, -, rfl⟩
      · refine h.store rfl hcleared.mem ?_ le_rfl
        show s.sequence < (s.clearedFor limits resourceId resource purgedAt).sequence
        rw [hcounter]
        exact Nat.lt_succ_self _
      · exact h.of_shrinks ⟨hcleared.mem, hcleared.sequence⟩
  | finishFetch resourceId error now =>
    refine h.of_shrinks ?_
    rcases finishFetch_cases (rfl : s.finishFetch resourceId error now = _) with
      hcase | ⟨-, message, expiresAt, hcase⟩ | hcase
    all_goals
      rw [ResourceState.perform, hcase]
      exact ⟨fun _ h => h, le_rfl⟩

end UsageInv

/-- The counter does not wrap. -/
def SequenceRepresentable (s : ResourceState) (_ : ResourceOp) : Prop := s.sequence + 1 < 2 ^ 64

/-- Neither does the counter wrap nor `cache` panic. -/
def Uninterrupted (limits : ResourceLimits) (s : ResourceState) (op : ResourceOp) : Prop :=
  SequenceRepresentable s op ∧ ExpiryRepresentable limits s op

theorem usageInv_reachable [Sha256] {limits : ResourceLimits} {s : ResourceState}
    (h : ((resourceSystem limits).restrict SequenceRepresentable).Reachable s) : UsageInv s := by
  refine h.invariant ?_ ?_
  · rintro s rfl
    exact ⟨fun _ hentry => (nomatch hentry), fun _ hentry => (nomatch hentry)⟩
  · rintro s op s' hinv ⟨rfl, hwrap⟩
    exact hinv.perform hwrap op

/-! ## What `cache` evicts -/

/-- The order of use is strict. -/
theorem UsageInv.usageOrder_sorted {s : ResourceState} (h : UsageInv s) (resourceId : String)
    (purgedAt : Instant) :
    (s.usageOrder resourceId purgedAt).Pairwise fun a b => a.2.lastUsed < b.2.lastUsed := by
  have hsorted : (s.usageOrder resourceId purgedAt).Pairwise
      fun a b => a.2.lastUsed ≤ b.2.lastUsed := by
    have : Std.Total fun a b : String × CacheEntry => a.2.lastUsed ≤ b.2.lastUsed :=
      ⟨fun a b => Nat.le_total _ _⟩
    have : IsTrans (String × CacheEntry) fun a b => a.2.lastUsed ≤ b.2.lastUsed :=
      ⟨fun a b c => Nat.le_trans⟩
    exact List.pairwise_insertionSort _ _
  have hnodup : (s.usageOrder resourceId purgedAt).Nodup :=
    (List.perm_insertionSort _ _).nodup_iff.2 (s.cache.rows_nodup.filter _)
  refine (hsorted.and hnodup).imp_of_mem fun {a b} ha hb hab => lt_of_le_of_ne hab.1 fun hsame => ?_
  exact hab.2 (h.distinct a (KeyedTable.mem_select.1 ha).1 b (KeyedTable.mem_select.1 hb).1 hsame)

theorem mem_usageOrder {s : ResourceState} {resourceId : String} {purgedAt : Instant}
    {entry : String × CacheEntry} :
    entry ∈ s.usageOrder resourceId purgedAt ↔
      entry ∈ s.cache ∧ purgedAt < entry.2.expiresAt ∧ entry.1 ≠ resourceId := by
  rw [ResourceState.usageOrder, KeyedTable.mem_select, decide_eq_true_iff]

/-- What is cached after entries are dropped one after the other. -/
theorem mem_foldl_removeCacheEntry {s : ResourceState} {resourceIds : List String}
    {entry : String × CacheEntry} :
    entry ∈ (resourceIds.foldl removeCacheEntry s).cache ↔
      entry ∈ s.cache ∧ entry.1 ∉ resourceIds := by
  induction resourceIds generalizing s with
  | nil => simp
  | cons resourceId resourceIds ih =>
    rw [List.foldl_cons, ih, List.mem_cons, not_or]
    have hremoved : entry ∈ (s.removeCacheEntry resourceId).cache ↔
        entry ∈ s.cache ∧ entry.1 ≠ resourceId := by
      rw [← Prod.mk.eta (p := entry), ← KeyedMap.get_eq_some_iff, ← KeyedMap.get_eq_some_iff,
        get_cache_removeCacheEntry]
      split_ifs with hsame
      · simp [hsame]
      · simp [hsame]
    rw [hremoved, and_assoc]

/-- The purge drops exactly the expired entries. -/
theorem mem_purgeExpired {s : ResourceState} {now : Instant} {entry : String × CacheEntry} :
    entry ∈ (s.purgeExpired now).cache ↔ entry ∈ s.cache ∧ now < entry.2.expiresAt := by
  rw [purgeExpired, mem_foldl_removeCacheEntry]
  refine and_congr_right fun hentry => ?_
  rw [← not_le, not_iff_not, List.mem_map]
  constructor
  · rintro ⟨other, hother, hsame⟩
    obtain ⟨hmem, hexpired⟩ := List.mem_filter.1 hother
    rw [KeyedTable.eq_of_key_eq hmem hentry hsame] at hexpired
    exact of_decide_eq_true hexpired
  · intro hexpired
    exact ⟨entry, List.mem_filter.2 ⟨hentry, decide_eq_true hexpired⟩, rfl⟩

/-- When `cache` begins to evict, the entries are those of the order of use. -/
theorem cache_purged_perm (s : ResourceState) (resourceId : String) (purgedAt : Instant) :
    ((s.purgeExpired purgedAt).removeCacheEntry resourceId).cache.rows.Perm
      (s.usageOrder resourceId purgedAt) := by
  have hnodup : (s.usageOrder resourceId purgedAt).Nodup :=
    (List.perm_insertionSort _ _).nodup_iff.2 (s.cache.rows_nodup.filter _)
  refine (List.perm_ext_iff_of_nodup (KeyedTable.rows_nodup _) hnodup).2 fun entry => ?_
  rw [mem_usageOrder, ← and_assoc, ← mem_purgeExpired]
  have hremoved : entry ∈ ([resourceId].foldl removeCacheEntry (s.purgeExpired purgedAt)).cache ↔
      _ := mem_foldl_removeCacheEntry
  rw [List.mem_singleton] at hremoved
  exact hremoved

/-- In every state that is reached without a wrap of the counter and without a panic of `cache`, it
evicts for a resource of a registered identifier the shortest part of the unexpired other entries,
in the strict order of their last use, that makes the resource fit, and leaves every other entry,
all registrations and all fetches; and it stores the resource, if its expiry is representable. -/
theorem cache_evicts_least_recent [Sha256] {limits : ResourceLimits} {s : ResourceState}
    (h : ((resourceSystem limits).restrict (Uninterrupted limits)).Reachable s)
    {resourceId : String} {resource : ProviderResource}
    (hbytes : resource.bytes.length ≤ limits.maxBytes)
    (hregistered : (s.registrations.get resourceId).isSome) (purgedAt storedAt : Instant) :
    ((s.usageOrder resourceId purgedAt).Pairwise fun a b => a.2.lastUsed < b.2.lastUsed) ∧
    (∀ entry, entry ∈ s.usageOrder resourceId purgedAt ↔
      entry ∈ s.cache ∧ purgedAt < entry.2.expiresAt ∧ entry.1 ≠ resourceId) ∧
    ∃ evicted kept, ShortestEviction limits resource.bytes.length
        (s.usageOrder resourceId purgedAt) evicted kept ∧
      ∀ result s', s.cacheResource limits resourceId resource purgedAt storedAt = (result, s') →
        (∀ other ≠ resourceId, ∀ entry,
          s'.cache.get other = some entry ↔ (other, entry) ∈ kept) ∧
        s'.registrations = s.registrations ∧ s'.fetches = s.fetches ∧
        ∀ expiresAt, storedAt.checkedAdd limits.ttl = some expiresAt →
          s'.cache.get resourceId = some ⟨resource, expiresAt, s'.sequence⟩ := by
  have husage : UsageInv s := usageInv_reachable (h.imp_restrict fun _ _ h => h.1)
  have haccounting : AccountingInv limits s :=
    accountingInv_reachable (h.imp_restrict fun _ _ h => h.2)
  have hsorted := husage.usageOrder_sorted resourceId purgedAt
  have hpurged : AccountingInv limits ((s.purgeExpired purgedAt).removeCacheEntry resourceId) :=
    (purgeExpired_induction (fun _ other h => h.removeCacheEntry other) haccounting
      purgedAt).removeCacheEntry resourceId
  obtain ⟨evicted, kept, hshortest, hkept⟩ := makeRoom_evicts hpurged
    (cache_purged_perm s resourceId purgedAt) hsorted le_rfl hbytes
  refine ⟨hsorted, fun _ => mem_usageOrder, evicted, kept, hshortest, fun result s' hresult => ?_⟩
  have hcleared : ∀ other entry,
      (s.clearedFor limits resourceId resource purgedAt).cache.get other = some entry ↔
        (other, entry) ∈ kept := by
    intro other entry
    rw [KeyedMap.get_eq_some_iff]
    exact hkept.mem_iff
  rcases cacheResource_cases hresult with ⟨-, message, rfl⟩ | ⟨-, -, mid, rfl, hstored⟩
  · -- the resource is not refused
    simp only [cacheResource, not_lt.2 hbytes, if_false, Bool.false_eq_true,
      Option.isNone_eq_false_iff.2 hregistered] at hresult
    split at hresult <;> cases hresult
  · rcases hstored with ⟨expiresAt, hexpiry, -, rfl⟩ | ⟨hexpiry, -, rfl⟩
    · refine ⟨fun other hother entry => ?_, registrations_clearedFor _ _ _ _ _,
        fetches_clearedFor _ _ _ _ _, fun expiresAt' hexpiry' => ?_⟩
      · rw [← hcleared, KeyedMap.get_set_of_ne hother]
        rfl
      · rw [hexpiry] at hexpiry'
        cases hexpiry'
        exact KeyedMap.get_set_self _ _ _
    · refine ⟨fun other _ entry => hcleared other entry, registrations_clearedFor _ _ _ _ _,
        fetches_clearedFor _ _ _ _ _, fun expiresAt' hexpiry' => ?_⟩
      rw [hexpiry] at hexpiry'
      cases hexpiry'

/-! ## Sample runs -/

/-- Limits under which two bytes can be cached. -/
def sampleLimits : ResourceLimits := ⟨.fromSecs 60, 2, 3⟩

/-- A resource of some bytes. -/
def sampleResource (bytes : List UInt8) : ProviderResource := ⟨"image/png", bytes⟩

/-- Registering the three URLs. -/
def sampleRegister : List ResourceOp :=
  [.register "https://provider.example/a.png", .register "https://provider.example/b.png",
    .register "https://provider.example/c.png"]

/-- What the operations reach while the counter does not wrap and, if asked, `cache` does not
panic. -/
def sampleReach (limits : ResourceLimits) (mayPanic : Bool) (ops : List ResourceOp) :
    Option ResourceState :=
  LabelledSystem.perform (fun s op => some (@perform sampleUrlSha256 limits s op))
    (fun s op => decide (s.sequence + 1 < 2 ^ 64) && (mayPanic || match op with
      | .cache _ _ _ storedAt => (storedAt.checkedAdd limits.ttl).isSome
      | _ => true)) .empty ops

theorem sampleReach_reachable {limits : ResourceLimits} {mayPanic : Bool} {ops : List ResourceOp}
    {s : ResourceState} (h : sampleReach limits mayPanic ops = some s) :
    ((@resourceSystem sampleUrlSha256 limits).restrict fun s op => SequenceRepresentable s op ∧
      (mayPanic = false → ExpiryRepresentable limits s op)).Reachable s := by
  refine LabelledSystem.reachable_of_perform (fun s op s' hstep => ?_) (fun s op hallowed => ?_)
    ⟨[], .start rfl⟩ h
  · exact Option.some.inj hstep
  · rw [Bool.and_eq_true, decide_eq_true_iff] at hallowed
    refine ⟨hallowed.1, fun hpanic => ?_⟩
    rw [hpanic, Bool.false_or] at hallowed
    cases op with
    | cache resourceId resource purgedAt storedAt => exact hallowed.2
    | _ => trivial

/-- Two resources of one byte are cached, and the first of them is used again. -/
def sampleUsed : List ResourceOp := sampleRegister ++
  [.cache sampleIdA (sampleResource [1]) 0 0, .cache sampleIdB (sampleResource [2]) 0 0,
    .beginFetch sampleIdA 0]

/-- A third resource takes the place of the one that is used least recently. -/
theorem cache_evicts_least_recent_sample :
    ∃ s, ((@resourceSystem sampleUrlSha256 sampleLimits).restrict
        (Uninterrupted sampleLimits)).Reachable s ∧
      (s.usageOrder sampleIdC 0).map Prod.fst = [sampleIdB, sampleIdA] ∧
      ∃ evicted kept, ShortestEviction sampleLimits 1 (s.usageOrder sampleIdC 0) evicted kept := by
  have hrun : (sampleReach sampleLimits false sampleUsed).map (fun s =>
      ((s.usageOrder sampleIdC 0).map Prod.fst, (s.registrations.get sampleIdC).isSome)) =
        some ([sampleIdB, sampleIdA], true) := by
    decide +kernel
  obtain ⟨s, hreach, hend⟩ := Option.map_eq_some_iff.1 hrun
  rw [Prod.mk.injEq] at hend
  have hreachable := (sampleReach_reachable hreach).imp_restrict
    (Q := Uninterrupted sampleLimits) fun _ _ h => ⟨h.1, h.2 rfl⟩
  obtain ⟨-, -, evicted, kept, hshortest, -⟩ := @cache_evicts_least_recent sampleUrlSha256 _ _
    hreachable sampleIdC (sampleResource [3]) (by decide) hend.2 0 0
  exact ⟨s, hreachable, hend.1, evicted, kept, hshortest⟩

/-- Limits under which three bytes can be cached for a second. -/
def shortLimits : ResourceLimits := ⟨.fromSecs 1, 3, 3⟩

/-- The last instant from which a second can be counted. -/
def lastExpiry : Instant := Instant.latest - Duration.fromSecs 1

/-- One resource is cached in time, and for the next one `cache` panics. -/
def samplePanicked : List ResourceOp := sampleRegister ++
  [.cache sampleIdB (sampleResource [1]) lastExpiry lastExpiry,
    .cache sampleIdA (sampleResource [2, 3]) (lastExpiry + 1) (lastExpiry + 1)]

/-- After `cache` has panicked, the bytes it has counted are missing: it evicts the entry although
the new resource fits beside it. -/
theorem cache_overevicts :
    ¬ ∀ limits s, ((@resourceSystem sampleUrlSha256 limits).restrict
        SequenceRepresentable).Reachable s →
      ∀ resourceId resource, resource.bytes.length ≤ limits.maxBytes →
        (s.registrations.get resourceId).isSome → ∀ purgedAt storedAt,
          ∃ evicted kept, ShortestEviction limits resource.bytes.length
              (s.usageOrder resourceId purgedAt) evicted kept ∧
            ∀ result s', s.cacheResource limits resourceId resource purgedAt storedAt =
              (result, s') → ∀ other ≠ resourceId, ∀ entry,
                s'.cache.get other = some entry ↔ (other, entry) ∈ kept := by
  intro hclaim
  have hrun : (sampleReach shortLimits true samplePanicked).map (fun s =>
      decide ((s.usageOrder sampleIdC (lastExpiry + 1)) =
          [(sampleIdB, ⟨sampleResource [1], Instant.latest, 4⟩)] ∧
        (s.registrations.get sampleIdC).isSome ∧
        (s.cacheResource shortLimits sampleIdC (sampleResource [4]) (lastExpiry + 1)
          (lastExpiry + 1)).2.cache.get sampleIdB = none)) = some true := by
    decide +kernel
  obtain ⟨s, hreach, hend⟩ := Option.map_eq_some_iff.1 hrun
  obtain ⟨horder, hregistered, hevicted⟩ := of_decide_eq_true hend
  have hreachable := (sampleReach_reachable hreach).imp_restrict
    (Q := SequenceRepresentable) fun _ _ h => h.1
  obtain ⟨evicted, kept, hshortest, hcached⟩ := hclaim shortLimits s hreachable sampleIdC
    (sampleResource [4]) (by decide) hregistered (lastExpiry + 1) (lastExpiry + 1)
  -- both resources fit, so that nothing is to be evicted
  have hnone : evicted = [] := by
    have hfits : Fits shortLimits 1 [(sampleIdB, ⟨sampleResource [1], Instant.latest, 4⟩)] := by
      show min (1 + 1) usizeMax ≤ 3
      decide
    exact List.eq_nil_of_length_eq_zero
      (Nat.le_zero.1 (hshortest.shortest [] _ horder hfits))
  have hkept : (sampleIdB, ⟨sampleResource [1], Instant.latest, 4⟩) ∈ kept := by
    have hsplit := hshortest.split
    rw [horder, hnone, List.nil_append] at hsplit
    rw [← hsplit]
    exact List.mem_cons_self
  have hstored := (hcached _ (s.cacheResource shortLimits sampleIdC (sampleResource [4])
    (lastExpiry + 1) (lastExpiry + 1)).2 rfl sampleIdB (by decide +kernel) _).2 hkept
  rw [hevicted] at hstored
  cases hstored

end WeatherApp
