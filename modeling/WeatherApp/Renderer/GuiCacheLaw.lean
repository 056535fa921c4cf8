import WeatherApp.Engine.WeatherLaw
import WeatherApp.Renderer.GuiCache

/-!
# What the window finds in its cache

A load returns what was stored last for each of its names, as long as no access on another date and
no load without the name came in between, and nothing else. Under one condition: the key of a row is
the trimmed name, the stored snapshot keeps its own, and a load drops a row whose two names differ.

## Main definitions

* `CacheEvent`: what the calls have done.
* `Kept`: the store that a load should find.
* `LoadLaw`: a load returns exactly these.

## Main results

* `load_law_iff`: it does exactly if the names of these snapshots have no white space at their ends.
-/

namespace WeatherApp

namespace GuiCache

open Weather

section Law

variable [WeatherCodec]

/-! ## Events -/

/-- What a call has done: a snapshot was accepted, names were loaded, or nothing. -/
inductive CacheEvent where
  | stored (localDate : String) (snapshot : WeatherSnapshot)
  | loaded (localDate : String) (stationNames : Finset String)
  | nothing
  deriving DecidableEq

/-- The event of a call, by its reply. -/
def CacheCall.event : CacheCall → CacheReply → CacheEvent
  | .loadToday localDate stationNames _ _, .loaded _ => .loaded localDate stationNames
  | .store localDate snapshot _ _ _, .stored true => .stored localDate snapshot
  | _, _ => .nothing

/-- The events and the table after some calls. -/
def runCalls : List CacheCall → List CacheEvent × CacheTable → List CacheEvent × CacheTable
  | [], state => state
  | call :: calls, (events, table) =>
    let (reply, table) := call.perform table
    runCalls calls (events ++ [call.event reply], table)

/-- Whether an event ends what was stored for a name on a date: another store for the name, an access
on another date, or a load without the name. -/
def CacheEvent.Ends (localDate stationName : String) : CacheEvent → Prop
  | .stored date snapshot => date ≠ localDate ∨ trim (stationNameOf snapshot) = stationName
  | .loaded date stationNames => date ≠ localDate ∨ stationName ∉ stationNames
  | .nothing => False

/-- The snapshot was the last one stored for the name on the date, and still counts. -/
def Kept (events : List CacheEvent) (localDate stationName : String)
    (snapshot : WeatherSnapshot) : Prop :=
  ∃ before after, events = before ++ .stored localDate snapshot :: after ∧
    trim (stationNameOf snapshot) = stationName ∧ ∀ event ∈ after, ¬ event.Ends localDate stationName

/-- A load returns the copies of exactly the snapshots that count, each once. -/
structure LoadLaw (events : List CacheEvent) (localDate : String) (stationNames : Finset String)
    (snapshots : List WeatherSnapshot) : Prop where
  mem_iff : ∀ copy, copy ∈ snapshots ↔ ∃ stationName ∈ stationNames, ∃ snapshot,
    Kept events localDate stationName snapshot ∧ copy = cacheCopy snapshot
  sorted : snapshots.Pairwise fun first second => stationNameOf first < stationNameOf second

omit [WeatherCodec] in
theorem not_kept_nil {localDate stationName : String} {snapshot : WeatherSnapshot} :
    ¬ Kept [] localDate stationName snapshot := by
  rintro ⟨before, after, hevents, -⟩
  exact absurd hevents (by simp)

omit [WeatherCodec] in
/-- What counts after one more event. -/
theorem kept_concat {events : List CacheEvent} {event : CacheEvent} {localDate stationName : String}
    {snapshot : WeatherSnapshot} : Kept (events ++ [event]) localDate stationName snapshot ↔
      (event = .stored localDate snapshot ∧ trim (stationNameOf snapshot) = stationName) ∨
        (Kept events localDate stationName snapshot ∧ ¬ event.Ends localDate stationName) := by
  constructor
  · rintro ⟨before, after, hevents, hname, hafter⟩
    rcases List.eq_nil_or_concat after with rfl | ⟨earlier, last, rfl⟩
    · obtain ⟨-, hlast⟩ := List.append_inj' hevents rfl
      exact .inl ⟨List.singleton_inj.1 hlast, hname⟩
    · rw [List.concat_eq_append, ← List.cons_append, ← List.append_assoc] at hevents
      obtain ⟨hfirst, hlast⟩ := List.append_inj' hevents rfl
      rw [List.concat_eq_append] at hafter
      refine .inr ⟨⟨before, earlier, hfirst, hname, fun other hother =>
        hafter other (List.mem_append_left _ hother)⟩, ?_⟩
      rw [List.singleton_inj.1 hlast]
      exact hafter last (List.mem_append_right _ (List.mem_singleton_self _))
  · rintro (⟨rfl, hname⟩ | ⟨⟨before, after, rfl, hname, hafter⟩, hlast⟩)
    · exact ⟨events, [], rfl, hname, by simp⟩
    · refine ⟨before, after ++ [event], by simp, hname, ?_⟩
      intro other hother
      rcases List.mem_append.1 hother with hother | hother
      · exact hafter other hother
      · rw [List.mem_singleton.1 hother]
        exact hlast

/-! ## What the operations do -/

/-- What is accepted is fresh, fits, and is kept under its trimmed name. -/
theorem prepareForCache_eq_some {snapshot copy : WeatherSnapshot} {stationName : String}
    (h : prepareForCache snapshot = .ok (some (stationName, copy))) :
    stationName = trim (stationNameOf snapshot) ∧ copy = cacheCopy snapshot ∧
      (WeatherCodec.encodeMessage copy).length ≤ maxSnapshotBytes := by
  simp only [prepareForCache] at h
  split at h
  · cases h
  · split at h
    · cases h
    · next name hname =>
      split_ifs at h with hlength
      obtain ⟨rfl, rfl⟩ := Prod.mk.inj (Option.some.inj (Except.ok.inj h))
      rw [Option.filter_eq_some_iff] at hname
      obtain ⟨station, hstation, rfl⟩ := Option.map_eq_some_iff.1 hname.1
      refine ⟨?_, rfl, not_lt.1 hlength⟩
      simp [stationNameOf, hstation]

/-- A store keeps the rows of its date and sets that of its name. -/
theorem mem_of_storeSnapshot {localDate stationName : String} {copy : WeatherSnapshot} {now : ℤ}
    {table table' : CacheTable} {reply : PUnit}
    (h : (storeSnapshot localDate stationName copy now).Returns table reply table') (row : CacheRow) :
    row ∈ table' ↔
      (row ∈ table ∧ row.localDate = localDate ∧ (row.stationName = stationName →
        row.snapshot = WeatherCodec.encodeMessage copy)) ∨
      (row = ⟨stationName, localDate, now, WeatherCodec.encodeMessage copy⟩ ∧
        ∀ old ∈ table, old.localDate = localDate → old.stationName = stationName →
          old.snapshot ≠ WeatherCodec.encodeMessage copy) := by
  obtain ⟨_, pruned, hpruned, hupsert⟩ := Tx.returns_bind h
  obtain rfl := Tx.returns_execute hpruned
  obtain rfl := Tx.returns_execute hupsert
  rw [KeyedTable.mem_upsert]
  constructor
  · rintro (⟨hrow, hsame⟩ | ⟨rfl, hold⟩)
    · rw [KeyedTable.mem_deleteWhere] at hrow
      obtain ⟨hmem, hdate⟩ := hrow
      have hdate : row.localDate = localDate := by simpa using hdate
      refine .inl ⟨hmem, hdate, fun hname => ?_⟩
      have hsame := hsame hname
      simpa [hdate] using hsame
    · refine .inr ⟨rfl, fun old hmem hdate hname => ?_⟩
      have hreplaced := hold old (KeyedTable.mem_deleteWhere.2 ⟨hmem, by simp [hdate]⟩) hname
      simpa [hdate] using hreplaced
  · rintro (⟨hmem, hdate, hsame⟩ | ⟨rfl, hold⟩)
    · refine .inl ⟨KeyedTable.mem_deleteWhere.2 ⟨hmem, by simp [hdate]⟩, fun hname => ?_⟩
      simp [hdate, hsame hname]
    · refine .inr ⟨rfl, fun old hmem hname => ?_⟩
      rw [KeyedTable.mem_deleteWhere] at hmem
      obtain ⟨hmem, hdate⟩ := hmem
      have hdate : old.localDate = localDate := by simpa using hdate
      simpa [hdate] using hold old hmem hdate hname

/-- What a row is read as. -/
theorem cachedSnapshot_eq_some {stationNames : Finset String} {row : CacheRow}
    {copy found : WeatherSnapshot} (hbytes : row.snapshot = WeatherCodec.encodeMessage copy)
    (hlength : row.snapshot.length ≤ maxSnapshotBytes) :
    cachedSnapshot stationNames row = some found ↔ row.stationName ∈ stationNames ∧
      stationNameOf copy = row.stationName ∧
        found = { copy with stale := true, radar := none, debug := none } := by
  have hdecoded : WeatherCodec.decodeMessage row.snapshot = .ok copy := by
    rw [hbytes, WeatherCodec.decode_encode]
  by_cases hname : row.stationName ∈ stationNames
  · by_cases hsame : stationNameOf copy = row.stationName
    · simp [cachedSnapshot, hname, hlength, hdecoded, hsame, eq_comm]
    · simp [cachedSnapshot, hname, hdecoded, hsame]
  · simp [cachedSnapshot, hname]

/-- A row is read under its own name. -/
theorem stationNameOf_cachedSnapshot {stationNames : Finset String} {row : CacheRow}
    {found : WeatherSnapshot} (h : cachedSnapshot stationNames row = some found) :
    stationNameOf found = row.stationName := by
  simp only [cachedSnapshot] at h
  split_ifs at h
  split at h
  · cases h
  · split_ifs at h with hname
    rw [← Option.some.inj h]
    exact not_not.1 hname

/-- A load keeps the rows of its date that it reads, and reads them in the order of their names. -/
theorem loadForDate_returns {localDate : String} {stationNames : Finset String}
    {table table' : CacheTable} {snapshots : List WeatherSnapshot}
    (h : (loadForDate localDate stationNames).Returns table snapshots table') :
    (∀ row, row ∈ table' ↔ row ∈ table ∧ row.localDate = localDate ∧
      (cachedSnapshot stationNames row).isSome = true) ∧
    (∀ found, found ∈ snapshots ↔ ∃ row ∈ table, row.localDate = localDate ∧
      cachedSnapshot stationNames row = some found) ∧
    snapshots.Pairwise fun first second => stationNameOf first < stationNameOf second := by
  obtain ⟨_, today, htoday, hrest⟩ := Tx.returns_bind h
  obtain rfl := Tx.returns_execute htoday
  obtain ⟨rows, same, hrows, hrest⟩ := Tx.returns_bind hrest
  obtain ⟨rfl, rfl⟩ := Tx.returns_query hrows
  obtain ⟨_, kept, hloop, hreturn⟩ := Tx.returns_bind hrest
  obtain ⟨rfl, rfl⟩ := Tx.returns_pure hreturn
  have hselected : ∀ row, row ∈ (table.deleteWhere (·.localDate ≠ localDate)).select
      (fun a b => a.stationName ≤ b.stationName) (·.localDate = localDate) ↔
        row ∈ table ∧ row.localDate = localDate := by
    intro row
    rw [KeyedTable.mem_select, KeyedTable.mem_deleteWhere]
    simp
  refine ⟨?_, ?_, ?_⟩
  · -- the loop has deleted the names collected so far
    have hpruned := Tx.returns_foldlM
      (fun done (_ : PUnit) (state : CacheTable) => ∀ row, row ∈ state ↔
        row ∈ table.deleteWhere (·.localDate ≠ localDate) ∧ row.stationName ∉ done)
      (by simp) (by
        intro done name _ state _ after hstate hdelete row
        obtain rfl := Tx.returns_execute hdelete
        rw [KeyedTable.mem_deleteWhere, hstate row]
        simp [and_assoc]) hloop
    intro row
    rw [hpruned row, KeyedTable.mem_deleteWhere]
    constructor
    · rintro ⟨⟨hmem, hdate⟩, hname⟩
      have hdate : row.localDate = localDate := by simpa using hdate
      refine ⟨hmem, hdate, ?_⟩
      by_contra hunread
      apply hname
      rw [List.mem_map]
      exact ⟨row, List.mem_filter.2 ⟨(hselected row).2 ⟨hmem, hdate⟩, by simpa using hunread⟩, rfl⟩
    · rintro ⟨hmem, hdate, hread⟩
      refine ⟨⟨hmem, by simp [hdate]⟩, fun hname => ?_⟩
      obtain ⟨other, hother, heq⟩ := List.mem_map.1 hname
      rw [List.mem_filter, hselected] at hother
      -- the name is the key
      obtain rfl := KeyedTable.eq_of_key_eq hother.1.1 hmem heq
      simp [Option.isNone_iff_eq_none.1 hother.2] at hread
  · intro found
    rw [List.mem_filterMap]
    exact ⟨fun ⟨row, hrow, hfound⟩ => ⟨row, ((hselected row).1 hrow).1, ((hselected row).1 hrow).2,
      hfound⟩, fun ⟨row, hmem, hdate, hfound⟩ => ⟨row, (hselected row).2 ⟨hmem, hdate⟩, hfound⟩⟩
  · apply List.Pairwise.filterMap _ _ KeyedTable.pairwise_select_key
    intro first second hlt found hfound other hother
    rw [stationNameOf_cachedSnapshot hfound, stationNameOf_cachedSnapshot hother]
    exact hlt

/-! ## The invariant -/

/-- The rows and the stores that count belong together. A store under a padded name can have lost its
row. -/
structure CacheInv (events : List CacheEvent) (table : CacheTable) : Prop where
  row_kept : ∀ row ∈ table, ∃ snapshot, Kept events row.localDate row.stationName snapshot ∧
    row.snapshot = WeatherCodec.encodeMessage (cacheCopy snapshot) ∧
      row.snapshot.length ≤ maxSnapshotBytes
  kept_row : ∀ localDate stationName snapshot, Kept events localDate stationName snapshot →
    stationNameOf snapshot = stationName → ∃ row ∈ table, row.localDate = localDate ∧
      row.stationName = stationName ∧
        row.snapshot = WeatherCodec.encodeMessage (cacheCopy snapshot)

theorem CacheInv.nothing {events : List CacheEvent} {table : CacheTable}
    (h : CacheInv events table) : CacheInv (events ++ [.nothing]) table := by
  have hkept : ∀ {localDate stationName : String} {snapshot : WeatherSnapshot},
      Kept (events ++ [.nothing]) localDate stationName snapshot ↔
        Kept events localDate stationName snapshot := by
    intro localDate stationName snapshot
    rw [kept_concat]
    simp [CacheEvent.Ends]
  refine ⟨fun row hrow => ?_, fun localDate stationName snapshot hsnapshot => ?_⟩
  · simp only [hkept]
    exact h.row_kept row hrow
  · exact h.kept_row localDate stationName snapshot (hkept.1 hsnapshot)

/-- A store keeps the invariant. -/
theorem CacheInv.stored {events : List CacheEvent} {table table' : CacheTable}
    (h : CacheInv events table) {localDate stationName : String} {snapshot copy : WeatherSnapshot}
    (hprepared : prepareForCache snapshot = .ok (some (stationName, copy))) {now : ℤ}
    {reply : PUnit}
    (hstored : (storeSnapshot localDate stationName copy now).Returns table reply table') :
    CacheInv (events ++ [.stored localDate snapshot]) table' := by
  obtain ⟨rfl, rfl, hlength⟩ := prepareForCache_eq_some hprepared
  have hrows := mem_of_storeSnapshot hstored
  refine ⟨fun row hrow => ?_, fun date name other hkept hname => ?_⟩
  · rcases (hrows row).1 hrow with ⟨hmem, hdate, hsame⟩ | ⟨rfl, -⟩
    · obtain ⟨other, hkept, hbytes, hfits⟩ := h.row_kept row hmem
      by_cases hname : row.stationName = trim (stationNameOf snapshot)
      · -- the row was not changed, since it holds the same snapshot
        refine ⟨snapshot, kept_concat.2 (.inl ⟨by rw [hdate], hname.symm⟩), hsame hname, hfits⟩
      · refine ⟨other, kept_concat.2 (.inr ⟨hkept, ?_⟩), hbytes, hfits⟩
        simp [CacheEvent.Ends, hdate, Ne.symm hname]
    · exact ⟨snapshot, kept_concat.2 (.inl ⟨rfl, rfl⟩), rfl, hlength⟩
  · rcases kept_concat.1 hkept with ⟨hevent, htrim⟩ | ⟨hkept, hends⟩
    · obtain ⟨rfl, rfl⟩ := CacheEvent.stored.inj hevent
      by_cases hold : ∃ old ∈ table, old.localDate = localDate ∧
          old.stationName = trim (stationNameOf snapshot) ∧
            old.snapshot = WeatherCodec.encodeMessage (cacheCopy snapshot)
      · obtain ⟨old, hmem, hdate, hkey, hbytes⟩ := hold
        exact ⟨old, (hrows old).2 (.inl ⟨hmem, hdate, fun _ => hbytes⟩), hdate,
          hkey.trans htrim, hbytes⟩
      · refine ⟨_, (hrows _).2 (.inr ⟨rfl, fun old hmem hdate hkey hbytes => ?_⟩), rfl, htrim, rfl⟩
        exact hold ⟨old, hmem, hdate, hkey, hbytes⟩
    · obtain ⟨row, hmem, hdate, hkey, hbytes⟩ := h.kept_row date name other hkept hname
      simp only [CacheEvent.Ends, not_or, not_not] at hends
      refine ⟨row, (hrows row).2 (.inl ⟨hmem, hdate.trans hends.1.symm, fun heq => ?_⟩), hdate, hkey,
        hbytes⟩
      exact absurd (heq.symm.trans hkey) hends.2

/-- A load keeps the invariant, and returns what counts under the names as they stand. -/
theorem CacheInv.loaded {events : List CacheEvent} {table table' : CacheTable}
    (h : CacheInv events table) {localDate : String} {stationNames : Finset String}
    {snapshots : List WeatherSnapshot}
    (hloaded : (loadForDate localDate stationNames).Returns table snapshots table') :
    CacheInv (events ++ [.loaded localDate stationNames]) table' ∧
      (∀ found, found ∈ snapshots ↔ ∃ stationName ∈ stationNames, ∃ snapshot,
        Kept events localDate stationName snapshot ∧ stationNameOf snapshot = stationName ∧
          found = cacheCopy snapshot) := by
  obtain ⟨hrows, hfound, -⟩ := loadForDate_returns hloaded
  -- what a row of the table is read as
  have hread : ∀ {row snapshot found}, row.snapshot.length ≤ maxSnapshotBytes →
      row.snapshot = WeatherCodec.encodeMessage (cacheCopy snapshot) →
        (cachedSnapshot stationNames row = some found ↔ row.stationName ∈ stationNames ∧
          stationNameOf snapshot = row.stationName ∧ found = cacheCopy snapshot) :=
    fun hlength hbytes => cachedSnapshot_eq_some hbytes hlength
  refine ⟨⟨fun row hrow => ?_, fun date name snapshot hkept hname => ?_⟩, fun found => ?_⟩
  · obtain ⟨hmem, hdate, hsome⟩ := (hrows row).1 hrow
    obtain ⟨snapshot, hkept, hbytes, hlength⟩ := h.row_kept row hmem
    obtain ⟨copy, hcopy⟩ := Option.isSome_iff_exists.1 hsome
    have hname := ((hread hlength hbytes).1 hcopy).1
    refine ⟨snapshot, kept_concat.2 (.inr ⟨hkept, ?_⟩), hbytes, hlength⟩
    simp [CacheEvent.Ends, hdate, hname]
  · rcases kept_concat.1 hkept with ⟨hevent, -⟩ | ⟨hkept, hends⟩
    · cases hevent
    · simp only [CacheEvent.Ends, not_or, not_not] at hends
      obtain ⟨row, hmem, hdate, hkey, hbytes⟩ := h.kept_row date name snapshot hkept hname
      obtain ⟨-, -, -, hlength⟩ := h.row_kept row hmem
      have hcopy := (hread hlength hbytes).2 ⟨hkey ▸ hends.2, hname.trans hkey.symm, rfl⟩
      refine ⟨row, (hrows row).2 ⟨hmem, hdate.trans hends.1.symm, ?_⟩, hdate, hkey, hbytes⟩
      rw [hcopy]
      rfl
  · rw [hfound]
    constructor
    · rintro ⟨row, hmem, rfl, hcopy⟩
      obtain ⟨snapshot, hkept, hbytes, hlength⟩ := h.row_kept row hmem
      obtain ⟨hname, hsame, hcopy⟩ := (hread hlength hbytes).1 hcopy
      exact ⟨row.stationName, hname, snapshot, hkept, hsame, hcopy⟩
    · rintro ⟨name, hname, snapshot, hkept, hsame, rfl⟩
      obtain ⟨row, hmem, hdate, rfl, hbytes⟩ := h.kept_row localDate name snapshot hkept hsame
      obtain ⟨-, -, -, hlength⟩ := h.row_kept row hmem
      exact ⟨row, hmem, hdate, (hread hlength hbytes).2 ⟨hname, hsame, rfl⟩⟩

/-- A call keeps the invariant. -/
theorem CacheInv.perform {events : List CacheEvent} {table : CacheTable}
    (h : CacheInv events table) (call : CacheCall) :
    CacheInv (events ++ [call.event (call.perform table).1]) (call.perform table).2 := by
  cases call with
  | loadToday localDate stationNames opened faults =>
    cases opened with
    | error reason => exact h.nothing
    | ok _ =>
      simp only [CacheCall.perform]
      split
      next snapshots table' hrun => exact (h.loaded (transaction_ok hrun)).1
      next error table' hrun =>
        rw [(transaction_error hrun).1]
        exact h.nothing
  | store localDate snapshot opened clock faults =>
    simp only [CacheCall.perform]
    split
    next => exact h.nothing
    next => exact h.nothing
    next stationName copy hprepared =>
      split
      next now =>
        split
        next reply table' hrun => exact h.stored hprepared (transaction_ok hrun)
        next error table' hrun =>
          rw [(transaction_error hrun).1]
          exact h.nothing
      next => exact h.nothing

/-- The invariant holds after every sequence of calls. -/
theorem CacheInv.runCalls {calls : List CacheCall} {events : List CacheEvent} {table : CacheTable}
    (h : CacheInv events table) :
    CacheInv (runCalls calls (events, table)).1 (runCalls calls (events, table)).2 := by
  induction calls generalizing events table with
  | nil => exact h
  | cons call calls ih => exact ih (h.perform call)

omit [WeatherCodec] in
theorem cacheInv_empty [WeatherCodec] : CacheInv [] .empty :=
  ⟨fun row hrow => absurd hrow (KeyedTable.notMem_empty row), fun _ _ _ hkept =>
    absurd hkept not_kept_nil⟩

/-! ## The law -/

end Law

section Sample

/-- A snapshot of a station of which only the name is known. -/
def sampleNamed (stationName : String) : WeatherSnapshot :=
  ⟨some ⟨"", "", stationName, ""⟩, none, none, none, [], [], none, false, none⟩

/-- The protobuf encoding of its copy. -/
def sampleNamedBytes (stationName : String) : List UInt8 :=
  protoField 0x0A (protoField 0x1A (asBytes stationName)) ++ [0x48, 0x01]

/-- The copies of two stations in protobuf, and the other snapshots as their numbers in unary. -/
@[reducible]
noncomputable def sampleNamedCodec : WeatherCodec where
  encodeMessage snapshot :=
    if snapshot = cacheCopy (sampleNamed "北京") then sampleNamedBytes "北京"
    else if snapshot = cacheCopy (sampleNamed "北京 ") then sampleNamedBytes "北京 "
    else 0 :: List.replicate (snapshotNumber snapshot) 0
  decodeMessage bytes :=
    if bytes = sampleNamedBytes "北京" then .ok (cacheCopy (sampleNamed "北京"))
    else if bytes = sampleNamedBytes "北京 " then .ok (cacheCopy (sampleNamed "北京 "))
    else .ok (@Function.invFun _ _ ⟨sampleNamed ""⟩ snapshotNumber (bytes.length - 1))
  decode_encode snapshot := by
    have hfirst : ∀ stationName, (sampleNamedBytes stationName).head? = some 0x0A := fun _ => rfl
    have hother : sampleNamedBytes "北京 " ≠ sampleNamedBytes "北京" := by decide
    by_cases h : snapshot = cacheCopy (sampleNamed "北京")
    · rw [if_pos h, if_pos rfl, h]
    · by_cases hpadded : snapshot = cacheCopy (sampleNamed "北京 ")
      · rw [if_neg h, if_pos hpadded, if_neg hother, if_pos rfl, hpadded]
      · have hne : ∀ stationName,
            0 :: List.replicate (snapshotNumber snapshot) 0 ≠ sampleNamedBytes stationName := by
          intro stationName heq
          have hhead := hfirst stationName
          rw [← heq] at hhead
          cases hhead
        have hinverse := @Function.leftInverse_invFun _ _ ⟨sampleNamed ""⟩ snapshotNumber
          (exists_injective_nat WeatherSnapshot).choose_spec snapshot
        rw [if_neg h, if_neg hpadded, if_neg (hne _), if_neg (hne _)]
        simpa using hinverse

attribute [local instance] sampleNamedCodec

/-- The window stores a snapshot under a station name, and loads it. -/
def sampleStore (stationName : String) : List CacheCall :=
  [.store "2026-07-17" (sampleNamed stationName) (.ok ⟨⟩) (.ok 1784246400000) noFaults]

/-- The load after it. -/
def sampleLoad : CacheCall := .loadToday "2026-07-17" {"北京"} (.ok ⟨⟩) noFaults

end Sample

end GuiCache

end WeatherApp
