import WeatherApp.Db.History
import WeatherApp.Schema.IsoDate
import WeatherApp.Schema.Resource

/-!
# Pages of the weather history

`get_history_snapshot_page` of `storage.rs`: the rows of a station before a date, the newest ones
first, as many as fit on a page. The page lists them from the oldest to the newest.

## Main definitions

* `getHistorySnapshotPage`: the page.
* `HistoryBefore`: the rows of a station before a date, in the order of their dates.

## Main results

* `historyRowsBefore_eq`: what the statement selects.
* `getHistorySnapshotPage_eq`: the page is the end of the rows before the date.
-/

namespace WeatherApp

/-- `StoredSnapshotPage`. -/
structure StoredSnapshotPage (σ : Type) where
  snapshots : List (StoredSnapshot σ)
  hasMore : Bool
  deriving DecidableEq, Repr

/-- `SELECT .. WHERE unified_uuid = ?1 AND (?2 IS NULL OR date < ?2) ORDER BY date DESC LIMIT ?3`. -/
def Tables.historyRowsBefore (tables : Tables) (uuid : String) (beforeDate : Option String)
    (limit : ℕ) : List HistoryRow :=
  (tables.history.select (fun a b => b.date ≤ a.date) fun row =>
    row.unifiedUuid = uuid ∧ ∀ date ∈ beforeDate, row.date < date).take limit

section Page

variable {Tz σ : Type} [DateText] [SnapshotMessage σ]

/-- The check of a cursor. -/
def checkHistoryCursor : Option String → Except String Unit
  | none => .ok ⟨⟩
  | some date =>
    if (DateText.parseFromStr date "%Y-%m-%d").isNone then
      .error s!"invalid history cursor `{date}`"
    else .ok ⟨⟩

/-- `get_history_snapshot_page`. -/
def DbInstance.getHistorySnapshotPage (db : DbInstance Tz) (uuid : String)
    (beforeDate : Option String) (pageSize : ℕ) (faults : FaultPlan) :
    Except DbError (StoredSnapshotPage σ) :=
  let fetchLimit := min (pageSize + 1) usizeMax
  let statement : DbTx (StoredSnapshotPage σ) :=
    if pageSize = 0 then return ⟨[], false⟩
    else do
      Tx.ofExcept (checkHistoryCursor beforeDate)
      if fetchLimit ≥ 2 ^ 63 then Tx.raise "history page size overflow"
      else
        let rows ← Tx.query fun tables => tables.historyRowsBefore uuid beforeDate fetchLimit
        let snapshots ← Tx.ofExcept ((rows.take pageSize).reverse.mapM decodeStoredSnapshot)
        return ⟨snapshots, rows.length > pageSize⟩
  (atomically statement faults db.tables).1

/-- The rows of a station before a date, in the order of their dates. -/
structure HistoryBefore (tables : Tables) (uuid : String) (beforeDate : Option String)
    (rows : List HistoryRow) : Prop where
  sorted : rows.Pairwise fun a b => a.date < b.date
  mem_iff : ∀ row, row ∈ rows ↔ row ∈ tables.history ∧ row.unifiedUuid = uuid ∧
    ∀ date ∈ beforeDate, row.date < date

omit [DateText] in
/-- Rows that decode. -/
theorem mapM_decodeStoredSnapshot {rows : List HistoryRow} {stored : HistoryRow → StoredSnapshot σ}
    (h : ∀ row ∈ rows, decodeStoredSnapshot row = .ok (stored row)) :
    rows.mapM decodeStoredSnapshot = (.ok (rows.map stored) : Except String _) := by
  induction rows with
  | nil => rfl
  | cons row rows ih =>
    rw [List.mapM_cons, h row List.mem_cons_self,
      ih fun other hother => h other (List.mem_cons_of_mem _ hother)]
    rfl

omit [DateText] [SnapshotMessage σ] in
/-- The statement selects these rows from the newest to the oldest. -/
theorem historyRowsBefore_eq {tables : Tables} {uuid : String} {beforeDate : Option String}
    {rows : List HistoryRow} (h : HistoryBefore tables uuid beforeDate rows) (limit : ℕ) :
    tables.historyRowsBefore uuid beforeDate limit = rows.reverse.take limit := by
  have : Std.Total fun a b : HistoryRow => b.date ≤ a.date :=
    ⟨fun a b => le_total b.date a.date⟩
  have : IsTrans HistoryRow fun a b => b.date ≤ a.date := ⟨fun _ _ _ hab hbc => hbc.trans hab⟩
  set selected := tables.history.select (fun a b => b.date ≤ a.date) fun row =>
    row.unifiedUuid = uuid ∧ ∀ date ∈ beforeDate, row.date < date with hselected
  have hsorted : selected.Pairwise fun a b => b.date ≤ a.date := List.pairwise_insertionSort _ _
  have hreverse : rows.reverse.Pairwise fun a b => b.date ≤ a.date :=
    List.pairwise_reverse.2 (h.sorted.imp le_of_lt)
  have hmem : ∀ row, row ∈ selected ↔ row ∈ rows.reverse := fun row => by
    rw [hselected, KeyedTable.mem_select, decide_eq_true_iff, List.mem_reverse, h.mem_iff]
  have hnodup : rows.reverse.Nodup :=
    List.nodup_reverse.2 (h.sorted.imp fun hlt heq => (heq ▸ hlt).false)
  have hnodupSelected : selected.Nodup :=
    ((List.perm_insertionSort _ _).nodup_iff).2 (tables.history.rows_nodup.filter _)
  have hperm : selected.Perm rows.reverse :=
    (List.perm_ext_iff_of_nodup hnodupSelected hnodup).2 hmem
  have heq : selected = rows.reverse := by
    refine List.Perm.eq_of_pairwise ?_ hsorted hreverse hperm
    intro a b ha hb hba hab
    -- two rows of the station with one date are the same
    have hrowA := (h.mem_iff a).1 (List.mem_reverse.1 ((hmem a).1 ha))
    have hrowB := (h.mem_iff b).1 (List.mem_reverse.1 hb)
    apply KeyedTable.eq_of_key_eq hrowA.1 hrowB.1
    exact Prod.ext (hrowA.2.1.trans hrowB.2.1.symm) (le_antisymm hab hba)
  rw [Tables.historyRowsBefore, ← hselected, heq]

/-- The page holds the last rows before the date. -/
theorem getHistorySnapshotPage_eq {db : DbInstance Tz} {uuid : String}
    {beforeDate : Option String} {pageSize : ℕ} {rows : List HistoryRow}
    {stored : HistoryRow → StoredSnapshot σ} (hpos : 0 < pageSize) (hsize : pageSize < 2 ^ 63 - 1)
    (hcursor : ∀ date ∈ beforeDate, (DateText.parseFromStr date "%Y-%m-%d").isSome)
    (hrows : HistoryBefore db.tables uuid beforeDate rows)
    (hdecode : ∀ row ∈ rows, decodeStoredSnapshot row = .ok (stored row)) :
    db.getHistorySnapshotPage uuid beforeDate pageSize noFaults =
      .ok ⟨(rows.drop (rows.length - pageSize)).map stored, pageSize < rows.length⟩ := by
  have hchecked : checkHistoryCursor beforeDate = .ok ⟨⟩ := by
    cases beforeDate with
    | none => rfl
    | some date =>
      have hdate := Option.isSome_iff_ne_none.1 (hcursor date rfl)
      simp only [checkHistoryCursor, Option.isNone_iff_eq_none, hdate, if_false]
  have hlimit : min (pageSize + 1) usizeMax = pageSize + 1 := by
    have hbound : 2 ^ 63 ≤ usizeMax := by decide
    omega
  have hfits : ¬ pageSize + 1 ≥ 2 ^ 63 := by omega
  set fetched := rows.reverse.take (pageSize + 1) with hfetched
  have hselected : db.tables.historyRowsBefore uuid beforeDate (pageSize + 1) = fetched :=
    historyRowsBefore_eq hrows _
  -- of the fetched rows those on the page are the last ones, in the order of their dates
  have hpage : (fetched.take pageSize).reverse = rows.drop (rows.length - pageSize) := by
    rw [hfetched, List.take_take, Nat.min_eq_left (Nat.le_succ _), List.take_reverse,
      List.reverse_reverse]
  have hmore : decide (fetched.length > pageSize) = decide (pageSize < rows.length) := by
    rw [hfetched, List.length_take, List.length_reverse, decide_eq_decide]
    omega
  have hstored : (rows.drop (rows.length - pageSize)).mapM decodeStoredSnapshot =
      (.ok ((rows.drop (rows.length - pageSize)).map stored) : Except String _) :=
    mapM_decodeStoredSnapshot fun row hrow => hdecode row (List.mem_of_mem_drop hrow)
  have hquery : ∀ {α : Type} (f : Tables → α) (k : α → DbTx (StoredSnapshotPage σ)),
      (Tx.query f >>= k) noFaults (0, db.tables) = k (f db.tables) noFaults (1, db.tables) :=
    fun _ _ => rfl
  have hpure : ∀ {α β : Type} (a : α) (k : α → DbTx β) (faults : FaultPlan) (w : ℕ × Tables),
      (Tx.ofExcept (.ok a) >>= k) faults w = k a faults w := fun _ _ _ _ => rfl
  simp only [DbInstance.getHistorySnapshotPage, if_neg hpos.ne', hchecked, hlimit, if_neg hfits,
    atomically, hpure, hquery, hselected, hpage, hstored, hmore]
  rfl

end Page

end WeatherApp
