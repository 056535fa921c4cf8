import WeatherApp.Db.Timezone

/-!
# The history after its changes

What is left of the weather history after any puts and timezone migrations, stated without tables:
the set of the rows that each change keeps.

## Main definitions

* `HistoryChange`: a change that the database has committed.
* `keptRows`: the rows that the changes of a history keep.

## Main results

* `Migrated.mem_keep`, `mem_keep_put`: the tables hold these rows.
-/

namespace WeatherApp

/-- A change of the history that the database has committed. -/
inductive HistoryChange (Tz : Type) where
  | put (row : HistoryRow)
  | migrate (timezone : Tz)

variable {Tz : Type} [TzDatabase Tz]

/-- The rows that a change keeps, and the row that it adds: a put replaces the row of its day unless
that one was fetched later, and a migration keeps for each of the new days the row fetched last,
under its new date. -/
def HistoryChange.keep (kept : Set HistoryRow) : HistoryChange Tz → Set HistoryRow
  | .put row =>
    { x | (x ∈ kept ∧ (x.key = row.key → row.fetchedAtUnixMs < x.fetchedAtUnixMs)) ∨
      (x = row ∧ ∀ old ∈ kept, old.key = row.key → old.fetchedAtUnixMs ≤ row.fetchedAtUnixMs) }
  | .migrate timezone =>
    { x | ∃ row ∈ kept, (∀ other ∈ kept, other.SameDay timezone row → other.rank ≤ row.rank) ∧
      row.rekeyed timezone = x }

/-- The rows that all changes of a history keep. -/
def keptRows (history : List HistoryRow) (changes : List (HistoryChange Tz)) : Set HistoryRow :=
  changes.foldl HistoryChange.keep { row | row ∈ history }

theorem keptRows_append (history : List HistoryRow) (changes : List (HistoryChange Tz))
    (change : HistoryChange Tz) :
    keptRows history (changes ++ [change]) = change.keep (keptRows history changes) := by
  rw [keptRows, List.foldl_append]
  rfl

/-- The rows kept so far are those of a table after a migration, if they were before. -/
theorem Migrated.mem_keep {timezone : Tz} {tables tables' : Tables} {rewritten : ℕ}
    (h : Migrated timezone tables rewritten tables') {kept : Set HistoryRow}
    (hkept : ∀ row, row ∈ tables.history ↔ row ∈ kept) (row : HistoryRow) :
    row ∈ tables'.history ↔ row ∈ (HistoryChange.migrate timezone).keep kept := by
  rw [h.history]
  constructor
  · rintro ⟨source, ⟨hsource, hlatest⟩, rfl⟩
    refine ⟨source, (hkept source).1 hsource, ?_, rfl⟩
    exact fun other hother => hlatest other ((hkept other).2 hother)
  · rintro ⟨source, hsource, hlatest, rfl⟩
    refine ⟨source, ⟨(hkept source).2 hsource, ?_⟩, rfl⟩
    exact fun other hother => hlatest other ((hkept other).1 hother)

/-- The same for a put. -/
theorem mem_keep_put {tables : Tables} {kept : Set HistoryRow}
    (hkept : ∀ row, row ∈ tables.history ↔ row ∈ kept) (put row : HistoryRow) :
    row ∈ (tables.upsertHistory put).history ↔
      row ∈ (HistoryChange.put put : HistoryChange Tz).keep kept := by
  have hmem : row ∈ (tables.upsertHistory put).history ↔ _ := KeyedTable.mem_upsertMax
  rw [hmem]
  simp only [hkept]
  rfl

end WeatherApp
