import WeatherApp.Engine.TemperatureHistory
import WeatherApp.Engine.WeatherLaw

/-!
# Every day once

A client that follows `next_before_date` reads the rows of a station from the newest page to the
oldest one. A page takes the last rows before the cursor, so that rows that are added for later days
stay outside, and its points depend on its own rows alone: the forecast changes only days from the
newest row on.

## Main definitions

* `DatedHistory`: snapshots in the order of their dates.
* `GrowsLater`: a database to which rows for later days were added.

## Main results

* `buildTemperatureHistory_append`: the points of a history are those of its parts.
* `followHistory_spec`: what a client finds from a cursor on.
* `history_visits_days_once`: the pages hold every row once, and their points are those of all rows.
-/

namespace WeatherApp

open Weather (parseTemperature parseFullDate parseRelativeDate firstWord)

section Law

variable [FloatText] [DateText]

/-! ## Dates of rows -/

omit [FloatText] in
/-- The date of a row is read from its text. -/
theorem parseFullDate_formatDate (hreads : ReadsDates) {date : CivilDate} (h : date.FourDigit) :
    parseFullDate (formatDate date) = some date := by
  have hchars : ∀ c ∈ (formatDate date).toList, isWhitespace c = false := fun _ hc =>
    h.isWhitespace_of_mem_formatDate hc
  have hdrop : (formatDate date).toList.dropWhile isWhitespace = (formatDate date).toList := by
    apply List.dropWhile_eq_self_iff.2
    intro hlength
    simp [hchars _ (List.getElem_mem hlength)]
  have htake : (formatDate date).toList.takeWhile (!isWhitespace ·) = (formatDate date).toList := by
    apply List.takeWhile_eq_self_iff.2
    intro c hc
    simp [hchars c hc]
  have hne : (formatDate date).toList ≠ [] := by
    intro hnil
    have hlength := h.length_formatDate
    rw [hnil] at hlength
    cases hlength
  have hword : firstWord (formatDate date) = some (formatDate date) := by
    simp only [firstWord, hdrop, htake, if_neg hne, String.ofList_toList]
  simp only [parseFullDate, hword, Option.bind_eq_bind, Option.bind_some, List.findSome?_cons,
    hreads date h]

/-- Snapshots in the order of their dates, which have years of four digits. -/
structure DatedHistory (history : List (StoredSnapshot WeatherSnapshot)) : Prop where
  sorted : history.Pairwise fun a b => a.date < b.date
  dates : ∀ stored ∈ history, ∃ date : CivilDate, date.FourDigit ∧ stored.date = formatDate date

omit [FloatText] [DateText] in
theorem DatedHistory.append {old page : List (StoredSnapshot WeatherSnapshot)}
    (h : DatedHistory (old ++ page)) : DatedHistory old ∧ DatedHistory page :=
  ⟨⟨(List.pairwise_append.1 h.sorted).1, fun stored hmem =>
      h.dates stored (List.mem_append_left _ hmem)⟩,
    ⟨(List.pairwise_append.1 h.sorted).2.1, fun stored hmem =>
      h.dates stored (List.mem_append_right _ hmem)⟩⟩

/-! ## The points of a history -/

/-- A point stands under the date of its snapshot. -/
theorem date_of_historicalEntry (hreads : ReadsDates) {stored : StoredSnapshot WeatherSnapshot}
    {date : CivilDate} (hdate : date.FourDigit) (htext : stored.date = formatDate date)
    {entry : CivilDate × DailyTemperaturePoint} (h : historicalEntry stored = some entry) :
    entry.1 = date := by
  rw [historicalEntry, htext, parseFullDate_formatDate hreads hdate] at h
  simp only [Option.bind_eq_bind, Option.bind_some] at h
  split_ifs at h
  rw [← Option.some.inj h]

/-- The points of earlier snapshots stand under earlier dates. -/
theorem historicalEntry_lt (hreads : ReadsDates) {old : List (StoredSnapshot WeatherSnapshot)}
    {stored : StoredSnapshot WeatherSnapshot} (h : DatedHistory (old ++ [stored]))
    {date : CivilDate} (hdate : date.FourDigit) (htext : stored.date = formatDate date)
    {entry : CivilDate × DailyTemperaturePoint} (hentry : entry ∈ old.filterMap historicalEntry) :
    entry.1 < date := by
  obtain ⟨other, hother, hpoint⟩ := List.mem_filterMap.1 hentry
  obtain ⟨otherDate, hotherDate, hotherText⟩ := h.append.1.dates other hother
  have hlt : other.date < stored.date :=
    (List.pairwise_append.1 h.sorted).2.2 other hother stored (List.mem_singleton_self _)
  rw [date_of_historicalEntry hreads hotherDate hotherText hpoint,
    ← hotherDate.formatDate_lt_iff hdate, ← hotherText, ← htext]
  exact hlt

/-- Each snapshot adds its point at the end. -/
theorem entries_historicalPoints (hreads : ReadsDates)
    {history : List (StoredSnapshot WeatherSnapshot)} (h : DatedHistory history) :
    (historicalPoints history).entries = history.filterMap historicalEntry := by
  induction history using List.reverseRecOn with
  | nil => rfl
  | append_singleton old stored ih =>
    obtain ⟨date, hdate, htext⟩ := h.dates stored (List.mem_append_right _ List.mem_cons_self)
    have hold := ih h.append.1
    rw [historicalPoints, List.foldl_append, ← historicalPoints, List.filterMap_append]
    cases hentry : historicalEntry stored with
    | none => simp only [List.foldl_cons, List.foldl_nil, hentry, hold, List.filterMap_cons_none,
        List.filterMap_nil, List.append_nil]
    | some entry =>
      have hkey := date_of_historicalEntry hreads hdate htext hentry
      simp only [List.foldl_cons, List.foldl_nil, hentry]
      rw [SortedMap.entries_insert_of_lt, hold]
      · simp [hentry]
      · intro other hother
        rw [hold] at hother
        exact hkey ▸ historicalEntry_lt hreads h hdate htext hother

/-- The forecast changes only days from the base date on. -/
theorem extends_mergeForecasts {entries : List (CivilDate × DailyTemperaturePoint)}
    {points points' : SortedMap CivilDate DailyTemperaturePoint} {baseDate : CivilDate}
    (h : SortedMap.Extends entries points points')
    (hbefore : ∀ entry ∈ entries, entry.1 < baseDate) (snapshot : WeatherSnapshot) :
    SortedMap.Extends entries (mergeForecasts points snapshot baseDate)
      (mergeForecasts points' snapshot baseDate) := by
  unfold mergeForecasts
  induction forecastDays snapshot generalizing points points' with
  | nil => exact h
  | cons day days ih =>
    obtain ⟨text, range⟩ := day
    rw [List.foldl_cons, List.foldl_cons]
    apply ih
    cases hdate : text.bind fun value =>
        (parseRelativeDate value baseDate).filter (baseDate ≤ ·) with
    | none =>
      simp only [hdate]
      exact h
    | some date =>
      have hlater : baseDate ≤ date := by
        obtain ⟨value, -, hfilter⟩ := Option.bind_eq_some_iff.1 hdate
        exact of_decide_eq_true (Option.filter_eq_some_iff.1 hfilter).2
      simp only [hdate, mergeForecast]
      split_ifs
      · exact h.upsert (fun entry hentry => (hbefore entry hentry).trans_le hlater) _
      · exact h

/-- The points of a history are those of its older part, and those of its newer part with the
forecast. -/
theorem buildTemperatureHistory_append (hreads : ReadsDates)
    {old page : List (StoredSnapshot WeatherSnapshot)} (h : DatedHistory (old ++ page))
    (hpage : page ≠ []) (includeForecast : Bool) :
    buildTemperatureHistory (old ++ page) includeForecast =
      buildTemperatureHistory old false ++ buildTemperatureHistory page includeForecast := by
  obtain ⟨hold, hnew⟩ := h.append
  have hextends : SortedMap.Extends (old.filterMap historicalEntry) (historicalPoints page)
      (historicalPoints (old ++ page)) := by
    rw [SortedMap.Extends, entries_historicalPoints hreads h, entries_historicalPoints hreads hnew,
      List.filterMap_append]
  have hvalues : (old.filterMap historicalEntry).map Prod.snd =
      buildTemperatureHistory old false := by
    rw [← entries_historicalPoints hreads hold]
    rfl
  cases includeForecast with
  | false =>
    rw [← hvalues]
    exact hextends.values
  | true =>
    -- the newest snapshot of the history is that of the newer part
    obtain ⟨front, latest, rfl⟩ : ∃ front latest, page = front ++ [latest] :=
      ⟨_, _, (List.dropLast_append_getLast hpage).symm⟩
    obtain ⟨baseDate, hbase, htext⟩ :=
      hnew.dates latest (List.mem_append_right _ List.mem_cons_self)
    have hbuild : ∀ front : List (StoredSnapshot WeatherSnapshot),
        buildTemperatureHistory (front ++ [latest]) true =
          (mergeForecasts (historicalPoints (front ++ [latest])) latest.snapshot baseDate).values := by
      intro front
      simp [buildTemperatureHistory, htext, parseFullDate_formatDate hreads hbase]
    have hbefore : ∀ entry ∈ old.filterMap historicalEntry, entry.1 < baseDate := by
      intro entry hentry
      rw [← List.append_assoc] at h
      apply historicalEntry_lt hreads h hbase htext
      rw [List.filterMap_append]
      exact List.mem_append_left _ hentry
    have hmerged := (extends_mergeForecasts hextends hbefore latest.snapshot).values
    rw [hbuild front, ← hvalues, ← List.append_assoc, hbuild, List.append_assoc]
    exact hmerged

/-! ## Following the pages -/

omit [FloatText] [DateText] in
theorem date_of_decodeStoredSnapshot {σ : Type} [SnapshotMessage σ] {row : HistoryRow}
    {stored : StoredSnapshot σ} (h : decodeStoredSnapshot row = .ok stored) :
    stored.date = row.date := by
  unfold decodeStoredSnapshot at h
  split_ifs at h
  split at h
  · cases h
  · cases h
    rfl

/-- Rows for later days were added for a station, or changes were made for others. -/
structure GrowsLater (uuid : String) (start later : Tables) : Prop where
  kept : ∀ row ∈ start.history, row.unifiedUuid = uuid → row ∈ later.history
  added : ∀ row ∈ later.history, row.unifiedUuid = uuid → row ∈ start.history ∨
    ∀ first ∈ start.history, first.unifiedUuid = uuid → first.date < row.date

omit [FloatText] [DateText] in
theorem GrowsLater.refl (uuid : String) (tables : Tables) : GrowsLater uuid tables tables :=
  ⟨fun _ h _ => h, fun _ h _ => .inl h⟩

omit [FloatText] [DateText] in
/-- A put for another station or for a later day. -/
theorem GrowsLater.upsertHistory {uuid : String} {start later : Tables}
    (h : GrowsLater uuid start later) {row : HistoryRow} (hrow : row.unifiedUuid ≠ uuid ∨
      ∀ first ∈ start.history, first.unifiedUuid = uuid → first.date < row.date) :
    GrowsLater uuid start (later.upsertHistory row) := by
  constructor
  · intro first hfirst huuid
    apply KeyedTable.mem_upsertMax.2
    refine .inl ⟨h.kept first hfirst huuid, fun hkey => ?_⟩
    obtain ⟨hsame, hdate⟩ := Prod.ext_iff.1 hkey
    rcases hrow with hother | hlater
    · exact absurd (hsame.symm.trans huuid) hother
    · have hsameDate : first.date = row.date := hdate
      exact absurd (hlater first hfirst huuid) hsameDate.not_lt
  · intro added hadded huuid
    rcases KeyedTable.mem_upsertMax.1 hadded with ⟨hbefore, -⟩ | ⟨rfl, -⟩
    · exact h.added added hbefore huuid
    · exact .inr (hrow.resolve_left (not_not.2 huuid))

omit [FloatText] [DateText] in
/-- Before a day of the start the rows are those of the start. -/
theorem GrowsLater.historyBefore {uuid : String} {start later : Tables}
    (h : GrowsLater uuid start later) {old page : List HistoryRow} {oldest : HistoryRow}
    (hrows : HistoryBefore start uuid none (old ++ oldest :: page)) :
    HistoryBefore later uuid (some oldest.date) old := by
  obtain ⟨hold, hpage, hcross⟩ := List.pairwise_append.1 hrows.sorted
  have hmem : ∀ row, row ∈ old ++ oldest :: page ↔ row ∈ start.history ∧ row.unifiedUuid = uuid :=
    fun row => (hrows.mem_iff row).trans (by simp)
  have holdest := (hmem oldest).1 (List.mem_append_right _ List.mem_cons_self)
  refine ⟨hold, fun row => ⟨fun hrow => ?_, ?_⟩⟩
  · obtain ⟨hstored, huuid⟩ := (hmem row).1 (List.mem_append_left _ hrow)
    refine ⟨h.kept row hstored huuid, huuid, fun date hdate => ?_⟩
    rw [← Option.mem_some_iff.1 hdate]
    exact hcross row hrow oldest List.mem_cons_self
  · rintro ⟨hstored, huuid, hbefore⟩
    have hlt : row.date < oldest.date := hbefore _ rfl
    rcases h.added row hstored huuid with hstart | hlater
    · rcases List.mem_append.1 ((hmem row).2 ⟨hstart, huuid⟩) with hrow | hrow
      · exact hrow
      · rcases List.mem_cons.1 hrow with rfl | hrow
        · exact absurd hlt (lt_irrefl _)
        · exact absurd hlt ((List.pairwise_cons.1 hpage).1 row hrow).not_gt
    · exact absurd hlt (hlater oldest holdest.1 holdest.2).not_gt

section Follow

variable [WeatherCodec] {Tz : Type} {db : ℕ → DbInstance Tz} {unifiedUuid : String} {pageSize : ℕ}
  {stored : HistoryRow → StoredSnapshot WeatherSnapshot}

/-- A cursor that the handler accepts. -/
def LegalCursor (beforeDate : Option String) : Prop :=
  ∀ text ∈ beforeDate, ∃ date : CivilDate, date.FourDigit ∧ text = formatDate date

omit [FloatText] [DateText] [WeatherCodec] in
/-- The text of a date is not blank. -/
theorem isBlank_formatDate {date : CivilDate} (h : date.FourDigit) :
    isBlank (formatDate date) = false := by
  have htrim : trim (formatDate date) = formatDate date :=
    trim_eq_self fun _ hc => h.isWhitespace_of_mem_formatDate hc
  apply decide_eq_false
  rw [htrim]
  intro hempty
  have hlength := h.length_formatDate
  rw [hempty] at hlength
  cases hlength

omit [FloatText] in
/-- What a request reads. -/
theorem readHistoryPage_eq (hreads : ReadsDates) {n : ℕ} {beforeDate : Option String}
    {rows : List HistoryRow} (huuid : trim unifiedUuid ≠ "") (hpos : 0 < pageSize)
    (hmax : pageSize ≤ maxHistoryPageSize) (hcursor : LegalCursor beforeDate)
    (hrows : HistoryBefore (db n).tables (trim unifiedUuid) beforeDate rows)
    (hdecode : ∀ row ∈ rows, decodeStoredSnapshot row = .ok (stored row)) :
    (⟨unifiedUuid, beforeDate, pageSize⟩ : GetTemperatureHistoryRequest).cursor = beforeDate ∧
      readHistoryPage (db n) ⟨unifiedUuid, beforeDate, pageSize⟩ noFaults =
        .ok ⟨(rows.drop (rows.length - pageSize)).map stored, pageSize < rows.length⟩ := by
  have hsame : (⟨unifiedUuid, beforeDate, pageSize⟩ : GetTemperatureHistoryRequest).cursor =
      beforeDate := by
    cases beforeDate with
    | none => rfl
    | some text =>
      obtain ⟨date, hdate, rfl⟩ := hcursor text rfl
      simp [GetTemperatureHistoryRequest.cursor, Option.filter, isBlank_formatDate hdate]
  have hlegal : beforeDate.filter (fun value => decide ((asBytes value).length ≠ 10 ∨
      (DateText.parseFromStr value "%Y-%m-%d").isNone)) = none := by
    apply Option.filter_eq_none_iff.2
    intro text htext
    obtain ⟨date, hdate, rfl⟩ := hcursor text htext
    simp [hdate.length_asBytes_formatDate, hreads date hdate]
  have hparses : ∀ text ∈ beforeDate, (DateText.parseFromStr text "%Y-%m-%d").isSome := by
    intro text htext
    obtain ⟨date, hdate, rfl⟩ := hcursor text htext
    rw [hreads date hdate]
    rfl
  have hsize : pageSize < 2 ^ 63 - 1 := hmax.trans_lt (by decide)
  refine ⟨hsame, ?_⟩
  simp only [readHistoryPage, if_neg huuid, if_neg hpos.ne', not_lt.2 hmax, if_false, hsame, hlegal,
    getHistorySnapshotPage_eq hpos hsize hparses hrows hdecode]

/-- What a client finds from a cursor on: each row before it once, and the points of these rows. -/
theorem followHistory_spec (hreads : ReadsDates) (huuid : trim unifiedUuid ≠ "")
    (hpos : 0 < pageSize) (hmax : pageSize ≤ maxHistoryPageSize)
    (hlater : ∀ n, GrowsLater (trim unifiedUuid) (db 0).tables (db n).tables)
    {all : List HistoryRow} (hall : HistoryBefore (db 0).tables (trim unifiedUuid) none all)
    (hdecode : ∀ row ∈ all, decodeStoredSnapshot row = .ok (stored row))
    (hdated : DatedHistory (all.map stored)) {fuel n : ℕ} {beforeDate : Option String}
    {rows rest : List HistoryRow} (hsplit : all = rows ++ rest) (hfuel : rows.length < fuel)
    (hcursor : LegalCursor beforeDate)
    (hrows : HistoryBefore (db n).tables (trim unifiedUuid) beforeDate rows) :
    ∃ pages, followHistory db unifiedUuid pageSize fuel n beforeDate = some (.ok pages) ∧
      pages.reverse.flatMap (·.page.snapshots) = rows.map stored ∧
      pages.reverse.flatMap (·.response.points) =
        buildTemperatureHistory (rows.map stored) beforeDate.isNone := by
  induction fuel generalizing n beforeDate rows rest with
  | zero => exact absurd hfuel (Nat.not_lt_zero _)
  | succ fuel ih =>
    have hdecodeRows : ∀ row ∈ rows, decodeStoredSnapshot row = .ok (stored row) := fun row hrow =>
      hdecode row (hsplit ▸ List.mem_append_left _ hrow)
    obtain ⟨hsame, hread⟩ := readHistoryPage_eq hreads huuid hpos hmax hcursor hrows hdecodeRows
    set old := rows.take (rows.length - pageSize) with hold
    set newer := rows.drop (rows.length - pageSize) with hnewer
    have hparts : old ++ newer = rows := List.take_append_drop _ _
    unfold followHistory
    simp only [hread, handleGetTemperatureHistory, Except.map, hsame]
    by_cases hmore : pageSize < rows.length
    · -- the oldest row of the page is the next cursor
      obtain ⟨oldest, tail, holdest⟩ : ∃ oldest tail, newer = oldest :: tail := by
        apply List.exists_cons_of_ne_nil
        apply List.ne_nil_of_length_pos
        rw [hnewer, List.length_drop]
        omega
      have hmem : oldest ∈ rows := by
        rw [← hparts, holdest]
        exact List.mem_append_right _ List.mem_cons_self
      have hdate : (stored oldest).date = oldest.date :=
        date_of_decodeStoredSnapshot (hdecodeRows oldest hmem)
      have hfuelOld : old.length < fuel := by
        rw [hold, List.length_take]
        omega
      have hsplitOld : all = old ++ oldest :: (tail ++ rest) := by
        rw [hsplit, ← hparts, holdest, List.append_assoc, List.cons_append]
      have hlegal : LegalCursor (some oldest.date) := by
        intro text htext
        rw [← Option.mem_some_iff.1 htext, ← hdate]
        exact hdated.dates _ (List.mem_map_of_mem (hsplit ▸ List.mem_append_left _ hmem))
      have hbefore := (hlater (n + 1)).historyBefore (hsplitOld ▸ hall)
      obtain ⟨pages, hpages, hsnapshots, hpoints⟩ := ih hsplitOld hfuelOld hlegal hbefore
      have hnext : (historyResponse ⟨newer.map stored, decide (pageSize < rows.length)⟩
          beforeDate.isNone).nextBeforeDate = some oldest.date := by
        simp [historyResponse, hmore, holdest, hdate]
      have hdatedRows : DatedHistory (old.map stored ++ newer.map stored) := by
        rw [← List.map_append, hparts]
        rw [hsplit, List.map_append] at hdated
        exact hdated.append.1
      simp only [hnext, hpages, Option.map_some]
      refine ⟨_, rfl, ?_, ?_⟩
      · rw [List.reverse_cons, List.flatMap_append, hsnapshots, List.flatMap_singleton,
          ← List.map_append, hparts]
      · rw [List.reverse_cons, List.flatMap_append, hpoints, List.flatMap_singleton, ← hparts,
          List.map_append, buildTemperatureHistory_append hreads hdatedRows (by simp [holdest])]
        rfl
    · have hlast : newer = rows := by
        rw [hnewer, Nat.sub_eq_zero_of_le (not_lt.1 hmore), List.drop_zero]
      refine ⟨[⟨⟨newer.map stored, decide (pageSize < rows.length)⟩, historyResponse ⟨newer.map stored,
        decide (pageSize < rows.length)⟩ beforeDate.isNone⟩], ?_, ?_, ?_⟩
      · simp [historyResponse, hmore]
      · simp [hlast]
      · simp [historyResponse, hlast]

omit [FloatText] [DateText] [WeatherCodec] in
/-- The rows of a station in the order of their dates. -/
theorem exists_historyBefore (tables : Tables) (uuid : String) :
    ∃ rows, HistoryBefore tables uuid none rows := by
  have : Std.Total fun a b : HistoryRow => a.date ≤ b.date :=
    ⟨fun a b => le_total a.date b.date⟩
  have : IsTrans HistoryRow fun a b => a.date ≤ b.date := ⟨fun _ _ _ => le_trans⟩
  have hsorted : (tables.history.select (fun a b => a.date ≤ b.date)
      fun row => row.unifiedUuid = uuid).Pairwise fun a b => a.date ≤ b.date :=
    List.pairwise_insertionSort _ _
  have hnodup : (tables.history.select (fun a b => a.date ≤ b.date)
      fun row => row.unifiedUuid = uuid).Nodup :=
    ((List.perm_insertionSort _ _).nodup_iff).2 (tables.history.rows_nodup.filter _)
  refine ⟨_, (hsorted.and hnodup).imp_of_mem ?_, fun row => ?_⟩
  · rintro a b ha hb ⟨hle, hne⟩
    obtain ⟨hrowA, huuidA⟩ := KeyedTable.mem_select.1 ha
    obtain ⟨hrowB, huuidB⟩ := KeyedTable.mem_select.1 hb
    refine lt_of_le_of_ne hle fun hdate => hne (KeyedTable.eq_of_key_eq hrowA hrowB ?_)
    exact Prod.ext ((of_decide_eq_true huuidA).trans (of_decide_eq_true huuidB).symm) hdate
  · rw [KeyedTable.mem_select, decide_eq_true_iff]
    simp

/-- Following the pages visits every row of the station that was there at the first request once,
whatever rows are added for later days in the meantime, and the pages together hold the points of
all these rows. -/
theorem history_visits_days_once (hreads : ReadsDates) (db : ℕ → DbInstance Tz)
    (huuid : trim unifiedUuid ≠ "") (hpos : 1 ≤ pageSize) (hmax : pageSize ≤ maxHistoryPageSize)
    (hlater : ∀ n, GrowsLater (trim unifiedUuid) (db 0).tables (db n).tables)
    (hdecode : ∀ row ∈ (db 0).tables.history, row.unifiedUuid = trim unifiedUuid →
      ∃ stored : StoredSnapshot WeatherSnapshot, decodeStoredSnapshot row = .ok stored)
    (hdates : ∀ row ∈ (db 0).tables.history, row.unifiedUuid = trim unifiedUuid →
      ∃ date : CivilDate, date.FourDigit ∧ row.date = formatDate date) :
    ∃ rows initial pages, HistoryBefore (db 0).tables (trim unifiedUuid) none rows ∧
      rows.mapM decodeStoredSnapshot = (.ok initial : Except String _) ∧
      followHistory db unifiedUuid pageSize (rows.length + 1) 0 none = some (.ok pages) ∧
      pages.reverse.flatMap (·.page.snapshots) = initial ∧
      pages.reverse.flatMap (·.response.points) = buildTemperatureHistory initial true := by
  obtain ⟨rows, hrows⟩ := exists_historyBefore (db 0).tables (trim unifiedUuid)
  have hstation : ∀ row ∈ rows, row ∈ (db 0).tables.history ∧ row.unifiedUuid = trim unifiedUuid :=
    fun row hrow => ⟨((hrows.mem_iff row).1 hrow).1, ((hrows.mem_iff row).1 hrow).2.1⟩
  have hstored : ∀ row, ∃ stored : StoredSnapshot WeatherSnapshot,
      row ∈ rows → decodeStoredSnapshot row = .ok stored := by
    intro row
    by_cases hrow : row ∈ rows
    · obtain ⟨stored, hstored⟩ := hdecode row (hstation row hrow).1 (hstation row hrow).2
      exact ⟨stored, fun _ => hstored⟩
    · exact ⟨⟨"", ⟨none, none, none, none, [], [], none, false, none⟩, 0⟩, fun h => absurd h hrow⟩
  choose stored hdecoded using hstored
  have hdate : ∀ row ∈ rows, (stored row).date = row.date := fun row hrow =>
    date_of_decodeStoredSnapshot (hdecoded row hrow)
  have hdated : DatedHistory (rows.map stored) := by
    constructor
    · rw [List.pairwise_map]
      apply hrows.sorted.imp_of_mem
      intro a b ha hb hlt
      rwa [hdate a ha, hdate b hb]
    · intro snapshot hsnapshot
      obtain ⟨row, hrow, rfl⟩ := List.mem_map.1 hsnapshot
      rw [hdate row hrow]
      exact hdates row (hstation row hrow).1 (hstation row hrow).2
  have hnone : LegalCursor none := fun _ h => nomatch h
  obtain ⟨pages, hpages, hsnapshots, hpoints⟩ := followHistory_spec hreads huuid hpos hmax hlater
    hrows hdecoded hdated (List.append_nil rows).symm (Nat.lt_succ_self _) hnone hrows
  exact ⟨rows, rows.map stored, pages, hrows, mapM_decodeStoredSnapshot hdecoded, hpages,
    hsnapshots, hpoints⟩

end Follow

end Law

/-! ## A history -/

section Sample

attribute [local instance] sampleFloatText isoDateText Weather.sampleCodec

/-- The row of the sample snapshot for a day. -/
def sampleDay (date : String) : HistoryRow :=
  ⟨sampleStation.unifiedUuid, date, schemaVersion, Weather.sampleBytes, 1780000000000⟩

/-- Two days of the sample station. -/
def sampleDays : Tables :=
  (Tables.initial.upsertHistory (sampleDay "2026-06-21")).upsertHistory (sampleDay "2026-06-22")

/-- A third day is added after the first request. -/
def sampleGrowing : ℕ → DbInstance SampleZone
  | 0 => ⟨sampleDays, .utc⟩
  | _ + 1 => ⟨sampleDays.upsertHistory (sampleDay "2026-06-23"), .utc⟩

theorem mem_sampleDays {row : HistoryRow} (h : row ∈ sampleDays.history) :
    row = sampleDay "2026-06-21" ∨ row = sampleDay "2026-06-22" := by
  have hrows : sampleDays.history.rows = [sampleDay "2026-06-21", sampleDay "2026-06-22"] := by
    decide +kernel
  rw [← KeyedTable.mem_rows, hrows] at h
  simpa using h

theorem growsLater_sampleGrowing (n : ℕ) :
    GrowsLater sampleStation.unifiedUuid sampleDays (sampleGrowing n).tables := by
  cases n with
  | zero => exact .refl _ _
  | succ n =>
    refine (GrowsLater.refl _ _).upsertHistory (.inr fun first hfirst _ => ?_)
    rcases mem_sampleDays hfirst with rfl | rfl
    · show "2026-06-21" < "2026-06-23"
      decide
    · show "2026-06-22" < "2026-06-23"
      decide

/-- The two days in pages of one, while a third one is added. -/
theorem history_visits_days_once_sample :
    ∃ rows initial pages,
      HistoryBefore (sampleGrowing 0).tables (trim sampleStation.unifiedUuid) none rows ∧
      rows.mapM decodeStoredSnapshot = (.ok initial : Except String _) ∧
      followHistory sampleGrowing sampleStation.unifiedUuid 1 (rows.length + 1) 0 none =
        some (.ok pages) ∧
      pages.reverse.flatMap (·.page.snapshots) = initial ∧
      pages.reverse.flatMap (·.response.points) = buildTemperatureHistory initial true := by
  have htrim : trim sampleStation.unifiedUuid = sampleStation.unifiedUuid := by decide +kernel
  have hdecoded : ∀ date, decodeStoredSnapshot (sampleDay date) =
      (.ok ⟨date, Weather.sampleStored, 1780000000000⟩ : Except String _) := by
    intro date
    have hcodec : SnapshotMessage.decodeMessage Weather.sampleBytes =
        (.ok Weather.sampleStored : Except String WeatherSnapshot) := if_pos rfl
    simp only [decodeStoredSnapshot, sampleDay, ne_eq, not_true_eq_false, if_false, hcodec]
  refine history_visits_days_once readsDates_isoDateText sampleGrowing ?_ le_rfl (by decide) ?_ ?_ ?_
  · rw [htrim]
    decide
  · rw [htrim]
    exact growsLater_sampleGrowing
  · intro row hrow _
    rcases mem_sampleDays hrow with rfl | rfl
    · exact ⟨_, hdecoded _⟩
    · exact ⟨_, hdecoded _⟩
  · intro row hrow _
    rcases mem_sampleDays hrow with rfl | rfl
    · exact ⟨⟨2026, 6, 21⟩, by decide, by decide⟩
    · exact ⟨⟨2026, 6, 22⟩, by decide, by decide⟩

end Sample

end WeatherApp
