import WeatherApp.Engine.DailyHigh
import WeatherApp.Engine.PlainCalls
import WeatherApp.Engine.WeatherLaw
import WeatherApp.Foundation.ProcessRun

/-!
# A day's high is never lost

The fetches of one station on one day, one after the other. Between their calls other requests
change what they like, except for the history of the station and the timezone.

## Main definitions

* `Day`, `Day.Serves`: the database, the clock and the snapshots that were stored; what a call is
  answered, and how it changes them.
* `Fetches`: a fetch of the station.
* `DayInv`: the latest row of the station is the snapshot stored last, and no high was lost.

## Main results

* `DayInv.fetches`: a fetch keeps the invariant.
* `daily_high_kept`: once there is a high, there is one in everything that is stored later.
-/

namespace WeatherApp.Weather

open Engine (describe)
open Process (Always RunsIn runsIn_bindExcept)

/-! ## Runs of the programs -/

section Runs

variable {σ α : Type} {env : σ → (c : Call) → Reply c → σ → Prop} {s s' : σ}

theorem runsIn_ask {query : Query} {result : Except String query.Reply}
    (h : RunsIn env (ask query).run s result s') :
    ∃ reply, env s (.input query) reply s' ∧ result = .ok reply := by
  obtain ⟨reply, s₁, henv, hresult, rfl⟩ := h
  exact ⟨reply, henv, hresult⟩

theorem runsIn_db {command : DbCommand} {result : Except String command.Reply}
    (h : RunsIn env (db command).run s result s') : env s (.db command) result s' := by
  obtain ⟨reply, s₁, henv, hresult, rfl⟩ := h
  obtain rfl : result = reply := hresult
  exact henv

theorem runsIn_attempt {p : Program α} {result : Except String (Except String α)}
    (h : RunsIn env (attempt p).run s result s') :
    ∃ inner, RunsIn env p.run s inner s' ∧ result = .ok inner := by
  obtain ⟨inner, s₁, hinner, hresult, rfl⟩ := Process.runsIn_bind.1 h
  exact ⟨inner, hinner, hresult⟩

theorem runsIn_orUnchanged {snapshot : WeatherSnapshot} {step : Program WeatherSnapshot}
    {result : Except String (WeatherSnapshot × Option String)}
    (h : RunsIn env (orUnchanged snapshot step).run s result s') :
    ∃ inner, RunsIn env step.run s inner s' ∧ result =
      match inner with
      | .ok enriched => .ok (enriched, none)
      | .error err => .ok (snapshot, some err) := by
  obtain ⟨first, s₁, hattempt, hrest⟩ := runsIn_bindExcept h
  obtain ⟨inner, hinner, rfl⟩ := runsIn_attempt hattempt
  refine ⟨inner, ?_⟩
  cases inner with
  | ok enriched =>
    obtain ⟨rfl, rfl⟩ := hrest
    exact ⟨hinner, rfl⟩
  | error err =>
    obtain ⟨rfl, rfl⟩ := hrest
    exact ⟨hinner, rfl⟩

end Runs

section Law

variable [Sha256] [FloatText] [DateText] [WeatherCodec] {Tz : Type} [TzDatabase Tz]

/-! ## The days of a station -/

/-- The database, the clock, and the snapshots of the station that were stored. -/
structure Day (Tz : Type) where
  db : DbInstance Tz
  clock : ℤ
  persisted : List WeatherSnapshot

/-- A station that was resolved, and a local date with the text it is read from. -/
structure DayOf where
  uuid : String
  today : String
  date : CivilDate
  resolved : uuid ≠ ""
  read : parseFullDate today = some date

/-- What other requests leave. -/
structure Day.Elsewhere (uuid : String) (s s' : Day Tz) : Prop where
  timezone : s'.db.timezone = s.db.timezone
  rows : ∀ row : HistoryRow, row.unifiedUuid = uuid →
    (row ∈ s'.db.tables.history ↔ row ∈ s.db.tables.history)
  clock : s.clock ≤ s'.clock
  persisted : s'.persisted = s.persisted

/-- The snapshot that a command stores. -/
def DbCommand.persists : DbCommand → List WeatherSnapshot
  | .putHistorySnapshot snapshot _ => [snapshot]
  | _ => []

/-- What a call is answered: the timezone is that of the database, the clock stays on the day and
does not run back, the provider answers with an entry for the day, and the database has no error. -/
def Day.Answers (provider : String) (day : DayOf) (s : Day Tz) : (c : Call) → Reply c → Day Tz → Prop
  | .input .config, config, s' =>
    TzDatabase.fromStr config.db.timezone = some s.db.timezone ∧ s' = s
  | .input .now, now, s' =>
    s.clock ≤ now ∧ localDate s.db.timezone now = some day.today ∧ s' = { s with clock := now }
  | .input (.weather _ includeDebug), reply, s' =>
    (∃ document, reply = .ok document ∧
      Selected (nmcWeather provider includeDebug document).snapshot day.date) ∧ s' = s
  | .db command, reply, s' =>
    ∃ faults value db, command.execute provider faults s.db = (.ok value, db) ∧
      reply = .ok value ∧ s' = ⟨db, s.clock, s.persisted ++ command.persists⟩
  | _, _, s' => s' = s

/-- A call, after others have changed what they like. -/
def Day.Serves (provider : String) (day : DayOf) (s : Day Tz) (c : Call) (reply : Reply c)
    (s' : Day Tz) : Prop :=
  ∃ s₁, s.Elsewhere day.uuid s₁ ∧ s₁.Answers provider day c reply s'

/-- A fetch of the station. -/
def Fetches (provider : String) (day : DayOf) (s s' : Day Tz) : Prop :=
  ∃ station includeDebug outcome, station.unifiedUuid = day.uuid ∧
    RunsIn (Day.Serves provider day)
      (fetchWeatherUncached Tz provider station includeDebug).run s outcome s'

/-- The snapshot has a finite high for the day. -/
def HasHigh (date : CivilDate) (snapshot : WeatherSnapshot) : Prop :=
  (snapshotDailyHigh snapshot date).isSome

/-- The rows of the station are of the past and under their dates, the snapshot stored last is the
latest row, and no high was lost so far. -/
structure DayInv (day : DayOf) (s : Day Tz) : Prop where
  dated : ∀ row ∈ s.db.tables.history, row.unifiedUuid = day.uuid →
    localDate s.db.timezone row.fetchedAtUnixMs = some row.date
  past : ∀ row ∈ s.db.tables.history, row.unifiedUuid = day.uuid → row.fetchedAtUnixMs ≤ s.clock
  latest : ∀ last ∈ s.persisted.getLast?, ∃ row stored,
    UniqueLatest s.db.tables.history day.uuid row ∧ decodeStoredSnapshot row = .ok stored ∧
      stored.date = day.today ∧ stored.snapshot = last
  kept : s.persisted.Pairwise fun earlier later => HasHigh day.date earlier → HasHigh day.date later

omit [Sha256] in
/-- Others keep the invariant. -/
theorem DayInv.elsewhere {day : DayOf} {s s' : Day Tz} (h : DayInv day s)
    (hothers : s.Elsewhere day.uuid s') : DayInv day s' := by
  refine ⟨fun row hrow huuid => ?_, fun row hrow huuid => ?_, fun last hlast => ?_, ?_⟩
  · rw [hothers.timezone]
    exact h.dated row ((hothers.rows row huuid).1 hrow) huuid
  · exact (h.past row ((hothers.rows row huuid).1 hrow) huuid).trans hothers.clock
  · rw [hothers.persisted] at hlast
    obtain ⟨row, stored, ⟨hrow, huuid, hunique⟩, hstored⟩ := h.latest last hlast
    refine ⟨row, stored, ⟨(hothers.rows row huuid).2 hrow, huuid, fun other hother hsame => ?_⟩,
      hstored⟩
    exact hunique other ((hothers.rows other hsame).1 hother) hsame
  · rw [hothers.persisted]
    exact h.kept

omit [Sha256] in
/-- A change of the clock alone keeps the invariant. -/
theorem DayInv.tick {day : DayOf} {s : Day Tz} (h : DayInv day s) {now : ℤ} (hnow : s.clock ≤ now) :
    DayInv day { s with clock := now } :=
  ⟨h.dated, fun row hrow huuid => (h.past row hrow huuid).trans hnow, h.latest, h.kept⟩

/-- Calls that only look keep the invariant. -/
theorem DayInv.plain {provider : String} {day : DayOf} {s s' : Day Tz} (h : DayInv day s) {c : Call}
    {reply : Reply c} (hplain : c.Plain) (hserves : s.Serves provider day c reply s') :
    DayInv day s' := by
  obtain ⟨s₁, hothers, hanswers⟩ := hserves
  have h₁ := h.elsewhere hothers
  cases c with
  | input query =>
    cases query with
    | now =>
      obtain ⟨hnow, -, rfl⟩ := hanswers
      exact h₁.tick hnow
    | config =>
      obtain ⟨-, rfl⟩ := hanswers
      exact h₁
    | weather id includeDebug =>
      obtain ⟨-, rfl⟩ := hanswers
      exact h₁
    | resolveName name =>
      obtain rfl := hanswers
      exact h₁
    | register url =>
      obtain rfl := hanswers
      exact h₁
  | db command =>
    obtain ⟨faults, value, db, hexecute, -, rfl⟩ := hanswers
    have hnothing : command.persists = [] := by
      cases command <;> first | rfl | exact hplain.elim
    have hdb : db = s₁.db := by
      rcases execute_cases provider faults s₁.db 0 command with
        ⟨hsame, -⟩ | ⟨snapshot, ms, row, rfl, -⟩
      · rw [hexecute] at hsame
        exact hsame
      · exact hplain.elim
    rw [hnothing, List.append_nil, hdb]
    exact h₁
  | publishFetchLog event =>
    obtain rfl := hanswers
    exact h₁
  | join | enter | complete | leave | startRefresh | setUnifiedUuid | completeRefresh | dropRefresh
  | publishSnapshot => exact hplain.elim

/-- A program that only looks keeps the invariant. -/
theorem DayInv.plainRun {provider : String} {day : DayOf} {s s' : Day Tz} {α : Type}
    {p : Program α} {result : Except String α} (h : DayInv day s) (hplain : Plain p)
    (hrun : RunsIn (Day.Serves provider day) p.run s result s') : DayInv day s' :=
  hrun.invariant hplain.always (fun _ _ _ _ hcall hbefore hserves => hbefore.plain hcall hserves) h

omit [Sha256] in
/-- A high that was stored is in the snapshot stored last. -/
theorem DayInv.last_high {day : DayOf} {s : Day Tz} (h : DayInv day s) {earlier : WeatherSnapshot}
    (hearlier : earlier ∈ s.persisted) (hhigh : HasHigh day.date earlier) :
    ∃ last ∈ s.persisted.getLast?, HasHigh day.date last := by
  rcases List.eq_nil_or_concat s.persisted with hnil | ⟨before, last, hconcat⟩
  · rw [hnil] at hearlier
    exact absurd hearlier List.not_mem_nil
  · have hkept := h.kept
    rw [hconcat, List.concat_eq_append] at hearlier hkept ⊢
    refine ⟨last, by simp, ?_⟩
    rcases List.mem_append.1 hearlier with hbefore | hlast
    · exact (List.pairwise_append.1 hkept).2.2 earlier hbefore last (List.mem_singleton_self _) hhigh
    · rwa [← List.mem_singleton.1 hlast]

omit [Sha256] [FloatText] [DateText] [TzDatabase Tz] in
/-- A read of the latest snapshot returns the latest row. -/
theorem getLatestSnapshot_of_latestHistoryRow {db : DbInstance Tz} {uuid : String}
    {faults : FaultPlan} {value : Option (StoredSnapshot WeatherSnapshot)}
    (h : db.getLatestSnapshot uuid faults = .ok value) {row : HistoryRow}
    (hrow : db.tables.latestHistoryRow uuid = some row) {stored : StoredSnapshot WeatherSnapshot}
    (hdecode : decodeStoredSnapshot row = .ok stored) : value = some stored := by
  obtain ⟨found, tables, hquery, hrest⟩ := Tx.returns_bind (atomically_ok (Prod.ext h rfl))
  obtain ⟨rfl, rfl⟩ := Tx.returns_query hquery
  rw [hrow] at hrest
  obtain ⟨hvalue, -⟩ := Tx.returns_ofExcept hrest
  rw [hdecode] at hvalue
  exact (Except.ok.inj hvalue).symm

section Fetch

variable {provider : String} {day : DayOf} {s s' : Day Tz}

omit [Sha256] [FloatText] [DateText] [WeatherCodec] in
/-- The date of the day, between the calls of a fetch. -/
theorem dateForTz_eq {config : AppConfig} {tz : Tz} {now : ℤ} {today : String}
    (hconfig : TzDatabase.fromStr config.db.timezone = some tz)
    (hnow : localDate tz now = some today) :
    dateForTz Tz now config.db.timezone = .ok today := by
  simp only [dateForTz, hconfig, hnow]

/-- The merge with the stored snapshot keeps every high that was stored on the day. -/
theorem DayInv.applyCachedDailyHigh (h : DayInv day s) (hprints : PrintsNumbers) {snapshot : WeatherSnapshot}
    {station : ProviderStation} (hstation : station.unifiedUuid = day.uuid)
    (hselected : Selected snapshot day.date) {result : Except String WeatherSnapshot}
    (hrun : RunsIn (Day.Serves provider day)
      (Weather.applyCachedDailyHigh Tz snapshot station).run s result s') :
    DayInv day s' ∧ ∃ merged, result = .ok merged ∧ merged.station = snapshot.station ∧
      ∀ earlier ∈ s'.persisted, HasHigh day.date earlier → HasHigh day.date merged := by
  have hafter := h.plainRun (plain_applyCachedDailyHigh snapshot station) hrun
  obtain ⟨first₁, s₁, hask₁, hrest₁⟩ := runsIn_bindExcept hrun
  obtain ⟨config, ⟨t₁, ho₁, hconfig, rfl⟩, rfl⟩ := runsIn_ask hask₁
  obtain ⟨first₂, s₂, hask₂, hrest₂⟩ := runsIn_bindExcept hrest₁
  obtain ⟨now, ⟨t₂, ho₂, hnow, htoday, rfl⟩, rfl⟩ := runsIn_ask hask₂
  rw [ho₂.timezone] at htoday
  obtain ⟨first₃, s₃, hdate, hrest₃⟩ := runsIn_bindExcept hrest₂
  obtain ⟨rfl, rfl⟩ : first₃ = dateForTz Tz now config.db.timezone ∧ s₃ = _ := hdate
  rw [dateForTz_eq hconfig htoday] at hrest₃
  obtain ⟨first₄, s₄, hget, hrest₄⟩ := runsIn_bindExcept hrest₃
  obtain ⟨t₄, ho₄, faults, found, db, hexecute, rfl, rfl⟩ := runsIn_db hget
  have hinv₄ : DayInv day t₄ := ((h.elsewhere ho₁).elsewhere ho₂ |>.tick hnow).elsewhere ho₄
  -- what is read is what was stored last
  have hread₄ : ∀ earlier ∈ t₄.persisted, HasHigh day.date earlier →
      ∃ stored, found = some stored ∧ stored.date = day.today ∧
        HasHigh day.date stored.snapshot := by
    intro earlier hearlier hhigh
    obtain ⟨last, hlast, hlastHigh⟩ := hinv₄.last_high hearlier hhigh
    obtain ⟨row, stored, hunique, hdecode, hdate, rfl⟩ := hinv₄.latest last hlast
    refine ⟨stored, ?_, hdate, hlastHigh⟩
    have hget : (t₄.db.getLatestSnapshot station.unifiedUuid faults).mapError describe =
        .ok found := (Prod.ext_iff.1 hexecute).1
    rw [hstation] at hget
    cases hresult : (t₄.db.getLatestSnapshot day.uuid faults :
        Except DbError (Option (StoredSnapshot WeatherSnapshot))) with
    | error e =>
      rw [hresult] at hget
      cases hget
    | ok value =>
      rw [hresult] at hget
      obtain rfl : value = found := Except.ok.inj hget
      exact getLatestSnapshot_of_latestHistoryRow hresult
        (latestHistoryRow_of_uniqueLatest hunique) hdecode
  refine ⟨hafter, ?_⟩
  cases found with
  | none =>
    obtain ⟨rfl, rfl⟩ := hrest₄
    refine ⟨snapshot, rfl, rfl, fun earlier hearlier hhigh => ?_⟩
    obtain ⟨stored, hnone, -⟩ := hread₄ earlier (by simpa [DbCommand.persists] using hearlier) hhigh
    cases hnone
  | some stored =>
    obtain ⟨rfl, rfl⟩ := hrest₄
    refine ⟨_, rfl, ?_, fun earlier hearlier hhigh => ?_⟩
    · obtain ⟨predict, tempchart, hmerged⟩ := mergeCachedDailyHigh_frame snapshot stored day.today
      rw [hmerged]
    · obtain ⟨_, hsome, hdate, hstoredHigh⟩ := hread₄ earlier (by simpa [DbCommand.persists] using hearlier) hhigh
      obtain rfl := Option.some.inj hsome
      exact snapshotDailyHigh_merge hprints hdate day.read hselected (.inr hstoredHigh)

/-- Storing a snapshot that has a high if any before it had one. -/
theorem DayInv.persistSnapshot (h : DayInv day s) {snapshot : WeatherSnapshot}
    {station : StationRef} (hstation : snapshot.station = some station)
    (huuid : station.unifiedUuid = day.uuid)
    (hhigh : ∀ earlier ∈ s.persisted, HasHigh day.date earlier → HasHigh day.date snapshot)
    {result : Except String Unit}
    (hrun : RunsIn (Day.Serves provider day) (Weather.persistSnapshot snapshot).run s result s') :
    DayInv day s' := by
  obtain ⟨first₁, s₁, hask, hrest⟩ := runsIn_bindExcept hrun
  obtain ⟨now, ⟨t₁, ho₁, hnow, htoday, rfl⟩, rfl⟩ := runsIn_ask hask
  obtain ⟨t₂, ho₂, faults, value, db, hexecute, rfl, rfl⟩ := runsIn_db hrest
  have hinv : DayInv day t₂ := ((h.elsewhere ho₁).tick hnow).elsewhere ho₂
  have hsame : t₂.persisted = s.persisted := ho₂.persisted.trans ho₁.persisted
  obtain ⟨row, hrow, htables, htimezone⟩ : ∃ row,
      historyRow t₂.db.timezone snapshot now = .ok row ∧
        db.tables = t₂.db.tables.upsertHistory row ∧ db.timezone = t₂.db.timezone := by
    cases hput : t₂.db.putHistorySnapshot snapshot now faults with
    | mk outcome db' =>
      rw [DbCommand.execute, hput] at hexecute
      cases outcome with
      | error e => cases (Prod.ext_iff.1 hexecute).1
      | ok =>
        obtain rfl : db' = db := (Prod.ext_iff.1 hexecute).2
        exact putHistorySnapshot_ok hput
  obtain ⟨hdate, hms, hversion, hproto, hrowStation⟩ := historyRow_eq_ok hrow
  have hrowUuid : row.unifiedUuid = day.uuid := by
    have hname : snapshot.station.map (·.unifiedUuid) = some row.unifiedUuid := hrowStation
    rw [hstation] at hname
    exact (Option.some.inj hname).symm.trans huuid
  have hrowDate : row.date = day.today := by
    rw [ho₂.timezone] at hdate
    exact Option.some.inj (hdate.symm.trans htoday)
  -- nothing of the station was stored after the clock was read
  have hbefore : ∀ old ∈ t₂.db.tables.history, old.unifiedUuid = day.uuid →
      old.fetchedAtUnixMs ≤ now := fun old hold holdUuid =>
    ((h.elsewhere ho₁).tick hnow).past old ((ho₂.rows old holdUuid).1 hold) holdUuid
  have hmem : ∀ other, other ∈ db.tables.history ↔
      (other ∈ t₂.db.tables.history ∧
        (other.key = row.key → row.fetchedAtUnixMs < other.fetchedAtUnixMs)) ∨
      (other = row ∧ ∀ old ∈ t₂.db.tables.history, old.key = row.key →
        old.fetchedAtUnixMs ≤ row.fetchedAtUnixMs) := by
    intro other
    rw [htables]
    exact KeyedTable.mem_upsertMax
  refine ⟨fun other hother hotherUuid => ?_, fun other hother hotherUuid => ?_,
    fun last hlast => ?_, ?_⟩
  · rw [show (Day.db ⟨db, _, _⟩).timezone = t₂.db.timezone from htimezone]
    rcases (hmem other).1 hother with ⟨hold, -⟩ | ⟨rfl, -⟩
    · exact hinv.dated other hold hotherUuid
    · rwa [hms]
  · rcases (hmem other).1 hother with ⟨hold, -⟩ | ⟨rfl, -⟩
    · exact hinv.past other hold hotherUuid
    · rw [hms]
      exact ho₂.clock
  · obtain rfl : snapshot = last := by
      simpa [DbCommand.persists] using hlast
    refine ⟨row, ⟨row.date, snapshot, row.fetchedAtUnixMs⟩, ⟨?_, hrowUuid, ?_⟩, ?_, hrowDate, rfl⟩
    · refine (hmem row).2 (.inr ⟨rfl, fun old hold hkey => ?_⟩)
      rw [hms]
      exact hbefore old hold ((Prod.ext_iff.1 hkey).1.trans hrowUuid)
    · -- a row of the same time has the same date, and is replaced
      intro other hother hotherUuid hlater
      rcases (hmem other).1 hother with ⟨hold, hreplaced⟩ | ⟨rfl, -⟩
      · have htime : other.fetchedAtUnixMs = row.fetchedAtUnixMs :=
          le_antisymm ((hbefore other hold hotherUuid).trans_eq hms.symm) hlater
        have hotherDate := hinv.dated other hold hotherUuid
        rw [htime, hms, hdate] at hotherDate
        have hkey : other.key = row.key :=
          Prod.ext (hotherUuid.trans hrowUuid.symm) (Option.some.inj hotherDate).symm
        exact absurd htime (hreplaced hkey).ne'
      · rfl
    · simp [decodeStoredSnapshot, hversion, hproto, SnapshotMessage.decode_encode]
  · show (t₂.persisted ++ [snapshot]).Pairwise _
    refine List.pairwise_append.2 ⟨hinv.kept, List.pairwise_singleton _ _, ?_⟩
    intro earlier hearlier later hlater hearlierHigh
    rw [List.mem_singleton.1 hlater]
    exact hhigh earlier (hsame ▸ hearlier) hearlierHigh

omit [FloatText] [DateText] [WeatherCodec] [TzDatabase Tz] in
/-- The station that was asked for keeps its uuid. -/
theorem mergeStation_unifiedUuid {upstream : Option StationRef} {station : ProviderStation}
    (h : station.unifiedUuid ≠ "") :
    (mergeStation upstream station).unifiedUuid = station.unifiedUuid := by
  show (if station.unifiedUuid.isEmpty then _ else _) = _
  apply if_neg
  simpa using h

/-- A fetch after the provider has answered. -/
theorem DayInv.settleFetched (h : DayInv day s) (hprints : PrintsNumbers)
    {station : ProviderStation} (hstation : station.unifiedUuid = day.uuid) {fetched : WeatherFetch}
    (hselected : Selected fetched.snapshot day.date) {result : Except String WeatherSnapshot}
    (hrun : RunsIn (Day.Serves provider day) (Weather.settleFetched Tz station fetched).run s
      result s') : DayInv day s' := by
  obtain ⟨first₁, s₁, hhigh, hrest₁⟩ := runsIn_bindExcept hrun
  obtain ⟨inner, hinner, rfl⟩ := runsIn_orUnchanged hhigh
  have hentry : Selected { fetched.snapshot with
      station := some (mergeStation fetched.snapshot.station station) } day.date := hselected
  obtain ⟨h₁, merged, rfl, hmergedStation, hmergedHigh⟩ :=
    h.applyCachedDailyHigh hprints hstation hentry hinner
  dsimp only at hrest₁
  obtain ⟨first₂, s₂, hattempt, hrest₂⟩ := runsIn_bindExcept hrest₁
  obtain ⟨persisted, hpersist, rfl⟩ := runsIn_attempt hattempt
  have huuid : (mergeStation fetched.snapshot.station station).unifiedUuid = day.uuid := by
    have hresolved : station.unifiedUuid ≠ "" := by
      rw [hstation]
      exact day.resolved
    exact (mergeStation_unifiedUuid hresolved).trans hstation
  have hwithout : ({ merged with debug := none } : WeatherSnapshot).station =
      some (mergeStation fetched.snapshot.station station) := hmergedStation
  have h₂ : DayInv day s₂ := h₁.persistSnapshot hwithout huuid hmergedHigh hpersist
  -- after that nothing is stored
  dsimp only at hrest₂
  refine h₂.plainRun ?_ hrest₂
  refine plain_bind (plain_enrich _ _) fun enriched => ?_
  refine plain_bind (plain_attempt (plain_db trivial)) fun logged => ?_
  exact plain_bind (plain_publishFetchLog _) fun _ => plain_pure _

/-- A fetch keeps the invariant. -/
theorem DayInv.fetches (h : DayInv day s) (hprints : PrintsNumbers)
    (hfetch : Fetches provider day s s') : DayInv day s' := by
  obtain ⟨station, includeDebug, outcome, hstation, hrun⟩ := hfetch
  obtain ⟨first, s₁, hask, hrest⟩ := runsIn_bindExcept hrun
  obtain ⟨reply, ⟨t₁, ho₁, ⟨document, rfl, hselected⟩, rfl⟩, rfl⟩ := runsIn_ask hask
  exact (h.elsewhere ho₁).settleFetched hprints hstation hselected hrest

end Fetch

/-! ## The day -/

/-- Before the first fetch of the day: nothing was stored by one, and the rows of the station are of
the past and under their dates. -/
structure Day.Starts (day : DayOf) (s : Day Tz) : Prop where
  persisted : s.persisted = []
  dated : ∀ row ∈ s.db.tables.history, row.unifiedUuid = day.uuid →
    localDate s.db.timezone row.fetchedAtUnixMs = some row.date
  past : ∀ row ∈ s.db.tables.history, row.unifiedUuid = day.uuid → row.fetchedAtUnixMs ≤ s.clock

omit [Sha256] in
/-- The day starts with the invariant. -/
theorem Day.Starts.inv {day : DayOf} {s : Day Tz} (h : s.Starts day) : DayInv day s := by
  refine ⟨h.dated, h.past, fun last hlast => ?_, ?_⟩
  · rw [h.persisted] at hlast
    cases hlast
  · rw [h.persisted]
    exact List.Pairwise.nil

/-- The fetches of a day keep the invariant. -/
theorem DayInv.run {provider : String} {day : DayOf} {s s' : Day Tz} (h : DayInv day s)
    (hprints : PrintsNumbers) (hrun : Relation.ReflTransGen (Fetches provider day) s s') :
    DayInv day s' := by
  induction hrun with
  | refl => exact h
  | tail _ hfetch ih => exact ih.fetches hprints hfetch

/-- Once a snapshot of the day is stored with a high, all that are stored later have one; and a
merge changes nothing but the missing highs of the day. -/
theorem daily_high_kept (hprints : PrintsNumbers) :
    (∀ (provider : String) (day : DayOf) (s s' : Day Tz), s.Starts day →
      Relation.ReflTransGen (Fetches provider day) s s' →
      s'.persisted.Pairwise fun earlier later =>
        HasHigh day.date earlier → HasHigh day.date later) ∧
    ∀ (snapshot : WeatherSnapshot) (stored : StoredSnapshot WeatherSnapshot) (today : String),
      let merged := mergeCachedDailyHigh snapshot stored today
      merged = { snapshot with predict := merged.predict, tempchart := merged.tempchart } ∧
        ForecastKept (parseFullDate today) snapshot merged ∧
        TempchartKept (parseFullDate today) snapshot merged := by
  constructor
  · intro provider day s s' hstarts hrun
    exact (hstarts.inv.run hprints hrun).kept
  · intro snapshot stored today
    exact mergeCachedDailyHigh_changes snapshot stored today

end Law

/-! ## A day with two fetches -/

section Sample

/-- A high of 30 degrees. -/
def sampleHigh : F64 := 0x403E000000000000

/-- The text of 30 degrees, and other numbers in unary. -/
def unaryText (value : F64) : String :=
  if value = sampleHigh then "30" else String.ofList ('.' :: List.replicate value.toNat '0')

/-- The texts of numbers, for 30 degrees as the code has them. -/
@[reducible]
def unaryFloatText : FloatText where
  parse text :=
    if text = "30" then some sampleHigh else some (UInt64.ofNat (text.toList.length - 1))
  isWhole _ := true
  toWholeText := unaryText
  toText := unaryText

attribute [local instance] unaryFloatText

theorem printsNumbers_unaryFloatText : @PrintsNumbers unaryFloatText := by
  have htext : ∀ value : F64, IsNumberText (unaryText value) ∧
      FloatText.parse (unaryText value) = some value := by
    intro value
    by_cases hvalue : value = sampleHigh
    · subst hvalue
      exact ⟨fun c hc => by
        rw [unaryText, if_pos rfl] at hc
        exact .inl (List.all_eq_true.1 (by decide) c hc), rfl⟩
    · have hunary : unaryText value = String.ofList ('.' :: List.replicate value.toNat '0') :=
        if_neg hvalue
      have hother : unaryText value ≠ "30" := by
        intro heq
        have hfirst := congrArg (fun text : String => text.toList.head?) (hunary.symm.trans heq)
        simp at hfirst
      constructor
      · intro c hc
        rw [hunary, String.toList_ofList, List.mem_cons] at hc
        rcases hc with rfl | hzero
        · exact .inr (.inr rfl)
        · rw [List.eq_of_mem_replicate hzero]
          exact .inl (by decide)
      · show (if unaryText value = "30" then _ else _) = _
        rw [if_neg hother, hunary]
        simp
  exact ⟨fun value _ _ => htext value, fun value _ => htext value⟩

/-- The snapshot that is stored first: a chart without a date. -/
def sampleCharted : WeatherSnapshot :=
  ⟨some sampleStation, none, none, none, [⟨none, some sampleHigh, none⟩], [], none, false, none⟩

/-- The snapshot that is stored then: a forecast, with the high of the chart. -/
def sampleForecast : WeatherSnapshot :=
  ⟨some sampleStation, none, some ⟨[⟨"2026-05-29", some "30", none⟩]⟩, none, [], [], none, false,
    none⟩

/-- The protobuf encoding of the first snapshot. -/
def sampleChartedBytes : List UInt8 :=
  SampleSnapshot.encode .fresh ++ protoField 0x2A [0x19, 0, 0, 0, 0, 0, 0, 0x3E, 0x40]

/-- The first snapshot in protobuf, and the others as their numbers in unary. -/
@[reducible]
noncomputable def sampleChartedCodec : WeatherCodec where
  encodeMessage snapshot :=
    if snapshot = sampleCharted then sampleChartedBytes
    else 0 :: List.replicate (snapshotNumber snapshot) 0
  decodeMessage bytes :=
    if bytes = sampleChartedBytes then .ok sampleCharted
    else .ok (@Function.invFun _ _ ⟨sampleCharted⟩ snapshotNumber (bytes.length - 1))
  decode_encode snapshot := by
    have hfirst : sampleChartedBytes.head? = some 0x0A := rfl
    by_cases h : snapshot = sampleCharted
    · rw [if_pos h, if_pos rfl, h]
    · have hne : 0 :: List.replicate (snapshotNumber snapshot) 0 ≠ sampleChartedBytes := by
        intro heq
        rw [← heq] at hfirst
        cases hfirst
      have hinverse := @Function.leftInverse_invFun _ _ ⟨sampleCharted⟩ snapshotNumber
        (exists_injective_nat WeatherSnapshot).choose_spec snapshot
      rw [if_neg h, if_neg hne]
      simpa using hinverse

attribute [local instance] sampleSha256 isoDateText sampleChartedCodec

/-- The day, in Shanghai. -/
def sampleDayOf : DayOf :=
  ⟨sampleStation.unifiedUuid, "2026-05-29", ⟨2026, 5, 29⟩, by decide, by decide +kernel⟩

/-- An empty database on that day. -/
def sampleMorning : Day SampleZone :=
  ⟨⟨Tables.initial, .shanghai⟩, 1780000000000, []⟩

/-- The answers of a fetch. -/
noncomputable def sampleReplies (document : WeatherDocument) (s : Day SampleZone) :
    (c : Call) → Option (Reply c × Day SampleZone)
  | .input .config =>
    if TzDatabase.fromStr AppConfig.default.db.timezone = some s.db.timezone then
      some (.default, s)
    else none
  | .input .now =>
    if localDate s.db.timezone s.clock = some sampleDayOf.today then some (s.clock, s) else none
  | .input (.weather _ includeDebug) =>
    if currentForecastIndex (nmcWeather "nmc" includeDebug document).snapshot
          sampleDayOf.date ≠ none ∨
        currentTemperatureChartIndex (nmcWeather "nmc" includeDebug document).snapshot
          sampleDayOf.date ≠ none then
      some (.ok document, s)
    else none
  | .db command =>
    match command.execute "nmc" noFaults s.db with
    | (.error _, _) => none
    | (.ok value, db) => some (.ok value, ⟨db, s.clock, s.persisted ++ command.persists⟩)
  | .publishFetchLog _ => some (⟨⟩, s)
  | _ => none

/-- What the provider answers first. -/
def chartDocument : WeatherDocument :=
  ⟨"/rest/weather", "", ⟨none, none, none, sampleCharted.tempchart, [], none, []⟩⟩

/-- What the provider answers then: a forecast without a high. -/
def forecastDocument : WeatherDocument :=
  ⟨"/rest/weather", "",
    ⟨none, some ⟨none, ⟨[⟨"2026-05-29", none, none⟩]⟩⟩, none, [], [], none, []⟩⟩

/-- These answers are such as a fetch gets. -/
theorem serves_of_sampleReplies {document : WeatherDocument} {s s' : Day SampleZone} {c : Call}
    {reply : Reply c} (h : sampleReplies document s c = some (reply, s')) :
    s.Serves "nmc" sampleDayOf c reply s' := by
  refine ⟨s, ⟨rfl, fun _ _ => Iff.rfl, le_rfl, rfl⟩, ?_⟩
  cases c with
  | input query =>
    cases query with
    | config =>
      simp only [sampleReplies, Option.ite_none_right_eq_some, Option.some.injEq] at h
      obtain ⟨htimezone, hreply⟩ := h
      cases hreply
      exact ⟨htimezone, rfl⟩
    | now =>
      simp only [sampleReplies, Option.ite_none_right_eq_some, Option.some.injEq] at h
      obtain ⟨htoday, hreply⟩ := h
      cases hreply
      exact ⟨le_rfl, htoday, rfl⟩
    | weather id includeDebug =>
      simp only [sampleReplies, Option.ite_none_right_eq_some, Option.some.injEq] at h
      obtain ⟨hselected, hreply⟩ := h
      cases hreply
      exact ⟨⟨document, rfl, hselected⟩, rfl⟩
    | resolveName name => cases h
    | register url => cases h
  | db command =>
    cases hexecute : command.execute "nmc" noFaults s.db with
    | mk result db =>
      simp only [sampleReplies, hexecute] at h
      cases result with
      | error err => cases h
      | ok value =>
        cases h
        exact ⟨noFaults, value, db, hexecute, rfl, rfl⟩
  | publishFetchLog event =>
    cases h
    rfl
  | join | enter | complete | leave | startRefresh | setUnifiedUuid | completeRefresh | dropRefresh
  | publishSnapshot => cases h

/-- A fetch with these answers. -/
noncomputable def sampleFetch (document : WeatherDocument) (s : Day SampleZone) : Option (Day SampleZone) :=
  ((fetchWeatherUncached SampleZone "nmc" sampleProviderStation false).run.replay
    (sampleReplies document) s).map Prod.snd

theorem fetches_of_sampleFetch {document : WeatherDocument} {s s' : Day SampleZone}
    (h : sampleFetch document s = some s') : Fetches "nmc" sampleDayOf s s' := by
  obtain ⟨⟨outcome, _⟩, hreplay, rfl⟩ := Option.map_eq_some_iff.1 h
  have hserves : ∀ s c reply s', sampleReplies document s c = some (reply, s') →
      s.Serves "nmc" sampleDayOf c reply s' := fun _ _ _ _ => serves_of_sampleReplies
  exact ⟨sampleProviderStation, false, outcome, rfl, Process.runsIn_of_replay hserves hreplay⟩

/-- The chart is stored first, and then the forecast with the high of the chart. -/
theorem exists_sampleDay : ∃ s, Relation.ReflTransGen (Fetches "nmc" sampleDayOf) sampleMorning s ∧
    s.persisted = [sampleCharted, sampleForecast] := by
  have hrun : (((sampleFetch chartDocument sampleMorning).bind
      (sampleFetch forecastDocument)).map Day.persisted) =
        some [sampleCharted, sampleForecast] := by
    decide +kernel
  obtain ⟨s, hfetches, hpersisted⟩ := Option.map_eq_some_iff.1 hrun
  obtain ⟨noon, hfirst, hsecond⟩ := Option.bind_eq_some_iff.1 hfetches
  refine ⟨s, ?_, hpersisted⟩
  exact (Relation.ReflTransGen.single (fetches_of_sampleFetch hfirst)).tail
    (fetches_of_sampleFetch hsecond)

/-- The forecast has the high of the day. -/
theorem daily_high_kept_sampleDay : ∃ s : Day SampleZone,
    Relation.ReflTransGen (Fetches "nmc" sampleDayOf) sampleMorning s ∧
      s.persisted = [sampleCharted, sampleForecast] ∧ HasHigh sampleDayOf.date sampleCharted ∧
        HasHigh sampleDayOf.date sampleForecast := by
  obtain ⟨s, hrun, hpersisted⟩ := exists_sampleDay
  have hstarts : sampleMorning.Starts sampleDayOf :=
    ⟨rfl, fun _ hrow => absurd hrow List.not_mem_nil, fun _ hrow => absurd hrow List.not_mem_nil⟩
  have hkept := (daily_high_kept printsNumbers_unaryFloatText).1 "nmc" sampleDayOf _ s hstarts hrun
  have hhigh : HasHigh sampleDayOf.date sampleCharted := by
    show (snapshotDailyHigh sampleCharted ⟨2026, 5, 29⟩).isSome = true
    decide +kernel
  rw [hpersisted] at hkept
  exact ⟨s, hrun, hpersisted, hhigh,
    (List.pairwise_cons.1 hkept).1 _ (List.mem_singleton_self _) hhigh⟩

end Sample

end WeatherApp.Weather
