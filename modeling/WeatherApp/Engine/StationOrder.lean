import WeatherApp.Engine.Refresh
import WeatherApp.Foundation.ParentsFirst
import WeatherApp.Schema.StationPath

/-!
# The order of the scheduled stations

`enabled_stations` lists the enabled stations, each after its parent. The index in the list is the
stagger of a station, so that a child is not fetched before the parent whose weather it inherits.

## Main definitions

* `NoLater`: one deadline is not after another.

## Main results

* `enabledStations_eq`: the loop puts each station on a list after its parent.
* `get_reconcileSchedules_of_new`: what a station gets that is scheduled for the first time.
* `enabledStations_parents_first`: the list as a whole.
-/

namespace WeatherApp

open ParentsFirst

/-! ## The list -/

theorem enabledStationStep_eq (stations : List String) (station : StationConfig) :
    enabledStationStep stations station =
      insertWithParent parentStationName stations station.name := by
  unfold enabledStationStep insertWithParent
  cases parentStationName station.name with
  | none => rfl
  | some parent => rfl

/-- The loop puts the names of the enabled stations on the list, each after its parent. -/
theorem enabledStations_eq (config : AppConfig) :
    enabledStations config = ((config.stations.filter (·.enabled)).map (·.name)).foldl
      (insertWithParent parentStationName) [] := by
  rw [List.foldl_map, enabledStations]
  simp only [← enabledStationStep_eq]

theorem ordered_enabledStations (config : AppConfig) :
    Ordered parentStationName (enabledStations config) := by
  rw [enabledStations_eq]
  exact ordered_foldl (fun _ _ h => parentStationName_of_parent h) _

/-- Each station is in the order once. -/
theorem nodup_enabledStations (config : AppConfig) : (enabledStations config).Nodup :=
  (ordered_enabledStations config).nodup

/-- The list has the enabled stations and their parents. -/
theorem mem_enabledStations (config : AppConfig) (name : String) :
    name ∈ enabledStations config ↔ ∃ station ∈ config.stations, station.enabled = true ∧
      (station.name = name ∨ parentStationName station.name = some name) := by
  rw [enabledStations_eq, mem_foldl_insertWithParent]
  simp only [List.not_mem_nil, false_or, List.mem_map, List.mem_filter]
  constructor
  · rintro ⟨_, ⟨station, ⟨hstation, henabled⟩, rfl⟩, hparent | rfl⟩
    · exact ⟨station, hstation, henabled, .inr hparent⟩
    · exact ⟨station, hstation, henabled, .inl rfl⟩
  · rintro ⟨station, hstation, henabled, rfl | hparent⟩
    · exact ⟨station.name, ⟨station, ⟨hstation, henabled⟩, rfl⟩, .inr rfl⟩
    · exact ⟨station.name, ⟨station, ⟨hstation, henabled⟩, rfl⟩, .inl hparent⟩

/-! ## The staggers -/

/-- The one deadline is not after the other, where none is infinitely far away. -/
def NoLater (first second : Option Instant) : Prop := ∀ due ∈ second, ∃ due' ∈ first, due' ≤ due

/-- A longer delay does not make a deadline earlier. -/
theorem noLater_deadline (start : Instant) {delay delay' : Duration} (h : delay ≤ delay') :
    NoLater (deadline start delay) (deadline start delay') := by
  have hsum : start + delay ≤ start + delay' := Nat.add_le_add_left h start
  intro due hdue
  rw [deadline, Option.mem_def] at hdue
  split_ifs at hdue with hrepresentable
  cases hdue
  refine ⟨start + delay, ?_, hsum⟩
  rw [deadline, if_pos (hsum.trans hrepresentable)]
  rfl

/-- A later station has no shorter stagger. -/
theorem stagger_mono {index index' : ℕ} (h : index ≤ index') : stagger index ≤ stagger index' :=
  Nat.mul_le_mul_left _ (min_le_min_right _ h)

/-- A loop over the order writes for each station what the visit with its index gives. -/
theorem get_foldl_visit_stationOrder
    {f : String × ℕ → Option StationSchedule → Option StationSchedule} {stationOrder : List String}
    (hnodup : stationOrder.Nodup) {name : String} (hname : name ∈ stationOrder)
    (schedules : Schedules) :
    (stationOrder.zipIdx.foldl (KeyedMap.visit Prod.fst f) schedules).get name =
      (f (name, stationOrder.idxOf name) (schedules.get name)).or (schedules.get name) := by
  have hstation : (name, stationOrder.idxOf name) ∈ stationOrder.zipIdx := by
    rw [List.mem_zipIdx_iff_getElem?]
    exact List.getElem?_idxOf hname
  have hkeys : (stationOrder.zipIdx.map Prod.fst).Nodup := by
    rw [List.zipIdx_map_fst]
    exact hnodup
  exact KeyedMap.get_foldl_visit_of_nodup hkeys hstation schedules

/-- A station that is scheduled for the first time is due after the stagger of its index. -/
theorem get_reconcileSchedules_of_new {schedules : Schedules} {stationOrder : List String}
    (hnodup : stationOrder.Nodup) {name : String} (hname : name ∈ stationOrder)
    (hnew : schedules.get name = none) (now : Instant) (ttl : Duration) :
    (reconcileSchedules schedules stationOrder now ttl).get name =
      some ⟨none, deadline now (stagger (stationOrder.idxOf name)), false, false⟩ := by
  have hretained : (schedules.retain fun name => name ∈ stationOrder).get name = none := by
    rw [KeyedMap.get_retain, decide_eq_true hname, if_pos rfl]
    exact hnew
  rw [reconcileSchedules, get_foldl_visit_stationOrder hnodup hname, hretained]
  rfl

/-- The list has no duplicates; it has the enabled stations and the parents of those with three
levels, each parent before its enabled children. Where a parent and a child are scheduled for the
first time together, the parent is due no later. -/
theorem enabledStations_parents_first (config : AppConfig) :
    (enabledStations config).Nodup ∧
    (∀ name, name ∈ enabledStations config ↔
      ∃ station ∈ config.stations, station.enabled = true ∧
        (station.name = name ∨ parentStationName station.name = some name)) ∧
    ∀ station ∈ config.stations, station.enabled = true →
      ∀ parentName, parentStationName station.name = some parentName →
        (enabledStations config).idxOf parentName < (enabledStations config).idxOf station.name ∧
        stagger ((enabledStations config).idxOf parentName) ≤
          stagger ((enabledStations config).idxOf station.name) ∧
        ∀ schedules now ttl, schedules.get parentName = none → schedules.get station.name = none →
          ∃ parentSchedule schedule,
            (reconcileSchedules schedules (enabledStations config) now ttl).get parentName =
              some parentSchedule ∧
            (reconcileSchedules schedules (enabledStations config) now ttl).get station.name =
              some schedule ∧
            NoLater parentSchedule.nextDue schedule.nextDue := by
  have hnodup := nodup_enabledStations config
  have hmem := mem_enabledStations config
  refine ⟨hnodup, hmem, ?_⟩
  intro station hstation henabled parentName hparent
  have hchildMem : station.name ∈ enabledStations config :=
    (hmem _).2 ⟨station, hstation, henabled, .inl rfl⟩
  have hparentMem : parentName ∈ enabledStations config :=
    (hmem _).2 ⟨station, hstation, henabled, .inr hparent⟩
  have hbefore := (ordered_enabledStations config).idxOf_lt hchildMem hparent
  have hstagger := stagger_mono hbefore.le
  refine ⟨hbefore, hstagger, fun schedules now ttl hparentNew hchildNew => ?_⟩
  exact ⟨_, _, get_reconcileSchedules_of_new hnodup hparentMem hparentNew now ttl,
    get_reconcileSchedules_of_new hnodup hchildMem hchildNew now ttl,
    noLater_deadline now hstagger⟩

end WeatherApp
