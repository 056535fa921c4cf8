import WeatherApp.Engine.WeatherRequest

/-!
# The links of a snapshot

`prepare_snapshot_resources` takes the links to the upstream service out of a snapshot and
registers those that clients can ask for. Nothing else of the snapshot changes, and the
registry is all that it calls.

## Main definitions

* `NoLinks`: a snapshot without links.
* `Prepares`: what becomes of a snapshot.

## Main results

* `always_prepareSnapshotResources`: whatever the registry answers.
-/

namespace WeatherApp.Weather

open Process

/-- An alert without links. -/
structure AlertWithoutLinks (alert : WeatherAlert) : Prop where
  url : alert.url = none
  iconUrl : alert.iconUrl = none

/-- A radar without links. -/
structure RadarWithoutLinks (radar : RadarInfo) : Prop where
  imageUrl : radar.imageUrl = none
  pageUrl : radar.pageUrl = none

/-- A snapshot without links. -/
structure NoLinks (snapshot : WeatherSnapshot) : Prop where
  alerts : ∀ alert ∈ snapshot.alerts, AlertWithoutLinks alert
  radar : ∀ radar, snapshot.radar = some radar → RadarWithoutLinks radar

/-- What becomes of a snapshot: its links are gone, and what is not weather stays. -/
structure Prepares (snapshot prepared : WeatherSnapshot) : Prop where
  links : NoLinks prepared
  station : prepared.station = snapshot.station
  stale : prepared.stale = snapshot.stale
  debug : prepared.debug = snapshot.debug

/-- A call of the registry. -/
def Call.Registers (c : Call) : Prop := ∃ url, c = .input (.register url)

/-- The program calls the registry alone and ends with such a value. -/
abbrev RegistersAndReturns {α : Type} (Q : α → Prop) (p : Program α) : Prop :=
  Always Call.Registers (fun result => ∃ a, result = .ok a ∧ Q a) p.run

section Rules

variable {α β : Type} {Q : α → Prop} {Q' : β → Prop}

theorem registers_pure {a : α} (h : Q a) : RegistersAndReturns Q (pure a) := ⟨a, rfl, h⟩

theorem registers_bind {p : Program α} {f : α → Program β} (hp : RegistersAndReturns Q p)
    (hf : ∀ a, Q a → RegistersAndReturns Q' (f a)) : RegistersAndReturns Q' (p >>= f) := by
  refine always_bindExcept hp (fun a hresult => ?_) fun e hresult => ?_
  · obtain ⟨a', heq, ha⟩ := hresult
    cases heq
    exact hf a ha
  · obtain ⟨a, heq, -⟩ := hresult
    cases heq

theorem registers_register (url : String) :
    RegistersAndReturns (fun _ => True) (ask (.register url)) :=
  ⟨⟨url, rfl⟩, fun reply => ⟨reply, rfl, trivial⟩⟩

end Rules

theorem registers_prepareAlert (alert : WeatherAlert) :
    RegistersAndReturns AlertWithoutLinks (prepareAlert alert) := by
  unfold prepareAlert
  split
  next hicon => exact registers_pure ⟨rfl, hicon⟩
  next iconUrl _ =>
    refine registers_bind (registers_register iconUrl) fun id _ => ?_
    exact registers_pure ⟨rfl, rfl⟩

theorem registers_prepareAlerts (alerts : List WeatherAlert) :
    RegistersAndReturns (fun prepared => ∀ alert ∈ prepared, AlertWithoutLinks alert)
      (prepareAlerts alerts) := by
  induction alerts with
  | nil => exact registers_pure fun alert hmem => absurd hmem List.not_mem_nil
  | cons alert alerts ih =>
    refine registers_bind (registers_prepareAlert alert) fun prepared hprepared => ?_
    refine registers_bind ih fun rest hrest => registers_pure fun alert hmem => ?_
    obtain rfl | hmem := List.mem_cons.1 hmem
    · exact hprepared
    · exact hrest alert hmem

theorem registers_prepareRadar (radar : RadarInfo) :
    RegistersAndReturns RadarWithoutLinks (prepareRadar radar) := by
  unfold prepareRadar
  split
  next himage => exact registers_pure ⟨himage, rfl⟩
  next imageUrl _ =>
    refine registers_bind (registers_register imageUrl) fun id _ => ?_
    exact registers_pure ⟨rfl, rfl⟩

theorem registers_prepareSome {α : Type} {prepare : α → Program α} {Q : α → Prop}
    (h : ∀ a, RegistersAndReturns Q (prepare a)) (found : Option α) :
    RegistersAndReturns (fun prepared => ∀ a, prepared = some a → Q a)
      (prepareSome prepare found) := by
  cases found with
  | none => exact registers_pure fun a ha => nomatch ha
  | some a =>
    refine registers_bind (h a) fun prepared hprepared => registers_pure fun b hb => ?_
    cases hb
    exact hprepared

/-- The links of a snapshot are taken out, whatever the registry answers. -/
theorem always_prepareSnapshotResources (snapshot : WeatherSnapshot) :
    RegistersAndReturns (Prepares snapshot) (prepareSnapshotResources snapshot) := by
  have hreal (real : ObservedWeather) : RegistersAndReturns
      (fun prepared : ObservedWeather => ∀ alert ∈ prepared.alerts, AlertWithoutLinks alert)
      (ObservedWeather.mk <$> prepareAlerts real.alerts) :=
    registers_bind (registers_prepareAlerts real.alerts) fun _ h => registers_pure h
  refine registers_bind (registers_prepareSome registers_prepareRadar _) fun radar hradar => ?_
  refine registers_bind (registers_prepareSome hreal _) fun real hreal => ?_
  refine registers_pure ⟨⟨fun alert hmem => ?_, hradar⟩, rfl, rfl, rfl⟩
  cases real with
  | none => exact absurd hmem List.not_mem_nil
  | some real => exact hreal real rfl alert hmem

end WeatherApp.Weather
