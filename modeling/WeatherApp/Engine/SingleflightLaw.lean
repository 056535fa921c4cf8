import WeatherApp.Engine.Singleflight
import WeatherApp.Foundation.KeyedMap
import WeatherApp.Foundation.Run

/-!
# The protocol of shared flights

Any number of callers join flights, initialize them, are cancelled and leave, in any order. Each
caller holds a lease on its flight; the map counts the leases of a flight and forgets it with the
last one.

## Main definitions

* `FlightRun`: the flights with the leases of their callers.
* `FlightInv`: the invariant of all runs.

## Main results

* `singleflight_protocol`: what holds in every state reached.
-/

namespace WeatherApp

/-- Where the caller that holds a lease is in `run`. -/
inductive CallPhase (ρ : Type) where
  /-- It has joined the flight and waits for the cell. -/
  | waiting
  /-- It initializes the cell. -/
  | initializing
  /-- It was cancelled while it initialized the cell, and still holds the lease. -/
  | cancelled
  /-- It has the result, and still holds the lease. -/
  | resolved (result : ρ)

/-- `FlightLease`. -/
structure Lease (κ ρ : Type) where
  key : κ
  flight : ℕ
  phase : CallPhase ρ

/-- The caller initializes the cell of a flight. -/
def CallPhase.isInitializing {ρ : Type} : CallPhase ρ → Bool
  | initializing => true
  | _ => false

/-- The result of a caller that has one. -/
def CallPhase.result {ρ : Type} : CallPhase ρ → Option ρ
  | resolved result => some result
  | _ => none

/-- The flights, the leases of the callers by their numbers, and what callers have returned. -/
structure FlightRun (κ ρ : Type) where
  map : Singleflight κ fun _ => ρ
  leases : KeyedMap ℕ (Lease κ ρ)
  returned : List (κ × ℕ × ρ)

/-- A step of a caller. -/
inductive FlightLabel (κ ρ : Type) where
  /-- A new caller joins the flight of a key. -/
  | join (caller : ℕ) (key : κ)
  /-- A waiting caller finds the cell initialized, or starts to initialize it. -/
  | poll (caller : ℕ)
  /-- The work of a caller ends, with a value or an error. -/
  | finish (caller : ℕ) (result : ρ)
  /-- A caller is cancelled while its work runs. -/
  | abandon (caller : ℕ)
  /-- A caller drops its lease: it returns, or is cancelled. -/
  | drop (caller : ℕ)

namespace FlightRun

variable {κ ρ : Type} [DecidableEq κ]

/-- Write the lease of a caller. -/
def setPhase (s : FlightRun κ ρ) (caller : ℕ) (lease : Lease κ ρ) (phase : CallPhase ρ) :
    FlightRun κ ρ := { s with leases := s.leases.set caller { lease with phase } }

/-- One step. -/
def step (s : FlightRun κ ρ) : FlightLabel κ ρ → Option (FlightRun κ ρ)
  | .join caller key =>
    if (s.leases.get caller).isSome then none
    else
      some { s with
        map := (s.map.join key).2
        leases := s.leases.set caller ⟨key, (s.map.join key).1, .waiting⟩ }
  | .poll caller =>
    match s.leases.get caller with
    | some ⟨key, flight, .waiting⟩ =>
      (s.map.enter key flight).map fun (found, map) =>
        { s with map }.setPhase caller ⟨key, flight, .waiting⟩
          (found.elim .initializing .resolved)
    | _ => none
  | .finish caller result =>
    match s.leases.get caller with
    | some ⟨key, flight, .initializing⟩ =>
      some ({ s with map := (s.map.complete key flight result).2 }.setPhase caller
        ⟨key, flight, .initializing⟩ (.resolved (s.map.complete key flight result).1))
    | _ => none
  | .abandon caller =>
    match s.leases.get caller with
    | some ⟨key, flight, .initializing⟩ =>
      some ({ s with map := s.map.abandon key flight }.setPhase caller
        ⟨key, flight, .initializing⟩ .cancelled)
    | _ => none
  | .drop caller =>
    match s.leases.get caller with
    | some lease =>
      if lease.phase.isInitializing then none
      else
        some {
          map := s.map.leave lease.key lease.flight
          leases := s.leases.remove caller
          returned := s.returned ++
            lease.phase.result.toList.map fun result => (lease.key, lease.flight, result) }
    | none => none

/-- The number of leases on a flight. -/
def holders (s : FlightRun κ ρ) (key : κ) (flight : ℕ) : ℕ :=
  s.leases.total fun lease => if lease.key = key ∧ lease.flight = flight then 1 else 0

/-- The number of callers that initialize a flight. -/
def initializers (s : FlightRun κ ρ) (key : κ) (flight : ℕ) : ℕ :=
  s.leases.total fun lease =>
    if lease.key = key ∧ lease.flight = flight ∧ lease.phase.isInitializing then 1 else 0

end FlightRun

/-- The callers of a `Singleflight`, under any interleaving. -/
def flightSystem (κ ρ : Type) [DecidableEq κ] :
    LabelledSystem (FlightRun κ ρ) (FlightLabel κ ρ) where
  init s := s = ⟨.default, .empty, []⟩
  step s l s' := s.step l = some s'

section Law

variable {κ ρ : Type} [DecidableEq κ] {s s' : FlightRun κ ρ}

/-- The map counts the leases of each flight, every lease is on the flight of the map, and the
cells know their initializers and results. -/
structure FlightInv (s : FlightRun κ ρ) : Prop where
  counted : ∀ key entry, s.map.entries key = some entry →
    entry.participants = s.holders key entry.flight ∧ 0 < entry.participants ∧
      entry.flight < s.map.started key
  current : ∀ caller lease, s.leases.get caller = some lease →
    ∃ entry, s.map.entries lease.key = some entry ∧ entry.flight = lease.flight
  permit : ∀ key flight,
    s.initializers key flight = if (s.map.flights key flight).initializing then 1 else 0
  uninitialized : ∀ key flight, (s.map.flights key flight).initializing = true →
    s.map.result key flight = none
  unused : ∀ key flight, s.map.started key ≤ flight → s.map.flights key flight = .new
  resolved : ∀ caller lease result, s.leases.get caller = some lease →
    lease.phase.result = some result → s.map.result lease.key lease.flight = some result
  returned : ∀ key flight result, (key, flight, result) ∈ s.returned →
    s.map.result key flight = some result

theorem flightInv_init : FlightInv (⟨.default, .empty, []⟩ : FlightRun κ ρ) where
  counted _ _ h := nomatch h
  current _ _ h := nomatch h
  permit _ _ := rfl
  uninitialized _ _ h := nomatch h
  unused _ _ _ := rfl
  resolved _ _ _ h := nomatch h
  returned _ _ _ h := nomatch h

/-! ### Changing a cell -/

theorem flights_setFlight (map : Singleflight κ fun _ => ρ) (key other : κ) (flight number : ℕ)
    (cell : Flight ρ) :
    (map.setFlight key flight cell).flights other number =
      if other = key ∧ number = flight then cell else map.flights other number := by
  by_cases hkey : other = key
  · subst hkey
    by_cases hnumber : number = flight
    · simp [Singleflight.setFlight, hnumber]
    · simp [Singleflight.setFlight, hnumber]
  · simp [Singleflight.setFlight, hkey]

/-- A change of phase keeps the leases on each flight. -/
theorem holders_setPhase {caller : ℕ} {lease : Lease κ ρ}
    (hget : s.leases.get caller = some lease) (phase : CallPhase ρ) (key : κ) (flight : ℕ) :
    (s.setPhase caller lease phase).holders key flight = s.holders key flight :=
  Nat.add_right_cancel (KeyedMap.total_set_of_get_some _ hget _)

/-- A change of phase changes the initializers of its flight only. -/
theorem initializers_setPhase {caller : ℕ} {lease : Lease κ ρ}
    (hget : s.leases.get caller = some lease) (phase : CallPhase ρ) (key : κ) (flight : ℕ) :
    (s.setPhase caller lease phase).initializers key flight +
        (if lease.key = key ∧ lease.flight = flight ∧ lease.phase.isInitializing then 1 else 0) =
      s.initializers key flight +
        if lease.key = key ∧ lease.flight = flight ∧ phase.isInitializing then 1 else 0 :=
  KeyedMap.total_set_of_get_some _ hget _

/-- A caller moves to another phase and writes the cell of its flight. -/
theorem FlightInv.setPhase (hinv : FlightInv s) {caller : ℕ} {lease : Lease κ ρ}
    (hget : s.leases.get caller = some lease) {cell : Flight ρ} {phase : CallPhase ρ}
    (hkept : ∀ result, s.map.result lease.key lease.flight = some result →
      cell.result = some result)
    (hresult : ∀ result, phase.result = some result → cell.result = some result)
    (hpermit : (if cell.initializing then 1 else 0) +
        (if lease.phase.isInitializing then 1 else 0) =
      (if (s.map.flights lease.key lease.flight).initializing then 1 else 0) +
        (if phase.isInitializing then 1 else 0))
    (huninitialized : cell.initializing = true → cell.result = none) :
    FlightInv ({ s with map := s.map.setFlight lease.key lease.flight cell }.setPhase caller lease
      phase) := by
  obtain ⟨entry, hentry, hflight⟩ := hinv.current caller lease hget
  have hold : ∀ key flight result, s.map.result key flight = some result →
      (s.map.setFlight lease.key lease.flight cell).result key flight = some result := by
    intro key flight result h
    rw [Singleflight.result, flights_setFlight]
    split_ifs with hsame
    · exact hkept result (hsame.1 ▸ hsame.2 ▸ h)
    · exact h
  refine ⟨fun key entry h => ?_, fun other otherLease h => ?_, fun key flight => ?_,
    fun key flight h => ?_, fun key flight h => ?_, fun other otherLease result h hresolved => ?_,
    fun key flight result h => hold key flight result (hinv.returned key flight result h)⟩
  · have hcounted := hinv.counted key entry h
    rw [← holders_setPhase hget phase] at hcounted
    exact hcounted
  · rw [FlightRun.setPhase, KeyedMap.get_set] at h
    split_ifs at h
    · cases h
      exact ⟨entry, hentry, hflight⟩
    · exact hinv.current other otherLease h
  · have hcount := initializers_setPhase hget phase key flight
    have hbefore := hinv.permit key flight
    have hafter := flights_setFlight s.map lease.key key lease.flight flight cell
    change (s.setPhase caller lease phase).initializers key flight =
      if ((s.map.setFlight lease.key lease.flight cell).flights key flight).initializing then 1
      else 0
    rw [hafter]
    by_cases hsame : key = lease.key ∧ flight = lease.flight
    · obtain ⟨rfl, rfl⟩ := hsame
      simp only [true_and, and_self, if_true] at hcount ⊢
      omega
    · have hother : ∀ p : Prop, ¬ (lease.key = key ∧ lease.flight = flight ∧ p) :=
        fun p h => hsame ⟨h.1.symm, h.2.1.symm⟩
      rw [if_neg (hother _), if_neg (hother _)] at hcount
      rw [if_neg hsame]
      omega
  · change ((s.map.setFlight lease.key lease.flight cell).flights key flight).initializing = true
      at h
    change ((s.map.setFlight lease.key lease.flight cell).flights key flight).result = none
    rw [flights_setFlight] at h ⊢
    split_ifs at h ⊢
    · exact huninitialized h
    · exact hinv.uninitialized key flight h
  · change (s.map.setFlight lease.key lease.flight cell).flights key flight = .new
    rw [flights_setFlight, if_neg]
    · exact hinv.unused key flight h
    · rintro ⟨rfl, rfl⟩
      have hstarted := (hinv.counted _ entry hentry).2.2
      rw [hflight] at hstarted
      exact absurd hstarted (not_lt.2 h)
  · rw [FlightRun.setPhase, KeyedMap.get_set] at h
    split_ifs at h
    · cases h
      change ((s.map.setFlight lease.key lease.flight cell).flights lease.key lease.flight).result =
        some result
      rw [flights_setFlight, if_pos ⟨rfl, rfl⟩]
      exact hresult result hresolved
    · exact hold _ _ result (hinv.resolved other otherLease result h hresolved)

/-! ### Joining and leaving -/

theorem holders_eq_zero {key : κ} {flight : ℕ}
    (h : ∀ caller lease, s.leases.get caller = some lease →
      ¬ (lease.key = key ∧ lease.flight = flight)) : s.holders key flight = 0 :=
  KeyedMap.total_eq_zero fun caller lease hget => if_neg (h caller lease hget)

/-- A lease on a flight counts. -/
theorem holders_pos {caller : ℕ} {lease : Lease κ ρ} (hget : s.leases.get caller = some lease) :
    0 < s.holders lease.key lease.flight := by
  have hle := KeyedMap.le_total
    (fun other : Lease κ ρ => if other.key = lease.key ∧ other.flight = lease.flight then 1 else 0)
    hget
  rw [if_pos ⟨rfl, rfl⟩] at hle
  exact hle

/-- What `join` does to the map: it counts one more lease on the flight of the key, which is the
next one if there is none. -/
theorem join_cases (map : Singleflight κ fun _ => ρ) (key : κ) :
    (∃ entry, map.entries key = some entry ∧ map.join key =
      (entry.flight, { map with
        entries := Function.update map.entries key
          (some { entry with participants := entry.participants + 1 }) })) ∨
      map.entries key = none ∧ map.join key =
        (map.started key, { map with
          entries := Function.update map.entries key (some ⟨map.started key, 1⟩)
          started := Function.update map.started key (map.started key + 1) }) := by
  cases hentry : map.entries key with
  | some entry => exact .inl ⟨entry, rfl, by simp only [Singleflight.join, hentry]⟩
  | none => exact .inr ⟨rfl, by simp only [Singleflight.join, hentry]⟩

theorem FlightInv.join (hinv : FlightInv s) {caller : ℕ} (hfresh : s.leases.get caller = none)
    (key : κ) :
    FlightInv { s with
      map := (s.map.join key).2
      leases := s.leases.set caller ⟨key, (s.map.join key).1, .waiting⟩ } := by
  set lease : Lease κ ρ := ⟨key, (s.map.join key).1, .waiting⟩ with hlease
  -- the flight in the map is the one joined, and its participants are one more than its holders
  have hjoined : ∃ entry, (s.map.join key).2.entries = Function.update s.map.entries key (some entry)
      ∧ entry.flight = lease.flight ∧
      entry.participants = s.holders key entry.flight + 1 ∧
      entry.flight < (s.map.join key).2.started key ∧
      (∀ other, s.map.entries key = some other → other.flight = entry.flight) := by
    rcases join_cases s.map key with ⟨entry, hentry, hjoin⟩ | ⟨hnone, hjoin⟩
    · obtain ⟨hcount, -, hstarted⟩ := hinv.counted key entry hentry
      refine ⟨{ entry with participants := entry.participants + 1 }, ?_, ?_, ?_, ?_, ?_⟩
      · rw [hjoin]
      · rw [hlease, hjoin]
      · rw [hcount]
      · rw [hjoin]
        exact hstarted
      · rintro other hother
        rw [hentry] at hother
        cases hother
        rfl
    · refine ⟨⟨s.map.started key, 1⟩, ?_, ?_, ?_, ?_, fun other h => by cases hnone.symm.trans h⟩
      · rw [hjoin]
      · rw [hlease, hjoin]
      · rw [holders_eq_zero fun other otherLease hget h => ?_]
        obtain ⟨entry, hentry, -⟩ := hinv.current other otherLease hget
        rw [h.1, hnone] at hentry
        cases hentry
      · rw [hjoin]
        simp only [Function.update_self, Nat.lt_succ_self]
  have hflights : (s.map.join key).2.flights = s.map.flights := by
    rcases join_cases s.map key with ⟨entry, -, hjoin⟩ | ⟨-, hjoin⟩ <;> rw [hjoin]
  have hstarted : ∀ other, s.map.started other ≤ (s.map.join key).2.started other := by
    intro other
    rcases join_cases s.map key with ⟨entry, -, hjoin⟩ | ⟨-, hjoin⟩
    · rw [hjoin]
    · rw [hjoin]
      by_cases hother : other = key
      · simp only [hother, Function.update_self, Nat.le_succ]
      · simp only [Function.update_of_ne hother, le_refl]
  obtain ⟨entry, hentries, hflight, hcount, hbound, hsame⟩ := hjoined
  have hresult : ∀ other number, (s.map.join key).2.result other number =
      s.map.result other number := Singleflight.result_join s.map key
  refine ⟨fun other otherEntry h => ?_, fun other otherLease h => ?_, fun other number => ?_,
    fun other number h => ?_, fun other number h => ?_, fun other otherLease result h hresolved => ?_,
    fun other number result h => ?_⟩
  · have hholders := KeyedMap.total_set_of_get_none (fun l : Lease κ ρ =>
      if l.key = other ∧ l.flight = otherEntry.flight then 1 else 0) hfresh lease
    change otherEntry.participants = KeyedMap.total _ _ ∧ _ ∧ _
    rw [hholders]
    rw [hentries] at h
    by_cases hother : other = key
    · subst hother
      rw [Function.update_self, Option.some.injEq] at h
      subst h
      rw [if_pos ⟨rfl, hflight.symm⟩]
      exact ⟨hcount, hcount ▸ Nat.succ_pos _, hbound⟩
    · rw [Function.update_of_ne hother] at h
      rw [if_neg fun hsame => hother hsame.1.symm]
      obtain ⟨hcounted, hpos, hold⟩ := hinv.counted other otherEntry h
      exact ⟨hcounted, hpos, hold.trans_le (hstarted other)⟩
  · rw [KeyedMap.get_set] at h
    split_ifs at h
    · cases h
      exact ⟨entry, by rw [hentries, Function.update_self], hflight⟩
    · obtain ⟨otherEntry, hother, hnumber⟩ := hinv.current other otherLease h
      by_cases hkey : otherLease.key = key
      · refine ⟨entry, by rw [hentries, hkey, Function.update_self], ?_⟩
        rw [← hsame otherEntry (hkey ▸ hother), hnumber]
      · exact ⟨otherEntry, by rw [hentries, Function.update_of_ne hkey, hother], hnumber⟩
  · have hinitializers := KeyedMap.total_set_of_get_none (fun l : Lease κ ρ =>
      if l.key = other ∧ l.flight = number ∧ l.phase.isInitializing then 1 else 0) hfresh lease
    rw [if_neg (fun h => by cases h.2.2), Nat.add_zero] at hinitializers
    change KeyedMap.total _ _ = _
    rw [hinitializers, hflights]
    exact hinv.permit other number
  · rw [hflights] at h
    rw [hresult]
    exact hinv.uninitialized other number h
  · rw [hflights]
    exact hinv.unused other number ((hstarted other).trans h)
  · rw [KeyedMap.get_set] at h
    rw [hresult]
    split_ifs at h
    · cases h
      cases hresolved
    · exact hinv.resolved other otherLease result h hresolved
  · rw [hresult]
    exact hinv.returned other number result h

/-- What `leave` does to the map when it holds the flight of the lease: it counts one lease less
and forgets the flight with the last one. -/
theorem leave_of_current {map : Singleflight κ fun _ => ρ} {key : κ} {entry : FlightEntry}
    (hentry : map.entries key = some entry) :
    map.leave key entry.flight = { map with
      entries := Function.update map.entries key
        (if entry.participants - 1 = 0 then none
          else some { entry with participants := entry.participants - 1 }) } := by
  simp only [Singleflight.leave, hentry, if_true]

theorem FlightInv.drop (hinv : FlightInv s) {caller : ℕ} {lease : Lease κ ρ}
    (hget : s.leases.get caller = some lease) (hdone : lease.phase.isInitializing = false) :
    FlightInv {
      map := s.map.leave lease.key lease.flight
      leases := s.leases.remove caller
      returned := s.returned ++
        lease.phase.result.toList.map fun result => (lease.key, lease.flight, result) } := by
  obtain ⟨entry, hentry, hflight⟩ := hinv.current caller lease hget
  obtain ⟨hcount, hpos, hbound⟩ := hinv.counted lease.key entry hentry
  have hholders := KeyedMap.total_remove (fun l : Lease κ ρ =>
    if l.key = lease.key ∧ l.flight = entry.flight then 1 else 0) hget
  rw [if_pos ⟨rfl, hflight.symm⟩] at hholders
  change _ = s.holders lease.key entry.flight at hholders
  have hresult : ∀ other number, (s.map.leave lease.key lease.flight).result other number =
      s.map.result other number := Singleflight.result_leave s.map lease.key
        |> fun h other => h other lease.flight
  have hleave := leave_of_current hentry
  rw [hflight] at hleave
  refine ⟨fun other otherEntry h => ?_, fun other otherLease h => ?_, fun other number => ?_,
    fun other number h => ?_, fun other number h => ?_, fun other otherLease result h hresolved => ?_,
    fun other number result h => ?_⟩
  · rw [hleave] at h ⊢
    change otherEntry.participants = KeyedMap.total _ _ ∧ _ ∧ otherEntry.flight < s.map.started other
    by_cases hother : other = lease.key
    · subst hother
      simp only [Function.update_self, Option.ite_none_left_eq_some, Option.some.injEq] at h
      obtain ⟨hmore, rfl⟩ := h
      rw [← hflight]
      refine ⟨?_, Nat.pos_of_ne_zero hmore, hbound⟩
      dsimp only
      omega
    · simp only [Function.update_of_ne hother] at h
      obtain ⟨hcounted, hpositive, hold⟩ := hinv.counted other otherEntry h
      have hremoved := KeyedMap.total_remove (fun l : Lease κ ρ =>
        if l.key = other ∧ l.flight = otherEntry.flight then 1 else 0) hget
      rw [if_neg fun hsame => hother hsame.1.symm, Nat.add_zero] at hremoved
      exact ⟨hcounted.trans hremoved.symm, hpositive, hold⟩
  · change (s.leases.remove caller).get other = some otherLease at h
    have hne : otherLease.key = lease.key → entry.participants - 1 ≠ 0 := by
      -- another lease of the key is on the same flight and keeps its count positive
      intro hkey
      obtain ⟨otherEntry, hother, hnumber⟩ := hinv.current other otherLease
        (KeyedMap.get_of_get_remove h)
      rw [hkey, hentry] at hother
      cases hother
      have hcounted := KeyedMap.le_total (fun l : Lease κ ρ =>
        if l.key = lease.key ∧ l.flight = entry.flight then 1 else 0) h
      rw [if_pos ⟨hkey, hnumber.symm⟩] at hcounted
      omega
    obtain ⟨otherEntry, hother, hnumber⟩ := hinv.current other otherLease
      (KeyedMap.get_of_get_remove h)
    rw [hleave]
    by_cases hkey : otherLease.key = lease.key
    · rw [hkey, hentry] at hother
      cases hother
      refine ⟨⟨lease.flight, entry.participants - 1⟩, ?_, hflight.symm.trans hnumber⟩
      simp only [hkey, Function.update_self, if_neg (hne hkey)]
    · exact ⟨otherEntry, by simp only [Function.update_of_ne hkey, hother], hnumber⟩
  · have hremoved := KeyedMap.total_remove (fun l : Lease κ ρ =>
      if l.key = other ∧ l.flight = number ∧ l.phase.isInitializing then 1 else 0) hget
    rw [hdone, if_neg (fun h => nomatch h.2.2), Nat.add_zero] at hremoved
    rw [hleave]
    exact hremoved.trans (hinv.permit other number)
  · rw [hresult]
    rw [hleave] at h
    exact hinv.uninitialized other number h
  · rw [hleave] at h ⊢
    exact hinv.unused other number h
  · rw [hresult]
    exact hinv.resolved other otherLease result (KeyedMap.get_of_get_remove h) hresolved
  · rw [hresult]
    rcases List.mem_append.1 h with h | h
    · exact hinv.returned other number result h
    · obtain ⟨found, hfound, heq⟩ := List.mem_map.1 h
      cases heq
      exact hinv.resolved caller lease result hget (Option.mem_toList.1 hfound)

/-! ### All steps -/

/-- Only the participant that a cell knows as its initializer initializes it. -/
theorem FlightInv.initializing (hinv : FlightInv s) {caller : ℕ} {lease : Lease κ ρ}
    (hget : s.leases.get caller = some lease) (hphase : lease.phase.isInitializing = true) :
    (s.map.flights lease.key lease.flight).initializing = true := by
  have hle := KeyedMap.le_total (fun l : Lease κ ρ =>
    if l.key = lease.key ∧ l.flight = lease.flight ∧ l.phase.isInitializing then 1 else 0) hget
  rw [if_pos ⟨rfl, rfl, hphase⟩] at hle
  have hpermit := hinv.permit lease.key lease.flight
  by_contra hidle
  rw [if_neg hidle] at hpermit
  exact absurd (hpermit ▸ hle : 1 ≤ 0) (by omega)

omit [DecidableEq κ] in
theorem setFlight_self [DecidableEq κ] (map : Singleflight κ fun _ => ρ) (key : κ) (flight : ℕ) :
    map.setFlight key flight (map.flights key flight) = map := by
  rw [Singleflight.setFlight, Function.update_eq_self, Function.update_eq_self]

theorem flightInv_step (hinv : FlightInv s) {l : FlightLabel κ ρ} (h : s.step l = some s') :
    FlightInv s' := by
  cases l with
  | join caller key =>
    simp only [FlightRun.step, Option.ite_none_left_eq_some, Option.some.injEq] at h
    obtain ⟨hfresh, rfl⟩ := h
    exact hinv.join (Option.not_isSome_iff_eq_none.1 hfresh) key
  | poll caller =>
    simp only [FlightRun.step] at h
    split at h
    next key flight hget =>
      obtain ⟨⟨found, map⟩, henter, rfl⟩ := Option.map_eq_some_iff.1 h
      rw [Singleflight.enter] at henter
      cases hcell : (s.map.flights key flight).result with
      | some result =>
        simp only [hcell, Option.some.injEq, Prod.mk.injEq] at henter
        obtain ⟨rfl, rfl⟩ := henter
        have hafter : FlightInv ({ s with
            map := s.map.setFlight key flight (s.map.flights key flight) }.setPhase caller
              ⟨key, flight, .waiting⟩ (.resolved result)) :=
          hinv.setPhase hget (fun _ h => h) (fun _ h => h ▸ hcell) rfl
            (hinv.uninitialized key flight)
        rw [setFlight_self] at hafter
        exact hafter
      | none =>
        simp only [hcell, Option.ite_none_left_eq_some, Option.some.injEq,
          Prod.mk.injEq] at henter
        obtain ⟨hidle, rfl, rfl⟩ := henter
        refine hinv.setPhase hget (fun _ h => by cases hcell.symm.trans h) (fun _ h => by cases h)
          ?_ (fun _ => rfl)
        rw [if_neg hidle]
        rfl
    next => cases h
  | finish caller result =>
    simp only [FlightRun.step] at h
    split at h
    next key flight hget =>
      cases h
      have hbusy := hinv.initializing hget rfl
      have hcell : (s.map.flights key flight).result = none := hinv.uninitialized key flight hbusy
      rw [Singleflight.complete, hcell]
      refine hinv.setPhase hget (fun _ h => by cases hcell.symm.trans h) (fun _ h => h) ?_
        (fun h => by cases h)
      rw [if_pos hbusy]
      rfl
    next => cases h
  | abandon caller =>
    simp only [FlightRun.step] at h
    split at h
    next key flight hget =>
      cases h
      refine hinv.setPhase hget (fun _ h => h) (fun _ h => by cases h) ?_ (fun h => by cases h)
      rw [if_pos (hinv.initializing hget rfl)]
      rfl
    next => cases h
  | drop caller =>
    simp only [FlightRun.step] at h
    split at h
    next lease hget =>
      simp only [Option.ite_none_left_eq_some, Option.some.injEq, Bool.not_eq_true] at h
      obtain ⟨hdone, rfl⟩ := h
      exact hinv.drop hget hdone
    next => cases h

theorem flightInv_reachable (h : (flightSystem κ ρ).Reachable s) : FlightInv s :=
  h.invariant (P := FlightInv) (fun _ hinit => hinit ▸ flightInv_init)
    fun _ _ _ hinv hstep => flightInv_step hinv hstep

/-! ## The protocol -/

/-- The flight has been started and its last lease was dropped. -/
def FlightRun.Retired (s : FlightRun κ ρ) (key : κ) (flight : ℕ) : Prop :=
  flight < s.map.started key ∧ s.holders key flight = 0

/-- A lease on a flight is on the one in the map. -/
theorem FlightInv.entry_of_holders (hinv : FlightInv s) {key : κ} {flight : ℕ}
    (h : 0 < s.holders key flight) :
    ∃ entry, s.map.entries key = some entry ∧ entry.flight = flight := by
  by_contra hnone
  refine h.ne' (holders_eq_zero fun caller lease hget hsame => hnone ?_)
  obtain ⟨entry, hentry, hflight⟩ := hinv.current caller lease hget
  exact ⟨entry, hsame.1 ▸ hentry, hflight.trans hsame.2⟩

/-- A call joins a flight that is not retired, with an empty cell when no call is on the key. -/
theorem FlightInv.join_fresh (hinv : FlightInv s) (key : κ) :
    ¬ s.Retired key (s.map.join key).1 ∧
      ((∀ flight, s.holders key flight = 0) →
        (s.map.join key).2.flights key (s.map.join key).1 = .new) := by
  rcases join_cases s.map key with ⟨entry, hentry, hjoin⟩ | ⟨hnone, hjoin⟩
  · obtain ⟨hcount, hpos, -⟩ := hinv.counted key entry hentry
    rw [hjoin]
    refine ⟨fun hretired => ?_, fun hidle => ?_⟩
    · have hzero := hretired.2
      dsimp only at hzero
      omega
    · have hzero := hidle entry.flight
      omega
  · rw [hjoin]
    exact ⟨fun hretired => lt_irrefl _ hretired.1, fun _ => hinv.unused key _ le_rfl⟩

/-- A retired flight stays retired: no call ever joins it again. -/
theorem FlightInv.retired_step (hinv : FlightInv s) {l : FlightLabel κ ρ}
    (h : s.step l = some s') {key : κ} {flight : ℕ} (hretired : s.Retired key flight) :
    s'.Retired key flight := by
  have hphase : ∀ {caller lease phase} {map : Singleflight κ fun _ => ρ},
      s.leases.get caller = some lease → map.started = s.map.started →
      ({ s with map }.setPhase caller lease phase).Retired key flight := by
    intro caller lease phase map hget hstarted
    refine ⟨?_, (holders_setPhase hget phase key flight).trans hretired.2⟩
    change flight < map.started key
    rw [hstarted]
    exact hretired.1
  cases l with
  | join caller other =>
    simp only [FlightRun.step, Option.ite_none_left_eq_some, Option.some.injEq] at h
    obtain ⟨hfresh, rfl⟩ := h
    have hholders := KeyedMap.total_set_of_get_none (fun l : Lease κ ρ =>
      if l.key = key ∧ l.flight = flight then 1 else 0) (Option.not_isSome_iff_eq_none.1 hfresh)
      ⟨other, (s.map.join other).1, .waiting⟩
    refine ⟨?_, ?_⟩
    · rcases join_cases s.map other with ⟨entry, -, hjoin⟩ | ⟨-, hjoin⟩
      · rw [hjoin]
        exact hretired.1
      · rw [hjoin]
        by_cases hkey : key = other
        · subst hkey
          simp only [Function.update_self]
          exact hretired.1.trans (Nat.lt_succ_self _)
        · simp only [Function.update_of_ne hkey]
          exact hretired.1
    · refine hholders.trans ?_
      rw [if_neg]
      · exact hretired.2
      · rintro ⟨hkey, hflight⟩
        dsimp only at hkey hflight
        subst hkey
        exact (hinv.join_fresh other).1 (hflight ▸ hretired)
  | poll caller =>
    simp only [FlightRun.step] at h
    split at h
    next number hget =>
      obtain ⟨⟨found, map⟩, henter, rfl⟩ := Option.map_eq_some_iff.1 h
      refine hphase hget ?_
      rw [Singleflight.enter] at henter
      split at henter
      · cases henter
        rfl
      · split_ifs at henter
        cases henter
        rfl
    next => cases h
  | finish caller result =>
    simp only [FlightRun.step] at h
    split at h
    next number hget =>
      cases h
      refine hphase hget ?_
      rw [Singleflight.complete]
      split <;> rfl
    next => cases h
  | abandon caller =>
    simp only [FlightRun.step] at h
    split at h
    next hget =>
      cases h
      exact hphase hget rfl
    next => cases h
  | drop caller =>
    simp only [FlightRun.step] at h
    split at h
    next lease hget =>
      simp only [Option.ite_none_left_eq_some, Option.some.injEq] at h
      obtain ⟨-, rfl⟩ := h
      have hholders := KeyedMap.total_remove (fun l : Lease κ ρ =>
        if l.key = key ∧ l.flight = flight then 1 else 0) hget
      refine ⟨?_, Nat.eq_zero_of_le_zero ?_⟩
      · rw [Singleflight.leave]
        split
        · exact hretired.1
        · dsimp only
          split_ifs <;> exact hretired.1
      · exact (Nat.le_add_right _ _).trans (hholders.trans hretired.2).le
    next => cases h

/-- Dropping a lease keeps the entries of all other flights. -/
theorem entries_leave {map : Singleflight κ fun _ => ρ} {key other : κ} {flight : ℕ}
    {entry : FlightEntry} (hentry : map.entries other = some entry)
    (hne : ¬ (other = key ∧ entry.flight = flight)) :
    (map.leave key flight).entries other = some entry := by
  rw [Singleflight.leave]
  split
  · exact hentry
  next found hfound =>
    dsimp only
    split_ifs with hflight
    · have hkey : other ≠ key := by
        rintro rfl
        rw [hentry] at hfound
        cases hfound
        exact hne ⟨rfl, hflight⟩
      dsimp only
      rw [Function.update_of_ne hkey, hentry]
    · have hkey : other ≠ key := by
        rintro rfl
        rw [hentry] at hfound
        cases hfound
        exact hne ⟨rfl, hflight⟩
      dsimp only
      rw [Function.update_of_ne hkey, hentry]
    · exact hentry

/-- What holds in every state of a run. -/
structure FlightProtocol (s : FlightRun κ ρ) : Prop where
  /-- The map counts the leases of its flights. -/
  counted : ∀ key entry, s.map.entries key = some entry →
    entry.participants = s.holders key entry.flight
  /-- A key is in the map exactly while its flight has a participant, and then leases of the key
  are on that flight. -/
  present : ∀ key, ((s.map.entries key).isSome ↔
      ∃ entry, s.map.entries key = some entry ∧ 0 < entry.participants) ∧
    ∀ flight, 0 < s.holders key flight →
      ∃ entry, s.map.entries key = some entry ∧ entry.flight = flight
  /-- A lease that is dropped finds its flight in the map with a positive count. -/
  neverUnderflows : ∀ caller lease, s.leases.get caller = some lease →
    ∃ entry, s.map.entries lease.key = some entry ∧ entry.flight = lease.flight ∧
      0 < entry.participants
  /-- Dropping a lease keeps the entry of every other flight. -/
  dropKeeps : ∀ caller lease s', s.leases.get caller = some lease →
    s.step (.drop caller) = some s' → ∀ key entry, s.map.entries key = some entry →
      ¬ (key = lease.key ∧ entry.flight = lease.flight) → s'.map.entries key = some entry
  /-- At most one caller initializes a flight. -/
  oneInitializer : ∀ key flight, s.initializers key flight ≤ 1
  /-- The callers of a flight return one result. -/
  oneResult : ∀ key flight result other, (key, flight, result) ∈ s.returned →
    (key, flight, other) ∈ s.returned → result = other
  /-- A call joins no flight whose last lease was dropped, and its flight has an empty cell when
  no call is on the key. -/
  freshWork : ∀ caller key s', s.step (.join caller key) = some s' →
    ∃ flight, s'.leases.get caller = some ⟨key, flight, .waiting⟩ ∧ ¬ s.Retired key flight ∧
      ((∀ other, s.holders key other = 0) → s'.map.flights key flight = .new)
  /-- A flight whose last lease was dropped never has a lease again. -/
  staysRetired : ∀ l s', s.step l = some s' → ∀ key flight, s.Retired key flight →
    s'.Retired key flight

/-- In every state that any interleaving of callers over any keys reaches, the map counts the
leases, callers of a flight share one result, and retired flights are not used again. -/
theorem singleflight_protocol (h : (flightSystem κ ρ).Reachable s) : FlightProtocol s := by
  have hinv := flightInv_reachable h
  refine ⟨fun key entry hentry => (hinv.counted key entry hentry).1, fun key => ⟨?_, ?_⟩,
    fun caller lease hget => ?_, ?_, fun key flight => ?_, ?_, ?_,
    fun _ _ hstep _ _ hretired => hinv.retired_step hstep hretired⟩
  · rw [Option.isSome_iff_exists]
    exact ⟨fun ⟨entry, hentry⟩ => ⟨entry, hentry, (hinv.counted key entry hentry).2.1⟩,
      fun ⟨entry, hentry, _⟩ => ⟨entry, hentry⟩⟩
  · exact fun flight hpos => hinv.entry_of_holders hpos
  · obtain ⟨entry, hentry, hflight⟩ := hinv.current caller lease hget
    exact ⟨entry, hentry, hflight, (hinv.counted _ entry hentry).2.1⟩
  · intro caller lease s' hget hstep key entry hentry hne
    simp only [FlightRun.step, hget, Option.ite_none_left_eq_some, Option.some.injEq] at hstep
    obtain ⟨-, rfl⟩ := hstep
    exact entries_leave hentry hne
  · rw [hinv.permit key flight]
    split_ifs <;> omega
  · intro key flight result other hresult hother
    have hfirst := hinv.returned key flight result hresult
    rw [hinv.returned key flight other hother, Option.some.injEq] at hfirst
    exact hfirst.symm
  · intro caller key s' hstep
    simp only [FlightRun.step, Option.ite_none_left_eq_some, Option.some.injEq] at hstep
    obtain ⟨-, rfl⟩ := hstep
    exact ⟨_, KeyedMap.get_set_self _ _ _, hinv.join_fresh key⟩

end Law

/-- A caller that is cancelled while it works, one that takes over, and a call after both. -/
theorem singleflight_protocol_sampleRun :
    ∃ s, (flightSystem String ℕ).Reachable s ∧
      s.returned = [("Lhasa", 0, 7), ("Lhasa", 1, 9)] ∧ FlightProtocol s := by
  have hrun : (LabelledSystem.perform (FlightRun.step (κ := String) (ρ := ℕ)) (fun _ _ => true)
      ⟨.default, .empty, []⟩
      [.join 0 "Lhasa", .join 1 "Lhasa", .poll 0, .abandon 0, .drop 0, .poll 1, .finish 1 7,
        .drop 1, .join 2 "Lhasa", .poll 2, .finish 2 9, .drop 2]).map (fun s => s.returned) =
      some [("Lhasa", 0, 7), ("Lhasa", 1, 9)] := by
    decide +kernel
  obtain ⟨s, hperform, hend⟩ := Option.map_eq_some_iff.1 hrun
  have hstart : ((flightSystem String ℕ).restrict fun _ _ => True).Reachable
      ⟨.default, .empty, []⟩ := ⟨[], .start rfl⟩
  have hreachable : (flightSystem String ℕ).Reachable s :=
    (LabelledSystem.reachable_of_perform (fun _ _ _ h => h) (fun _ _ _ => trivial) hstart
      hperform).of_restrict
  exact ⟨s, hreachable, hend, singleflight_protocol hreachable⟩

end WeatherApp
