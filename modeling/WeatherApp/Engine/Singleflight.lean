import Mathlib.Logic.Function.Basic
import Mathlib.Tactic

/-!
# Shared flights

`engine/src/singleflight.rs`: overlapping calls for one key share one result. A call joins the
flight of its key, initializes it unless another participant does or did, and leaves; the last
participant to leave removes the flight.

A flight is identified by its key and the number of flights that its key had before, in the place
of the address of the shared allocation. The cell of a flight is a `OnceCell`: at most one
participant initializes it at a time, and a cancelled initializer frees it for the next one.

## Main definitions

* `Singleflight`: the map of flights and their cells.
* `join`, `enter`, `complete`, `abandon`, `leave`: the operations on it.

## Main results

* `result_enter`, `result_complete`, `result_abandon`: what each operation does to the results.
-/

namespace WeatherApp

/-- `FlightEntry`: a flight in the map and its participants. -/
structure FlightEntry where
  flight : ℕ
  participants : ℕ
  deriving DecidableEq, Repr

/-- `Flight`: the cell of a flight, and whether a participant is initializing it. -/
structure Flight (ρ : Type) where
  result : Option ρ
  initializing : Bool

/-- `Flight::new`. -/
def Flight.new {ρ : Type} : Flight ρ := ⟨none, false⟩

/-- `Singleflight`: the flights by key. The value of a flight can depend on its key. -/
structure Singleflight (κ : Type) (ρ : κ → Type) where
  /-- The map of `State`. -/
  entries : κ → Option FlightEntry
  /-- The cells of the flights of a key. -/
  flights : (key : κ) → ℕ → Flight (ρ key)
  /-- How many flights a key had so far. -/
  started : κ → ℕ

namespace Singleflight

variable {κ : Type} [DecidableEq κ] {ρ : κ → Type}

/-- `Singleflight::default`. -/
def default : Singleflight κ ρ := ⟨fun _ => none, fun _ _ => Flight.new, fun _ => 0⟩

/-- The result of a flight, once it is initialized. -/
def result (s : Singleflight κ ρ) (key : κ) (flight : ℕ) : Option (ρ key) :=
  (s.flights key flight).result

/-- `join`: enter the map, with a new flight unless the key has one. -/
def join (s : Singleflight κ ρ) (key : κ) : ℕ × Singleflight κ ρ :=
  match s.entries key with
  | some entry =>
    (entry.flight, { s with
      entries := Function.update s.entries key
        (some { entry with participants := entry.participants + 1 }) })
  | none =>
    (s.started key, { s with
      entries := Function.update s.entries key (some ⟨s.started key, 1⟩)
      started := Function.update s.started key (s.started key + 1) })

/-- Write the cell of a flight. -/
def setFlight (s : Singleflight κ ρ) (key : κ) (flight : ℕ) (cell : Flight (ρ key)) :
    Singleflight κ ρ :=
  { s with flights := Function.update s.flights key (Function.update (s.flights key) flight cell) }

/-- The start of `get_or_init`: the result if there is one, or the permit to initialize. While
another participant initializes, the call waits. -/
def enter (s : Singleflight κ ρ) (key : κ) (flight : ℕ) :
    Option (Option (ρ key) × Singleflight κ ρ) :=
  match (s.flights key flight).result with
  | some result => some (some result, s)
  | none =>
    if (s.flights key flight).initializing then none
    else some (none, s.setFlight key flight ⟨none, true⟩)

/-- The end of `get_or_init` in the participant that initialized the flight: a cell is written
once, and the call returns what it holds. -/
def complete (s : Singleflight κ ρ) (key : κ) (flight : ℕ) (result : ρ key) :
    ρ key × Singleflight κ ρ :=
  match (s.flights key flight).result with
  | some found => (found, s)
  | none => (result, s.setFlight key flight ⟨some result, false⟩)

/-- Cancellation of the participant that initializes the flight. -/
def abandon (s : Singleflight κ ρ) (key : κ) (flight : ℕ) : Singleflight κ ρ :=
  s.setFlight key flight ⟨(s.flights key flight).result, false⟩

/-- `drop` of a `FlightLease`: leave the flight, and remove it after the last participant. -/
def leave (s : Singleflight κ ρ) (key : κ) (flight : ℕ) : Singleflight κ ρ :=
  match s.entries key with
  | none => s
  | some entry =>
    if entry.flight = flight then
      let participants := entry.participants - 1
      { s with
        entries := Function.update s.entries key
          (if participants = 0 then none else some { entry with participants }) }
    else s

/-! ## Results -/

omit [DecidableEq κ] in
@[simp] theorem result_default (key : κ) (flight : ℕ) :
    (default : Singleflight κ ρ).result key flight = none := rfl

@[simp] theorem result_join (s : Singleflight κ ρ) (key other : κ) (flight : ℕ) :
    (s.join key).2.result other flight = s.result other flight := by
  unfold join
  split <;> rfl

/-- A write of the cell that keeps its result keeps all results. -/
theorem result_setFlight_of_eq {s : Singleflight κ ρ} {key : κ} {flight : ℕ}
    {cell : Flight (ρ key)} (h : cell.result = s.result key flight) (other : κ) (number : ℕ) :
    (s.setFlight key flight cell).result other number = s.result other number := by
  by_cases hkey : other = key
  · subst hkey
    by_cases hnumber : number = flight
    · subst hnumber
      simpa [Singleflight.result, setFlight] using h
    · simp [Singleflight.result, setFlight, hnumber]
  · simp [Singleflight.result, setFlight, hkey]

/-- Entering a flight reports its result and changes none. -/
theorem result_enter {s s' : Singleflight κ ρ} {key : κ} {flight : ℕ} {result : Option (ρ key)}
    (h : s.enter key flight = some (result, s')) :
    result = s.result key flight ∧
      ∀ other number, s'.result other number = s.result other number := by
  unfold enter at h
  cases hcell : (s.flights key flight).result with
  | some found =>
    simp only [hcell, Option.some.injEq, Prod.mk.injEq] at h
    obtain ⟨rfl, rfl⟩ := h
    exact ⟨hcell.symm, fun _ _ => rfl⟩
  | none =>
    simp only [hcell, Option.ite_none_left_eq_some, Option.some.injEq, Prod.mk.injEq] at h
    obtain ⟨-, rfl, rfl⟩ := h
    exact ⟨hcell.symm, result_setFlight_of_eq hcell.symm⟩

/-- Completing a flight adds its result, unless it has one, and returns what the flight has. -/
theorem result_complete {s s' : Singleflight κ ρ} {key : κ} {flight : ℕ} {result found : ρ key}
    (h : s.complete key flight result = (found, s')) :
    s'.result key flight = some found ∧
      (∀ other number kept, s.result other number = some kept →
        s'.result other number = some kept) ∧
      ∀ other number (added : ρ other), s'.result other number = some added →
        s.result other number = some added ∨
          other = key ∧ number = flight ∧ HEq added result := by
  unfold complete at h
  cases hcell : (s.flights key flight).result with
  | some kept =>
    simp only [hcell, Prod.mk.injEq] at h
    obtain ⟨rfl, rfl⟩ := h
    exact ⟨hcell, fun _ _ _ h => h, fun _ _ _ h => Or.inl h⟩
  | none =>
    simp only [hcell, Prod.mk.injEq] at h
    obtain ⟨rfl, rfl⟩ := h
    refine ⟨by simp [Singleflight.result, setFlight], fun other number kept hkept => ?_,
      fun other number added hadded => ?_⟩
    · by_cases hkey : other = key
      · subst hkey
        have hnumber : number ≠ flight := by
          rintro rfl
          rw [Singleflight.result, hcell] at hkept
          cases hkept
        simpa [setFlight, Singleflight.result, hnumber] using hkept
      · simpa [setFlight, Singleflight.result, hkey] using hkept
    · by_cases hkey : other = key
      · subst hkey
        by_cases hnumber : number = flight
        · subst hnumber
          simp only [setFlight, Singleflight.result, Function.update_self,
            Option.some.injEq] at hadded
          exact Or.inr ⟨rfl, rfl, heq_of_eq hadded.symm⟩
        · exact Or.inl (by simpa [setFlight, Singleflight.result, hnumber] using hadded)
      · exact Or.inl (by simpa [setFlight, Singleflight.result, hkey] using hadded)

@[simp] theorem result_abandon (s : Singleflight κ ρ) (key other : κ) (flight number : ℕ) :
    (s.abandon key flight).result other number = s.result other number := by
  have hkept : (⟨(s.flights key flight).result, false⟩ : Flight (ρ key)).result =
      s.result key flight := rfl
  exact result_setFlight_of_eq hkept other number

@[simp] theorem result_leave (s : Singleflight κ ρ) (key other : κ) (flight number : ℕ) :
    (s.leave key flight).result other number = s.result other number := by
  unfold leave
  split
  · rfl
  · simp only []
    split_ifs <;> rfl

end Singleflight

end WeatherApp
