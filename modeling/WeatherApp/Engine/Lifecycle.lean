import Mathlib.Logic.Function.Basic

/-!
# Exit requests

`engine/src/lifecycle.rs`: the exit that the engine was asked for. The first request stays, and
`wait_for_exit` returns it.
-/

namespace WeatherApp

/-- `EngineExit`. -/
inductive EngineExit where
  | shutdown
  | restart
  deriving DecidableEq, Repr

/-- `EngineControl`: the value of its channel. -/
structure EngineControl where
  exit : Option EngineExit
  deriving DecidableEq, Repr

namespace EngineControl

/-- `EngineControl::new`. -/
def new : EngineControl := ⟨none⟩

/-- `EngineControl::request_exit`. -/
def requestExit (control : EngineControl) (exit : EngineExit) : EngineControl :=
  match control.exit with
  | some _ => control
  | none => ⟨some exit⟩

/-- `wait_for_exit`, once it returns. The sender lives as long as the engine. -/
def waitForExit (control : EngineControl) : Option EngineExit := control.exit

theorem exit_requestExit (control : EngineControl) (exit : EngineExit) :
    (control.requestExit exit).exit = control.exit.or (some exit) := by
  obtain ⟨current⟩ := control
  cases current <;> rfl

end EngineControl

end WeatherApp
