import Highlighter.Proofs.Line.Repeating

/-!
# What a run keeps

What holds of a run, and goes on holding when a step is counted and when an action is performed,
holds at the end of the line.
-/

namespace Highlighter.Line.Run

variable (holds : Run → Prop) {options : Options} {line : List Char}

theorem performAll_keeps_of_mem {actions : List Action}
    (each : ∀ run, ∀ action ∈ actions, holds run → holds (run.perform options line action)) :
    ∀ {run : Run}, holds run → holds (run.performAll options line actions) := by
  induction actions with
  | nil => exact fun before => before
  | cons action actions ih =>
    exact fun before => ih (fun run other member => each run other (List.mem_cons_of_mem _ member))
      (each _ action List.mem_cons_self before)

theorem performAll_keeps
    (each : ∀ run action, holds run → holds (run.perform options line action))
    (actions : List Action) {run : Run} (before : holds run) :
    holds (run.performAll options line actions) :=
  performAll_keeps_of_mem holds (fun run action _ => each run action) before

theorem dispatch_keeps (step : ∀ run, holds run → holds run.step)
    (each : ∀ run action, holds run → holds (run.perform options line action))
    (rest : List Char) : ∀ (column skip : Nat) {run : Run}, holds run →
      holds (dispatch options line column skip run rest) := by
  induction rest with
  | nil => exact fun _ _ _ before => before
  | cons c rest ih =>
    intro column skip run before
    cases skip with
    | succ skip => exact ih (column + 1) skip before
    | zero =>
      have stepped := step run before
      rw [dispatch_cons]
      cases firstVerdict run.mode line column (run.mode.matchersAt c) with
      | declined => exact ih (column + 1) 0 stepped
      | passed width => exact ih (column + 1) (width - 1) stepped
      | taken width actions =>
        exact ih (column + 1) (width - 1) (performAll_keeps holds each actions stepped)
      | endsLine actions => exact performAll_keeps holds each actions stepped

theorem start_keeps (step : ∀ run, holds run → holds run.step)
    (each : ∀ run action, holds run → holds (run.perform options line action))
    (restart : Restart) {run : Run} (before : holds run) :
    holds (run.start options line restart) := by
  have stepped := step run before
  rw [start_eq]
  cases resume run.mode line restart with
  | done actions => exact performAll_keeps holds each actions stepped
  | «at» column actions =>
    exact dispatch_keeps holds step each _ column 0 (performAll_keeps holds each actions stepped)

end Highlighter.Line.Run
