import Highlighter.Proofs.Line.Repeating

/-!
# How many steps a line takes

A step is counted at the start of a line and for each character that matchers are put to.  What the
matchers ask for takes no steps of its own, so a line takes one for its start and at most one for
each of its characters.
-/

namespace Highlighter.Line.Run

variable (options : Options) (line : List Char)

theorem paint_steps (painting : Painting) (run : Run) :
    (run.paint options line painting).steps = run.steps := by
  unfold paint
  split <;> rfl

theorem switchLanguage_steps (name : String) (run : Run) :
    (run.switchLanguage name).steps = run.steps := by
  rw [switchLanguage_eq]
  split
  · rfl
  · split <;> rfl

/-- Actions take no steps. -/
theorem perform_steps (action : Action) (run : Run) :
    (run.perform options line action).steps = run.steps := by
  cases action with
  | paint painting => exact paint_steps options line painting run
  | arm restart => rfl
  | close => rfl
  | switchLanguage name => exact switchLanguage_steps name run

theorem performAll_steps (actions : List Action) (run : Run) :
    (run.performAll options line actions).steps = run.steps := by
  induction actions generalizing run with
  | nil => rfl
  | cons action actions ih => exact (ih _).trans (perform_steps options line action run)

/-- Dispatching takes at most one step for each character. -/
theorem dispatch_steps_le (rest : List Char) : ∀ (column skip : Nat) (run : Run),
    (dispatch options line column skip run rest).steps ≤ run.steps + rest.length := by
  induction rest with
  | nil => exact fun _ _ _ => Nat.le_refl _
  | cons c rest ih =>
    intro column skip run
    rw [List.length_cons]
    cases skip with
    | succ skip => exact Nat.le_succ_of_le (ih (column + 1) skip run)
    | zero =>
      rw [dispatch_cons]
      have one : run.step.steps = run.steps + 1 := rfl
      cases firstVerdict run.mode line column (run.mode.matchersAt c) with
      | declined =>
        have goesOn := ih (column + 1) 0 run.step
        exact Nat.le_trans goesOn (by omega)
      | passed width =>
        have goesOn := ih (column + 1) (width - 1) run.step
        exact Nat.le_trans goesOn (by omega)
      | taken width actions =>
        have goesOn := ih (column + 1) (width - 1) (run.step.performAll options line actions)
        rw [performAll_steps] at goesOn
        exact Nat.le_trans goesOn (by omega)
      | endsLine actions =>
        have ends := performAll_steps options line actions run.step
        exact Nat.le_trans (Nat.le_of_eq ends) (by omega)

/-- A line takes one step at its start, and at most one for each of its characters. -/
theorem start_steps_le (restart : Restart) (run : Run) :
    (run.start options line restart).steps ≤ run.steps + 1 + line.length := by
  rw [start_eq]
  cases resume run.mode line restart with
  | done actions =>
    have ends := performAll_steps options line actions run.step
    exact Nat.le_trans (Nat.le_of_eq ends) (Nat.le_add_right ..)
  | «at» column actions =>
    have goesOn := dispatch_steps_le options line (line.drop column) column 0
      (run.step.performAll options line actions)
    rw [performAll_steps, List.length_drop] at goesOn
    exact Nat.le_trans goesOn (Nat.add_le_add_left (Nat.sub_le ..) _)

end Highlighter.Line.Run
