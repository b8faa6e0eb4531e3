import Highlighter.Continuation

/-!
# States

A state is a small number that stands for a continuation.  States are given out from one on as
continuations are met, and belong to a generation: a new generation forgets them all, and a state of
an earlier one is refused rather than taken for another.
-/

namespace Highlighter

/-- A number that stands for a continuation within a generation.  Number zero stands for none. -/
structure StateId where
  generation : Nat
  index : Nat
  deriving DecidableEq, Repr

namespace StateId

/-- No continuation: the start of the language of a session (`StateId.NONE`). -/
def none : StateId := ⟨0, 0⟩

/-- Whether a state stands for no continuation (`StateId.is_none`). -/
def isNone (state : StateId) : Bool :=
  state.index == 0

/-- A state in words. -/
def text (state : StateId) : String :=
  if state.isNone then "S0" else s!"S{state.generation}.{state.index}"

end StateId

/-- Why a state is refused (`StaleState` and `UnknownState`). -/
inductive StateError where
  /-- It belongs to another generation. -/
  | stale (state : StateId) (current : Nat)
  /-- It was never given out. -/
  | unknown (state : StateId)
  deriving DecidableEq, Repr

/-- The words for a refusal. -/
def StateError.message : StateError → String
  | stale state current =>
    "State " ++ state.text
      ++ s!" belongs to session {state.generation}, current session is {current}"
  | unknown state => "No continuation registered for state " ++ state.text

/-- The continuations of a generation in the order of their states (`StateRegistry`). -/
structure States where
  generation : Nat := 1
  continuations : List Continuation := []

namespace States

/-- The state of a continuation, which is a new one if the continuation is
(`StateRegistry.state_of`). -/
def stateOf (states : States) (continuation : Continuation) : StateId × States :=
  match states.continuations.findIdx? (· = continuation) with
  | some position => (⟨states.generation, position + 1⟩, states)
  | none =>
    (⟨states.generation, states.continuations.length + 1⟩,
      { states with continuations := states.continuations ++ [continuation] })

/-- The state of a ruleset with nothing open (`StateRegistry.clear_state`). -/
def clearState (states : States) (ruleset : RulesetId) : StateId × States :=
  states.stateOf (.clear ruleset)

/-- The continuation that a state stands for, which may be none
(`StateRegistry.continuation_of`). -/
def continuationOf (states : States) (state : StateId) :
    Except StateError (Option Continuation) :=
  if state.isNone then .ok none
  else if state.generation ≠ states.generation then .error (.stale state states.generation)
  else
    match states.continuations[state.index - 1]? with
    | some continuation => .ok (some continuation)
    | none => .error (.unknown state)

/-- A state in words: its number, in at least two places, and its continuation
(`StateRegistry.describe`). -/
def describe (states : States) (state : StateId) : String :=
  let number := toString state.index
  let continuation :=
    match states.continuationOf state with
    | .ok (some continuation) => continuation.text
    | .ok none => "no-state"
    | .error _ => "stale"
  (if number.length < 2 then " " else "") ++ number ++ ":" ++ continuation

/-- A new generation, without states (`StateRegistry.reset`). -/
def reset (states : States) : States :=
  ⟨states.generation + 1, []⟩

end States

end Highlighter
