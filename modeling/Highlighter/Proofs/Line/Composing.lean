import Highlighter.Line.Run

/-!
# Tagging as work in parts

To tag a range, with all that is delegated in it, is to add marks and to ask for modes, part by
part.  So a property of work on canvases that these have, and that parts in a row have if each of
them does, is a property of tagging as a whole.
-/

namespace Highlighter.Line

/-- A property of work on canvases for a line.  What adds a mark has it, parts in a row have it if
each of them does, and what goes on with the mode of a name has it if it does so with every mode. -/
structure Composes (line : List Char) (property : (Canvas → Canvas) → Prop) : Prop where
  id : property fun canvas => canvas
  comp : ∀ {first second : Canvas → Canvas}, property first → property second →
    property fun canvas => second (first canvas)
  add : ∀ start stop tag, property (Canvas.add line start stop tag)
  resolving : ∀ (name : String) {work : Mode → Canvas → Canvas}, (∀ mode, property (work mode)) →
    property fun canvas =>
      work (canvas.registry.resolve name).1
        { canvas with registry := (canvas.registry.resolve name).2 }

namespace Composes

variable {line : List Char} {property : (Canvas → Canvas) → Prop} {delegation : Delegation}

theorem foldl (composes : Composes line property) {α : Type} {work : Canvas → α → Canvas}
    (items : List α) (each : ∀ item, property (work · item)) :
    property fun canvas => items.foldl work canvas := by
  induction items with
  | nil => exact composes.id
  | cons item items ih => exact composes.comp (each item) ih

theorem fill (composes : Composes line property) (fallback : Tag) (unclaimed : Option Nat)
    (stop : Nat) : property (Canvas.fill line fallback unclaimed stop) := by
  cases unclaimed with
  | none => exact composes.id
  | some start => exact composes.add start stop fallback

theorem paint (composes : Composes line property)
    (each : ∀ name start stop fallback, property (delegation name start stop fallback))
    (painting : Painting) : property (Canvas.paint line delegation painting) := by
  unfold Canvas.paint
  cases painting.delegate with
  | some name => exact each name _ _ _
  | none =>
    cases painting.silent with
    | true => exact composes.id
    | false => exact composes.add _ _ _

theorem paintAll (composes : Composes line property)
    (each : ∀ name start stop fallback, property (delegation name start stop fallback))
    (paintings : List Painting) : property (Canvas.paintAll line delegation paintings) :=
  composes.foldl paintings fun painting => composes.paint each painting

theorem tagRest (composes : Composes line property)
    (each : ∀ name start stop fallback, property (delegation name start stop fallback))
    (mode : Mode) (fallback : Tag) (stop : Nat) (rest : List Char) :
    ∀ (column skip : Nat) (unclaimed : Option Nat),
    property (Canvas.tagRest line mode fallback delegation stop column skip unclaimed · rest) := by
  induction rest with
  | nil => exact fun column skip unclaimed => composes.fill fallback unclaimed _
  | cons c rest ih =>
    intro column skip unclaimed
    cases skip with
    | succ skip => exact ih (column + 1) skip unclaimed
    | zero =>
      simp only [Canvas.tagRest]
      by_cases past : stop ≤ column
      · simp only [past, if_true]
        exact composes.fill fallback unclaimed _
      · simp only [past, if_false]
        cases firstClaim? mode line column (mode.matchersAt c) with
        | none => exact ih (column + 1) 0 (some (unclaimed.getD column))
        | some claim =>
          have filled : property (Canvas.fill line fallback unclaimed column) :=
            composes.fill fallback unclaimed column
          exact composes.comp (composes.comp filled (composes.paintAll each claim.2))
            (ih (column + 1) (claim.1 - 1) none)

/-- To tag a delegated range is work in parts, on every level. -/
theorem delegate (composes : Composes line property) (depth : Nat) :
    ∀ name start stop fallback, property (delegate line depth name start stop fallback) := by
  induction depth with
  | zero => exact fun _ start stop fallback => composes.add start stop fallback
  | succ depth ih =>
    intro name start stop fallback
    exact composes.resolving name fun mode =>
      composes.tagRest ih mode (mode.defaultTag.getD fallback) stop (line.drop start) start 0 none

theorem sweepUrls (composes : Composes line property) (start stop : Nat) :
    property (Run.sweepUrls line start stop) :=
  composes.foldl _ fun range => composes.add range.1 range.2 .url

/-- So is to tag a range with the addresses in it. -/
theorem paintCanvas (composes : Composes line property) (options : Options) (painting : Painting) :
    property (Run.paintCanvas options line painting) := by
  have painted : property
      (Canvas.paint line (Line.delegate line options.maxDelegationDepth) painting) :=
    composes.paint (composes.delegate options.maxDelegationDepth) painting
  unfold Run.paintCanvas
  by_cases swept : painting.tag ≠ .url ∧ options.highlightUrls
  · simp only [if_pos swept]
    exact composes.comp painted (composes.sweepUrls painting.start _)
  · simp only [if_neg swept]
    exact painted

end Composes

end Highlighter.Line
