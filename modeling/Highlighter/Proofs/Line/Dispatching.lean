import Highlighter.Proofs.Line.Repeating
import Highlighter.Proofs.Text.Boundaries

/-!
# Where a line is dispatched

`Run.Comes` says to which characters of a line the matchers of the mode in force are put, and what
the run is like by then.  What becomes of the line from there on is what becomes of it at all.
-/

namespace Highlighter.Line

namespace Run

/-- Dispatching on the rest of a line, which starts at `column` and of which the first `skip`
characters are taken, comes to the character at `place`. -/
inductive Comes (options : Options) (line : List Char) :
    (column skip : Nat) → Run → (rest : List Char) → (place : Nat) → Run → Prop where
  | here {column : Nat} {run : Run} {c : Char} {rest : List Char} :
      Comes options line column 0 run (c :: rest) column run
  | skip {column skip place : Nat} {run reached : Run} {c : Char} {rest : List Char}
      (comes : Comes options line (column + 1) skip run rest place reached) :
      Comes options line column (skip + 1) run (c :: rest) place reached
  | declined {column place : Nat} {run reached : Run} {c : Char} {rest : List Char}
      (verdict : firstVerdict run.mode line column (run.mode.matchersAt c) = .declined)
      (comes : Comes options line (column + 1) 0 run.step rest place reached) :
      Comes options line column 0 run (c :: rest) place reached
  | passed {column place width : Nat} {run reached : Run} {c : Char} {rest : List Char}
      (verdict : firstVerdict run.mode line column (run.mode.matchersAt c) = .passed width)
      (comes : Comes options line (column + 1) (width - 1) run.step rest place reached) :
      Comes options line column 0 run (c :: rest) place reached
  | taken {column place width : Nat} {run reached : Run} {c : Char} {rest : List Char}
      {actions : List Action}
      (verdict : firstVerdict run.mode line column (run.mode.matchersAt c) = .taken width actions)
      (comes : Comes options line (column + 1) (width - 1)
        (run.step.performAll options line actions) rest place reached) :
      Comes options line column 0 run (c :: rest) place reached

variable {options : Options} {line rest : List Char} {column skip place : Nat} {run reached : Run}

/-- The line goes on from a place to which it comes. -/
theorem Comes.dispatch_eq (comes : Comes options line column skip run rest place reached)
    (isRest : rest = line.drop column) :
    dispatch options line column skip run rest =
      dispatch options line place 0 reached (line.drop place) := by
  have next : ∀ {column : Nat} {c : Char} {rest : List Char},
      c :: rest = line.drop column → rest = line.drop (column + 1) :=
    fun same => (Text.drop_succ same.symm).symm
  induction comes with
  | here => rw [isRest]
  | skip _ ih => exact ih (next isRest)
  | declined verdict _ ih =>
    rw [← ih (next isRest), dispatch_cons, verdict]
    rfl
  | passed verdict _ ih =>
    rw [← ih (next isRest), dispatch_cons, verdict]
    rfl
  | taken verdict _ ih =>
    rw [← ih (next isRest), dispatch_cons, verdict]
    rfl

theorem start_done {restart : Restart} {actions : List Action}
    (resumes : resume run.mode line restart = .done actions) :
    start options line restart run = run.step.performAll options line actions := by
  rw [start_eq, resumes]
  rfl

theorem start_at {restart : Restart} {actions : List Action}
    (resumes : resume run.mode line restart = .at column actions) :
    start options line restart run =
      dispatch options line column 0 (run.step.performAll options line actions)
        (line.drop column) := by
  rw [start_eq, resumes]
  rfl

/-- Tagging changes nothing but the canvas. -/
theorem performAll_paint {actions : List Action}
    (paints : ∀ action ∈ actions, ∃ painting, action = .paint painting) (run : Run) :
    ∃ canvas, run.performAll options line actions = { run with canvas } := by
  induction actions generalizing run with
  | nil => exact ⟨run.canvas, rfl⟩
  | cons action actions ih =>
    obtain ⟨painting, rfl⟩ := paints action List.mem_cons_self
    have first : ∃ canvas, run.paint options line painting = { run with canvas } := by
      unfold paint
      split
      · exact ⟨run.canvas, rfl⟩
      · exact ⟨_, rfl⟩
    obtain ⟨canvas, painted⟩ := first
    obtain ⟨last, rest⟩ :=
      ih (fun other member => paints other (List.mem_cons_of_mem _ member)) { run with canvas }
    refine ⟨last, ?_⟩
    show performAll options line (run.paint options line painting) actions = _
    rw [painted, rest]

/-- What is left open behind ranges that are tagged is all that there is to be seen but the
canvas. -/
theorem performAll_paint_arm {actions : List Action}
    (paints : ∀ action ∈ actions, ∃ painting, action = .paint painting) (restart : Restart)
    (run : Run) :
    ∃ canvas, run.performAll options line (actions ++ [.arm restart]) =
      arm restart { run with canvas } := by
  obtain ⟨canvas, painted⟩ := performAll_paint paints run
  refine ⟨canvas, ?_⟩
  rw [performAll, List.foldl_append]
  exact congrArg (arm restart) painted

end Run

/-- All that a span does to its range is to tag it. -/
theorem paintSpan_paints (form : SpanForm) (start inside closing stop : Nat) :
    ∀ action ∈ paintSpan form start inside closing stop, ∃ painting, action = .paint painting := by
  unfold paintSpan
  split
  · simp
  · split <;> simp

theorem length_le_of_startsWithLiteral {ignoreCase : Bool} {literal text : List Char}
    (starts : startsWithLiteral ignoreCase literal text) : literal.length ≤ text.length := by
  induction literal generalizing text with
  | nil => exact Nat.zero_le _
  | cons c literal ih =>
    cases text with
    | nil => cases starts
    | cons d text =>
      simp only [startsWithLiteral, Bool.and_eq_true] at starts
      exact Nat.succ_le_succ (ih starts.2)

/-- A literal that opens a rule at a column of a line ends on the line. -/
theorem literal_opening_le {mode : Mode} {line literal : List Char} {column width : Nat}
    {anchors : Anchors} (inside : column < line.length)
    (opens : openingWidth? mode line column (.literal literal) anchors = some width) :
    column + width ≤ line.length := by
  simp only [openingWidth?] at opens
  split at opens
  · rename_i both
    cases opens
    have starts := length_le_of_startsWithLiteral (Bool.and_eq_true _ _ ▸ both).1
    rw [List.length_drop] at starts
    omega
  · cases opens

/-- The verdict at a column is that of the first matcher that finds something. -/
theorem firstVerdict_eq {mode : Mode} {line : List Char} {column : Nat} {before : List Matcher}
    {matcher : Matcher} (behind : List Matcher)
    (declined : ∀ other ∈ before, matcherVerdict mode line column false other = .declined)
    (finds : matcherVerdict mode line column false matcher ≠ .declined) :
    firstVerdict mode line column (before ++ matcher :: behind) =
      matcherVerdict mode line column false matcher := by
  induction before with
  | nil =>
    rw [List.nil_append, firstVerdict]
    split
    · rename_i nothing
      exact absurd nothing finds
    · rfl
  | cons other before ih =>
    rw [List.cons_append, firstVerdict, declined other List.mem_cons_self]
    exact ih fun one member => declined one (List.mem_cons_of_mem _ member)

end Highlighter.Line
