import Highlighter.Proofs.Guarded.Canvas
import Highlighter.Proofs.Line.Rows
import Highlighter.Proofs.Line.Switching

/-!
# Marks that nest

Where nothing is delegated, what is found on a line is tagged from left to right, and so are the
addresses in a range behind the range itself.  So a mark of the line ends before a later one starts,
unless the later one is that of an address inside.  Each action keeps this up to the end of what it
tags, and so do whole lines.
-/

namespace Highlighter

/-- A mark ends before another one starts, or the other one is that of an address inside. -/
def Mark.Nests (mark other : Mark) : Prop :=
  mark.Precedes other ∨
    (other.tag = .url ∧ mark.tag ≠ .url ∧ mark.start ≤ other.start ∧ other.stop ≤ mark.stop)

theorem Mark.Precedes.nests {mark other : Mark} (precedes : mark.Precedes other) :
    mark.Nests other :=
  .inl precedes

namespace Line

variable {line : List Char}

/-! ## Addresses -/

theorem Url.findFrom_inOrder (text : List Char) : ∀ (column : Nat) {skip : Nat},
    skip ≤ text.length →
    InOrder (column + skip) (column + text.length) (findFrom column skip text) := by
  induction text with
  | nil => exact fun column skip inside => Nat.add_le_add_left inside column
  | cons c rest ih =>
    intro column skip inside
    rw [List.length_cons, Nat.add_comm rest.length 1, ← Nat.add_assoc]
    cases skip with
    | succ skip =>
      have later := ih (column + 1) (Nat.le_of_succ_le_succ inside)
      rwa [Nat.add_right_comm] at later
    | zero =>
      have bound := Guarded.lengthAtStart_le (c :: rest)
      rw [findFrom]
      split
      · exact (ih (column + 1) (Nat.zero_le _)).widen (Nat.le_succ _) (Nat.le_refl _)
      · rename_i width found
        rw [found, List.length_cons] at bound
        have later := ih (column + 1) (Nat.le_of_succ_le_succ bound)
        rw [Nat.add_right_comm] at later
        exact ⟨Nat.le_refl _, by omega, later⟩

/-- The addresses in a range of the line follow each other. -/
theorem Url.findIn_inOrder {start stop : Nat} (order : start ≤ stop) (onLine : stop ≤ line.length) :
    InOrder start stop (findIn line start stop) := by
  have found := findFrom_inOrder ((line.take stop).drop start) start (Nat.zero_le _)
  rwa [List.length_drop, List.length_take, Nat.min_eq_left onLine, Nat.add_sub_cancel' order]
    at found

/-- The marks of the addresses in a range of the line. -/
def urlMarks (line : List Char) (start stop : Nat) : List Mark :=
  (Url.findIn line start stop).flatMap fun range => rangeMarks line range.1 range.2 .url

theorem tag_of_mem_urlMarks {start stop : Nat} {mark : Mark}
    (member : mark ∈ urlMarks line start stop) : mark.tag = .url := by
  obtain ⟨range, -, marked⟩ := List.mem_flatMap.mp member
  unfold rangeMarks at marked
  dsimp only at marked
  split at marked
  · cases marked
  · rw [List.mem_singleton.mp marked]

theorem urlMarks_inRow {start stop : Nat} (order : start ≤ stop) (onLine : stop ≤ line.length) :
    InRow Mark.Nests start stop (urlMarks line start stop) := by
  have inOrder : InOrder start stop ((Url.findIn line start stop).map id) :=
    (List.map_id _).symm ▸ Url.findIn_inOrder order onLine
  exact flatMap_inRow Mark.Precedes.nests (fun _ order => rangeMarks_inRow order .url) inOrder

/-- The marks of a range and of the addresses in it. -/
def Painting.sweptMarks (options : Options) (line : List Char) (painting : Painting) : List Mark :=
  painting.marks line ++
    if painting.tag ≠ .url ∧ options.highlightUrls then
      urlMarks line painting.start (min painting.stop line.length)
    else []

theorem Run.sweepUrls_marks (line : List Char) (start stop : Nat) (canvas : Canvas) :
    (sweepUrls line start stop canvas).marks = canvas.marks ++ urlMarks line start stop := by
  unfold sweepUrls urlMarks
  generalize Url.findIn line start stop = ranges
  induction ranges generalizing canvas with
  | nil => exact (List.append_nil _).symm
  | cons range ranges ih =>
    rw [List.foldl_cons, ih, Canvas.add_marks, List.append_assoc, List.flatMap_cons]

theorem Run.paintCanvas_marks {options : Options} {painting : Painting}
    (own : painting.delegate = none) (canvas : Canvas) :
    (paintCanvas options line painting canvas).marks =
      canvas.marks ++ painting.sweptMarks options line := by
  unfold paintCanvas Painting.sweptMarks
  dsimp only
  split
  · rw [sweepUrls_marks, Canvas.paint_marks own, List.append_assoc]
  · rw [Canvas.paint_marks own, List.append_nil]

theorem Painting.marks_cases (line : List Char) (painting : Painting) :
    painting.marks line = [] ∨ painting.marks line =
      [⟨painting.start, min painting.stop line.length, painting.tag⟩] := by
  unfold Painting.marks rangeMarks
  dsimp only
  split
  · exact .inl rfl
  · split
    · exact .inl rfl
    · exact .inr rfl

/-- The addresses in a range are inside its mark. -/
theorem Painting.sweptMarks_inRow (options : Options) (line : List Char) {painting : Painting}
    (order : painting.start ≤ painting.stop) :
    InRow Mark.Nests painting.start painting.stop (painting.sweptMarks options line) := by
  unfold Painting.sweptMarks
  split
  · rename_i swept
    by_cases onLine : painting.start ≤ min painting.stop line.length
    · have urls : InRow Mark.Nests painting.start (min painting.stop line.length)
          (urlMarks line painting.start (min painting.stop line.length)) :=
        urlMarks_inRow onLine (Nat.min_le_right ..)
      have ends : min painting.stop line.length ≤ painting.stop := Nat.min_le_left ..
      rcases painting.marks_cases line with none | single
      · rw [none, List.nil_append]
        exact urls.widen (Nat.le_refl _) ends
      · rw [single, List.singleton_append]
        refine ⟨order, ?_, List.pairwise_cons.mpr ⟨fun url member => ?_, urls.related⟩⟩
        · exact List.forall_mem_cons.mpr
            ⟨⟨Nat.le_refl _, ends⟩, (urls.widen (Nat.le_refl _) ends).inside⟩
        · exact .inr ⟨tag_of_mem_urlMarks member, swept.1, urls.inside url member⟩
    · have nothing : urlMarks line painting.start (min painting.stop line.length) = [] := by
        have past : (line.take (min painting.stop line.length)).drop painting.start = [] :=
          List.drop_eq_nil_of_le (by rw [List.length_take]; omega)
        rw [urlMarks, Url.findIn, past]
        rfl
      rw [nothing, List.append_nil]
      exact Painting.marks_inRow order
  · rw [List.append_nil]
    exact Painting.marks_inRow order

/-! ## Runs -/

/-- No range is delegated to another mode. -/
def KeepsRanges (actions : List Action) : Prop :=
  ∀ painting ∈ actions.filterMap Action.painting?, painting.delegate = none

variable {mode : Mode} {column : Nat}

theorem firstVerdict_keepsRanges {matchers : List Matcher}
    (undelegated : ∀ matcher ∈ matchers, matcher.Undelegated) :
    KeepsRanges (firstVerdict mode line column matchers).actions := by
  rcases firstVerdict_cases mode line column matchers with none | ⟨matcher, member, same⟩
  · rw [none]
    exact fun painting member => absurd member List.not_mem_nil
  · rw [same]
    exact matcherVerdict_undelegated (undelegated matcher member) mode line column false

/-- At the start of a line nothing is delegated that a mode without delegates may have left open. -/
theorem resume_keepsRanges (undelegated : mode.Undelegated) {restart : Restart}
    (leaves : mode.MayLeave restart) (line : List Char) :
    KeepsRanges (resume mode line restart).actions := by
  cases restart with
  | span form =>
    obtain ⟨c, rule, opener, anchors, listed, compiled⟩ := leaves
    have own : rule.Undelegated := undelegated.matchersAt _ listed
    exact ((resumeSpan_ofRule mode line form).isLocal (own _ compiled)).undelegated
  | docPart =>
    unfold KeepsRanges
    simp only [resume, resumeDocPart, languageDirective]
    split
    · simp [Resumption.actions, Action.painting?, paintDirective]
    · split
      · simp [Resumption.actions, Action.painting?, paintDirective]
      · split <;> simp [Resumption.actions, Action.painting?, paintDirective]
  | color =>
    unfold KeepsRanges
    simp only [resume, resumeColor]
    split
    · simp [Resumption.actions, Action.painting?]
    · split
      · simp [Resumption.actions, Action.painting?]
      · split <;> simp [Resumption.actions, Action.painting?]
  | noColor =>
    unfold KeepsRanges
    simp only [resume, resumeNoColor]
    split <;> simp [Resumption.actions, Action.painting?, paintDirective]
  | clear => simp [KeepsRanges, resume, Resumption.actions]
  | noColorNode => simp [KeepsRanges, resume, Resumption.actions, Action.painting?]
  | killColor => simp [KeepsRanges, resume, Resumption.actions, Action.painting?]

namespace Run

variable {options : Options} {run : Run} {first last : Nat}

/-- What is not to be tagged leaves the marks alone. -/
theorem perform_marks_of_not_paint {action : Action} (other : action.painting? = none)
    (options : Options) (line : List Char) :
    (run.perform options line action).canvas.marks = run.canvas.marks := by
  cases action with
  | paint painting => cases other
  | arm restart => rfl
  | close => rfl
  | switchLanguage name =>
    show (run.switchLanguage name).canvas.marks = run.canvas.marks
    rw [switchLanguage_eq]
    split
    · rfl
    · split <;> rfl

theorem perform_inRow {painting : Painting} (own : painting.delegate = none)
    (row : InRow Mark.Nests 0 first run.canvas.marks) (behind : first ≤ painting.start)
    (order : painting.start ≤ painting.stop) : InRow Mark.Nests 0 painting.stop
      (run.perform options line (.paint painting)).canvas.marks := by
  show InRow Mark.Nests 0 painting.stop (run.paint options line painting).canvas.marks
  unfold paint
  split
  · exact row.widen (Nat.le_refl _) (Nat.le_trans behind order)
  · show InRow Mark.Nests 0 painting.stop (paintCanvas options line painting run.canvas).marks
    rw [paintCanvas_marks own]
    exact (row.widen (Nat.le_refl _) behind).append Mark.Precedes.nests
      (painting.sweptMarks_inRow options line order)

/-- Behind marks in a row, actions that tag ranges in order leave marks in a row. -/
theorem performAll_inRow {actions : List Action} (own : KeepsRanges actions) :
    ∀ {first : Nat} {run : Run}, PaintsInOrder first last actions →
    InRow Mark.Nests 0 first run.canvas.marks →
    InRow Mark.Nests 0 last (run.performAll options line actions).canvas.marks := by
  induction actions with
  | nil => exact fun order row => row.widen (Nat.le_refl _) order
  | cons action actions ih =>
    intro first run inOrder row
    show InRow Mark.Nests 0 last
      ((run.perform options line action).performAll options line actions).canvas.marks
    cases paints : action.painting? with
    | none =>
      have same : (action :: actions).filterMap Action.painting? =
          actions.filterMap Action.painting? := List.filterMap_cons_none paints
      rw [PaintsInOrder, same] at inOrder
      rw [KeepsRanges, same] at own
      rw [← perform_marks_of_not_paint paints options line] at row
      exact ih own inOrder row
    | some painting =>
      obtain rfl : action = .paint painting := by
        cases action <;> cases paints
        rfl
      obtain ⟨ownFirst, ownOthers⟩ := List.forall_mem_cons.mp own
      obtain ⟨behind, order, later⟩ := inOrder
      exact ih ownOthers later (perform_inRow ownFirst row behind order)

/-- A line is dispatched on to marks in a row, if the modes that it comes to have no delegates. -/
theorem dispatch_inRow (rest : List Char) : ∀ (column skip : Nat) {run : Run},
    line.drop column = rest →
    (∀ place reached, Comes options line column skip run rest place reached →
      reached.mode.Undelegated) →
    InRow Mark.Nests 0 (column + skip) run.canvas.marks →
    ∃ bound, InRow Mark.Nests 0 bound
      (dispatch options line column skip run rest).canvas.marks := by
  induction rest with
  | nil => exact fun column skip _ _ _ row => ⟨column + skip, row⟩
  | cons c rest ih =>
    intro column skip run place undelegated row
    have next : line.drop (column + 1) = rest := Text.drop_succ place
    cases skip with
    | succ skip =>
      rw [← Nat.add_assoc, Nat.add_right_comm] at row
      exact ih (column + 1) skip next
        (fun place reached onward => undelegated place reached (.skip onward)) row
    | zero =>
      have inMode : run.mode.Undelegated := undelegated column run .here
      have own : KeepsRanges
          (firstVerdict run.mode line column (run.mode.matchersAt c)).actions :=
        firstVerdict_keepsRanges inMode.matchersAt
      have inOrder := firstVerdict_inOrder (Text.lt_length_of_drop place) run.mode
        (run.mode.matchersAt c)
      rw [dispatch_cons]
      cases verdict : firstVerdict run.mode line column (run.mode.matchersAt c) with
      | declined =>
        exact ih (column + 1) 0 next
          (fun place reached onward => undelegated place reached (.declined verdict onward))
          (row.widen (Nat.le_refl _) (Nat.le_succ _))
      | passed width =>
        exact ih (column + 1) (width - 1) next
          (fun place reached onward => undelegated place reached (.passed verdict onward))
          (row.widen (Nat.le_refl _) (by omega))
      | taken width actions =>
        rw [verdict] at own inOrder
        have performed : InRow Mark.Nests 0 (column + width)
            (run.step.performAll options line actions).canvas.marks :=
          performAll_inRow own inOrder row
        exact ih (column + 1) (width - 1) next
          (fun place reached onward => undelegated place reached (.taken verdict onward))
          (performed.widen (Nat.le_refl _) (by omega))
      | endsLine actions =>
        rw [verdict] at own inOrder
        exact ⟨line.length, performAll_inRow own inOrder
          (show InRow Mark.Nests 0 column run.step.canvas.marks from row)⟩

/-- A whole line gets marks in a row, if the modes that are in force on it have no delegates. -/
theorem start_inRow {restart : Restart} (fresh : run.canvas.marks = [])
    (inMode : run.mode.Undelegated) (leaves : run.mode.MayLeave restart)
    (undelegated : ∀ stop actions, resume run.mode line restart = .at stop actions →
      ∀ place reached, Comes options line stop 0 (run.step.performAll options line actions)
        (line.drop stop) place reached → reached.mode.Undelegated) :
    ∃ bound, InRow Mark.Nests 0 bound (run.start options line restart).canvas.marks := by
  have own := resume_keepsRanges inMode leaves line
  have inOrder := resume_inOrder run.mode line restart
  have row : InRow Mark.Nests 0 0 run.step.canvas.marks := by
    rw [show run.step.canvas.marks = [] from fresh]
    exact .nil (Nat.le_refl 0)
  cases resumes : resume run.mode line restart with
  | done actions =>
    rw [resumes] at own inOrder
    rw [start_done resumes]
    exact ⟨line.length, performAll_inRow own inOrder row⟩
  | «at» stop actions =>
    rw [resumes] at own inOrder
    rw [start_at resumes]
    exact dispatch_inRow _ stop 0 rfl (undelegated stop actions resumes)
      (performAll_inRow own inOrder row)

end Run

end Line

end Highlighter
