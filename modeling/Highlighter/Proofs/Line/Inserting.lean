import Highlighter.Proofs.Line.Composing

/-!
# Inserting fillers

What no rule matches in a delegated range is tagged when the next match is known, and the mark goes
before those of the match.  It can be added before the match is tagged, or put in before the marks
of the match once these are there, at a position that was remembered.  Both come to the same, as
tagging only adds marks and does not look at those that are there.
-/

namespace Highlighter.Line

namespace Canvas

variable {line : List Char} {delegation : Delegation}

/-! ## Work that adds marks -/

/-- Work on a canvas that adds marks, whichever are there, and looks at the modes alone. -/
def Appends (work : Canvas → Canvas) : Prop :=
  ∀ registry marks, work ⟨registry, marks⟩ =
    ⟨(work ⟨registry, []⟩).registry, marks ++ (work ⟨registry, []⟩).marks⟩

theorem Appends.id : Appends fun canvas => canvas := by
  intro registry marks
  simp

theorem Appends.comp {first second : Canvas → Canvas} (one : Appends first)
    (two : Appends second) : Appends fun canvas => second (first canvas) := by
  intro registry marks
  dsimp only
  rw [one registry marks]
  obtain ⟨between, added⟩ := first ⟨registry, []⟩
  rw [two between (marks ++ added), two between added, List.append_assoc]

theorem add_appends (line : List Char) (start stop : Nat) (tag : Tag) :
    Appends (add line start stop tag) := by
  intro registry marks
  unfold add
  dsimp only
  split <;> simp

/-- So does whatever tags a range. -/
theorem appends_composes (line : List Char) : Composes line Appends :=
  ⟨.id, .comp, add_appends line, fun name _ each registry marks =>
    each (registry.resolve name).1 (registry.resolve name).2 marks⟩

end Canvas

/-! ## The loop that puts fillers in -/

theorem insertIdx_length_append {α : Type} (items others : List α) (item : α) :
    (items ++ others).insertIdx items.length item = items ++ item :: others := by
  induction items with
  | nil => rfl
  | cons first items ih => simp [ih]

namespace Canvas

/-- Puts a mark in at a position, cut at the end of the line (`LineRun.insert_tag`). -/
def insertAt (line : List Char) (position start stop : Nat) (tag : Tag) (canvas : Canvas) :
    Canvas :=
  let stop := min stop line.length
  if stop ≤ start ∨ tag = .null then canvas
  else { canvas with marks := canvas.marks.insertIdx position ⟨start, stop, tag⟩ }

/-- Tags the text that no rule matched, in front of the marks from a position on. -/
def fillAt (line : List Char) (fallback : Tag) (unclaimed : Option Nat) (position stop : Nat)
    (canvas : Canvas) : Canvas :=
  match unclaimed with
  | some start => canvas.insertAt line position start stop fallback
  | none => canvas

/-- Goes through the rest of a range, and puts a filler in once a match is tagged (the loop of
`LineRun.run_range`). -/
def tagRestInserting (line : List Char) (mode : Mode) (fallback : Tag) (delegation : Delegation)
    (stop column skip : Nat) (unclaimed : Option Nat) (canvas : Canvas) :
    (rest : List Char) → Canvas
  | [] => canvas.fillAt line fallback unclaimed canvas.marks.length (min column stop)
  | c :: rest =>
    match skip with
    | skip + 1 =>
      tagRestInserting line mode fallback delegation stop (column + 1) skip unclaimed canvas rest
    | 0 =>
      if stop ≤ column then
        canvas.fillAt line fallback unclaimed canvas.marks.length (min column stop)
      else
        let position := canvas.marks.length
        match firstClaim? mode line column (mode.matchersAt c) with
        | none =>
          tagRestInserting line mode fallback delegation stop (column + 1) 0
            (some (unclaimed.getD column)) canvas rest
        | some (width, paintings) =>
          let canvas := canvas.paintAll line delegation paintings
          let canvas := canvas.fillAt line fallback unclaimed position column
          tagRestInserting line mode fallback delegation stop (column + 1) (width - 1) none canvas
            rest

/-- A filler that is put in once other work is done is the same as one that is added before. -/
theorem fillAt_of_appends {work : Canvas → Canvas} (appends : Appends work) (line : List Char)
    (fallback : Tag) (unclaimed : Option Nat) (stop : Nat) (canvas : Canvas) :
    (work canvas).fillAt line fallback unclaimed canvas.marks.length stop =
      work (canvas.fill line fallback unclaimed stop) := by
  cases unclaimed with
  | none => rfl
  | some start =>
    obtain ⟨registry, marks⟩ := canvas
    simp only [fillAt, fill, insertAt, add]
    split
    · rfl
    · rw [appends registry marks, appends registry (marks ++ _)]
      simp [insertIdx_length_append]

theorem tagRestInserting_eq (each : ∀ name start stop fallback,
    Appends (delegation name start stop fallback)) (mode : Mode) (fallback : Tag) (stop : Nat)
    (rest : List Char) : ∀ (column skip : Nat) (unclaimed : Option Nat) (canvas : Canvas),
    tagRestInserting line mode fallback delegation stop column skip unclaimed canvas rest =
      tagRest line mode fallback delegation stop column skip unclaimed canvas rest := by
  have filled : ∀ (unclaimed : Option Nat) (stop : Nat) (canvas : Canvas),
      canvas.fillAt line fallback unclaimed canvas.marks.length stop =
        canvas.fill line fallback unclaimed stop :=
    fun unclaimed stop canvas => fillAt_of_appends .id line fallback unclaimed stop canvas
  induction rest with
  | nil => exact fun column skip unclaimed canvas => filled unclaimed _ canvas
  | cons c rest ih =>
    intro column skip unclaimed canvas
    cases skip with
    | succ skip => exact ih (column + 1) skip unclaimed canvas
    | zero =>
      rw [tagRestInserting, tagRest]
      by_cases past : stop ≤ column
      · rw [if_pos past, if_pos past, filled]
      · rw [if_neg past, if_neg past]
        cases firstClaim? mode line column (mode.matchersAt c) with
        | none => exact ih (column + 1) 0 (some (unclaimed.getD column)) canvas
        | some claim =>
          obtain ⟨width, paintings⟩ := claim
          have work : Appends (paintAll line delegation paintings) :=
            (appends_composes line).paintAll each paintings
          have inserted := fillAt_of_appends work line fallback unclaimed column canvas
          dsimp only
          rw [inserted]
          exact ih (column + 1) (width - 1) none _

end Canvas

/-- Tags the range `[start, stop)` by a mode as `delegate` does, but puts fillers in once a match is
tagged (`LineRun.run_range`). -/
def delegateInserting (line : List Char) : (depth : Nat) → Delegation
  | 0 => fun _ start stop fallback canvas => canvas.add line start stop fallback
  | depth + 1 => fun name start stop fallback canvas =>
    let (mode, registry) := canvas.registry.resolve name
    Canvas.tagRestInserting line mode (mode.defaultTag.getD fallback)
      (delegateInserting line depth) stop start 0 none { canvas with registry } (line.drop start)

/-- When fillers are tagged makes no difference. -/
theorem delegateInserting_eq (line : List Char) (depth : Nat) :
    delegateInserting line depth = delegate line depth := by
  induction depth with
  | zero => rfl
  | succ depth ih =>
    funext name start stop fallback canvas
    simp only [delegateInserting, delegate, ih]
    exact Canvas.tagRestInserting_eq ((Canvas.appends_composes line).delegate depth) _ _ stop _
      start 0 none _

end Highlighter.Line
