import Highlighter.Proofs.Line.Arming
import Highlighter.Proofs.Line.SpanEnd
import Highlighter.Proofs.Session.Lines
import Mathlib.Control.Monad.Basic

/-!
# Spans that stay open

A span that a line leaves open is looked for at the start of each line behind it until its end
marker is there.  The lines up to that one leave the state that they start in.  So the lines one by
one come to the same end marker as one search of the text that they make.
-/

namespace Highlighter

open Line (SpanEnd resume resumeSpan findSpanEnd joinedColumn OnLines)

namespace Session

/-- Tagging a line from a state comes to the character at a column with a run. -/
def ComesTo (session : Session) (state : StateId) (line : List Char) (column : Nat)
    (reached : Line.Run) : Prop :=
  ∃ continuation, session.states.continuationOf state = .ok continuation ∧ ¬isBlankLine line ∧
    ∃ first actions,
      resume (session.startRun state continuation).2.mode line
        (session.startRun state continuation).1 = .at first actions ∧
      Line.Run.Comes session.options line first 0
        ((session.startRun state continuation).2.step.performAll session.options line actions)
        (line.drop first) column reached

/-- A span rule of the mode in force opens a span at a column of a line, with a begin marker up to
`inside`, and the line leaves the span open: the matchers before the rule find nothing, the marker
is there, and the search for the end marker comes to nothing. -/
def LeavesOpen (run : Line.Run) (line : List Char) (column inside : Nat) (form : SpanForm) : Prop :=
  ∃ c before rule behind opener anchors width,
    Text.charAt? line column = some c ∧ run.mode.matchersAt c = before ++ .rule rule :: behind ∧
    (∀ other ∈ before, Line.matcherVerdict run.mode line column false other = .declined) ∧
    rule.form = some (.led (.literal opener) anchors (.span form)) ∧
    Line.openingWidth? run.mode line column (.literal opener) anchors = some width ∧
    inside = column + width ∧
    findSpanEnd line inside form.stop run.mode.escape form.flags run.mode.wordChars = .notFound

/-- The column of the end marker that closes, at the start of a line, the span that is open there.
A line of white space is left as it starts. -/
def closesAt? (session : Session) (state : StateId) (line : List Char) : Option Nat :=
  match session.states.continuationOf state with
  | .ok (some continuation) =>
    let (restart, run) := session.startRun state (some continuation)
    match restart with
    | .span form =>
      if isBlankLine line then none
      else
        match resumeSpan run.mode line form with
        | .at stop _ => some (stop - form.stop.length)
        | .done _ => none
    | _ => none
  | _ => none

/-- The line, among lines in a row, that closes the span that is open before them, and the column of
the end marker there. -/
def spanClosing? (session : Session) (state : StateId) :
    (lines : List (List Char)) → Option (Nat × Nat)
  | [] => none
  | line :: lines =>
    match session.closesAt? state line with
    | some column => some (0, column)
    | none =>
      match session.tagLine state line with
      | (.error _, _) => none
      | (.ok result, session) =>
        (session.spanClosing? result.state lines).map fun (index, column) => (index + 1, column)

/-- A line closes the span that is open before it at a column.  The span is tagged from the start of
the line to the end of its end marker; then nothing is open, and the line goes on behind the marker
under the rules of the mode. -/
def ClosesSpan (session : Session) (state : StateId) (mode : Mode) (form : SpanForm)
    (line : List Char) (column : Nat) : Prop :=
  let stop := column + form.stop.length
  let first : Line.Run := ⟨⟨session.registry, []⟩, session.states, mode, state, false, none, 1⟩
  let closed := (first.performAll session.options line (Line.paintSpan form 0 0 column stop)).close
  let run := closed.dispatch session.options line stop 0 (line.drop stop)
  closed.states.continuationOf closed.state = .ok (some (.clear mode.ruleset)) ∧
    session.tagLine state line = (.ok (resultOf line run),
      { session with registry := run.canvas.registry, states := run.states })

/-- A state stands for an open span of a mode that is kept. -/
structure InsideSpan (session : Session) (state : StateId) (mode : Mode) (form : SpanForm) :
    Prop where
  sound : session.Sound
  kept : session.registry.get? mode.ruleset = some mode
  again : session.states.stateOf ⟨mode.ruleset, .span form⟩ = (state, session.states)

variable {session : Session} {state : StateId} {mode : Mode} {form : SpanForm} {line : List Char}
  {column inside : Nat} {reached : Line.Run}

theorem InsideSpan.stands (within : session.InsideSpan state mode form) :
    session.states.continuationOf state = .ok (some ⟨mode.ruleset, .span form⟩) := by
  have stands := States.continuationOf_stateOf session.states ⟨mode.ruleset, .span form⟩
  rwa [within.again] at stands

theorem InsideSpan.startRun_eq (within : session.InsideSpan state mode form) :
    session.startRun state (some ⟨mode.ruleset, .span form⟩) =
      (.span form, ⟨⟨session.registry, []⟩, session.states, mode, state, false, none, 0⟩) := by
  simp only [startRun, within.kept, Option.getD_some, Restart.suppressesColor]

/-- What closes an open span is the end marker that the search of the line finds. -/
theorem InsideSpan.closesAt?_eq (within : session.InsideSpan state mode form)
    (crosses : form.CrossesLines mode.escape) (line : List Char) :
    session.closesAt? state line =
      match findSpanEnd line 0 form.stop mode.escape form.flags mode.wordChars with
      | .found column => some column
      | _ => none := by
  simp only [closesAt?, within.stands, within.startRun_eq]
  by_cases blank : isBlankLine line
  · have white : line.all Unicode.isWhitespace := by
      unfold isBlankLine at blank
      exact (Bool.and_eq_true _ _ ▸ blank).2
    rw [if_pos blank, Line.findSpanEnd_of_blank crosses white]
  · rw [if_neg blank, resumeSpan]
    cases findSpanEnd line 0 form.stop mode.escape form.flags mode.wordChars with
    | found column => exact congrArg some (Nat.add_sub_cancel ..)
    | notFound => rfl
    | failed => rfl

/-- The search finds the end marker at the column at which a line closes the open span. -/
theorem InsideSpan.found_of_closes (within : session.InsideSpan state mode form)
    (crosses : form.CrossesLines mode.escape)
    (closes : session.closesAt? state line = some column) :
    findSpanEnd line 0 form.stop mode.escape form.flags mode.wordChars = .found column := by
  rw [within.closesAt?_eq crosses] at closes
  cases answer : findSpanEnd line 0 form.stop mode.escape form.flags mode.wordChars with
  | found closing =>
    rw [answer] at closes
    rw [Option.some.inj closes]
  | notFound => simp [answer] at closes
  | failed => simp [answer] at closes

/-- The search finds nothing on a line that does not close the open span. -/
theorem InsideSpan.notFound_of_stays (within : session.InsideSpan state mode form)
    (crosses : form.CrossesLines mode.escape) (stays : session.closesAt? state line = none) :
    findSpanEnd line 0 form.stop mode.escape form.flags mode.wordChars = .notFound := by
  rw [within.closesAt?_eq crosses] at stays
  cases answer : findSpanEnd line 0 form.stop mode.escape form.flags mode.wordChars with
  | found column => simp [answer] at stays
  | notFound => rfl
  | failed => exact absurd answer (SpanEnd.search_ne_failed crosses _ _)

/-- What the line does that closes the open span. -/
theorem InsideSpan.closesSpan (within : session.InsideSpan state mode form)
    (crosses : form.CrossesLines mode.escape)
    (closes : session.closesAt? state line = some column) :
    session.ClosesSpan state mode form line column := by
  have notBlank : ¬isBlankLine line := by
    intro blank
    simp [closesAt?, within.stands, within.startRun_eq, blank] at closes
  have found := within.found_of_closes crosses closes
  have resumes : resume mode line (.span form) = .at (column + form.stop.length)
      (Line.paintSpan form 0 0 column (column + form.stop.length) ++ [.close]) := by
    simp only [resume, resumeSpan, found]
  constructor
  · obtain ⟨canvas, painted⟩ := Line.Run.performAll_paint
      (Line.paintSpan_paints form 0 0 column (column + form.stop.length)) _
    rw [painted]
    exact States.continuationOf_stateOf ..
  · rw [tagLine_eq within.stands]
    simp only [runLine, within.startRun_eq, if_neg notBlank]
    rw [Line.Run.start_at resumes, Line.Run.performAll, List.foldl_append]
    rfl

/-- Tagging a line from an open span leaves the session such that the state stands for it. -/
theorem InsideSpan.tagLine (within : session.InsideSpan state mode form) (line : List Char) :
    (session.tagLine state line).2.InsideSpan state mode form := by
  have grows := tagLine_growsTo within.sound state line
  have known : (session.states.stateOf ⟨mode.ruleset, .span form⟩).2.GrowsTo
      (session.tagLine state line).2.states := by
    rw [within.again]
    exact grows.states
  refine ⟨tagLine_sound within.sound state line, grows.modes.modes within.kept, ?_⟩
  rw [States.GrowsTo.stateOf known, within.again]

/-- A line that does not close the open span leaves the state that it starts in. -/
theorem InsideSpan.runLine_of_stays (within : session.InsideSpan state mode form)
    (crosses : form.CrossesLines mode.escape) (stays : session.closesAt? state line = none) :
    (session.runLine state (some ⟨mode.ruleset, .span form⟩) line).state = state := by
  simp only [runLine, within.startRun_eq]
  split
  · rfl
  · have resumes : resume mode line (.span form) = .done
        (Line.paintSpan form 0 0 line.length line.length ++ [.arm (.span form)]) := by
      simp only [resume, resumeSpan, within.notFound_of_stays crosses stays]
    rw [Line.Run.start_done resumes]
    obtain ⟨canvas, leaves⟩ := Line.Run.performAll_paint_arm
      (Line.paintSpan_paints form 0 0 line.length line.length) (.span form) (Line.Run.step _)
    rw [leaves]
    exact congrArg Prod.fst within.again

/-- Behind a line that does not close the open span, the lines go on from the same state. -/
theorem InsideSpan.stays (within : session.InsideSpan state mode form)
    (crosses : form.CrossesLines mode.escape) (stays : session.closesAt? state line = none) :
    ∃ result next, session.tagLine state line = (.ok result, next) ∧ result.state = state ∧
      next.InsideSpan state mode form ∧
      ∀ lines, session.spanClosing? state (line :: lines) =
        (next.spanClosing? state lines).map fun (index, column) => (index + 1, column) := by
  have same := within.runLine_of_stays crosses stays
  have tags := tagLine_eq within.stands line
  have behind := within.tagLine line
  refine ⟨_, _, tags, same, ?_, ?_⟩
  · rwa [tags] at behind
  · intro lines
    simp only [spanClosing?, stays, tags]
    rw [show (resultOf line _).state = state from same]

theorem spanClosing?_of_closes (closes : session.closesAt? state line = some column)
    (lines : List (List Char)) : session.spanClosing? state (line :: lines) = some (0, column) := by
  simp only [spanClosing?, closes]

/-! ## The line that opens the span -/

/-- A line with nothing open before it comes to its first character. -/
theorem comesTo_first {id : RulesetId} {c : Char} {rest : List Char}
    (stands : session.states.continuationOf state = .ok (some (.clear id)))
    (inForce : (session.registry.get? id).getD session.base = mode)
    (notBlank : ¬isBlankLine (c :: rest)) :
    session.ComesTo state (c :: rest) 0
      ⟨⟨session.registry, []⟩, session.states, mode, state, false, none, 1⟩ := by
  subst inForce
  exact ⟨some (.clear id), stands, notBlank, 0, [], rfl, .here⟩

theorem ComesTo.runLine_eq {continuation : Option Continuation}
    (comes : session.ComesTo state line column reached)
    (stands : session.states.continuationOf state = .ok continuation) :
    session.runLine state continuation line =
      Line.Run.dispatch session.options line column 0 reached (line.drop column) := by
  obtain ⟨found, standsFor, notBlank, first, actions, resumes, onward⟩ := comes
  rw [stands] at standsFor
  cases standsFor
  simp only [runLine, if_neg notBlank, Line.Run.start_at resumes]
  exact onward.dispatch_eq rfl

/-- The verdict that leaves a span open. -/
theorem LeavesOpen.verdict (leaves : LeavesOpen reached line column inside form) :
    ∃ c, Text.charAt? line column = some c ∧
      Line.firstVerdict reached.mode line column (reached.mode.matchersAt c) =
        .endsLine (Line.paintSpan form column inside line.length line.length ++
          [.arm (.span form)]) := by
  obtain ⟨c, before, rule, behind, opener, anchors, width, present, list, declined, shape, opens,
    same, nothing⟩ := leaves
  refine ⟨c, present, ?_⟩
  rw [list]
  exact Line.firstVerdict_of_leavesSpan declined
    ⟨.literal opener, anchors, width, shape, opens, same, nothing⟩

theorem LeavesOpen.kept (leaves : LeavesOpen reached line column inside form)
    {registry : Registry} (holds : registry.Holds reached.mode) :
    registry.get? reached.mode.ruleset = some reached.mode := by
  obtain ⟨c, before, rule, behind, -, -, -, -, list, -⟩ := leaves
  exact holds.kept_of_listed (list ▸ List.mem_append_right before List.mem_cons_self)

/-- Behind a line that leaves a span open, its state stands for the open span. -/
theorem LeavesOpen.insideSpan (sound : session.Sound)
    (comes : session.ComesTo state line column reached)
    (leaves : LeavesOpen reached line column inside form) :
    ∃ result, (session.tagLine state line).1 = .ok result ∧
      (session.tagLine state line).2.InsideSpan result.state reached.mode form := by
  obtain ⟨continuation, stands, -⟩ := id comes
  obtain ⟨c, present, verdict⟩ := leaves.verdict
  obtain ⟨canvas, armed⟩ : ∃ canvas, reached.step.performAll session.options line
      (Line.paintSpan form column inside line.length line.length ++ [.arm (.span form)]) =
        Line.Run.arm (.span form) { reached.step with canvas } :=
    Line.Run.performAll_paint_arm (Line.paintSpan_paints form column inside _ _) (.span form)
      reached.step
  have rest := Text.drop_of_charAt? present
  have run : session.runLine state continuation line =
      Line.Run.arm (.span form) { reached.step with canvas } := by
    rw [comes.runLine_eq stands, rest, ← armed, Line.Run.dispatch_cons, verdict]
    rfl
  have holds := (runLine_sound sound stands line).holds
  have after := tagLine_sound sound state line
  rw [tagLine_eq stands] at after ⊢
  refine ⟨_, rfl, after, ?_, ?_⟩
  · rw [run] at holds ⊢
    exact leaves.kept holds
  · rw [resultOf, run]
    exact States.GrowsTo.stateOf (.refl _)

/-! ## Lines in a row -/

/-- What a search comes to, by the line that closes the span and the column there. -/
def searchAnswer (first : List Char) (lines : List (List Char)) : Option (Nat × Nat) → SpanEnd
  | some (index, column) => .found (joinedColumn (first :: lines) (index + 1) column)
  | none => .notFound

/-- One search of the joined text comes to the end marker at which the lines in a row close the
span. -/
theorem InsideSpan.search_eq (crosses : form.CrossesLines mode.escape)
    {lines : List (List Char)} : ∀ {session : Session} {first : List Char} {start : Nat},
    session.InsideSpan state mode form → start ≤ first.length →
    findSpanEnd first start form.stop mode.escape form.flags mode.wordChars = .notFound →
    findSpanEnd (first ++ lines.flatMap ('\n' :: ·)) start form.stop mode.escape form.flags
        mode.wordChars =
      searchAnswer first lines (session.spanClosing? state lines) := by
  induction lines with
  | nil =>
    intro session first start _ _ nothing
    rw [List.flatMap_nil, List.append_nil, nothing]
    rfl
  | cons line lines ih =>
    intro session first start within inside nothing
    have joined : first ++ (line :: lines).flatMap ('\n' :: ·) =
        first ++ '\n' :: (line ++ lines.flatMap ('\n' :: ·)) := by
      rw [List.flatMap_cons]
      rfl
    rw [joined, Line.findSpanEnd_append_feed crosses inside, nothing]
    show SpanEnd.shift _ _ = _
    cases closes : session.closesAt? state line with
    | some column =>
      rw [Line.findSpanEnd_append_lines crosses (within.found_of_closes crosses closes),
        spanClosing?_of_closes closes]
      rfl
    | none =>
      obtain ⟨result, next, -, -, behind, onward⟩ := within.stays crosses closes
      rw [ih behind (Nat.zero_le _) (within.notFound_of_stays crosses closes), onward]
      cases next.spanClosing? state lines <;> rfl

/-- Once the lines before the one that closes the span are tagged, the state still stands for the
span, and the line closes it. -/
theorem InsideSpan.comesToClosing (crosses : form.CrossesLines mode.escape)
    {lines : List (List Char)} : ∀ {session : Session} {index column : Nat},
    session.InsideSpan state mode form →
    session.spanClosing? state lines = some (index, column) →
    ∃ line results next, lines[index]? = some line ∧
      session.tagLines state (lines.take index) = (.ok results, next) ∧
      next.InsideSpan state mode form ∧ next.closesAt? state line = some column := by
  induction lines with
  | nil =>
    intro session index column _ closing
    cases closing
  | cons line lines ih =>
    intro session index column within closing
    cases closes : session.closesAt? state line with
    | some place =>
      rw [spanClosing?_of_closes closes] at closing
      cases closing
      exact ⟨line, [], session, rfl, rfl, within, closes⟩
    | none =>
      obtain ⟨result, next, tags, same, behind, onward⟩ := within.stays crosses closes
      rw [onward] at closing
      simp only [Option.map_eq_some_iff, Prod.mk.injEq] at closing
      obtain ⟨⟨later, _⟩, closing, rfl, rfl⟩ := closing
      obtain ⟨last, results, reached, present, tagged, inside, closesThere⟩ := ih behind closing
      rw [← same] at tagged
      exact ⟨last, result :: results, reached, present, tagLines_cons tags tagged, inside,
        closesThere⟩

/-- The span is closed at a place on one of the lines. -/
theorem InsideSpan.onLines (crosses : form.CrossesLines mode.escape) {lines : List (List Char)}
    {index column : Nat} (within : session.InsideSpan state mode form)
    (closing : session.spanClosing? state lines = some (index, column)) :
    OnLines lines index column := by
  obtain ⟨line, -, next, present, -, inside, closes⟩ := within.comesToClosing crosses closing
  obtain ⟨before, behind, same, rfl⟩ := Line.findSpanEnd_found
    (inside.found_of_closes crosses closes)
  refine ⟨line, present, ?_⟩
  rw [List.drop_zero] at same
  rw [same, Nat.zero_add, List.append_assoc, List.length_append]
  exact Nat.le_add_right ..

/-- As many lines as do not close the span leave the state that the first of them starts in. -/
theorem InsideSpan.tagLines_state (crosses : form.CrossesLines mode.escape)
    {lines : List (List Char)} : ∀ {session : Session} {count : Nat},
    session.InsideSpan state mode form →
    (∀ index column, session.spanClosing? state lines = some (index, column) → count ≤ index) →
    ∃ results, (session.tagLines state (lines.take count)).1 = .ok results ∧
      ∀ result ∈ results, result.state = state := by
  induction lines with
  | nil =>
    intro session count _ _
    rw [List.take_nil]
    exact ⟨[], rfl, fun _ member => absurd member List.not_mem_nil⟩
  | cons line lines ih =>
    rintro session (_ | count) within earlier
    · exact ⟨[], rfl, fun _ member => absurd member List.not_mem_nil⟩
    · cases closes : session.closesAt? state line with
      | some place =>
        have early := earlier 0 place (spanClosing?_of_closes closes lines)
        omega
      | none =>
        obtain ⟨result, next, tags, same, behind, onward⟩ := within.stays crosses closes
        have earlierBehind : ∀ index column,
            next.spanClosing? state lines = some (index, column) → count ≤ index := by
          intro index column closing
          have later := earlier (index + 1) column (by rw [onward, closing]; rfl)
          omega
        obtain ⟨results, tagged, states⟩ := ih behind earlierBehind
        rw [← same] at tagged
        refine ⟨result :: results, ?_, ?_⟩
        · rw [List.take_succ_cons, tagLines_cons tags (Prod.ext tagged rfl)]
        · intro other member
          rcases List.mem_cons.mp member with rfl | member
          · exact same
          · exact states other member

theorem LeavesOpen.inside_le (leaves : LeavesOpen reached line column inside form) :
    inside ≤ line.length := by
  obtain ⟨c, before, rule, behind, opener, anchors, width, present, -, -, -, opens, rfl, -⟩ :=
    leaves
  exact Line.literal_opening_le (Text.lt_length_of_charAt? present) opens

theorem LeavesOpen.notFound (leaves : LeavesOpen reached line column inside form) :
    findSpanEnd line inside form.stop reached.mode.escape form.flags reached.mode.wordChars =
      .notFound := by
  obtain ⟨c, before, rule, behind, opener, anchors, width, -, -, -, -, -, -, nothing⟩ := leaves
  exact nothing

/-- Let a line leave open a span of the mode in force.  The lines behind it close the span at the
place where one search of all the lines, joined by line feeds, finds the end marker, and leave the
span open if that search comes to nothing.  As long as the span is open the state stays, and the
line that closes it is tagged up to the end marker as the span and goes on behind it. -/
theorem spanClosing?_iff_findSpanEnd (library : Library) (options : Options) (calls : List Call)
    (state : StateId) (first : List Char) (lines : List (List Char)) (column inside : Nat)
    (form : SpanForm) (reached : Line.Run)
    (comes : ((new library options).performAll calls).ComesTo state first column reached)
    (leaves : LeavesOpen reached first column inside form)
    (crosses : form.CrossesLines reached.mode.escape) :
    let tagged := ((new library options).performAll calls).tagLine state first
    ∃ result, tagged.1 = .ok result ∧
      let closing := tagged.2.spanClosing? result.state lines
      let search := findSpanEnd (['\n'].intercalate (first :: lines)) inside form.stop
        reached.mode.escape form.flags reached.mode.wordChars
      (∀ index column, closing = some (index, column) ↔
        OnLines lines index column ∧
          search = .found (joinedColumn (first :: lines) (index + 1) column)) ∧
      (closing = none ↔ search = .notFound) ∧
      (∀ count, (∀ index column, closing = some (index, column) → count ≤ index) →
        ∃ results, (tagged.2.tagLines result.state (lines.take count)).1 = .ok results ∧
          ∀ later ∈ results, later.state = result.state) ∧
      ∀ index column, closing = some (index, column) → ∃ line, lines[index]? = some line ∧
        (tagged.2.tagLines result.state (lines.take index)).2.ClosesSpan result.state reached.mode
          form line column := by
  intro tagged
  have sound := performAll_sound (new_sound library options) calls
  obtain ⟨result, returned, within⟩ := leaves.insideSpan sound comes
  refine ⟨result, returned, ?_⟩
  intro closing search
  have answer : search = searchAnswer first lines closing := by
    simp only [search, Line.intercalate_feed]
    exact within.search_eq crosses leaves.inside_le leaves.notFound
  refine ⟨?_, ?_, fun count earlier => within.tagLines_state crosses earlier, ?_⟩
  · intro index column
    constructor
    · intro closes
      refine ⟨within.onLines crosses closes, ?_⟩
      rw [answer, closes]
      rfl
    · rintro ⟨onLines, found⟩
      rw [answer] at found
      cases closes : closing with
      | none =>
        rw [closes] at found
        cases found
      | some place =>
        rw [closes] at found
        have columns : joinedColumn lines place.1 place.2 = joinedColumn lines index column :=
          Nat.add_left_cancel (SpanEnd.found.inj found)
        obtain ⟨sameIndex, sameColumn⟩ :=
          Line.joinedColumn_inj (within.onLines crosses closes) onLines columns
        exact congrArg some (Prod.ext sameIndex sameColumn)
  · rw [answer]
    cases closing with
    | none => simp [searchAnswer]
    | some place => simp [searchAnswer]
  · intro index column closes
    obtain ⟨line, results, next, present, tags, inside, closesThere⟩ :=
      within.comesToClosing crosses closes
    rw [tags]
    exact ⟨line, present, inside.closesSpan crosses closesThere⟩

/-- A session in the language with quotes. -/
def quotingSession : Session :=
  (new .quoting {}).performAll [.setLanguage "quoting"]

/-- The mode of the language with quotes. -/
def quotingMode : Mode :=
  (quotingSession.registry.get? ⟨"quoting_main"⟩).getD quotingSession.base

set_option maxRecDepth 10000 in
theorem quotingMode_matchersAt : quotingMode.matchersAt '"' =
    [.rule (.compile false (.span "\"" "\"" "literal1" none false {} {}))] := by
  with_unfolding_all rfl

/-- The third line behind a quote that is left open closes it: the first is white space, and the
quote on the second is escaped. -/
theorem spanClosing?_iff_findSpanEnd_quote :
    let form : SpanForm := { stop := ['"'], tag := .literal1 }
    let tagged := quotingSession.tagLine ⟨2, 1⟩ ['"', 'a']
    ∃ reached, quotingSession.ComesTo ⟨2, 1⟩ ['"', 'a'] 0 reached ∧
      LeavesOpen reached ['"', 'a'] 0 1 form ∧ form.CrossesLines reached.mode.escape ∧
      ∃ result, tagged.1 = .ok result ∧
        tagged.2.spanClosing? result.state [" ".toList, "b\\\"c".toList, "d\" e".toList] =
          some (2, 1) ∧
        (tagged.2.tagLines result.state [" ".toList, "b\\\"c".toList]).2.ClosesSpan result.state
          reached.mode form "d\" e".toList 1 := by
  intro form tagged
  obtain ⟨mode, inForce⟩ : ∃ mode, quotingMode = mode := ⟨_, rfl⟩
  have list := quotingMode_matchersAt
  have opens : Line.openingWidth? quotingMode ['"', 'a'] 0 (.literal ['"']) {} = some 1 := by
    decide +kernel
  have nothing : findSpanEnd ['"', 'a'] 1 form.stop quotingMode.escape form.flags
      quotingMode.wordChars = .notFound := by
    decide +kernel
  have escape : quotingMode.escape ≠ some '\n' := by
    decide +kernel
  have search : findSpanEnd "\"a\n \nb\\\"c\nd\" e".toList 1 form.stop quotingMode.escape form.flags
      quotingMode.wordChars = .found 11 := by
    decide +kernel
  rw [inForce] at list opens nothing escape search
  have comes : quotingSession.ComesTo ⟨2, 1⟩ ['"', 'a'] 0
      ⟨⟨quotingSession.registry, []⟩, quotingSession.states, mode, ⟨2, 1⟩, false, none, 1⟩ :=
    comesTo_first (by decide +kernel) inForce (by decide)
  have leaves : LeavesOpen
      ⟨⟨quotingSession.registry, []⟩, quotingSession.states, mode, ⟨2, 1⟩, false, none, 1⟩
      ['"', 'a'] 0 1 form :=
    ⟨'"', [], _, [], ['"'], {}, 1, rfl, list, by simp, by with_unfolding_all rfl, opens, rfl,
      nothing⟩
  have crosses : form.CrossesLines mode.escape :=
    ⟨rfl, rfl, by decide, ⟨'"', by decide, by decide⟩, escape⟩
  obtain ⟨result, returned, places, -, -, closing⟩ := spanClosing?_iff_findSpanEnd .quoting {}
    [.setLanguage "quoting"] ⟨2, 1⟩ ['"', 'a'] [" ".toList, "b\\\"c".toList, "d\" e".toList] 0 1
    form _ comes leaves crosses
  have third := (places 2 1).mpr ⟨⟨"d\" e".toList, rfl, by decide⟩, search⟩
  obtain ⟨line, present, closes⟩ := closing 2 1 third
  cases present
  exact ⟨_, comes, leaves, crosses, result, returned, third, closes⟩

end Session

end Highlighter
