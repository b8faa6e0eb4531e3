import Highlighter.Proofs.Line.DocParts
import Highlighter.Proofs.Session.ColoringOff
import Mathlib.Control.Monad.Basic

/-!
# Documentation parts

A documentation part takes lines as a whole, and they leave the state that they start in, up to the
first line that starts with `@c`, `@code` or `@language`.  Behind `@c` and `@code` the part is over.
Behind `@language` it is over if there is such a language, and otherwise goes on, unless something
else on the line closes it.
-/

namespace Highlighter

open Line (EndsDocPart PaintsOnlyAt)

namespace Line.Run

variable {options : Options} {line : List Char} {painting : Painting}

theorem paintCanvas_registry (own : painting.delegate = none) (canvas : Canvas) :
    (paintCanvas options line painting canvas).registry = canvas.registry := by
  have painted : (canvas.paint line (delegate line options.maxDelegationDepth) painting).registry =
      canvas.registry := by
    simp only [Canvas.paint, own]
    split <;> simp
  unfold paintCanvas
  dsimp only
  split
  · rw [sweepUrls_registry, painted]
  · exact painted

/-- What is tagged is marked before the addresses in it. -/
theorem marks_prefix_paintCanvas (own : painting.delegate = none) (options : Options)
    (canvas : Canvas) :
    canvas.marks ++ painting.marks line <+: (paintCanvas options line painting canvas).marks := by
  have painted : (canvas.paint line (delegate line options.maxDelegationDepth) painting).marks =
      canvas.marks ++ painting.marks line := Canvas.paint_marks own canvas
  rw [← painted]
  unfold paintCanvas
  dsimp only
  split
  · exact sweepUrls_keeps line _ _ _
  · exact List.prefix_refl _

/-- The first mark of a line that is tagged as a whole is that of the line. -/
theorem head?_paintCanvas_whole (some : line ≠ []) (options : Options) (registry : Registry) :
    (paintCanvas options line { start := 0, stop := line.length, tag := .docPart }
      ⟨registry, []⟩).marks.head? = .some ⟨0, line.length, .docPart⟩ := by
  let whole : Painting := { start := 0, stop := line.length, tag := .docPart }
  have own : whole.delegate = none := rfl
  obtain ⟨others, marks⟩ := marks_prefix_paintCanvas own options ⟨registry, []⟩
  rw [← marks]
  simp [whole, Painting.marks, rangeMarks, some]

theorem paintCanvas_nil (options : Options) (painting : Painting) (own : painting.delegate = none)
    (registry : Registry) : (paintCanvas options [] painting ⟨registry, []⟩).marks = [] := by
  simp [paintCanvas, Canvas.paint, own, Canvas.add, sweepUrls, Url.findIn, Url.findFrom]

end Line.Run

namespace Session

variable {session : Session} {state : StateId} {ruleset : RulesetId} {line : List Char}
  {lines : List (List Char)}

/-- A line that a documentation part takes as a whole.  It leaves the state that it starts in, and
before anything else all of it is tagged, unless it is empty or white space. -/
structure Swallowed (state : StateId) (line : List Char) (result : LineResult) : Prop where
  stays : result.state = state
  unswitched : result.switched = none
  tagged : line.all Unicode.isWhitespace = false →
    result.events.head? = some ⟨0, Text.byteLength line, .docPart⟩
  untagged : line.all Unicode.isWhitespace = true → result.events = []

theorem not_blank_of_endsDocPart (ends : EndsDocPart line) : isBlankLine line = false := by
  have visible : line.all Unicode.isWhitespace = false := by
    rcases ends with starts | starts | starts <;>
      exact Line.not_white_of_startsWithWord starts (by rfl)
  simp [isBlankLine, visible]

/-- In a documentation part a line that does not end it is taken as a whole, and nothing is new. -/
theorem Accounted.tagLine_swallowed (accounted : session.Accounted)
    (booked : session.states.Booked)
    (stands : session.states.continuationOf state = .ok (some ⟨ruleset, .docPart⟩))
    (goesOn : ¬EndsDocPart line) :
    ∃ result, session.tagLine state line = (.ok result, session) ∧ Swallowed state line result := by
  have again : session.states.stateOf ⟨ruleset, .docPart⟩ = (state, session.states) :=
    States.stateOf_of_continuationOf booked.distinct stands
  obtain ⟨mode, started⟩ : ∃ mode : Mode, session.startRun state (some ⟨ruleset, .docPart⟩) =
      (.docPart, ⟨⟨session.registry, []⟩, session.states, mode, state, false, none, 0⟩) :=
    ⟨(session.registry.get? ruleset).getD session.base, rfl⟩
  have inForce : mode.ruleset = ruleset := by
    have same := accounted.startRun_ruleset stands
    rwa [started] at same
  rw [tagLine_eq stands]
  simp only [Session.runLine, started]
  split
  · rename_i blank
    have white : line.all Unicode.isWhitespace := (Bool.and_eq_true_iff.mp blank).2
    exact ⟨_, rfl, rfl, rfl, fun visible => by simp [white] at visible, fun _ => rfl⟩
  · rename_i notBlank
    rw [Line.Run.start_done (Line.resume_docPart_of_goesOn goesOn mode)]
    simp only [Line.Run.performAll, List.foldl_cons, List.foldl_nil, Line.Run.perform,
      Line.Run.arm, Line.Run.step, inForce, again, Line.Run.paint, Restart.suppressesColor,
      Bool.false_eq_true, if_false]
    rw [Line.Run.paintCanvas_registry rfl]
    refine ⟨_, rfl, rfl, rfl, fun visible => ?_, fun white => ?_⟩
    · have some : line ≠ [] := by
        rintro rfl
        simp at visible
      rw [resultOf, List.head?_map, Line.Run.head?_paintCanvas_whole some]
      simp [Mark.toEvent, Text.byteOffset]
    · have empty : line = [] := by
        by_contra some
        exact notBlank (by simp [isBlankLine, white, some])
      subst empty
      rw [resultOf, Line.Run.paintCanvas_nil _ _ rfl]
      rfl

/-- So are such lines in a row. -/
theorem Accounted.tagLines_swallowed (accounted : session.Accounted)
    (booked : session.states.Booked)
    (stands : session.states.continuationOf state = .ok (some ⟨ruleset, .docPart⟩))
    {lines : List (List Char)} (goOn : ∀ line ∈ lines, ¬EndsDocPart line) :
    ∃ results, session.tagLines state lines = (.ok results, session) ∧
      List.Forall₂ (Swallowed state) lines results := by
  induction lines with
  | nil => exact ⟨[], rfl, .nil⟩
  | cons line lines ih =>
    obtain ⟨result, tagged, swallowed⟩ :=
      accounted.tagLine_swallowed booked stands (goOn line List.mem_cons_self)
    obtain ⟨results, rest, others⟩ :=
      ih fun other member => goOn other (List.mem_cons_of_mem _ member)
    rw [← swallowed.stays] at rest
    exact ⟨result :: results, tagLines_cons tagged rest, .cons swallowed others⟩

/-- A line that ends a documentation part is run from its start. -/
theorem runLine_of_endsDocPart (session : Session) (state : StateId) (ruleset : RulesetId)
    (ends : EndsDocPart line) :
    let run := (session.startRun state (some ⟨ruleset, .docPart⟩)).2
    session.runLine state (some ⟨ruleset, .docPart⟩) line =
      run.start session.options line .docPart := by
  simp only [runLine, not_blank_of_endsDocPart ends]
  rfl

/-- It comes where its dispatch comes behind the directive. -/
theorem forall_comesTo_docPart
    (stands : session.states.continuationOf state = .ok (some ⟨ruleset, .docPart⟩))
    (ends : EndsDocPart line) {holds : Nat → Prop} :
    (∀ place reached, session.ComesTo state line place reached → holds place) ↔
      let run := (session.startRun state (some ⟨ruleset, .docPart⟩)).2
      ∀ first actions, Line.resume run.mode line .docPart = .at first actions →
        ∀ place reached, Line.Run.Comes session.options line first 0
          (run.step.performAll session.options line actions) (line.drop first) place reached →
            holds place := by
  constructor
  · intro every run first actions resumes place reached comes
    have notBlank := not_blank_of_endsDocPart ends
    exact every place reached ⟨_, stands, by simp [notBlank], first, actions, resumes, comes⟩
  · rintro every place reached ⟨continuation, standsFor, -, first, actions, resumes, comes⟩
    obtain rfl := Except.ok.inj (stands.symm.trans standsFor)
    exact every first actions resumes place reached comes

/-- Whatever the library, the options and the calls that led to a session, take a state that stands
for a documentation part.  Lines in a row that do not end the part are taken as a whole by it, and
nothing is new behind them.  A line that ends it is tagged, and the part is over behind it, unless
the line asks for a language that is not found, and nothing that is found behind the directive asks
for more than tagging. -/
theorem docPart_open_iff (library : Library) (options : Options) (calls : List Call)
    (state : StateId) (ruleset : RulesetId)
    (stands : ((new library options).performAll calls).states.continuationOf state =
      .ok (some ⟨ruleset, .docPart⟩)) :
    let session := (new library options).performAll calls
    let mode := (session.startRun state (some ⟨ruleset, .docPart⟩)).2.mode
    (∀ lines : List (List Char), (∀ line ∈ lines, ¬EndsDocPart line) →
      ∃ results, session.tagLines state lines = (.ok results, session) ∧
        List.Forall₂ (Swallowed state) lines results) ∧
    ∀ line, EndsDocPart line →
      ∃ result after ending, session.tagLine state line = (.ok result, after) ∧
        after.states.continuationOf result.state = .ok (some ending) ∧
        (ending.restart = .docPart ↔ (∃ name, result.switched = some ⟨name, false⟩) ∧
          ∀ place reached, session.ComesTo state line place reached →
            PaintsOnlyAt mode line place) := by
  intro session mode
  have accounted : session.Accounted := performAll_accounted library options calls
  have booked : session.states.Booked := performAll_booked (new_booked library options) calls
  refine ⟨fun lines goOn => accounted.tagLines_swallowed booked stands goOn, ?_⟩
  intro line ends
  have startsOpen : (session.startRun state (some ⟨ruleset, .docPart⟩)).2.Leaves .docPart := by
    rw [Line.Run.Leaves, accounted.startRun_ruleset stands]
    exact stands
  obtain ⟨restart, leaves⟩ : ∃ restart,
      (session.runLine state (some ⟨ruleset, .docPart⟩) line).Leaves restart :=
    (accounted.runLine stands line).current
  refine ⟨_, _, _, tagLine_eq stands line, leaves, ?_⟩
  have open_iff : restart = .docPart ↔
      (session.runLine state (some ⟨ruleset, .docPart⟩) line).Leaves .docPart :=
    ⟨fun same => same ▸ leaves, leaves.unique⟩
  rw [forall_comesTo_docPart stands ends]
  refine open_iff.trans ?_
  rw [resultOf, runLine_of_endsDocPart session state ruleset ends]
  exact Line.Run.start_leaves_docPart_iff ends rfl startsOpen

/-- The calls that open a documentation part in the language with quotes. -/
def partCalls : List Call :=
  [.setLanguage "quoting", .tagLine ⟨2, 1⟩ "@doc".toList]

/-- The session behind them. -/
def inPart : Session :=
  (new .quoting {}).performAll partCalls

set_option maxRecDepth 10000 in
theorem inPart_stands : inPart.states.continuationOf ⟨2, 2⟩ =
    .ok (some ⟨⟨"quoting_main"⟩, .docPart⟩) := by
  with_unfolding_all rfl

set_option maxRecDepth 10000 in
/-- With a language that is not found the part goes on. -/
theorem inPart_unknown :
    (inPart.tagLine ⟨2, 2⟩ "@language x".toList).1 =
        .ok ⟨[⟨0, 9, .leoKeyword⟩], ⟨2, 2⟩, some ⟨"x", false⟩, 1⟩ ∧
      (inPart.tagLine ⟨2, 2⟩ "@language x".toList).2.states.continuationOf ⟨2, 2⟩ =
        .ok (some ⟨⟨"quoting_main"⟩, .docPart⟩) := by
  constructor <;> with_unfolding_all rfl

set_option maxRecDepth 10000 in
/-- A documentation part takes a quote and a blank line as a whole.  `@c` ends it, and `@language`
with a language that is not found does not, as nothing behind it asks for more than tagging. -/
theorem docPart_open_iff_quote :
    let lines := ["\"é\"".toList, " ".toList]
    let mode := (inPart.startRun ⟨2, 2⟩ (some ⟨⟨"quoting_main"⟩, .docPart⟩)).2.mode
    (∃ results, inPart.tagLines ⟨2, 2⟩ lines = (.ok results, inPart) ∧
      List.Forall₂ (Swallowed ⟨2, 2⟩) lines results) ∧
    (∃ result after ending, inPart.tagLine ⟨2, 2⟩ "@c a".toList = (.ok result, after) ∧
      after.states.continuationOf result.state = .ok (some ending) ∧
      ending.restart ≠ .docPart) ∧
    ∀ place reached, inPart.ComesTo ⟨2, 2⟩ "@language x".toList place reached →
      PaintsOnlyAt mode "@language x".toList place := by
  intro lines mode
  obtain ⟨rows, ends⟩ := docPart_open_iff .quoting {} partCalls ⟨2, 2⟩ ⟨"quoting_main"⟩
    inPart_stands
  refine ⟨rows lines (by decide), ?_, ?_⟩
  · obtain ⟨result, after, ending, tagged, leaves, same⟩ :=
      ends "@c a".toList (by decide)
    refine ⟨result, after, ending, tagged, leaves, fun isOpen => ?_⟩
    obtain ⟨⟨name, asked⟩, -⟩ := same.mp isOpen
    have unasked : (inPart.tagLine ⟨2, 2⟩ "@c a".toList).1.toOption.map LineResult.switched =
        some none := by
      with_unfolding_all rfl
    rw [show inPart.tagLine ⟨2, 2⟩ "@c a".toList = (.ok result, after) from tagged] at unasked
    cases asked.symm.trans (Option.some.inj unasked)
  · obtain ⟨result, after, ending, tagged, leaves, same⟩ :=
      ends "@language x".toList (by decide)
    obtain ⟨returned, stays⟩ := inPart_unknown
    rw [show inPart.tagLine ⟨2, 2⟩ "@language x".toList = (.ok result, after) from tagged]
      at returned stays
    cases returned
    have ending_eq : some _ = some ending := Except.ok.inj (stays.symm.trans leaves)
    cases ending_eq
    exact (same.mp rfl).2

/-- So not every line that starts with one of the three words ends a documentation part. -/
theorem not_docPart_ends :
    ¬∀ (library : Library) (options : Options) (calls : List Call) (state : StateId)
      (ruleset : RulesetId),
      let session := (new library options).performAll calls
      session.states.continuationOf state = .ok (some ⟨ruleset, .docPart⟩) →
      ∀ line, EndsDocPart line → ∀ result after ending,
        session.tagLine state line = (.ok result, after) →
        after.states.continuationOf result.state = .ok (some ending) →
        ending.restart ≠ .docPart := by
  intro always
  obtain ⟨returned, stays⟩ := inPart_unknown
  obtain ⟨after, same⟩ : ∃ after, (inPart.tagLine ⟨2, 2⟩ "@language x".toList).2 = after :=
    ⟨_, rfl⟩
  rw [same] at stays
  exact always .quoting {} partCalls ⟨2, 2⟩ ⟨"quoting_main"⟩ inPart_stands "@language x".toList
    (by decide) _ after _ (Prod.ext returned same) stays rfl

end Session

end Highlighter
