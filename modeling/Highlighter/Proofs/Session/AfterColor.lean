import Highlighter.Proofs.Line.InStep
import Highlighter.Proofs.Session.Consulting
import Highlighter.Proofs.Session.Lines
import Mathlib.Control.Monad.Basic

/-!
# Lines after `@color`

To have turned colouring on makes no difference to the lines behind it: they are tagged as they are
with nothing open, whatever they leave open and whichever languages they switch to.  The exceptions
are lines that start with `@nocolor-` but not with the directive `@nocolor-node`, which turn
colouring off after `@color` only.
-/

namespace Highlighter

/-- What a line is tagged with, and the language that it asks for. -/
def LineResult.outcome (result : LineResult) : List Event × Option Line.LanguageSwitch :=
  (result.events, result.switched)

namespace Session

variable {first second session : Session} {one two : StateId} {line : List Char}

open Line (Indifferent NoColorInFull)

/-- Two sessions that know the same modes, with a state each, for things open in the same mode that
make no difference. -/
structure InStep (first second : Session) (one two : StateId) : Prop where
  settled : first.registry.Settled []
  registry : second.registry = first.registry
  options : second.options = first.options
  stands : ∃ mode opens opensToo, Indifferent mode opens opensToo ∧
    first.registry.get? mode.ruleset = some mode ∧
    first.states.continuationOf one = .ok (some ⟨mode.ruleset, opens⟩) ∧
    second.states.continuationOf two = .ok (some ⟨mode.ruleset, opensToo⟩)

/-- Lines from states in step end in step. -/
theorem InStep.runLine (inStep : first.InStep second one two) (inFull : NoColorInFull line) :
    ∃ given givenToo, first.states.continuationOf one = .ok given ∧
      second.states.continuationOf two = .ok givenToo ∧
      (first.runLine one given line).InStep (second.runLine two givenToo line) := by
  obtain ⟨mode, opens, opensToo, indifferent, kept, stands, standsToo⟩ := inStep.stands
  have lookup : (first.registry.get? mode.ruleset).getD first.base = mode := by
    rw [kept, Option.getD_some]
  have lookupToo : (second.registry.get? mode.ruleset).getD second.base = mode := by
    rw [inStep.registry, kept, Option.getD_some]
  have suppressed : opensToo.suppressesColor = opens.suppressesColor := by
    rcases indifferent with rfl | ⟨rfl, rfl, -⟩ <;> rfl
  have started : (first.startRun one (some ⟨mode.ruleset, opens⟩)).2.InStep
      (second.startRun two (some ⟨mode.ruleset, opensToo⟩)).2 := by
    simp only [startRun, lookup, lookupToo]
    exact ⟨inStep.settled, kept, by rw [inStep.registry], rfl, suppressed, rfl,
      opens, opensToo, indifferent, stands, standsToo⟩
  refine ⟨_, _, stands, standsToo, ?_⟩
  simp only [Session.runLine]
  split
  · exact started
  · rw [inStep.options]
    apply started.start _ _ _ inFull
    · simpa only [startRun, lookup] using indifferent
    · simpa only [startRun, lookup] using stands
    · rfl

/-- A line from states in step comes out the same, and leaves states in step. -/
theorem InStep.tagLine (inStep : first.InStep second one two) (inFull : NoColorInFull line) :
    ∃ result resultToo next nextToo, first.tagLine one line = (.ok result, next) ∧
      second.tagLine two line = (.ok resultToo, nextToo) ∧
      resultToo.events = result.events ∧ resultToo.switched = result.switched ∧
      next.InStep nextToo result.state resultToo.state := by
  obtain ⟨given, givenToo, stands, standsToo, runs⟩ := inStep.runLine inFull
  refine ⟨_, _, _, _, tagLine_eq stands line, tagLine_eq standsToo line, ?_, runs.switched, ?_⟩
  · simp only [resultOf, runs.canvas]
  · obtain ⟨opens, opensToo, indifferent, leaves, leavesToo⟩ := runs.leaves
    rw [runs.mode] at leavesToo
    exact ⟨runs.settled, congrArg Line.Canvas.registry runs.canvas, inStep.options,
      _, opens, opensToo, indifferent, runs.kept, leaves, leavesToo⟩

/-- Lines from states in step come out the same, one by one. -/
theorem InStep.tagLines (inStep : first.InStep second one two) {lines : List (List Char)}
    (inFull : ∀ line ∈ lines, NoColorInFull line) :
    ∃ results resultsToo, (first.tagLines one lines).1 = .ok results ∧
      (second.tagLines two lines).1 = .ok resultsToo ∧
      resultsToo.map LineResult.outcome = results.map LineResult.outcome := by
  induction lines generalizing first second one two with
  | nil => exact ⟨[], [], rfl, rfl, rfl⟩
  | cons line lines ih =>
    obtain ⟨result, resultToo, next, nextToo, tagged, taggedToo, events, switched, nextInStep⟩ :=
      inStep.tagLine (inFull line List.mem_cons_self)
    obtain ⟨results, resultsToo, rest, restToo, outcomes⟩ :=
      ih nextInStep fun other member => inFull other (List.mem_cons_of_mem _ member)
    refine ⟨result :: results, resultToo :: resultsToo, ?_, ?_, ?_⟩
    · exact congrArg Prod.fst (tagLines_cons tagged (Prod.ext rest rfl))
    · exact congrArg Prod.fst (tagLines_cons taggedToo (Prod.ext restToo rfl))
    · rw [List.map_cons, List.map_cons, outcomes, LineResult.outcome, LineResult.outcome, events,
        switched]

theorem InStep.later (inStep : session.InStep session one two) {later : Session}
    (grows : session.GrowsTo later) (settled : later.registry.Settled []) :
    later.InStep later one two := by
  obtain ⟨mode, opens, opensToo, indifferent, kept, stands, standsToo⟩ := inStep.stands
  exact ⟨settled, rfl, rfl, mode, opens, opensToo, indifferent, grows.modes.modes kept,
    grows.states.continuationOf stands, grows.states.continuationOf standsToo⟩

/-- Whatever the library, the options and the calls that led to a session, take a mode that it keeps
and that has a ruleset, and two states of this mode: one with nothing open and one after `@color`.
Lines none of which starts with `@nocolor-` but not with `@nocolor-node` are tagged alike from the
two, one by one, and ask for the same languages.  It makes no difference whether the lines were
tagged from the first state before they are from the second. -/
theorem tagLines_after_color (library : Library) (options : Options) (calls : List Call)
    (mode : Mode) (clear color : StateId) (lines : List (List Char))
    (kept : ((new library options).performAll calls).registry.get? mode.ruleset = some mode)
    (known : mode.isUnknown = false)
    (isClear : ((new library options).performAll calls).states.continuationOf clear =
      .ok (some ⟨mode.ruleset, .clear⟩))
    (isColor : ((new library options).performAll calls).states.continuationOf color =
      .ok (some ⟨mode.ruleset, .color⟩))
    (inFull : ∀ line ∈ lines, NoColorInFull line) :
    let session := (new library options).performAll calls
    ∃ results after, session.tagLines clear lines = (.ok results, after) ∧
      ∀ later, later = session ∨ later = after →
        ∃ others, (later.tagLines color lines).1 = .ok others ∧
          others.map LineResult.outcome = results.map LineResult.outcome := by
  intro session
  have sound : session.Sound := performAll_sound (new_sound library options) calls
  have directives := (made_of_kept library options calls kept).directivesFirst known
  have inStep : session.InStep session clear color :=
    ⟨sound.settled, rfl, rfl, mode, .clear, .color, .inr ⟨rfl, rfl, directives⟩, kept, isClear,
      isColor⟩
  obtain ⟨results, others, tagged, taggedToo, outcomes⟩ := inStep.tagLines inFull
  have whole : session.tagLines clear lines =
      (.ok results, (session.tagLines clear lines).2) := Prod.ext tagged rfl
  refine ⟨results, _, whole, ?_⟩
  rintro later (rfl | rfl)
  · exact ⟨others, taggedToo, outcomes⟩
  · obtain ⟨afterSound, grows⟩ := tagLines_growsTo sound whole
    have again := tagLines_again sound afterSound whole (.refl _)
    obtain ⟨results', others, tagged, taggedToo, outcomes⟩ :=
      (inStep.later grows afterSound.settled).tagLines inFull
    rw [again] at tagged
    cases tagged
    exact ⟨others, taggedToo, outcomes⟩

/-- A session in which a line turned colouring on. -/
def colored : Session :=
  (new .quoting {}).performAll [.setLanguage "quoting", .tagLine ⟨2, 1⟩ "@color".toList]

theorem colored_stands : ∃ mode, colored.registry.get? mode.ruleset = some mode ∧
    mode.isUnknown = false ∧
    colored.states.continuationOf ⟨2, 1⟩ = .ok (some ⟨mode.ruleset, .clear⟩) ∧
    colored.states.continuationOf ⟨2, 2⟩ = .ok (some ⟨mode.ruleset, .color⟩) := by
  have modeKept : (colored.registry.get? ⟨"quoting_main"⟩).map
      (fun mode => (mode.ruleset, mode.isUnknown)) = some (⟨"quoting_main"⟩, false) := by
    decide +kernel
  obtain ⟨mode, kept, same⟩ := Option.map_eq_some_iff.mp modeKept
  obtain ⟨ruleset, known⟩ := Prod.mk.inj same
  refine ⟨mode, ruleset ▸ kept, known, ?_⟩
  rw [ruleset]
  decide +kernel

/-- A quote over two lines, and `@nocolor` behind it, after `@color`. -/
theorem tagLines_after_color_quote :
    let lines := ["x \"ab".toList, "c\" d".toList, "@nocolor".toList, "\"e\"".toList]
    ∃ others, (colored.tagLines ⟨2, 2⟩ lines).1 = .ok others ∧
      others.map LineResult.outcome =
        [([⟨2, 5, .literal1⟩], none), ([⟨0, 2, .literal1⟩], none), ([], none), ([], none)] := by
  intro lines
  obtain ⟨mode, kept, known, isClear, isColor⟩ := colored_stands
  obtain ⟨results, after, whole, each⟩ := tagLines_after_color .quoting {}
    [.setLanguage "quoting", .tagLine ⟨2, 1⟩ "@color".toList] mode ⟨2, 1⟩ ⟨2, 2⟩ lines kept known
    isClear isColor (by decide +kernel)
  obtain ⟨others, tagged, outcomes⟩ := each colored (.inl rfl)
  have clear : (colored.tagLines ⟨2, 1⟩ lines).1.toOption.map (·.map LineResult.outcome) =
      some [([⟨2, 5, .literal1⟩], none), ([⟨0, 2, .literal1⟩], none), ([], none), ([], none)] := by
    decide +kernel
  rw [show colored.tagLines ⟨2, 1⟩ lines = (.ok results, after) from whole] at clear
  exact ⟨others, tagged, outcomes.trans (Option.some.inj clear)⟩

/-- A line that starts with `@nocolor-` may be tagged differently after `@color`. -/
theorem not_tagLines_after_color :
    ¬∀ (library : Library) (options : Options) (calls : List Call) (mode : Mode)
      (clear color : StateId) (lines : List (List Char)),
      let session := (new library options).performAll calls
      session.registry.get? mode.ruleset = some mode → mode.isUnknown = false →
      session.states.continuationOf clear = .ok (some ⟨mode.ruleset, .clear⟩) →
      session.states.continuationOf color = .ok (some ⟨mode.ruleset, .color⟩) →
      (session.tagLines clear lines).1.toOption.map (·.map LineResult.events) =
        (session.tagLines color lines).1.toOption.map (·.map LineResult.events) := by
  intro always
  obtain ⟨mode, kept, known, isClear, isColor⟩ := colored_stands
  have alike := always .quoting {} [.setLanguage "quoting", .tagLine ⟨2, 1⟩ "@color".toList] mode
    ⟨2, 1⟩ ⟨2, 2⟩ ["@nocolor-x \"a\"".toList] kept known isClear isColor
  have differ : (colored.tagLines ⟨2, 1⟩ ["@nocolor-x \"a\"".toList]).1.toOption.map
        (·.map LineResult.events) = some [[⟨11, 14, .literal1⟩]] ∧
      (colored.tagLines ⟨2, 2⟩ ["@nocolor-x \"a\"".toList]).1.toOption.map
        (·.map LineResult.events) = some [[]] := by
    decide +kernel
  have same := differ.1.symm.trans (alike.trans differ.2)
  exact absurd same (by decide)

end Session

end Highlighter
