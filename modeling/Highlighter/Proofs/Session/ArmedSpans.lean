import Highlighter.Proofs.Line.Arming
import Highlighter.Proofs.Session.ClosingMarkers
import Highlighter.Proofs.Session.OpenSpans
import Highlighter.Proofs.Session.Resuming

/-!
# Where open spans come from

A line ends inside a span if it starts inside it and does not close it, or if it comes to a place
where a rule of the mode in force opens it and finds no end marker.  That is a rule written for
spans, and one that lets them go on: neither a rule whose spans stay on one line, nor one that a
pattern opens, nor a rule of a mode that only tags a range.  So every span among the states of a
session is that of such a rule, in the mode of its ruleset, on the line that made it known.
-/

namespace Highlighter

open Line (LeavesSpanFirst SpansAmong resume)

/-- A rule, as it is written, is for the spans of a form. -/
def Rule.WritesSpan (rule : Rule) (form : SpanForm) : Prop :=
  ∃ ignoreCase start stop tag anchors, stop.toList = form.stop ∧ Tag.ofWord? tag = some form.tag ∧
    rule = .compile ignoreCase
      (.span start stop tag form.delegate form.excludeMatch form.flags anchors)

namespace Session

open Line.Run (Spanless)

variable {session : Session} {state : StateId} {continuation : Option Continuation}
  {line : List Char} {mode : Mode} {form : SpanForm}

/-! ## Lines -/

/-- Tagging a line from a state comes to a place where a rule of a mode leaves a span open that the
rule is written for. -/
def OpensSpan (session : Session) (state : StateId) (line : List Char) (mode : Mode)
    (form : SpanForm) : Prop :=
  ∃ column reached rule, session.ComesTo state line column reached ∧ reached.mode = mode ∧
    rule.WritesSpan form ∧ LeavesSpanFirst mode line column rule form

/-- Where a rule leaves a span open the line ends inside the span. -/
theorem ComesTo.runLine_of_leaves {column : Nat} {reached : Line.Run} {rule : Rule}
    {form : SpanForm} (comes : session.ComesTo state line column reached)
    (stands : session.states.continuationOf state = .ok continuation)
    (leaves : LeavesSpanFirst reached.mode line column rule form) :
    ∃ canvas, session.runLine state continuation line =
      Line.Run.arm (.span form) { reached.step with canvas } := by
  rw [comes.runLine_eq stands]
  exact Line.Run.dispatch_of_leavesSpanFirst leaves

/-- A line that is not white space and starts inside a span closes it and goes on behind it, or it
is done. -/
theorem resumes_of_stands {id : RulesetId} {form : SpanForm}
    (stands : session.states.continuationOf state = .ok (some ⟨id, .span form⟩))
    {line : List Char} (notBlank : ¬isBlankLine line) :
    let mode := (session.startRun state (some ⟨id, .span form⟩)).2.mode
    (∃ closing, session.closesAt? state line = some closing ∧
      resume mode line (.span form) = .at (closing + form.stop.length)
        (Line.paintSpan form 0 0 closing (closing + form.stop.length) ++ [.close])) ∨
    session.closesAt? state line = none ∧
      resume mode line (.span form) = .done (Line.leaveSpan line form 0 0) := by
  intro mode
  have inForce : (session.registry.get? id).getD session.base = mode := rfl
  rcases Line.resumeSpan_cases mode line form with ⟨closing, closes⟩ | done
  · refine .inl ⟨closing, ?_, closes⟩
    simp only [closesAt?, stands, if_neg notBlank, startRun, inForce, closes, Nat.add_sub_cancel]
  · refine .inr ⟨?_, done⟩
    simp only [closesAt?, stands, if_neg notBlank, startRun, inForce, done]

/-- A line ends inside the span that it starts in if it does not close it. -/
theorem Accounted.runLine_of_stays (accounted : session.Accounted) {id : RulesetId}
    {form : SpanForm} (stands : session.states.continuationOf state = .ok (some ⟨id, .span form⟩))
    (stays : session.closesAt? state line = none) :
    let after := session.runLine state (some ⟨id, .span form⟩) line
    after.states.continuationOf after.state = .ok (some ⟨id, .span form⟩) ∧
      ∀ other ∈ after.states.continuations, other ∈ session.states.continuations := by
  have ruleset := accounted.startRun_ruleset stands
  have resumed : ¬isBlankLine line → _ := resumes_of_stands stands
  obtain ⟨run, started, states, same⟩ : ∃ run,
      session.startRun state (some ⟨id, .span form⟩) = (.span form, run) ∧
        run.states = session.states ∧ run.state = state := ⟨_, rfl, rfl, rfl⟩
  simp only [started] at ruleset resumed
  simp only [Session.runLine, started]
  split
  · rw [states, same]
    exact ⟨stands, fun _ member => member⟩
  · rename_i notBlank
    rcases resumed notBlank with ⟨closing, closes, -⟩ | ⟨-, done⟩
    · simp [stays] at closes
    · obtain ⟨canvas, armed⟩ := run.step.performAll_leaveSpan session.options line form 0 0
      rw [Line.Run.start_done done, armed, ← ruleset]
      refine ⟨States.continuationOf_stateOf .., fun other member => ?_⟩
      rcases States.mem_stateOf.mp member with rfl | old
      · exact ruleset ▸ mem_of_continuationOf stands
      · exact states ▸ old

/-- Tagging a line from a state comes to a place where only known spans are among the states, none
is open, and a rule leaves one open. -/
def ComesToSpan (session : Session) (known : List Continuation) (state : StateId)
    (line : List Char) : Prop :=
  ∃ column reached rule form, session.ComesTo state line column reached ∧
    reached.Spanless known ∧ LeavesSpanFirst reached.mode line column rule form

/-- Behind its start a line that has no span open leaves none open, or comes to a place where a rule
leaves one open. -/
theorem runLine_spans_of_at (stands : session.states.continuationOf state = .ok continuation)
    (notBlank : ¬isBlankLine line) {known : List Continuation} {first : Nat}
    {actions : List Line.Action}
    (resumes : resume (session.startRun state continuation).2.mode line
      (session.startRun state continuation).1 = .at first actions)
    (spanless : ((session.startRun state continuation).2.step.performAll session.options line
      actions).Spanless known) :
    (session.runLine state continuation line).Spanless known ∨
      session.ComesToSpan known state line := by
  simp only [runLine, if_neg notBlank]
  rw [Line.Run.start_at resumes]
  refine (spanless.dispatch rfl).imp id ?_
  rintro ⟨column, reached, rule, form, comes, without, leaves⟩
  exact ⟨column, reached, rule, form,
    ⟨continuation, stands, notBlank, first, actions, resumes, comes⟩, without, leaves⟩

/-- A line that starts with no span open leaves none open, or comes to a place where a rule leaves
one open. -/
theorem runLine_spans_of_spanless
    (stands : session.states.continuationOf state = .ok continuation)
    {known : List Continuation}
    (started : (session.startRun state continuation).2.Spanless known)
    (noSpan : ∀ form, (session.startRun state continuation).1 ≠ .span form) (line : List Char) :
    (session.runLine state continuation line).Spanless known ∨
      session.ComesToSpan known state line := by
  by_cases blank : isBlankLine line
  · simp only [runLine, if_pos blank]
    exact .inl started
  · have stepped : (session.startRun state continuation).2.step.Spanless known :=
      ⟨started.among, started.leaves⟩
    have arms : ∀ form, .arm (.span form) ∉ (resume (session.startRun state continuation).2.mode
        line (session.startRun state continuation).1).actions :=
      fun form member => noSpan form (Line.resume_arms member).1
    cases resumes : resume (session.startRun state continuation).2.mode line
        (session.startRun state continuation).1 with
    | done actions =>
      rw [resumes] at arms
      simp only [runLine, if_neg blank]
      rw [Line.Run.start_done resumes]
      exact .inl (stepped.performAll arms)
    | «at» first actions =>
      rw [resumes] at arms
      exact runLine_spans_of_at stands blank resumes (stepped.performAll arms)

/-- A line starts inside a span and does not close it, or it leaves no span open, or it comes to a
place where a rule leaves one open. -/
theorem runLine_spans (stands : session.states.continuationOf state = .ok continuation)
    (line : List Char) :
    (∃ id form, continuation = some ⟨id, .span form⟩ ∧ session.closesAt? state line = none) ∨
      (session.runLine state continuation line).Spanless session.states.continuations ∨
      session.ComesToSpan session.states.continuations state line := by
  have among : SpansAmong session.states.continuations session.states := fun _ _ member => member
  cases continuation with
  | none =>
    have closed : (Line.Run.close ⟨⟨session.registry, []⟩, session.states, session.base, state,
        false, none, 0⟩).Spanless session.states.continuations :=
      Line.Run.spanless_close among
    exact .inr (runLine_spans_of_spanless stands closed (fun form => Restart.noConfusion) line)
  | some found =>
    obtain ⟨id, restart⟩ := found
    cases restart with
    | span form =>
      by_cases blank : isBlankLine line
      · refine .inl ⟨id, form, rfl, ?_⟩
        simp only [closesAt?, stands, startRun, if_pos blank]
      · rcases resumes_of_stands stands blank with ⟨closing, closes, resumes⟩ | ⟨stays, -⟩
        · refine .inr (runLine_spans_of_at stands blank resumes ?_)
          apply Line.Run.spanless_paint_close
          · exact among
          · exact Line.paintSpan_paints form 0 0 closing _
        · exact .inl ⟨id, form, rfl, stays⟩
    | _ =>
      refine .inr (runLine_spans_of_spanless stands ⟨among, ?_⟩
        (fun form => Restart.noConfusion) line)
      intro id form other
      cases stands.symm.trans other

/-- A line that opens a span ends inside it. -/
theorem OpensSpan.leaves (opens : session.OpensSpan state line mode form)
    (stands : session.states.continuationOf state = .ok continuation) :
    let after := session.runLine state continuation line
    after.states.continuationOf after.state = .ok (some ⟨mode.ruleset, .span form⟩) := by
  obtain ⟨column, reached, rule, comes, rfl, -, leaves⟩ := opens
  obtain ⟨canvas, armed⟩ := comes.runLine_of_leaves stands leaves
  simp only [armed]
  exact States.continuationOf_stateOf ..

/-- In a mode of rules as they are written a span that is left open is one that its rule is written
for. -/
theorem opensSpan_of_leaves {column : Nat} {reached : Line.Run} {rule : Rule}
    (comes : session.ComesTo state line column reached)
    (leaves : LeavesSpanFirst reached.mode line column rule form)
    (written : reached.mode.Consists AsWritten) :
    session.OpensSpan state line reached.mode form := by
  obtain ⟨c, opener, anchors, listed, shape⟩ := leaves.listed
  obtain ⟨ignoreCase, spec, rfl⟩ := written.matchersAt _ listed
  obtain ⟨start, stop, tag, marker, -, isTag, rfl⟩ := Rule.spec_of_span shape
  exact ⟨column, reached, _, comes, rfl,
    ⟨ignoreCase, start, stop, tag, anchors, marker, isTag, rfl⟩, leaves⟩

/-- A line makes no span known that it does not open.  A span that is open behind it is one that it
starts in and does not close, or one that it opens. -/
theorem Accounted.runLine_spans_iff (accounted : session.Accounted)
    (stands : session.states.continuationOf state = .ok continuation) (line : List Char)
    (written : ∀ mode, (session.runLine state continuation line).canvas.registry.Holds mode →
      mode.Consists AsWritten) (id : RulesetId) (form : SpanForm) :
    let after := session.runLine state continuation line
    (⟨id, .span form⟩ ∈ after.states.continuations →
      ⟨id, .span form⟩ ∈ session.states.continuations ∨
        ∃ mode, mode.ruleset = id ∧ session.OpensSpan state line mode form) ∧
    (after.states.continuationOf after.state = .ok (some ⟨id, .span form⟩) ↔
      continuation = some ⟨id, .span form⟩ ∧ session.closesAt? state line = none ∨
        ∃ mode, mode.ruleset = id ∧ session.OpensSpan state line mode form) := by
  intro after
  have back : (continuation = some ⟨id, .span form⟩ ∧ session.closesAt? state line = none ∨
      ∃ mode, mode.ruleset = id ∧ session.OpensSpan state line mode form) →
      after.states.continuationOf after.state = .ok (some ⟨id, .span form⟩) := by
    rintro (⟨rfl, stays⟩ | ⟨mode, rfl, opens⟩)
    · exact (accounted.runLine_of_stays stands stays).1
    · exact opens.leaves stands
  rcases runLine_spans stands line with ⟨started, inside, rfl, stays⟩ | spanless |
    ⟨column, reached, rule, opened, comes, without, leaves⟩
  · obtain ⟨same, old⟩ := accounted.runLine_of_stays stands stays
    refine ⟨fun member => .inl (old _ member), fun behind => ?_, back⟩
    cases same.symm.trans behind
    exact .inl ⟨rfl, stays⟩
  · exact ⟨fun member => .inl (spanless.among id form member),
      fun behind => absurd behind (spanless.leaves id form), back⟩
  · obtain ⟨canvas, armed⟩ := comes.runLine_of_leaves stands leaves
    -- rules are known to be as they are written only in modes that the session holds in the end
    have isHeld : after.canvas.registry.Holds after.mode :=
      (accounted.runLine stands line).sound.holds
    have inForce : after.mode = reached.mode := (congrArg Line.Run.mode armed :)
    have opens := opensSpan_of_leaves comes leaves (inForce ▸ written _ isHeld)
    refine ⟨fun member => ?_, fun behind => ?_, back⟩
    · simp only [after, armed] at member
      rcases States.mem_stateOf.mp member with same | old
      · cases same
        exact .inr ⟨_, rfl, opens⟩
      · exact .inl (without.among id form old)
    · simp only [after, armed] at behind
      cases (States.continuationOf_stateOf ..).symm.trans behind
      exact .inr ⟨_, rfl, opens⟩

/-! ## Sessions -/

/-- The state and the line of a call that tags a line. -/
def Call.tagged? : Call → Option (StateId × List Char)
  | .tagLine state line => some (state, line)
  | .tagLineInto state line _ _ => some (state, line)
  | _ => none

/-- Among some calls, in the generation that they lead to, the first line that makes a span known of
the ruleset of a mode is one that opens the span in this mode. -/
def FirstOpens (session : Session) (calls : List Call) (mode : Mode) (form : SpanForm) : Prop :=
  ∃ earlier call later state line, calls = earlier ++ call :: later ∧
    call.tagged? = some (state, line) ∧ (∀ other ∈ later, other.keepsGeneration) ∧
    ⟨mode.ruleset, .span form⟩ ∉ (session.performAll earlier).states.continuations ∧
    (session.performAll earlier).OpensSpan state line mode form

/-- What is written stays so behind every line of a session. -/
theorem written_of_runLine (library : Library) (options : Options) (calls : List Call)
    {state : StateId} {continuation : Option Continuation} {mode : Mode}
    (stands : ((new library options).performAll calls).states.continuationOf state =
      .ok continuation) (line : List Char)
    (holds : (((new library options).performAll calls).runLine state continuation
      line).canvas.registry.Holds mode) : mode.Consists AsWritten := by
  have further : ((new library options).performAll (calls ++ [.tagLine state line])).registry =
      (((new library options).performAll calls).runLine state continuation
        line).canvas.registry := by
    rw [performAll_append, performAll_cons, perform, tagLine_eq stands]
    rfl
  rw [← further] at holds
  exact consists_of_holds asWritten_ofMatchers library options _ holds

theorem perform_of_tagged (session : Session) {call : Call}
    (tagged : call.tagged? = some (state, line)) :
    session.perform call = (session.tagLine state line).2 ∧ call.keepsGeneration := by
  cases call with
  | tagLine given text =>
    cases tagged
    exact ⟨rfl, rfl⟩
  | tagLineInto given text report sink =>
    cases tagged
    exact ⟨(tagLineInto_tags ..).2, rfl⟩
  | _ => cases tagged

/-- A call makes no span known but by a line that opens it. -/
theorem mem_perform (library : Library) (options : Options) (calls : List Call) (call : Call)
    {id : RulesetId} {form : SpanForm} :
    let session := (new library options).performAll calls
    ⟨id, .span form⟩ ∈ (session.perform call).states.continuations →
    ⟨id, .span form⟩ ∈ session.states.continuations ∧ call.keepsGeneration ∨
      ∃ state line mode, call.tagged? = some (state, line) ∧ mode.ruleset = id ∧
        session.OpensSpan state line mode form := by
  intro session member
  cases tagged : call.tagged? with
  | none =>
    refine .inl ?_
    cases call with
    | setLanguage name =>
      have member : ⟨id, .span form⟩ ∈ (session.states.reset.clearState
          (session.registry.resolve name).1.ruleset).2.continuations := member
      rcases States.mem_stateOf.mp member with same | old
      · cases same
      · cases old
    | initialState enabled =>
      have member : ⟨id, .span form⟩ ∈ (session.states.stateOf ⟨session.base.ruleset,
          if enabled then .clear else .noColor⟩).2.continuations := member
      rcases States.mem_stateOf.mp member with same | old
      · cases enabled <;> cases same
      · exact ⟨old, rfl⟩
    | describe state => exact ⟨member, rfl⟩
    | _ => cases tagged
  | some start =>
    obtain ⟨state, line⟩ := start
    obtain ⟨performed, keeps⟩ := perform_of_tagged session tagged
    rw [performed] at member
    cases stands : session.states.continuationOf state with
    | error error =>
      rw [tagLine_of_error stands] at member
      exact .inl ⟨member, keeps⟩
    | ok continuation =>
      rw [tagLine_eq stands] at member
      have accounted : session.Accounted := performAll_accounted library options calls
      have spans := accounted.runLine_spans_iff stands line
        (fun _ => written_of_runLine library options calls stands line) id form
      refine (spans.1 member).imp (⟨·, keeps⟩) ?_
      rintro ⟨mode, ruleset, opens⟩
      exact ⟨state, line, mode, rfl, ruleset, opens⟩

/-- So every span that is known was made known by a line that opens it. -/
theorem firstOpens_of_mem (library : Library) (options : Options) (calls : List Call)
    {id : RulesetId} {form : SpanForm} :
    ⟨id, .span form⟩ ∈ ((new library options).performAll calls).states.continuations →
    ∃ mode, mode.ruleset = id ∧ (new library options).FirstOpens calls mode form := by
  induction calls using List.reverseRecOn with
  | nil => exact fun member => absurd member List.not_mem_nil
  | append_singleton calls call ih =>
    intro member
    rw [performAll_append, performAll_cons] at member
    -- a call that starts a new generation forgets the span, and it has to be opened again
    by_cases known :
        ⟨id, .span form⟩ ∈ ((new library options).performAll calls).states.continuations ∧
          call.keepsGeneration
    · obtain ⟨old, keeps⟩ := known
      obtain ⟨mode, ruleset, earlier, first, later, state, line, rfl, tagged, keep, new, opens⟩ :=
        ih old
      refine ⟨mode, ruleset, earlier, first, later ++ [call], state, line, by simp, tagged, ?_,
        new, opens⟩
      intro other among
      rcases List.mem_append.mp among with before | last
      · exact keep other before
      · exact List.mem_singleton.mp last ▸ keeps
    · obtain ⟨state, line, mode, tagged, rfl, opens⟩ :=
        (mem_perform library options calls call member).resolve_left known
      have keeps := (perform_of_tagged ((new library options).performAll calls) tagged).2
      exact ⟨mode, rfl, calls, call, [], state, line, rfl, tagged, by simp,
        fun old => known ⟨old, keeps⟩, opens⟩

/-! ## Spans that are opened -/

/-- The mode in which a line opens a span is kept from then on. -/
theorem OpensSpan.kept (opens : session.OpensSpan state line mode form) (sound : session.Sound) :
    (session.tagLine state line).2.registry.get? mode.ruleset = some mode := by
  obtain ⟨column, reached, rule, comes, rfl, -, leaves⟩ := opens
  obtain ⟨continuation, stands, -⟩ := id comes
  obtain ⟨canvas, armed⟩ := comes.runLine_of_leaves stands leaves
  obtain ⟨c, opener, anchors, listed, -⟩ := leaves.listed
  have holds := (runLine_sound sound stands line).holds
  rw [tagLine_eq stands]
  rw [armed] at holds ⊢
  exact holds.kept_of_listed listed

/-- A span that a line opens may go on to the next line, and has an end marker. -/
theorem OpensSpan.goesOn (opens : session.OpensSpan state line mode form) :
    form.flags.noLineBreak = false ∧ form.stop ≠ [] := by
  obtain ⟨column, reached, rule, -, -, written, leaves⟩ := opens
  obtain ⟨ignoreCase, start, stop, tag, anchors, -, -, rfl⟩ := written
  obtain ⟨c, opener, others, -, shape⟩ := leaves.listed
  obtain ⟨-, -, -, -, visible, -⟩ := Rule.spec_of_span shape
  exact ⟨leaves.noLineBreak, visible⟩

/-- So is that of a span that is known. -/
theorem FirstOpens.kept (sound : session.Sound) {calls : List Call}
    (opens : session.FirstOpens calls mode form) :
    (session.performAll calls).registry.get? mode.ruleset = some mode := by
  obtain ⟨earlier, call, later, state, line, rfl, tagged, keep, -, opened⟩ := opens
  have before := performAll_sound sound earlier
  have after := perform_sound before call
  have kept := opened.kept before
  rw [performAll_append, performAll_cons]
  rw [← (perform_of_tagged _ tagged).1] at kept
  exact (performAll_growsTo after keep).modes.modes kept

/-- Whatever the library, the options and the calls that led to a session, every span among its
states may go on to the next line and has an end marker.  The line that first made it known comes to
a place where a rule leaves it open that is written for such spans, with the same end marker, tag,
delegate and flags, in the mode that is kept for its ruleset.  And a line from any state ends inside
a span exactly if it starts inside it and does not close it, or comes to such a place.  So it never
ends inside a span whose rule keeps it to one line, or that a pattern opens, or that a rule opens in
a range that is handed to another mode. -/
theorem spans_opened_by_rules (library : Library) (options : Options) (calls : List Call) :
    let session := (new library options).performAll calls
    (∀ (id : RulesetId) (form : SpanForm), ⟨id, .span form⟩ ∈ session.states.continuations →
      form.flags.noLineBreak = false ∧ form.stop ≠ [] ∧
        ∃ mode, session.registry.get? id = some mode ∧ mode.ruleset = id ∧
          (new library options).FirstOpens calls mode form) ∧
    ∀ (state : StateId) (line : List Char) (result : LineResult) (later : Session),
      session.tagLine state line = (.ok result, later) →
      ∀ (id : RulesetId) (form : SpanForm),
        later.states.continuationOf result.state = .ok (some ⟨id, .span form⟩) ↔
          session.states.continuationOf state = .ok (some ⟨id, .span form⟩) ∧
              session.closesAt? state line = none ∨
            ∃ mode, mode.ruleset = id ∧ session.OpensSpan state line mode form := by
  intro session
  refine ⟨?_, ?_⟩
  · intro id form member
    obtain ⟨mode, rfl, first⟩ := firstOpens_of_mem library options calls member
    have kept := first.kept (new_sound library options)
    obtain ⟨earlier, call, rest, state, line, -, -, -, -, opens⟩ := id first
    exact ⟨opens.goesOn.1, opens.goesOn.2, mode, kept, rfl, first⟩
  · intro state line result later tagged id form
    have accounted : session.Accounted := performAll_accounted library options calls
    obtain ⟨continuation, stands⟩ := tagLine_ok_iff.mp ⟨result, congrArg Prod.fst tagged⟩
    have spans := accounted.runLine_spans_iff stands line
      (fun _ => written_of_runLine library options calls stands line) id form
    rw [tagLine_eq stands] at tagged
    cases tagged
    rw [stands, Except.ok.injEq]
    exact spans.2

/-- A quote that is left open stays open on the next line. -/
theorem spans_opened_by_rules_quote :
    let calls := [.setLanguage "quoting", .tagLine ⟨2, 1⟩ ['"', 'a']]
    let session := (new .quoting {}).performAll calls
    let form : SpanForm := { stop := ['"'], tag := .literal1 }
    ⟨⟨"quoting_main"⟩, .span form⟩ ∈ session.states.continuations ∧
      (∃ mode, session.registry.get? ⟨"quoting_main"⟩ = some mode ∧
        (new .quoting {}).FirstOpens calls mode form) ∧
      ∃ result later, session.tagLine ⟨2, 2⟩ ['b'] = (.ok result, later) ∧
        later.states.continuationOf result.state =
          .ok (some ⟨⟨"quoting_main"⟩, .span form⟩) := by
  intro calls session form
  obtain ⟨known, behind⟩ := spans_opened_by_rules .quoting {} calls
  have member : ⟨⟨"quoting_main"⟩, .span form⟩ ∈ session.states.continuations := by
    decide +kernel
  have stands : session.states.continuationOf ⟨2, 2⟩ =
      .ok (some ⟨⟨"quoting_main"⟩, .span form⟩) := by
    decide +kernel
  have stays : session.closesAt? ⟨2, 2⟩ ['b'] = none := by decide +kernel
  obtain ⟨-, -, mode, kept, -, first⟩ := known _ form member
  exact ⟨member, ⟨mode, kept, first⟩, _, _, tagLine_eq stands ['b'],
    (behind ⟨2, 2⟩ ['b'] _ _ (tagLine_eq stands ['b']) _ form).mpr (.inl ⟨stands, stays⟩)⟩

end Session

end Highlighter
