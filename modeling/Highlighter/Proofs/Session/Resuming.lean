import Highlighter.Proofs.Line.Invariants
import Highlighter.Proofs.Line.Leaving
import Highlighter.Proofs.Registry.Requests
import Highlighter.Proofs.Session.Issued
import Mathlib.Control.Monad.Basic

/-!
# Modes that lines go on in

A line goes on in the mode of the ruleset that its state stands for.  That is the mode that was in
force when the state was given out, whatever was resolved since: a mode in force is kept under its
own identifier, and what is kept under an identifier stays.  Only before a language is set is there
a mode that is not kept, and states of that time go on in it.
-/

namespace Highlighter

/-- A language that hands over to one of its own rulesets, which imports it in turn. -/
def Library.relaying : Library where
  files := .ofList [("relay", {
    initialDelegate := some "relay::inner"
    rulesets := [
      ("main", {}),
      ("inner", {
        imports := ["relay"]
        rules := [{ spec := .span "\"" "\"" "literal1" none false {} {} }] })] })]

namespace Registry

variable {registry : Registry}

/-- A mode that is kept under its own identifier has one that belongs to a ruleset. -/
theorem Settled.ruleset_ne_noLanguage {pending : List RulesetId} {mode : Mode}
    (settled : registry.Settled pending) (kept : registry.get? mode.ruleset = some mode) :
    mode.ruleset ≠ .noLanguage := by
  intro same
  rw [same, settled.get?_noLanguage] at kept
  cases kept

theorem ruleset_resolve_ne_noLanguage (settled : registry.Settled []) (name : String) :
    (registry.resolve name).1.ruleset ≠ .noLanguage :=
  (resolve_settled settled name).ruleset_ne_noLanguage
    ((resolve_settled settled name).own (get?_resolve settled name))

end Registry

namespace Line.Run

/-- The mode in force and all continuations belong to rulesets. -/
structure Named (run : Run) : Prop where
  settled : run.canvas.registry.Settled []
  mode : run.mode.ruleset ≠ .noLanguage
  continuations : ∀ continuation ∈ run.states.continuations, continuation.ruleset ≠ .noLanguage

variable {run : Run} (options : Options) (line : List Char)

theorem Named.toState (named : run.Named) (restart : Restart) (suppressed : Bool) :
    Named { run with
      state := (run.states.stateOf ⟨run.mode.ruleset, restart⟩).1
      states := (run.states.stateOf ⟨run.mode.ruleset, restart⟩).2
      suppressed } where
  settled := named.settled
  mode := named.mode
  continuations := by
    intro continuation member
    rcases States.mem_stateOf.mp member with rfl | old
    · exact named.mode
    · exact named.continuations continuation old

theorem Named.switchLanguage (named : run.Named) (name : String) :
    (run.switchLanguage name).Named := by
  have settled := Registry.resolve_settled named.settled name
  rw [switchLanguage_eq]
  split
  · exact ⟨named.settled, named.mode, named.continuations⟩
  · split
    · exact ⟨settled, named.mode, named.continuations⟩
    · have entered : (run.entered name).Named :=
        ⟨settled, Registry.ruleset_resolve_ne_noLanguage named.settled name, named.continuations⟩
      have closed := entered.toState .clear false
      exact ⟨closed.settled, closed.mode, closed.continuations⟩

theorem Named.perform (named : run.Named) (action : Action) :
    (run.perform options line action).Named := by
  cases action with
  | paint painting =>
    show (run.paint options line painting).Named
    unfold paint
    split
    · exact named
    · exact ⟨(paintCanvas_repeats options line painting).settled named.settled, named.mode,
        named.continuations⟩
  | arm restart => exact named.toState restart restart.suppressesColor
  | close => exact named.toState .clear false
  | switchLanguage name => exact named.switchLanguage name

theorem Named.start (named : run.Named) (restart : Restart) :
    (run.start options line restart).Named :=
  start_keeps Named (fun _ named => ⟨named.settled, named.mode, named.continuations⟩)
    (fun _ action named => named.perform options line action) restart named

end Line.Run

namespace Session

/-- A language was set, and it and all continuations belong to rulesets. -/
structure Named (session : Session) : Prop where
  base : session.base.ruleset ≠ .noLanguage
  continuations : ∀ continuation ∈ session.states.continuations,
    continuation.ruleset ≠ .noLanguage

/-- A sound session whose continuations were all left by modes that are held, those of rulesets once
a language is set. -/
structure Accounted (session : Session) : Prop where
  sound : session.Sound
  accounts : ∀ continuation ∈ session.states.continuations,
    session.registry.Accounts continuation
  language : session.base = .unknown .noLanguage ∨ session.Named

variable {session : Session} {state : StateId} {mode : Mode} {continuation : Continuation}

/-- A mode that is held is the one that a line goes on in from a continuation of its ruleset. -/
theorem Accounted.lookup_eq (accounted : session.Accounted)
    (member : continuation ∈ session.states.continuations) (holds : session.registry.Holds mode)
    (same : mode.ruleset = continuation.ruleset) :
    (session.registry.get? continuation.ruleset).getD session.base = mode := by
  rcases holds with kept | rfl
  · rw [← same, kept]
    rfl
  · have absent : session.registry.get? continuation.ruleset = none := by
      rw [← same]
      exact accounted.sound.settled.get?_noLanguage
    rw [absent]
    rcases accounted.language with none | named
    · exact none
    · exact absurd same.symm (named.continuations continuation member)

theorem Accounted.startRun (accounted : session.Accounted) {continuation : Option Continuation}
    (stands : session.states.continuationOf state = .ok continuation) :
    (session.startRun state continuation).2.Accounted ∧
      (session.startRun state continuation).2.mode.MayLeave
        (session.startRun state continuation).1 := by
  have sound := startRun_sound accounted.sound stands
  cases continuation with
  | none =>
    refine ⟨⟨sound, ?_, .clear, States.continuationOf_stateOf ..⟩, trivial⟩
    intro other member
    rcases States.mem_stateOf.mp member with rfl | old
    · exact ⟨session.base, accounted.sound.holds, rfl, trivial⟩
    · exact accounted.accounts other old
  | some found =>
    have member := mem_of_continuationOf stands
    obtain ⟨mode, holds, same, leaves⟩ := accounted.accounts found member
    have inForce : (session.startRun state (some found)).2.mode = mode :=
      accounted.lookup_eq member holds same
    refine ⟨⟨sound, accounted.accounts, found.restart, ?_⟩, ?_⟩
    · rw [inForce, same]
      exact stands
    · rw [inForce]
      exact leaves

/-- A line goes on in the ruleset of its continuation. -/
theorem Accounted.startRun_ruleset (accounted : session.Accounted)
    (stands : session.states.continuationOf state = .ok (some continuation)) :
    (session.startRun state (some continuation)).2.mode.ruleset = continuation.ruleset := by
  obtain ⟨restart, current⟩ := (accounted.startRun stands).1.current
  have same : some _ = some continuation := Except.ok.inj (current.symm.trans stands)
  exact congrArg Continuation.ruleset (Option.some.inj same)

theorem Accounted.runLine (accounted : session.Accounted) {continuation : Option Continuation}
    (stands : session.states.continuationOf state = .ok continuation) (line : List Char) :
    (session.runLine state continuation line).Accounted := by
  obtain ⟨started, leaves⟩ := accounted.startRun stands
  simp only [Session.runLine]
  split
  · exact started
  · exact started.start session.options line leaves

/-- The mode of a continuation is that of a ruleset, if a language was set. -/
theorem Named.startRun (named : session.Named) (sound : session.Sound)
    {continuation : Option Continuation} :
    (session.startRun state continuation).2.Named := by
  cases continuation with
  | none =>
    refine ⟨sound.settled, named.base, ?_⟩
    intro other member
    rcases States.mem_stateOf.mp member with rfl | old
    · exact named.base
    · exact named.continuations other old
  | some found =>
    refine ⟨sound.settled, ?_, named.continuations⟩
    show ((session.registry.get? found.ruleset).getD session.base).ruleset ≠ .noLanguage
    cases kept : session.registry.get? found.ruleset with
    | none => exact named.base
    | some mode => exact sound.settled.ruleset_ne_noLanguage (sound.settled.own kept)

theorem Named.tagLine (named : session.Named) (sound : session.Sound) (state : StateId)
    (line : List Char) : (session.tagLine state line).2.Named := by
  cases stands : session.states.continuationOf state with
  | error error =>
    rw [tagLine_of_error stands]
    exact named
  | ok continuation =>
    have started : (session.startRun state continuation).2.Named := named.startRun sound
    have ran : (session.runLine state continuation line).Named := by
      simp only [runLine]
      split
      · exact started
      · exact started.start session.options line _
    rw [tagLine_eq stands]
    exact ⟨named.base, ran.continuations⟩

theorem Accounted.tagLine (accounted : session.Accounted) (state : StateId) (line : List Char) :
    (session.tagLine state line).2.Accounted := by
  have sound := tagLine_sound accounted.sound state line
  have language : (session.tagLine state line).2.base = .unknown .noLanguage ∨
      (session.tagLine state line).2.Named := by
    rw [(tagLine_growsTo accounted.sound state line).base]
    exact accounted.language.imp id fun named => named.tagLine accounted.sound state line
  cases stands : session.states.continuationOf state with
  | error error =>
    rw [tagLine_of_error stands]
    exact accounted
  | ok continuation =>
    refine ⟨sound, ?_, language⟩
    rw [tagLine_eq stands]
    exact (accounted.runLine stands line).accounts

theorem setLanguage_named (sound : session.Sound) (name : String) :
    (session.setLanguage name).2.Named := by
  have belongs := Registry.ruleset_resolve_ne_noLanguage sound.settled name
  refine ⟨belongs, ?_⟩
  intro other member
  have either := States.mem_stateOf.mp
    (show other ∈ (States.stateOf session.states.reset (.clear _)).2.continuations from member)
  rcases either with rfl | old
  · exact belongs
  · exact absurd old List.not_mem_nil

theorem setLanguage_accounted (accounted : session.Accounted) (name : String) :
    (session.setLanguage name).2.Accounted := by
  refine ⟨setLanguage_sound accounted.sound name, ?_, .inr (setLanguage_named accounted.sound name)⟩
  intro other member
  have either := States.mem_stateOf.mp
    (show other ∈ (States.stateOf session.states.reset (.clear _)).2.continuations from member)
  rcases either with rfl | old
  · exact ⟨_, Registry.holds_resolve accounted.sound.settled name, rfl, trivial⟩
  · exact absurd old List.not_mem_nil

theorem initialState_accounted (accounted : session.Accounted) (enabled : Bool) :
    (session.initialState enabled).2.Accounted := by
  refine ⟨initialState_sound accounted.sound enabled, ?_, ?_⟩
  · intro other member
    rcases States.mem_stateOf.mp member with rfl | old
    · refine ⟨session.base, accounted.sound.holds, rfl, ?_⟩
      cases enabled <;> exact trivial
    · exact accounted.accounts other old
  · apply accounted.language.imp id
    intro named
    refine ⟨named.base, ?_⟩
    intro other member
    rcases States.mem_stateOf.mp member with rfl | old
    · exact named.base
    · exact named.continuations other old

theorem new_accounted (library : Library) (options : Options) :
    (new library options).Accounted where
  sound := new_sound library options
  accounts := fun _ member => absurd member List.not_mem_nil
  language := .inl rfl

theorem perform_accounted (accounted : session.Accounted) (call : Call) :
    (session.perform call).Accounted := by
  cases call with
  | setLanguage name => exact setLanguage_accounted accounted name
  | initialState enabled => exact initialState_accounted accounted enabled
  | describe state => exact accounted
  | tagLine state line => exact accounted.tagLine state line
  | tagLineInto state line report sink =>
    rw [perform, (tagLineInto_tags ..).2]
    exact accounted.tagLine state line

/-- Whatever calls lead to a session, its continuations are accounted for. -/
theorem performAll_accounted (library : Library) (options : Options) (calls : List Call) :
    ((new library options).performAll calls).Accounted :=
  performAll_keeps Accounted (fun _ call accounted => perform_accounted accounted call) calls
    (new_accounted library options)

/-- Once a language was set, every continuation is that of a mode that is kept. -/
theorem Accounted.kept (accounted : session.Accounted) (named : session.Named)
    (member : continuation ∈ session.states.continuations) :
    (session.registry.get? continuation.ruleset).isSome := by
  rcases accounted.sound.knows continuation member with ⟨mode, kept⟩ | same
  · rw [kept]
    rfl
  · exact absurd same (named.continuations continuation member)

theorem perform_named (accounted : session.Accounted) {call : Call}
    (either : session.Named ∨ call.keepsGeneration = false) : (session.perform call).Named := by
  cases keeps : call.keepsGeneration with
  | false =>
    cases call with
    | setLanguage name => exact setLanguage_named accounted.sound name
    | _ => cases keeps
  | true =>
    have named : session.Named := either.resolve_right (by simp [keeps])
    rcases (perform_accounted accounted call).language with none | after
    · have same : session.base = .unknown .noLanguage :=
        (perform_growsTo accounted.sound keeps).base.symm.trans none
      exact absurd (congrArg Mode.ruleset same) named.base
    · exact after

/-- A session that was given a language is named from then on. -/
theorem performAll_named {calls : List Call} :
    ∀ {session : Session}, session.Accounted →
      (session.Named ∨ ∃ call ∈ calls, call.keepsGeneration = false) →
      (session.performAll calls).Named := by
  induction calls with
  | nil =>
    rintro session - (named | ⟨_, member, -⟩)
    · exact named
    · exact absurd member List.not_mem_nil
  | cons call calls ih =>
    intro session accounted either
    apply ih (perform_accounted accounted call)
    rcases either with named | ⟨setting, member, sets⟩
    · exact .inl (perform_named accounted (.inl named))
    · rcases List.mem_cons.mp member with rfl | later
      · exact .inl (perform_named accounted (.inr sets))
      · exact .inr ⟨setting, later, sets⟩

/-! ## States and the modes that gave them out -/

/-- The mode in force at the end of a line, unless its state is refused. -/
def modeBehind? (session : Session) (state : StateId) (line : List Char) : Option Mode :=
  match session.states.continuationOf state with
  | .error _ => none
  | .ok continuation => some (session.runLine state continuation line).mode

/-- The mode in force when the answer to a call gives a state out. -/
def modeInForce? (session : Session) : Call → Option Mode
  | .setLanguage name => some (session.setLanguage name).2.base
  | .initialState _ => some session.base
  | .describe _ => none
  | .tagLine state line => session.modeBehind? state line
  | .tagLineInto state line _ _ => session.modeBehind? state line

/-- A state that the answer to one of some calls gave out, in the generation that they lead to, and
the mode that was in force then. -/
def IssuedIn (session : Session) (calls : List Call) (state : StateId) (mode : Mode) : Prop :=
  ∃ earlier call later, calls = earlier ++ call :: later ∧
    (session.performAll earlier).answer? call = some state ∧
    (session.performAll earlier).modeInForce? call = some mode ∧
    ∀ other ∈ later, other.keepsGeneration

/-- A state stands for a continuation of the mode that is in force when it is given out. -/
theorem answer?_leaves (accounted : session.Accounted) {call : Call}
    (answers : session.answer? call = some state)
    (inForce : session.modeInForce? call = some mode) :
    (session.perform call).registry.Holds mode ∧ ∃ restart,
      (session.perform call).states.continuationOf state = .ok (some ⟨mode.ruleset, restart⟩) := by
  have ofLine : ∀ given line,
      (session.tagLine given line).1.toOption.map LineResult.state = some state →
      session.modeBehind? given line = some mode →
      (session.tagLine given line).2.registry.Holds mode ∧ ∃ restart,
        (session.tagLine given line).2.states.continuationOf state =
          .ok (some ⟨mode.ruleset, restart⟩) := by
    intro given line answers inForce
    cases stands : session.states.continuationOf given with
    | error error => simp [modeBehind?, stands] at inForce
    | ok continuation =>
      simp only [modeBehind?, stands, Option.some.injEq] at inForce
      rw [tagLine_eq stands] at answers ⊢
      cases answers
      have ran := accounted.runLine stands line
      rw [← inForce]
      exact ⟨ran.sound.holds, ran.current⟩
  cases call with
  | setLanguage name =>
    cases answers
    cases inForce
    exact ⟨(setLanguage_sound accounted.sound name).holds, .clear,
      States.continuationOf_stateOf session.states.reset _⟩
  | initialState enabled =>
    cases answers
    cases inForce
    exact ⟨accounted.sound.holds, _, States.continuationOf_stateOf ..⟩
  | describe given => cases answers
  | tagLine given line => exact ofLine given line answers inForce
  | tagLineInto given line report sink =>
    rw [answer?, (tagLineInto_tags ..).1] at answers
    rw [perform, (tagLineInto_tags ..).2]
    exact ofLine given line answers inForce

/-- A line goes on from a state in the mode that was in force when it was given out. -/
theorem IssuedIn.resumes (accounted : session.Accounted) {calls : List Call}
    (each : (session.performAll calls).Accounted) (issued : session.IssuedIn calls state mode) :
    ∃ continuation, (session.performAll calls).states.continuationOf state =
        .ok (some continuation) ∧ continuation.ruleset = mode.ruleset ∧
      ((session.performAll calls).startRun state (some continuation)).2.mode = mode := by
  obtain ⟨earlier, call, later, rfl, answers, inForce, keep⟩ := issued
  have before : (session.performAll earlier).Accounted :=
    performAll_keeps Accounted (fun _ call accounted => perform_accounted accounted call) earlier
      accounted
  obtain ⟨holds, restart, stands⟩ := answer?_leaves before answers inForce
  have grows := performAll_growsTo (perform_accounted before call).sound keep
  rw [performAll_append, performAll_cons] at each ⊢
  have stillStands := grows.states.continuationOf stands
  exact ⟨_, stillStands, rfl,
    each.lookup_eq (mem_of_continuationOf stillStands) (holds.mono grows.modes) rfl⟩

/-- Whenever a state is given out, some mode is in force. -/
theorem modeInForce?_of_answer? {call : Call} (answers : session.answer? call = some state) :
    ∃ mode, session.modeInForce? call = some mode := by
  have ofLine : ∀ given line,
      (session.tagLine given line).1.toOption.map LineResult.state = some state →
      ∃ mode, session.modeBehind? given line = some mode := by
    intro given line answers
    cases stands : session.states.continuationOf given with
    | error error =>
      rw [tagLine_of_error stands] at answers
      cases answers
    | ok continuation => simp [modeBehind?, stands]
  cases call with
  | setLanguage name => exact ⟨_, rfl⟩
  | initialState enabled => exact ⟨_, rfl⟩
  | describe given => cases answers
  | tagLine given line => exact ofLine given line answers
  | tagLineInto given line report sink =>
    rw [answer?, (tagLineInto_tags ..).1] at answers
    exact ofLine given line answers

theorem Issued.issuedIn {calls : List Call} (issued : session.Issued calls state) :
    ∃ mode, session.IssuedIn calls state mode := by
  obtain ⟨earlier, call, later, same, answers, keep⟩ := issued
  obtain ⟨mode, inForce⟩ := modeInForce?_of_answer? answers
  exact ⟨mode, earlier, call, later, same, answers, inForce, keep⟩

/-- Whatever the library: a mode that a registry keeps after some requests it goes on keeping, and
keeps under its own identifier as well.  So, whatever the options and the calls that led to a
session,

* every state was given out with some mode in force, and a line from the state goes on in this mode;
* if a language was ever set, the mode of each continuation is kept: none has to be replaced by that
  of the language. -/
theorem issued_state_resumes (library : Library) :
    (∀ (highlightUrls : Bool) (earlier later : List Registry.Request) (id : RulesetId)
      (mode : Mode),
      let registry := (⟨library, highlightUrls, .empty⟩ : Registry).serveAll earlier
      registry.get? id = some mode →
        (registry.serveAll later).get? id = some mode ∧
          registry.get? mode.ruleset = some mode) ∧
    ∀ (options : Options) (calls : List Call),
      let session := (new library options).performAll calls
      (∀ state, (new library options).Issued calls state →
        ∃ mode, (new library options).IssuedIn calls state mode) ∧
      (∀ state mode, (new library options).IssuedIn calls state mode →
        ∃ continuation, session.states.continuationOf state = .ok (some continuation) ∧
          continuation.ruleset = mode.ruleset ∧
          (session.startRun state (some continuation)).2.mode = mode) ∧
      ((∃ call ∈ calls, call.keepsGeneration = false) →
        ∀ state continuation, session.states.continuationOf state = .ok (some continuation) →
          (session.registry.get? continuation.ruleset).isSome) := by
  refine ⟨?_, ?_⟩
  · intro highlightUrls earlier later id mode registry kept
    have settled : registry.Settled [] :=
      Registry.serveAll_settled (Registry.settled_empty library highlightUrls) earlier
    exact ⟨(Registry.serveAll_growsTo settled later).modes kept, settled.own kept⟩
  · intro options calls session
    have accounted : session.Accounted := performAll_accounted library options calls
    refine ⟨fun state issued => issued.issuedIn, ?_, ?_⟩
    · intro state mode issued
      exact issued.resumes (new_accounted library options) accounted
    · intro given state continuation stands
      have named : session.Named := performAll_named (new_accounted library options) (.inr given)
      exact accounted.kept named (mem_of_continuationOf stands)

/-- A quote that is left open in a language that hands over: both its names have the one mode, and
the next line goes on in it. -/
theorem issued_state_resumes_relay :
    let registry := (⟨.relaying, true, .empty⟩ : Registry).serveAll [.resolve "relay"]
    let calls : List Call := [.setLanguage "relay", .tagLine ⟨2, 1⟩ ['"', 'a']]
    let session := (new .relaying {}).performAll calls
    (∃ mode, registry.get? ⟨"relay_main"⟩ = some mode ∧ mode.ruleset = ⟨"relay_inner"⟩ ∧
      (registry.serveAll [.resolve? "relay::inner"]).get? ⟨"relay_main"⟩ = some mode ∧
      registry.get? ⟨"relay_inner"⟩ = some mode) ∧
    (∃ mode continuation, (new .relaying {}).IssuedIn calls ⟨2, 2⟩ mode ∧
      mode.ruleset = ⟨"relay_inner"⟩ ∧
      session.states.continuationOf ⟨2, 2⟩ = .ok (some continuation) ∧
      (session.startRun ⟨2, 2⟩ (some continuation)).2.mode = mode) ∧
    (session.registry.get? ⟨"relay_inner"⟩).isSome := by
  intro registry calls session
  obtain ⟨requests, sessions⟩ := issued_state_resumes .relaying
  obtain ⟨issuedIn, resumes, kept⟩ := sessions {} calls
  have quote : session.states.continuationOf ⟨2, 2⟩ = .ok (some ⟨⟨"relay_inner"⟩,
      .span { stop := ['"'], tag := .literal1 }⟩) := by
    decide +kernel
  have isSet : ∃ call ∈ calls, call.keepsGeneration = false :=
    ⟨.setLanguage "relay", List.mem_cons_self, rfl⟩
  have innerKept := kept isSet ⟨2, 2⟩ _ quote
  refine ⟨?_, ?_, innerKept⟩
  · have mainKept : (registry.get? ⟨"relay_main"⟩).map Mode.ruleset = some ⟨"relay_inner"⟩ := by
      decide +kernel
    obtain ⟨mode, main, ruleset⟩ := Option.map_eq_some_iff.mp mainKept
    obtain ⟨later, own⟩ := requests true [.resolve "relay"] [.resolve? "relay::inner"] _ _ main
    exact ⟨mode, main, ruleset, later, ruleset ▸ own⟩
  · have issued : (new .relaying {}).Issued calls ⟨2, 2⟩ :=
      ⟨[.setLanguage "relay"], .tagLine ⟨2, 1⟩ ['"', 'a'], [], rfl, by decide +kernel,
        fun _ none => nomatch none⟩
    obtain ⟨mode, inMode⟩ := issuedIn ⟨2, 2⟩ issued
    obtain ⟨continuation, stands, ruleset, goesOn⟩ := resumes ⟨2, 2⟩ mode inMode
    have same : some continuation = some _ := Except.ok.inj (stands.symm.trans quote)
    cases same
    exact ⟨mode, _, inMode, ruleset.symm, stands, goesOn⟩

end Session

end Highlighter
