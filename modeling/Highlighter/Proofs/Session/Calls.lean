import Highlighter.Proofs.Line.Repeating
import Highlighter.Session

/-!
# What a session keeps

A session is used through a few calls.  All of them keep it sound: the modes that it knows are kept
under their own identifiers, and those of its language and of every state are among them.  All but
the one that sets the language only add to what it knows.
-/

namespace Highlighter

namespace Session

/-- What can be asked of a session. -/
inductive Call : Type 1 where
  | setLanguage (name : String)
  | initialState (enabled : Bool)
  | describe (state : StateId)
  | tagLine (state : StateId) (line : List Char)
  | tagLineInto {σ : Type} (state : StateId) (line : List Char)
      (report : σ → List Char → Event → σ) (sink : σ)

/-- Whether a call leaves the generation of states as it is. -/
def Call.keepsGeneration : Call → Bool
  | setLanguage _ => false
  | _ => true

/-- The session after a call. -/
def perform (session : Session) : Call → Session
  | .setLanguage name => (session.setLanguage name).2
  | .initialState enabled => (session.initialState enabled).2
  | .describe _ => session
  | .tagLine state line => (session.tagLine state line).2
  | .tagLineInto state line report sink => (session.tagLineInto state line report sink).2.1

/-- The session after calls in order. -/
def performAll (session : Session) (calls : List Call) : Session :=
  calls.foldl perform session

/-- The modes of a session are kept under their own identifiers, those of its language and of its
states among them. -/
structure Sound (session : Session) : Prop where
  settled : session.registry.Settled []
  holds : session.registry.Holds session.base
  knows : ∀ continuation ∈ session.states.continuations,
    session.registry.Knows continuation.ruleset

/-- The same language, with the modes and states of before and perhaps more. -/
structure GrowsTo (before after : Session) : Prop where
  modes : before.registry.GrowsTo after.registry
  states : before.states.GrowsTo after.states
  base : after.base = before.base
  options : after.options = before.options

theorem GrowsTo.refl (session : Session) : session.GrowsTo session :=
  ⟨.refl _, .refl _, rfl, rfl⟩

theorem GrowsTo.trans {first second third : Session} (one : first.GrowsTo second)
    (two : second.GrowsTo third) : first.GrowsTo third :=
  ⟨one.modes.trans two.modes, one.states.trans two.states, two.base.trans one.base,
    two.options.trans one.options⟩

variable {session later : Session} {state : StateId} {line : List Char}
  {continuation : Option Continuation}

/-! ## The run of a line -/

/-- The mode of a continuation, or that of the language if the continuation is older. -/
theorem Sound.holds_lookup (sound : session.Sound) (id : RulesetId) :
    session.registry.Holds ((session.registry.get? id).getD session.base) := by
  cases kept : session.registry.get? id with
  | some mode => exact .inl (sound.settled.own kept)
  | none => exact sound.holds

/-- The mode of a known ruleset stays the same for as long as the language does. -/
theorem GrowsTo.lookup_eq {id : RulesetId} (sound : session.Sound) (laterSound : later.Sound)
    (grows : session.GrowsTo later) (knows : session.registry.Knows id) :
    (later.registry.get? id).getD later.base = (session.registry.get? id).getD session.base := by
  rcases knows with ⟨mode, kept⟩ | rfl
  · rw [kept, grows.modes.modes kept]
    rfl
  · rw [laterSound.settled.get?_noLanguage, sound.settled.get?_noLanguage, grows.base]

/-- What stands for something stands for a known continuation. -/
theorem mem_of_continuationOf {states : States} {found : Continuation}
    (stands : states.continuationOf state = .ok (some found)) : found ∈ states.continuations := by
  unfold States.continuationOf at stands
  split at stands
  · cases stands
  · split at stands
    · cases stands
    · split at stands
      · rename_i present
        cases stands
        exact List.mem_of_getElem? present
      · cases stands

theorem startRun_sound (sound : session.Sound)
    (stands : session.states.continuationOf state = .ok continuation) :
    (session.startRun state continuation).2.Sound := by
  cases continuation with
  | none =>
    refine ⟨sound.settled, sound.holds, ?_, _, States.continuationOf_stateOf ..⟩
    intro other member
    rcases States.mem_stateOf.mp member with rfl | member
    · exact sound.holds.knows
    · exact sound.knows other member
  | some found =>
    exact ⟨sound.settled, sound.holds_lookup found.ruleset, sound.knows, found, stands⟩

theorem startRun_states (session : Session) (state : StateId)
    (continuation : Option Continuation) :
    session.states.GrowsTo (session.startRun state continuation).2.states := by
  cases continuation with
  | none => exact States.stateOf_growsTo ..
  | some _ => exact .refl _

/-- Later in the same language a line starts as it did before. -/
theorem startRun_again (sound : session.Sound) (laterSound : later.Sound)
    (grows : session.GrowsTo later)
    (stands : session.states.continuationOf state = .ok continuation)
    (statesGrow : (session.startRun state continuation).2.states.GrowsTo later.states) :
    later.startRun state continuation = ((session.startRun state continuation).1,
      (session.startRun state continuation).2.within later.registry later.states) := by
  cases continuation with
  | none =>
    have again := States.GrowsTo.stateOf statesGrow
    simp only [startRun, States.clearState, grows.base, again]
    rfl
  | some found =>
    have knows := sound.knows found (mem_of_continuationOf stands)
    simp only [startRun, grows.lookup_eq sound laterSound knows]
    rfl

theorem runLine_sound (sound : session.Sound)
    (stands : session.states.continuationOf state = .ok continuation) (line : List Char) :
    (session.runLine state continuation line).Sound := by
  simp only [runLine]
  split
  · exact startRun_sound sound stands
  · exact (Line.Run.start_repeats ..).sound (startRun_sound sound stands)

theorem runLine_modes (sound : session.Sound)
    (stands : session.states.continuationOf state = .ok continuation) (line : List Char) :
    session.registry.GrowsTo (session.runLine state continuation line).canvas.registry := by
  have same : (session.startRun state continuation).2.canvas.registry = session.registry := by
    cases continuation <;> rfl
  simp only [runLine]
  split
  · rw [same]
    exact .refl _
  · have grows := (Line.Run.start_repeats session.options line
      (session.startRun state continuation).1).modes (startRun_sound sound stands)
    rwa [same] at grows

theorem runLine_states (sound : session.Sound)
    (stands : session.states.continuationOf state = .ok continuation) (line : List Char) :
    (session.startRun state continuation).2.states.GrowsTo
      (session.runLine state continuation line).states := by
  simp only [runLine]
  split
  · exact .refl _
  · exact (Line.Run.start_repeats ..).states (startRun_sound sound stands)

/-- Later in the same language a line runs as it did before, and nothing is new. -/
theorem runLine_again (sound : session.Sound) (laterSound : later.Sound)
    (grows : session.GrowsTo later)
    (stands : session.states.continuationOf state = .ok continuation)
    (modesGrow : (session.runLine state continuation line).canvas.registry.GrowsTo later.registry)
    (statesGrow : (session.runLine state continuation line).states.GrowsTo later.states) :
    later.runLine state continuation line =
      (session.runLine state continuation line).within later.registry later.states := by
  have started := startRun_again sound laterSound grows stands
    ((runLine_states sound stands line).trans statesGrow)
  simp only [runLine] at modesGrow statesGrow ⊢
  rw [started, grows.options]
  split
  · rfl
  · rename_i notBlank
    rw [if_neg notBlank] at modesGrow statesGrow
    exact (Line.Run.start_repeats ..).again (startRun_sound sound stands) _ _ modesGrow statesGrow

/-! ## Calls -/

theorem tagLine_eq (stands : session.states.continuationOf state = .ok continuation)
    (line : List Char) :
    session.tagLine state line = (.ok (resultOf line (session.runLine state continuation line)),
      { session with
        registry := (session.runLine state continuation line).canvas.registry
        states := (session.runLine state continuation line).states }) := by
  simp only [tagLine, stands]

/-- A line is tagged exactly if its state stands for something. -/
theorem tagLine_ok_iff :
    (∃ result, (session.tagLine state line).1 = .ok result) ↔
      ∃ continuation, session.states.continuationOf state = .ok continuation := by
  cases stands : session.states.continuationOf state with
  | ok continuation => simp [tagLine_eq stands]
  | error error => simp [tagLine, stands]

/-- A call that is refused changes nothing. -/
theorem tagLine_of_error {error : StateError}
    (refused : session.states.continuationOf state = .error error) (line : List Char) :
    session.tagLine state line = (.error error, session) := by
  simp only [tagLine, refused]

theorem tagLine_sound (sound : session.Sound) (state : StateId) (line : List Char) :
    (session.tagLine state line).2.Sound := by
  cases stands : session.states.continuationOf state with
  | error error =>
    rw [tagLine_of_error stands]
    exact sound
  | ok continuation =>
    rw [tagLine_eq stands]
    have run := runLine_sound sound stands line
    exact ⟨run.settled, sound.holds.mono (runLine_modes sound stands line), run.knows⟩

theorem tagLine_growsTo (sound : session.Sound) (state : StateId) (line : List Char) :
    session.GrowsTo (session.tagLine state line).2 := by
  cases stands : session.states.continuationOf state with
  | error error =>
    rw [tagLine_of_error stands]
    exact .refl _
  | ok continuation =>
    rw [tagLine_eq stands]
    exact ⟨runLine_modes sound stands line,
      (startRun_states session state continuation).trans (runLine_states sound stands line),
      rfl, rfl⟩

/-- To report the events of a line to a sink makes no difference to the answer or the session. -/
theorem tagLineInto_tags {σ : Type} (session : Session) (state : StateId) (line : List Char)
    (report : σ → List Char → Event → σ) (sink : σ) :
    (session.tagLineInto state line report sink).1 = (session.tagLine state line).1 ∧
      (session.tagLineInto state line report sink).2.1 = (session.tagLine state line).2 := by
  unfold tagLineInto
  split <;> rename_i tagged <;> rw [tagged] <;> exact ⟨rfl, rfl⟩

theorem initialState_sound (sound : session.Sound) (enabled : Bool) :
    (session.initialState enabled).2.Sound := by
  refine ⟨sound.settled, sound.holds, ?_⟩
  intro continuation member
  rcases States.mem_stateOf.mp member with rfl | member
  · exact sound.holds.knows
  · exact sound.knows continuation member

theorem initialState_growsTo (session : Session) (enabled : Bool) :
    session.GrowsTo (session.initialState enabled).2 :=
  ⟨.refl _, States.stateOf_growsTo .., rfl, rfl⟩

theorem setLanguage_sound (sound : session.Sound) (name : String) :
    (session.setLanguage name).2.Sound := by
  have holds := Registry.holds_resolve sound.settled name
  refine ⟨Registry.resolve_settled sound.settled name, holds, ?_⟩
  intro continuation member
  have either := States.mem_stateOf.mp
    (show _ ∈ (States.stateOf session.states.reset (.clear _)).2.continuations from member)
  rcases either with rfl | member
  · exact holds.knows
  · exact absurd member List.not_mem_nil

theorem new_sound (library : Library) (options : Options) : (new library options).Sound where
  settled := Registry.settled_empty library options.highlightUrls
  holds := .inr rfl
  knows := fun _ member => absurd member List.not_mem_nil

theorem perform_sound (sound : session.Sound) (call : Call) : (session.perform call).Sound := by
  cases call with
  | setLanguage name => exact setLanguage_sound sound name
  | initialState enabled => exact initialState_sound sound enabled
  | describe state => exact sound
  | tagLine state line => exact tagLine_sound sound state line
  | tagLineInto state line report sink =>
    rw [perform, (tagLineInto_tags ..).2]
    exact tagLine_sound sound state line

theorem perform_growsTo (sound : session.Sound) {call : Call} (keeps : call.keepsGeneration) :
    session.GrowsTo (session.perform call) := by
  cases call with
  | setLanguage name => cases keeps
  | initialState enabled => exact initialState_growsTo session enabled
  | describe state => exact .refl _
  | tagLine state line => exact tagLine_growsTo sound state line
  | tagLineInto state line report sink =>
    rw [perform, (tagLineInto_tags ..).2]
    exact tagLine_growsTo sound state line

/-- What every call keeps is kept by calls in order. -/
theorem performAll_keeps (holds : Session → Prop)
    (each : ∀ session call, holds session → holds (session.perform call)) (calls : List Call) :
    ∀ {session : Session}, holds session → holds (session.performAll calls) := by
  induction calls with
  | nil => exact fun before => before
  | cons call calls ih => exact fun before => ih (each _ call before)

/-- No call changes the options. -/
theorem perform_options (session : Session) (call : Call) :
    (session.perform call).options = session.options := by
  have ofLine : ∀ state line, (session.tagLine state line).2.options = session.options := by
    intro state line
    unfold tagLine
    split <;> rfl
  cases call with
  | setLanguage name => rfl
  | initialState enabled => rfl
  | describe state => rfl
  | tagLine state line => exact ofLine state line
  | tagLineInto state line report sink =>
    rw [perform, (tagLineInto_tags ..).2]
    exact ofLine state line

theorem performAll_options (session : Session) (calls : List Call) :
    (session.performAll calls).options = session.options :=
  performAll_keeps (fun later => later.options = session.options)
    (fun later call same => (perform_options later call).trans same) calls rfl

/-- Every session that calls lead to is sound. -/
theorem performAll_sound (sound : session.Sound) (calls : List Call) :
    (session.performAll calls).Sound :=
  performAll_keeps Sound (fun _ call sound => perform_sound sound call) calls sound

/-- Within a generation a session only grows. -/
theorem performAll_growsTo (sound : session.Sound) {calls : List Call}
    (keep : ∀ call ∈ calls, call.keepsGeneration) : session.GrowsTo (session.performAll calls) := by
  induction calls generalizing session with
  | nil => exact .refl _
  | cons call calls ih =>
    have first := perform_growsTo sound (keep call List.mem_cons_self)
    exact first.trans (ih (perform_sound sound call)
      fun other member => keep other (List.mem_cons_of_mem _ member))

/-- What came of a line comes of it again later in the same language, and nothing is new. -/
theorem tagLine_again (sound : session.Sound) (laterSound : later.Sound) {result : LineResult}
    (returned : (session.tagLine state line).1 = .ok result)
    (grows : (session.tagLine state line).2.GrowsTo later) :
    later.tagLine state line = (.ok result, later) := by
  obtain ⟨continuation, stands⟩ := tagLine_ok_iff.mp ⟨result, returned⟩
  have sinceBefore := (tagLine_growsTo sound state line).trans grows
  have laterStands := sinceBefore.states.continuationOf stands
  rw [tagLine_eq stands] at returned grows
  have again := runLine_again sound laterSound sinceBefore stands grows.modes grows.states
  rw [tagLine_eq laterStands, again]
  cases returned
  rfl

end Session

end Highlighter
