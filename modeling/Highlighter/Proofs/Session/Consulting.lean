import Highlighter.Proofs.Line.Invariants
import Highlighter.Proofs.Registry.Origins
import Highlighter.Proofs.Session.Calls

/-!
# What is asked of the registry

A session and its lines ask the registry for the modes of names, one after the other, and do nothing
else to it.  So what holds of every registry in use holds of the registry of every session.
-/

namespace Highlighter

/-- A registry becomes another one by requests. -/
def Registry.Serves (before after : Registry) : Prop :=
  ∃ requests, after = before.serveAll requests

namespace Registry.Serves

variable {first second third : Registry}

theorem refl (registry : Registry) : registry.Serves registry :=
  ⟨[], rfl⟩

theorem trans (one : first.Serves second) (two : second.Serves third) : first.Serves third := by
  obtain ⟨earlier, rfl⟩ := one
  obtain ⟨later, rfl⟩ := two
  exact ⟨earlier ++ later, (serveAll_append first earlier later).symm⟩

theorem resolve (registry : Registry) (name : String) :
    registry.Serves (registry.resolve name).2 :=
  ⟨[.resolve name], rfl⟩

end Registry.Serves

namespace Line

/-! ## Canvases -/

namespace Canvas

/-- Work on a canvas that asks its registry for modes and does nothing else to it. -/
def Consults (work : Canvas → Canvas) : Prop :=
  ∀ canvas : Canvas, canvas.registry.Serves (work canvas).registry

@[simp] theorem add_registry (line : List Char) (start stop : Nat) (tag : Tag) (canvas : Canvas) :
    (canvas.add line start stop tag).registry = canvas.registry := by
  unfold add
  dsimp only
  split <;> rfl

@[simp] theorem fill_registry (line : List Char) (fallback : Tag) (unclaimed : Option Nat)
    (stop : Nat) (canvas : Canvas) :
    (canvas.fill line fallback unclaimed stop).registry = canvas.registry := by
  cases unclaimed <;> simp [fill]

theorem consults_of_same {work : Canvas → Canvas}
    (same : ∀ canvas, (work canvas).registry = canvas.registry) : Consults work := by
  intro canvas
  rw [same]
  exact .refl _

theorem consults_composes (line : List Char) : Composes line Consults where
  id := consults_of_same fun _ => rfl
  comp := fun one two canvas => (one canvas).trans (two _)
  add := fun start stop tag => consults_of_same (add_registry line start stop tag)
  resolving := fun name _ each canvas =>
    (Registry.Serves.resolve canvas.registry name).trans (each _ _)

end Canvas

/-! ## Runs -/

namespace Run

@[simp] theorem sweepUrls_registry (line : List Char) (start stop : Nat) (canvas : Canvas) :
    (sweepUrls line start stop canvas).registry = canvas.registry := by
  unfold sweepUrls
  generalize Url.findIn line start stop = found
  induction found generalizing canvas with
  | nil => rfl
  | cons range found ih => exact (ih _).trans (Canvas.add_registry line range.1 range.2 .url canvas)

theorem switchLanguage_consults (name : String) (run : Run) :
    run.canvas.registry.Serves (run.switchLanguage name).canvas.registry := by
  rw [switchLanguage_eq]
  split
  · exact .refl _
  · split
    · exact .resolve run.canvas.registry name
    · exact .resolve run.canvas.registry name

theorem perform_consults (options : Options) (line : List Char) (run : Run) (action : Action) :
    run.canvas.registry.Serves (run.perform options line action).canvas.registry := by
  cases action with
  | paint painting =>
    show run.canvas.registry.Serves (run.paint options line painting).canvas.registry
    unfold paint
    split
    · exact .refl _
    · exact (Canvas.consults_composes line).paintCanvas options painting run.canvas
  | arm restart => exact .refl _
  | close => exact .refl _
  | switchLanguage name => exact switchLanguage_consults name run

theorem start_consults (options : Options) (line : List Char) (restart : Restart) (run : Run) :
    run.canvas.registry.Serves (run.start options line restart).canvas.registry :=
  start_keeps (fun later => run.canvas.registry.Serves later.canvas.registry)
    (fun _ serves => serves)
    (fun later action serves => serves.trans (perform_consults options line later action))
    restart (.refl _)

end Run

end Line

/-! ## Sessions -/

namespace Session

theorem tagLine_consults (session : Session) (state : StateId) (line : List Char) :
    session.registry.Serves (session.tagLine state line).2.registry := by
  cases stands : session.states.continuationOf state with
  | error error =>
    rw [tagLine_of_error stands]
    exact .refl _
  | ok continuation =>
    rw [tagLine_eq stands]
    have same : (session.startRun state continuation).2.canvas.registry = session.registry := by
      cases continuation <;> rfl
    simp only [runLine]
    split
    · rw [same]
      exact .refl _
    · rw [← same]
      exact Line.Run.start_consults ..

theorem perform_consults (session : Session) (call : Call) :
    session.registry.Serves (session.perform call).registry := by
  cases call with
  | setLanguage name => exact .resolve session.registry name
  | initialState enabled => exact .refl _
  | describe state => exact .refl _
  | tagLine state line => exact tagLine_consults session state line
  | tagLineInto state line report sink =>
    rw [perform, (tagLineInto_tags ..).2]
    exact tagLine_consults session state line

/-- The registry of a session is what the requests of its calls made of the one that it had. -/
theorem performAll_consults (session : Session) (calls : List Call) :
    session.registry.Serves (session.performAll calls).registry :=
  performAll_keeps (fun later => session.registry.Serves later.registry)
    (fun later call serves => serves.trans (perform_consults later call)) calls (.refl _)

/-- The modes that a session comes to keep are those of its library. -/
theorem made_of_kept (library : Library) (options : Options) (calls : List Call) {id : RulesetId}
    {mode : Mode} (kept : ((new library options).performAll calls).registry.get? id = some mode) :
    Registry.Made library options.highlightUrls mode := by
  obtain ⟨requests, served⟩ := performAll_consults (new library options) calls
  have all := Registry.serveAll_stems (fun _ _ => trivial) requests (fun _ _ => trivial)
    (Registry.allStem_empty library options.highlightUrls fun _ => True)
  rw [served] at kept
  exact (all.stems id mode kept).made

/-- In a library of one ruleset the mode that is kept for it is made of it. -/
theorem exists_madeOf_only (library : Library) (options : Options) (calls : List Call)
    {language key : String} {file : ModeFile} {only : Ruleset}
    (files : library.files.entries = [(language, file)]) (rulesets : file.rulesets = [(key, only)])
    {id : RulesetId} (keeps : (((new library options).performAll calls).registry.get? id).map
      (fun mode => (mode.ruleset, mode.isUnknown)) = some (id, false)) :
    ∃ mode, Registry.MadeOf library options.highlightUrls only mode ∧ mode.ruleset = id ∧
      ((new library options).performAll calls).registry.get? id = some mode := by
  obtain ⟨mode, kept, same⟩ := Option.map_eq_some_iff.mp keeps
  obtain ⟨isOwn, known⟩ := Prod.mk.inj same
  obtain ⟨ruleset, made⟩ := (made_of_kept _ _ _ kept).ruleset_of_known known
  obtain rfl := made.eq_only files rulesets
  exact ⟨mode, made, isOwn, kept⟩

end Session

end Highlighter
