import Highlighter.Proofs.Line.RangeClaims
import Highlighter.Proofs.Line.Switching

/-!
# Lines of a documentation part

A documentation part goes on up to a line that starts with `@c`, `@code` or `@language`.  Of these
the first two leave nothing open.  So does the third if there is such a language; if there is none,
the part is still open behind the directive, and it stays open unless the rest of the line closes it
by the way, with the end of a span or with one that is left open.
-/

namespace Highlighter.Line

/-- A line that ends a documentation part. -/
def EndsDocPart (line : List Char) : Prop :=
  startsWithWord line "@language" ∨ startsWithWord line "@c" ∨ startsWithWord line "@code"

instance (line : List Char) : Decidable (EndsDocPart line) :=
  inferInstanceAs (Decidable (_ ∨ _ ∨ _))

/-- Nothing is asked for but that ranges are tagged. -/
def PaintsOnly (actions : List Action) : Prop :=
  ∀ action ∈ actions, ∃ painting, action = .paint painting

/-- What the matchers of a mode find at a place of a line leaves alone what is open. -/
def PaintsOnlyAt (mode : Mode) (line : List Char) (place : Nat) : Prop :=
  ∀ c, Text.charAt? line place = some c →
    PaintsOnly (firstVerdict mode line place (mode.matchersAt c)).actions

variable {mode : Mode} {line : List Char} {column skip : Nat}

theorem paintsOnlyAt_iff {place : Nat} {c : Char} (present : Text.charAt? line place = some c) :
    PaintsOnlyAt mode line place ↔
      PaintsOnly (firstVerdict mode line place (mode.matchersAt c)).actions := by
  constructor
  · exact fun only => only c present
  · intro only d there
    obtain rfl := Option.some.inj (present.symm.trans there)
    exact only

/-- Any other line belongs to the part as a whole. -/
theorem resume_docPart_of_goesOn (goesOn : ¬EndsDocPart line) (mode : Mode) :
    resume mode line .docPart =
      .done [.arm .docPart, .paint { start := 0, stop := line.length, tag := .docPart }] := by
  obtain ⟨noLanguage, noC, noCode⟩ : ¬startsWithWord line "@language" ∧
      ¬startsWithWord line "@c" ∧ ¬startsWithWord line "@code" := by
    simpa [EndsDocPart] using goesOn
  simp only [resume, resumeDocPart, if_neg noLanguage, if_neg noC, if_neg noCode]

/-- Behind `@c` and `@code` the part is closed. -/
theorem resume_docPart_of_code (code : startsWithWord line "@c" ∨ startsWithWord line "@code")
    (mode : Mode) :
    ∃ width, 1 ≤ width ∧
      resume mode line .docPart = .at width [paintDirective 0 width, .close] := by
  have noLanguage : startsWithWord line "@language" = false := by
    rcases code with starts | starts <;>
      exact startsWithWord_eq_false starts "@language" (by decide)
  simp only [resume, resumeDocPart, noLanguage, Bool.false_eq_true, if_false]
  by_cases short : startsWithWord line "@c"
  · exact ⟨2, by decide, by rw [if_pos short]; rfl⟩
  · exact ⟨5, by decide, by rw [if_neg short, if_pos (code.resolve_left short)]; rfl⟩

theorem resume_docPart_of_language (starts : startsWithWord line "@language") (mode : Mode) :
    resume mode line .docPart = .at (languageDirective line).1 (languageDirective line).2 := by
  simp only [resume, resumeDocPart, starts, if_true]

namespace Run

variable {options : Options} {run : Run} {restart other : Restart}

/-! ## What is open -/

/-- The state that the line would leave stands for what is open, in the mode in force. -/
def Leaves (run : Run) (restart : Restart) : Prop :=
  run.states.continuationOf run.state = .ok (some ⟨run.mode.ruleset, restart⟩)

theorem Leaves.unique (leaves : run.Leaves restart) (leavesToo : run.Leaves other) :
    restart = other := by
  have same : some _ = some _ := Except.ok.inj (leaves.symm.trans leavesToo)
  exact congrArg Continuation.restart (Option.some.inj same)

/-- Something is open, or nothing, but no documentation part. -/
def OutOfPart (run : Run) : Prop :=
  ∃ restart, run.Leaves restart ∧ restart ≠ .docPart

theorem OutOfPart.not_leaves (out : run.OutOfPart) : ¬run.Leaves .docPart := by
  obtain ⟨restart, leaves, isOther⟩ := out
  exact fun leavesToo => isOther (leaves.unique leavesToo)

theorem arm_leaves (restart : Restart) (run : Run) : (run.arm restart).Leaves restart :=
  States.continuationOf_stateOf ..

theorem close_leaves (run : Run) : run.close.Leaves .clear :=
  States.continuationOf_stateOf ..

/-- To tag a range leaves open what is open. -/
theorem paint_leaves_iff (painting : Painting) :
    (run.paint options line painting).Leaves restart ↔ run.Leaves restart := by
  unfold paint
  split <;> rfl

theorem OutOfPart.perform (out : run.OutOfPart) {action : Action} (ordinary : action.Ordinary) :
    (run.perform options line action).OutOfPart := by
  cases action with
  | paint painting =>
    obtain ⟨restart, leaves, isOther⟩ := out
    exact ⟨restart, (paint_leaves_iff painting).mpr leaves, isOther⟩
  | arm restart =>
    refine ⟨restart, arm_leaves restart run, ?_⟩
    rintro rfl
    cases ordinary
  | close => exact ⟨.clear, close_leaves run, Restart.noConfusion⟩
  | switchLanguage name => cases ordinary

theorem OutOfPart.performAll (out : run.OutOfPart) {actions : List Action}
    (ordinary : AllOrdinary actions) : (run.performAll options line actions).OutOfPart :=
  performAll_keeps_of_mem OutOfPart
    (fun _ action member out => out.perform (ordinary action member)) out

/-- Once a part is closed it stays closed to the end of the line. -/
theorem OutOfPart.dispatch (out : run.OutOfPart) (behind : 1 ≤ column) (skip : Nat)
    (rest : List Char) : (dispatch options line column skip run rest).OutOfPart :=
  dispatch_keeps_behind OutOfPart (fun _ out => out) (fun _ _ ordinary out => out.perform ordinary)
    rest skip behind out

/-- Whatever rules ask for beside tagging closes the part. -/
theorem performAll_outOfPart {actions : List Action} (ordinary : AllOrdinary actions)
    (more : ¬PaintsOnly actions) : ∀ {run : Run},
    (run.performAll options line actions).OutOfPart := by
  induction actions with
  | nil => exact absurd (fun _ member => absurd member List.not_mem_nil) more
  | cons action actions ih =>
    intro run
    have others : AllOrdinary actions := fun one member =>
      ordinary one (List.mem_cons_of_mem _ member)
    show ((run.perform options line action).performAll options line actions).OutOfPart
    cases action with
    | paint painting =>
      refine ih others fun only => more ?_
      intro one member
      rcases List.mem_cons.mp member with rfl | member
      · exact ⟨painting, rfl⟩
      · exact only one member
    | arm restart =>
      have isSpan : restart ≠ .docPart := by
        rintro rfl
        cases ordinary _ List.mem_cons_self
      have armed : (run.arm restart).OutOfPart := ⟨restart, arm_leaves restart run, isSpan⟩
      exact armed.performAll others
    | close =>
      have closed : run.close.OutOfPart := ⟨.clear, close_leaves run, Restart.noConfusion⟩
      exact closed.performAll others
    | switchLanguage name => cases ordinary _ List.mem_cons_self

theorem performAll_leaves_docPart_iff {actions : List Action} (ordinary : AllOrdinary actions)
    (leaves : run.Leaves .docPart) :
    (run.performAll options line actions).Leaves .docPart ↔ PaintsOnly actions := by
  constructor
  · intro still
    by_contra more
    exact (performAll_outOfPart ordinary more).not_leaves still
  · intro only
    obtain ⟨canvas, painted⟩ :
        ∃ canvas, run.performAll options line actions = { run with canvas } :=
      performAll_paint only run
    rw [painted]
    exact leaves

/-- Behind the first column a part stays open exactly if nothing that is found asks for more than
tagging. -/
theorem dispatch_leaves_docPart_iff (rest : List Char) : ∀ (column skip : Nat) {run : Run},
    1 ≤ column → run.mode = mode → run.Leaves .docPart → line.drop column = rest →
    ((dispatch options line column skip run rest).Leaves .docPart ↔
      ∀ place reached, Comes options line column skip run rest place reached →
        PaintsOnlyAt mode line place) := by
  induction rest with
  | nil =>
    intro column skip run _ _ leaves _
    refine ⟨fun _ place reached comes => ?_, fun _ => leaves⟩
    cases comes
  | cons c rest ih =>
    intro column skip run behind inMode leaves place
    have next : line.drop (column + 1) = rest := Text.drop_succ place
    have later : 1 ≤ column + 1 := Nat.le_succ_of_le behind
    cases skip with
    | succ skip =>
      refine (ih (column + 1) skip later inMode leaves next).trans ?_
      constructor
      · intro only place reached comes
        cases comes with
        | skip onward => exact only place reached onward
      · exact fun only place reached onward => only place reached (.skip onward)
    | zero =>
      have ordinary : AllOrdinary
          (firstVerdict mode line column (mode.matchersAt c)).actions :=
        firstVerdict_ordinary behind _
      rw [forall_comes_cons, dispatch_cons, inMode,
        paintsOnlyAt_iff (Text.charAt?_of_drop place)]
      have onward := fun skip => ih (column + 1) skip later
        (show run.step.mode = mode from inMode) (show run.step.Leaves .docPart from leaves) next
      cases verdict : firstVerdict mode line column (mode.matchersAt c) with
      | declined => simpa [heed, Verdict.actions, PaintsOnly] using onward 0
      | passed width => simpa [heed, Verdict.actions, PaintsOnly] using onward (width - 1)
      | taken width actions =>
        rw [verdict] at ordinary
        by_cases only : PaintsOnly actions
        · obtain ⟨canvas, painted⟩ :
              ∃ canvas, run.step.performAll options line actions = { run.step with canvas } :=
            performAll_paint only run.step
          have after := ih (column + 1) (width - 1) later
            (show ({ run.step with canvas } : Run).mode = mode from inMode) leaves next
          simpa [heed, painted, Verdict.actions, only] using after
        · have out : (run.step.performAll options line actions).OutOfPart :=
            performAll_outOfPart ordinary only
          have closed : ¬(dispatch options line (column + 1) (width - 1)
              (run.step.performAll options line actions) rest).Leaves .docPart :=
            (out.dispatch later (width - 1) rest).not_leaves
          simp [heed, Verdict.actions, only, closed]
      | endsLine actions =>
        rw [verdict] at ordinary
        simpa [heed, Verdict.actions] using performAll_leaves_docPart_iff ordinary
          (show run.step.Leaves .docPart from leaves)

/-! ## Lines that end the part -/

/-- A language that is found closes the part; if none is found, all is left as it was. -/
theorem switchLanguage_cases (name : String) (run : Run) :
    (run.switchLanguage name).switched = some ⟨name, true⟩ ∧
        (run.switchLanguage name).OutOfPart ∨
      (run.switchLanguage name).switched = some ⟨name, false⟩ ∧
        (run.switchLanguage name).mode = run.mode ∧
        ∀ restart, run.Leaves restart → (run.switchLanguage name).Leaves restart := by
  rw [switchLanguage_eq]
  split
  · exact .inr ⟨rfl, rfl, fun _ leaves => leaves⟩
  · split
    · exact .inr ⟨rfl, rfl, fun _ leaves => leaves⟩
    · exact .inl ⟨rfl, .clear, close_leaves (run.entered name), Restart.noConfusion⟩

/-- The directive leaves the part open if its language is not found, and else closes it. -/
theorem performAll_language_cases (options : Options) (line : List Char)
    (leaves : run.Leaves .docPart) :
    let after := run.performAll options line (languageDirective line).2
    (∃ name, after.switched = some ⟨name, true⟩) ∧ after.OutOfPart ∨
      (∃ name, after.switched = some ⟨name, false⟩) ∧ after.mode = run.mode ∧
        after.Leaves .docPart := by
  intro after
  let painted := run.perform options line (paintDirective 0 "@language".length)
  have keeps : (paintDirective 0 "@language".length).KeepsLanguage := trivial
  have inMode : painted.mode = run.mode := (perform_sameLanguage keeps line run).mode
  have stillOpen : painted.Leaves .docPart := (paint_leaves_iff _).mpr leaves
  obtain ⟨name, asked⟩ : ∃ name, after = painted.switchLanguage name := ⟨_, rfl⟩
  rw [asked]
  rcases switchLanguage_cases name painted with ⟨found, out⟩ | ⟨unknown, same, keeps⟩
  · exact .inl ⟨⟨name, found⟩, out⟩
  · exact .inr ⟨⟨name, unknown⟩, same.trans inMode, keeps _ stillOpen⟩

/-- The part is open behind a line that ends it exactly if the line asks for a language that is not
found, and nothing behind the directive asks for more than tagging. -/
theorem start_leaves_docPart_iff (ends : EndsDocPart line) (unswitched : run.switched = none)
    (leaves : run.Leaves .docPart) :
    (run.start options line .docPart).Leaves .docPart ↔
      (∃ name, (run.start options line .docPart).switched = some ⟨name, false⟩) ∧
        ∀ first actions, resume run.mode line .docPart = .at first actions →
          ∀ place reached, Comes options line first 0 (run.step.performAll options line actions)
            (line.drop first) place reached → PaintsOnlyAt run.mode line place := by
  have stepped : run.step.Leaves .docPart := leaves
  rcases ends with language | code
  · have resumes := resume_docPart_of_language language run.mode
    have behind := languageDirective_behind line
    rw [start_at resumes, resumes]
    generalize (languageDirective line).1 = first at behind
    obtain ⟨after, performed⟩ :
        ∃ after, run.step.performAll options line (languageDirective line).2 = after := ⟨_, rfl⟩
    have outcome := performAll_language_cases options line stepped
    have same : after.SameLanguage (dispatch options line first 0 after (line.drop first)) :=
      dispatch_sameLanguage (.inr behind) (line.drop first) 0 after
    rw [performed] at outcome ⊢
    rw [same.switched]
    rcases outcome with ⟨⟨name, found⟩, out⟩ | ⟨unknown, inMode, stillOpen⟩
    · have closed : (dispatch options line first 0 after (line.drop first)).OutOfPart :=
        out.dispatch behind 0 (line.drop first)
      simp [closed.not_leaves, found]
    · rw [dispatch_leaves_docPart_iff _ _ 0 behind inMode stillOpen rfl]
      constructor
      · intro only
        refine ⟨unknown, ?_⟩
        rintro place actions ⟨⟩
        rw [performed]
        exact only
      · rintro ⟨-, only⟩
        have onward := only _ _ rfl
        rwa [performed] at onward
  · obtain ⟨width, behind, resumes⟩ := resume_docPart_of_code code run.mode
    have keep : ∀ action ∈ [paintDirective 0 width, .close], action.KeepsLanguage := by
      simp [paintDirective, Action.KeepsLanguage]
    rw [start_at resumes]
    obtain ⟨after, performed⟩ : ∃ after,
        run.step.performAll options line [paintDirective 0 width, .close] = after := ⟨_, rfl⟩
    have closes : after.Leaves .clear := performed ▸ close_leaves _
    have kept : run.step.SameLanguage after :=
      performed ▸ performAll_sameLanguage keep line run.step
    have same : after.SameLanguage (dispatch options line width 0 after (line.drop width)) :=
      dispatch_sameLanguage (.inr behind) (line.drop width) 0 after
    have out : after.OutOfPart := ⟨.clear, closes, Restart.noConfusion⟩
    have closed : (dispatch options line width 0 after (line.drop width)).OutOfPart :=
      out.dispatch behind 0 (line.drop width)
    have unasked : after.switched = none := kept.switched.trans unswitched
    rw [performed, same.switched, unasked]
    simp [closed.not_leaves]

end Run

end Highlighter.Line
