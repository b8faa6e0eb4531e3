import Highlighter.Proofs.Line.Invariants
import Highlighter.Proofs.Line.Leaving
import Highlighter.Proofs.Registry.Matchers

/-!
# What rules ask for

Whatever a rule finds, it asks for ranges to be tagged and for spans to be left open or closed.  A
rule without delegates tags its ranges by itself.  So do section references and addresses, and all
of these find the same wherever they stand.  What they ask for is local: no other mode has a hand in
it, and the mode in force stays.
-/

namespace Highlighter

/-! ## Rules -/

/-- What follows the opening is tagged without the help of other modes. -/
def Body.Undelegated : Body → Prop
  | .token _ delegate => delegate = none
  | .span form => form.delegate = none
  | .enclosed form => form.delegate = none
  | .restOfLine _ delegate _ => delegate = none
  | .nextWord .. => True
  | .patternBehind .. => True

instance : DecidablePred Body.Undelegated
  | .token _ delegate => inferInstanceAs (Decidable (delegate = none))
  | .span form => inferInstanceAs (Decidable (form.delegate = none))
  | .enclosed form => inferInstanceAs (Decidable (form.delegate = none))
  | .restOfLine _ delegate _ => inferInstanceAs (Decidable (delegate = none))
  | .nextWord .. => inferInstanceAs (Decidable True)
  | .patternBehind .. => inferInstanceAs (Decidable True)

/-- Keywords, or an opening with a body that is tagged without the help of other modes. -/
def RuleForm.Undelegated : RuleForm → Prop
  | .keywords => True
  | .led _ _ body => body.Undelegated

instance : DecidablePred RuleForm.Undelegated
  | .keywords => inferInstanceAs (Decidable True)
  | .led _ _ body => inferInstanceAs (Decidable body.Undelegated)

/-- A rule that has no delegate, if it does anything. -/
def Rule.Undelegated (rule : Rule) : Prop :=
  ∀ form ∈ rule.form, form.Undelegated

instance : DecidablePred Rule.Undelegated := fun rule =>
  inferInstanceAs (Decidable (∀ form ∈ rule.form, form.Undelegated))

/-- A rule that has no delegate, or a directive. -/
def Matcher.Undelegated : Matcher → Prop
  | .rule compiled => compiled.Undelegated
  | .directive _ => True

instance : DecidablePred Matcher.Undelegated
  | .rule compiled => inferInstanceAs (Decidable compiled.Undelegated)
  | .directive _ => inferInstanceAs (Decidable True)

/-- A mode whose rules have no delegates. -/
def Mode.Undelegated (mode : Mode) : Prop :=
  mode.Consists fun _ matcher => matcher.Undelegated

instance : DecidablePred Mode.Undelegated := fun mode =>
  inferInstanceAs (Decidable (∀ entry ∈ mode.matchers.entries, ∀ matcher ∈ entry.2, _))

/-- A matcher that does all by itself, wherever it stands: a rule without delegate, a section
reference or an address. -/
def Matcher.StandsAlone : Matcher → Prop
  | .rule compiled => compiled.Undelegated
  | .directive found => found = .sectionRef ∨ found = .url

theorem Matcher.StandsAlone.undelegated {matcher : Matcher} (alone : matcher.StandsAlone) :
    matcher.Undelegated := by
  cases matcher with
  | rule compiled => exact alone
  | directive found => exact trivial

/-- All that is tried at the characters of a line stands alone. -/
def Mode.StandsAlone (mode : Mode) (line : List Char) : Prop :=
  ∀ c ∈ line, ∀ matcher ∈ mode.matchersAt c, matcher.StandsAlone

namespace Line

variable {mode : Mode} {line : List Char} {column inside : Nat}

/-! ## What is asked for -/

/-- What rules ask for: that ranges are tagged, and that spans are left open or closed.  If `own`
holds, no range is delegated. -/
def Action.OfRule (own : Prop) : Action → Prop
  | .paint painting => own → painting.delegate = none
  | .close => True
  | .arm (.span _) => True
  | _ => False

/-- Nothing is asked for but what rules ask for. -/
def AllOfRule (own : Prop) (actions : List Action) : Prop :=
  ∀ action ∈ actions, action.OfRule own

theorem allOfRule_nil (own : Prop) : AllOfRule own [] :=
  fun _ member => absurd member List.not_mem_nil

theorem AllOfRule.imp {own other : Prop} {actions : List Action} (ofRule : AllOfRule own actions)
    (holds : other → own) : AllOfRule other actions := by
  intro action asked
  have itself := ofRule action asked
  cases action with
  | paint painting => exact fun given => itself (holds given)
  | arm restart => cases restart <;> exact itself
  | close => exact trivial
  | switchLanguage name => cases itself

theorem AllOfRule.append_singleton {own : Prop} {actions : List Action} {last : Action}
    (ofRule : AllOfRule own actions) (lastToo : last.OfRule own) :
    AllOfRule own (actions ++ [last]) :=
  List.forall_mem_append.mpr ⟨ofRule, List.forall_mem_singleton.mpr lastToo⟩

theorem paintSpan_ofRule (form : SpanForm) (start inside closing stop : Nat) :
    AllOfRule (form.delegate = none) (paintSpan form start inside closing stop) := by
  unfold paintSpan
  split
  · rename_i name delegates
    simp [AllOfRule, Action.OfRule, delegates]
  · split <;> simp [AllOfRule, Action.OfRule]

theorem resumeSpan_ofRule (mode : Mode) (line : List Char) (form : SpanForm) :
    AllOfRule (form.delegate = none) (resumeSpan mode line form).actions := by
  unfold resumeSpan
  split
  · exact (paintSpan_ofRule form _ _ _ _).append_singleton trivial
  · exact (paintSpan_ofRule form _ _ _ _).append_singleton trivial

theorem PaintsAlone.ofRule {actions : List Action} (alone : PaintsAlone actions) (own : Prop) :
    AllOfRule own actions := by
  intro action asked
  obtain ⟨painting, rfl, undelegated⟩ := alone action asked
  exact fun _ => undelegated

theorem bodyVerdict_ofRule (body : Body) :
    AllOfRule body.Undelegated (bodyVerdict mode line column inside body).actions := by
  cases body with
  | token tag delegate =>
    simp [AllOfRule, bodyVerdict, Verdict.actions, Action.OfRule, Body.Undelegated]
  | span form =>
    simp only [bodyVerdict, spanVerdict]
    split
    · exact allOfRule_nil _
    · exact (paintSpan_ofRule form _ _ _ _).append_singleton trivial
    · exact (paintSpan_ofRule form _ _ _ _).append_singleton trivial
  | enclosed form =>
    simp only [bodyVerdict, enclosedVerdict]
    split
    · exact allOfRule_nil _
    · split
      · exact allOfRule_nil _
      · exact paintSpan_ofRule form _ _ _ _
  | restOfLine tag delegate excludeMatch =>
    simp only [bodyVerdict, restOfLineVerdict]
    split <;> simp [AllOfRule, Verdict.actions, Action.OfRule, Body.Undelegated]
  | nextWord tag excludeMatch =>
    simp only [bodyVerdict]
    split <;> simp [AllOfRule, Verdict.actions, Action.OfRule]
  | patternBehind tag pattern patternTag excludeMatch =>
    simp only [bodyVerdict]
    split <;> simp [AllOfRule, Verdict.actions, Action.OfRule]

theorem ruleVerdict_ofRule (mode : Mode) (line : List Char) (column : Nat) (rule : Rule) :
    AllOfRule rule.Undelegated (ruleVerdict mode line column rule).actions := by
  unfold ruleVerdict
  split
  · exact allOfRule_nil _
  · exact (keywordsVerdict_paintsAlone mode line column).ofRule _
  · rename_i opener anchors body form
    split
    · exact allOfRule_nil _
    · exact (bodyVerdict_ofRule body).imp fun undelegated => undelegated _ form

/-! ## What stands alone -/

/-- An action that nothing but the mode in force and its registry has a hand in. -/
def Action.IsLocal : Action → Prop
  | .paint painting => painting.delegate = none
  | .switchLanguage _ => False
  | .arm _ => True
  | .close => True

/-- All that is asked for is local. -/
def AllLocal (actions : List Action) : Prop :=
  ∀ action ∈ actions, action.IsLocal

/-- What a rule without delegates asks for is local. -/
theorem AllOfRule.isLocal {own : Prop} {actions : List Action} (ofRule : AllOfRule own actions)
    (undelegated : own) : AllLocal actions := by
  intro action asked
  have itself := ofRule action asked
  cases action with
  | paint painting => exact itself undelegated
  | arm restart => exact trivial
  | close => exact trivial
  | switchLanguage name => cases itself

/-- What is to be tagged is not delegated where all is local. -/
theorem AllLocal.undelegated {actions : List Action} (isLocal : AllLocal actions) :
    ∀ painting ∈ actions.filterMap Action.painting?, painting.delegate = none := by
  intro painting member
  obtain ⟨action, asked, paints⟩ := List.mem_filterMap.mp member
  cases action with
  | paint found =>
    cases paints
    exact isLocal _ asked
  | _ => cases paints

theorem PaintsAlone.undelegated {actions : List Action} (alone : PaintsAlone actions) :
    ∀ painting ∈ actions.filterMap Action.painting?, painting.delegate = none :=
  ((alone.ofRule True).isLocal trivial).undelegated

/-- What stands alone asks for ranges to be tagged without delegates, and for spans to be left open
or closed. -/
theorem matcherVerdict_ofRule {matcher : Matcher} (alone : matcher.StandsAlone) (nested : Bool) :
    AllOfRule True (matcherVerdict mode line column nested matcher).actions := by
  cases matcher with
  | rule rule => exact (ruleVerdict_ofRule mode line column rule).imp fun _ => alone
  | directive directive =>
    rcases alone with rfl | rfl
    · exact (sectionRefVerdict_paintsAlone line column).ofRule True
    · exact (urlVerdict_paintsAlone mode line column nested).ofRule True

theorem firstVerdict_ofRule {matchers : List Matcher}
    (alone : ∀ matcher ∈ matchers, matcher.StandsAlone) :
    AllOfRule True (firstVerdict mode line column matchers).actions := by
  induction matchers with
  | nil => exact allOfRule_nil True
  | cons matcher matchers ih =>
    rw [firstVerdict]
    split
    · exact ih fun other member => alone other (List.mem_cons_of_mem _ member)
    · exact matcherVerdict_ofRule (alone matcher List.mem_cons_self) false

theorem firstVerdict_local {matchers : List Matcher}
    (alone : ∀ matcher ∈ matchers, matcher.StandsAlone) :
    AllLocal (firstVerdict mode line column matchers).actions :=
  (firstVerdict_ofRule alone).isLocal trivial

/-! ## What is not delegated -/

theorem directiveVerdict_undelegated (mode : Mode) (line : List Char) (column : Nat) (nested : Bool)
    (directive : Directive) :
    ∀ painting ∈ (directiveVerdict mode line column nested directive).actions.filterMap
      Action.painting?, painting.delegate = none := by
  have atStart : ∀ directive, ∀ painting ∈
      (lineStartVerdict line directive).actions.filterMap Action.painting?,
        painting.delegate = none := by
    intro directive
    cases directive <;> simp only [lineStartVerdict, docPartVerdict, languageDirective]
    all_goals first
      | (split <;> simp [Verdict.actions, Action.painting?, paintDirective])
      | simp [Verdict.actions]
  have unlessNested : ∀ directive, ∀ painting ∈ (if column = 0 && !nested then
      lineStartVerdict line directive else .declined).actions.filterMap Action.painting?,
        painting.delegate = none := by
    intro directive
    split
    · exact atStart directive
    · simp [Verdict.actions]
  cases directive with
  | leoKeywords => exact (leoKeywordsVerdict_paintsAlone mode line column).undelegated
  | sectionRef => exact (sectionRefVerdict_paintsAlone line column).undelegated
  | url => exact (urlVerdict_paintsAlone mode line column nested).undelegated
  | _ => exact unlessNested _

/-- What has no delegate asks for no delegation. -/
theorem matcherVerdict_undelegated {matcher : Matcher} (undelegated : matcher.Undelegated)
    (mode : Mode) (line : List Char) (column : Nat) (nested : Bool) :
    ∀ painting ∈ (matcherVerdict mode line column nested matcher).actions.filterMap
      Action.painting?, painting.delegate = none := by
  cases matcher with
  | directive directive => exact directiveVerdict_undelegated mode line column nested directive
  | rule rule =>
    exact ((ruleVerdict_ofRule mode line column rule).isLocal undelegated).undelegated

/-! ## What is done -/

namespace Run

variable {options : Options}

theorem perform_mode {action : Action} (isLocal : action.IsLocal) (line : List Char) (run : Run) :
    (run.perform options line action).mode = run.mode := by
  cases action with
  | paint painting =>
    show (run.paint options line painting).mode = run.mode
    unfold paint
    split <;> rfl
  | arm restart => rfl
  | close => rfl
  | switchLanguage name => cases isLocal

/-- The mode in force stays where all is local. -/
theorem performAll_mode {actions : List Action} (allLocal : AllLocal actions) (line : List Char)
    (run : Run) : (run.performAll options line actions).mode = run.mode :=
  performAll_keeps_of_mem (fun later => later.mode = run.mode)
    (fun later action member same =>
      (perform_mode (allLocal action member) line later).trans same) rfl

end Run

end Line

end Highlighter
