import Highlighter.Proofs.Line.Switching
import Highlighter.Proofs.Session.OpenSpans
import Highlighter.Proofs.Session.Resuming
import Mathlib.Control.Monad.Basic

/-!
# Changes of language

A line changes the language exactly if it starts with `@language` where that counts: in a
documentation part, or with nothing open in a mode that has a ruleset.  Behind a change to a
language that is found a document goes on in the ruleset of that language, and behind every other
line in the one that the line started in.
-/

namespace Highlighter

/-- Two languages without rules. -/
def Library.bilingual : Library where
  files := .ofList [("first", { rulesets := [("main", {})] }),
    ("second", { rulesets := [("main", {})] })]

/-- Every span of a rule ends at a marker that is not empty. -/
def EndsVisibly (_ : Char) : Matcher → Prop
  | .rule rule => ∀ opener anchors form, rule.form = some (.led opener anchors (.span form)) →
      form.stop ≠ []
  | .directive _ => True

theorem endsVisibly_ofMatchers : OfMatchers EndsVisibly where
  rule := by
    intro c ignoreCase spec opener anchors form compiled
    cases spec <;>
      simp only [Rule.compile, Rule.form?, Rule.spanForm?, Option.bind_eq_bind,
        Option.bind_eq_some_iff, Option.some.injEq, RuleForm.led.injEq, reduceCtorEq, and_false,
        exists_false] at compiled
    case span =>
      obtain ⟨_, -, _, ⟨stop, isLiteral, tag, -, rfl⟩, -, -, same⟩ := compiled
      cases same
      exact (Rule.literal?_eq_some isLiteral).2
  atSign := fun _ _ => trivial
  sectionRef := trivial
  url := fun _ _ => trivial

namespace Registry

variable {registry : Registry} {holds : Char → Matcher → Prop}

theorem serveAll_consists (of : OfMatchers holds) (consists : registry.Consists holds)
    (requests : List Request) : (registry.serveAll requests).Consists holds :=
  serveAll_keeps (·.Consists holds)
    (fun _ request _ kept => (resolve_consists of kept request.name).2) consists

/-- A mode that stands for no ruleset has nothing to try. -/
theorem Made.bare_of_unknown {library : Library} {highlightUrls : Bool} {mode : Mode}
    (made : Made library highlightUrls mode) (unknown : mode.isUnknown = true) (c : Char) :
    mode.matchersAt c = [] := by
  cases made with
  | unknown id => rfl
  | ofRuleset made =>
    cases made with
    | assembled found alone =>
      rw [assembled_isUnknown] at unknown
      cases unknown

end Registry

namespace Session

variable {holds : Char → Matcher → Prop} {mode : Mode}

/-- What holds of the matchers of all modes of a library holds of every mode that a session goes on
in. -/
theorem consists_of_holds (of : OfMatchers holds) (library : Library) (options : Options)
    (calls : List Call) (isHeld : ((new library options).performAll calls).registry.Holds mode) :
    mode.Consists holds := by
  rcases isHeld with kept | rfl
  · obtain ⟨requests, served⟩ := performAll_consults (new library options) calls
    rw [served] at kept
    exact Registry.serveAll_consists of
      (Registry.consists_empty library options.highlightUrls) requests _ mode kept
  · exact .unknown _

/-- Every mode that a session goes on in can come to be kept. -/
theorem made_of_holds (library : Library) (options : Options) (calls : List Call)
    (isHeld : ((new library options).performAll calls).registry.Holds mode) :
    Registry.Made library options.highlightUrls mode := by
  rcases isHeld with kept | rfl
  · exact made_of_kept library options calls kept
  · exact .unknown _

/-- What a line starts in: where there is no continuation, nothing is open in the language of the
session. -/
def startingIn (session : Session) (continuation : Option Continuation) : Continuation :=
  continuation.getD (.clear session.base.ruleset)

theorem Accounted.startRun_startingIn {session : Session} (accounted : session.Accounted)
    {state : StateId} {continuation : Option Continuation}
    (stands : session.states.continuationOf state = .ok continuation) :
    (session.startRun state continuation).1 = (session.startingIn continuation).restart ∧
      (session.startRun state continuation).2.mode.ruleset =
        (session.startingIn continuation).ruleset := by
  cases continuation with
  | none => exact ⟨rfl, rfl⟩
  | some found => exact ⟨rfl, accounted.startRun_ruleset stands⟩

/-- What becomes of the language on a line: the line asks for one exactly if it starts with
`@language` where that counts, and goes on in it if it is found. -/
theorem runLine_language (library : Library) (options : Options) (calls : List Call)
    {state : StateId} {continuation : Option Continuation}
    (stands : ((new library options).performAll calls).states.continuationOf state =
      .ok continuation) (line : List Char) :
    let session := (new library options).performAll calls
    let started := session.startRun state continuation
    let after := session.runLine state continuation line
    (after.switched.isSome ↔ Line.startsWithWord line "@language" ∧
      Line.HeedsLanguage started.2.mode started.1) ∧ started.2.Follows after := by
  intro session started after
  have accounted : session.Accounted := performAll_accounted library options calls
  obtain ⟨startedAccounted, leaves⟩ := accounted.startRun stands
  have unswitched : started.2.switched = none := by
    cases continuation <;> rfl
  have registry : started.2.canvas.registry = session.registry := by
    cases continuation <;> rfl
  have isHeld := startedAccounted.sound.holds
  rw [registry] at isHeld
  have made := made_of_holds library options calls isHeld
  have stops : ∀ form, started.1 = .span form → form.stop ≠ [] := by
    intro form same
    rw [show (session.startRun state continuation).1 = .span form from same] at leaves
    obtain ⟨c, rule, opener, anchors, listed, led⟩ := leaves
    exact (consists_of_holds endsVisibly_ofMatchers library options calls isHeld).matchersAt _
      listed opener anchors form led
  simp only [after, Session.runLine]
  split
  · rename_i blank
    have other : Line.startsWithWord line "@language" = false := by
      rw [Bool.eq_false_iff]
      intro starts
      simp [isBlankLine, Line.not_white_of_startsWithWord starts (by rfl)] at blank
    refine ⟨?_, .refl unswitched⟩
    rw [show (session.startRun state continuation).2.switched = none from unswitched, other]
    simp
  · exact Line.Run.start_switched_iff unswitched made.directivesFirst made.bare_of_unknown stops

/-- Whatever the library, the options and the calls that led to a session, take a state that stands
for something.  A line from this state goes on in the ruleset of its continuation.  It asks for a
language exactly if it starts with `@language`, and starts in a documentation part or with nothing
open in a mode that has a ruleset.  If it asks for a language that is found, it leaves the ruleset
of the mode that the name resolves to, and in every other case the one that it started in. -/
theorem tagLine_switched_iff (library : Library) (options : Options) (calls : List Call)
    (state : StateId) (continuation : Option Continuation) (line : List Char)
    (stands : ((new library options).performAll calls).states.continuationOf state =
      .ok continuation) :
    let session := (new library options).performAll calls
    let start := session.startingIn continuation
    let mode := (session.startRun state continuation).2.mode
    ∃ result later ending, session.tagLine state line = (.ok result, later) ∧
      later.states.continuationOf result.state = .ok (some ending) ∧
      mode.ruleset = start.ruleset ∧
      (result.switched.isSome ↔ Line.startsWithWord line "@language" ∧
        (start.restart = .docPart ∨
          (start.restart = .clear ∨ start.restart = .color) ∧ mode.isUnknown = false)) ∧
      (∀ name, result.switched = some ⟨name, true⟩ →
        ∃ target, (session.registry.resolve? name).1 = some target ∧
          ending.ruleset = target.ruleset) ∧
      ((∀ name, result.switched ≠ some ⟨name, true⟩) → ending.ruleset = start.ruleset) := by
  intro session start mode
  have accounted : session.Accounted := performAll_accounted library options calls
  obtain ⟨restart, ruleset⟩ := accounted.startRun_startingIn stands
  obtain ⟨opens, leaves⟩ := (accounted.runLine stands line).current
  obtain ⟨asks, follows⟩ := runLine_language library options calls stands line
  have registry : (session.startRun state continuation).2.canvas.registry = session.registry := by
    cases continuation <;> rfl
  refine ⟨_, _, _, tagLine_eq stands line, leaves, ruleset, ?_, ?_, ?_⟩
  · rw [← restart]
    exact asks
  · intro name found
    have resolved := follows.found name found
    rw [registry] at resolved
    exact ⟨_, resolved, rfl⟩
  · intro never
    exact (congrArg Mode.ruleset (follows.stays never)).trans ruleset

/-- From nothing open in one language a line changes to the other one. -/
theorem tagLine_switched_iff_bilingual :
    let session := (new .bilingual {}).performAll [.setLanguage "first"]
    let line := "@language second".toList
    session.states.continuationOf ⟨2, 1⟩ = .ok (some (.clear ⟨"first_main"⟩)) ∧
    ∃ result later ending, session.tagLine ⟨2, 1⟩ line = (.ok result, later) ∧
      result.switched = some ⟨"second", true⟩ ∧
      later.states.continuationOf result.state = .ok (some ending) ∧
      ending.ruleset = ⟨"second_main"⟩ := by
  intro session line
  have stands : session.states.continuationOf ⟨2, 1⟩ = .ok (some (.clear ⟨"first_main"⟩)) := by
    decide +kernel
  obtain ⟨result, later, ending, tagged, leaves, -, -, found, -⟩ :=
    tagLine_switched_iff .bilingual {} [.setLanguage "first"] ⟨2, 1⟩ _ line stands
  have switched : (session.tagLine ⟨2, 1⟩ line).1.toOption.map LineResult.switched =
      some (some ⟨"second", true⟩) := by
    decide +kernel
  rw [show session.tagLine ⟨2, 1⟩ line = (.ok result, later) from tagged] at switched
  have asked : result.switched = some ⟨"second", true⟩ := Option.some.inj switched
  have target : (session.registry.resolve? "second").1.map Mode.ruleset =
      some ⟨"second_main"⟩ := by
    decide +kernel
  obtain ⟨mode, resolved, ruleset⟩ := found "second" asked
  rw [show (session.registry.resolve? "second").1 = some mode from resolved] at target
  exact ⟨stands, result, later, ending, tagged, asked, leaves,
    ruleset.trans (Option.some.inj target)⟩

end Session

end Highlighter
