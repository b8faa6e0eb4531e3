import Highlighter.Proofs.Line.ClosingMarkers
import Highlighter.Proofs.Session.Switching

/-!
# The flags of end markers

Where a span closes that a literal opens, on the line of its opening or on a later one, its end
marker keeps to all flags that the rule is written with.  Where a span closes that a pattern opens,
the marker is not escaped, but the other two flags do not count.
-/

namespace Highlighter

open Line (Closes Opens)
open Line.SpanEnd (DecidedAt FirstAt Honours Unescaped)

/-- Every rule is one of a file, made ready to run. -/
def AsWritten (_ : Char) : Matcher → Prop
  | .rule rule => ∃ ignoreCase spec, rule = .compile ignoreCase spec
  | .directive _ => True

theorem asWritten_ofMatchers : OfMatchers AsWritten where
  rule := fun _ ignoreCase spec => ⟨ignoreCase, spec, rfl⟩
  atSign := fun _ _ => trivial
  sectionRef := trivial
  url := fun _ _ => trivial

/-- A language with strings that a pattern opens, and whose end marker must not follow a word. -/
def Library.rawStrings : Library where
  files := .ofList [("t", {
    rulesets := [("main", {
      rules := [{
        chars := some "r"
        spec := .spanRegexp "r\"" "\"" "literal3" none false { noWordBreak := true } {} }] })] })]

namespace Session

/-- A span that is open is that of a rule of the mode that a line goes on in, with the end marker
and the flags that the rule is written with. -/
theorem rule_of_open_span (library : Library) (options : Options) (calls : List Call)
    {state : StateId} {ruleset : RulesetId} {form : SpanForm}
    (stands : ((new library options).performAll calls).states.continuationOf state =
      .ok (some ⟨ruleset, .span form⟩)) :
    let session := (new library options).performAll calls
    ∃ c ignoreCase start stop tag anchors, stop.toList = form.stop ∧
      .rule (.compile ignoreCase
          (.span start stop tag form.delegate form.excludeMatch form.flags anchors)) ∈
        (session.startRun state (some ⟨ruleset, .span form⟩)).2.mode.matchersAt c := by
  intro session
  have accounted : session.Accounted := performAll_accounted library options calls
  obtain ⟨started, c, rule, opener, anchors, listed, compiled⟩ := accounted.startRun stands
  have isHeld : session.registry.Holds
      (session.startRun state (some ⟨ruleset, .span form⟩)).2.mode := started.sound.holds
  obtain ⟨ignoreCase, spec, rfl⟩ :=
    (consists_of_holds asWritten_ofMatchers library options calls isHeld).matchersAt _ listed
  obtain ⟨start, stop, tag, marker, -, -, rfl⟩ := Rule.spec_of_span compiled
  exact ⟨c, ignoreCase, start, stop, tag, anchors, marker, listed⟩

/-- Take any mode, line and column, and a rule for spans as it is written.  If a literal opens the
span, it closes at the end marker that decides the search for it, if that keeps to all flags.  If a
pattern opens it, it closes at the first end marker, if that is not escaped.  And take a session,
whatever the library, the options and the calls that led to it, and a state that stands for a span
that is open.  A rule of the mode has the end marker and the flags of the span, and on the next line
it closes at the end marker that decides the search from the start of the line, if that keeps to all
flags. -/
theorem closes_at_marker_iff (library : Library) (options : Options) (calls : List Call) :
    (∀ (mode : Mode) (line : List Char) (column inside place : Nat) (ignoreCase : Bool)
      (start stop tag : String) (delegate : Option String) (excludeMatch : Bool)
      (flags : SpanFlags) (anchors : Anchors),
      let rule := Rule.compile ignoreCase
        (.span start stop tag delegate excludeMatch flags anchors)
      Closes mode line column rule stop.toList inside place ↔
        Opens mode line column rule inside ∧
          DecidedAt line inside stop.toList mode.escape flags mode.wordChars place ∧
          Honours line inside mode.escape flags mode.wordChars place) ∧
    (∀ (mode : Mode) (line : List Char) (column inside place : Nat) (ignoreCase : Bool)
      (start stop tag : String) (delegate : Option String) (excludeMatch : Bool)
      (flags : SpanFlags) (anchors : Anchors),
      let rule := Rule.compile ignoreCase
        (.spanRegexp start stop tag delegate excludeMatch flags anchors)
      Closes mode line column rule stop.toList inside place ↔
        Opens mode line column rule inside ∧ FirstAt line inside stop.toList place ∧
          Unescaped line mode.escape flags place) ∧
    ∀ (state : StateId) (ruleset : RulesetId) (form : SpanForm) (line : List Char),
      let session := (new library options).performAll calls
      let mode := (session.startRun state (some ⟨ruleset, .span form⟩)).2.mode
      session.states.continuationOf state = .ok (some ⟨ruleset, .span form⟩) →
      (∃ c ignoreCase start stop tag anchors, stop.toList = form.stop ∧
        .rule (.compile ignoreCase
            (.span start stop tag form.delegate form.excludeMatch form.flags anchors)) ∈
          mode.matchersAt c) ∧
      ∀ place,
        (∃ actions, Line.resume mode line (.span form) =
            .at (place + form.stop.length) actions) ↔
          DecidedAt line 0 form.stop mode.escape form.flags mode.wordChars place ∧
            Honours line 0 mode.escape form.flags mode.wordChars place := by
  refine ⟨?_, ?_, ?_⟩
  · intro mode line column inside place ignoreCase start stop tag delegate excludeMatch flags
      anchors
    exact Line.closes_span_iff
  · intro mode line column inside place ignoreCase start stop tag delegate excludeMatch flags
      anchors
    exact Line.closes_spanRegexp_iff
  · intro state ruleset form line session mode stands
    exact ⟨rule_of_open_span library options calls stands, fun place => Line.resumeSpan_at_iff⟩

/-- A quote closes behind its opening, and on the next line at a quote that nothing escapes. -/
theorem closes_at_marker_iff_quote :
    let calls := [.setLanguage "quoting", .tagLine ⟨2, 1⟩ ['"', 'a']]
    let session := (new .quoting {}).performAll calls
    let form : SpanForm := { stop := ['"'], tag := .literal1 }
    let mode := (session.startRun ⟨2, 2⟩ (some ⟨⟨"quoting_main"⟩, .span form⟩)).2.mode
    Closes mode "\"a\"".toList 0 (.compile false (.span "\"" "\"" "literal1" none false {} {}))
        ['"'] 1 2 ∧
      ∃ actions, Line.resume mode "\\\"b\" c".toList (.span form) = .at 4 actions := by
  intro calls session form mode
  have stands : session.states.continuationOf ⟨2, 2⟩ =
      .ok (some ⟨⟨"quoting_main"⟩, .span form⟩) := by
    decide +kernel
  obtain ⟨opened, -, resumed⟩ := closes_at_marker_iff .quoting {} calls
  obtain ⟨-, closes⟩ := resumed ⟨2, 2⟩ ⟨"quoting_main"⟩ form "\\\"b\" c".toList stands
  constructor
  · exact (opened mode _ 0 1 2 false "\"" "\"" "literal1" none false {} {}).mpr
      ⟨by decide +kernel, ⟨by decide +kernel, by decide +kernel, by decide +kernel⟩,
        by decide +kernel⟩
  · exact (closes 3).mpr
      ⟨⟨by decide +kernel, by decide +kernel, by decide +kernel⟩, by decide +kernel⟩

/-- The mode of the language with strings that a pattern opens. -/
def rawMode : Mode :=
  ((new .rawStrings {}).performAll [.setLanguage "t"]).base

set_option maxRecDepth 10000 in
theorem rawMode_matchersAt : rawMode.matchersAt 'r' = [.rule (.compile true
    (.spanRegexp "r\"" "\"" "literal3" none false { noWordBreak := true } {}))] := by
  with_unfolding_all rfl

/-- So the end marker of a span that a pattern opens need not keep to the flags of its rule: the one
of a string stands behind a letter. -/
theorem not_closes_honours :
    ¬∀ (library : Library) (options : Options) (calls : List Call) (c : Char) (line : List Char)
      (column inside place : Nat) (ignoreCase : Bool) (start stop tag : String)
      (delegate : Option String) (excludeMatch : Bool) (flags : SpanFlags) (anchors : Anchors),
      let mode := ((new library options).performAll calls).base
      let rule := Rule.compile ignoreCase
        (.spanRegexp start stop tag delegate excludeMatch flags anchors)
      .rule rule ∈ mode.matchersAt c → Closes mode line column rule stop.toList inside place →
        Honours line inside mode.escape flags mode.wordChars place := by
  intro always
  have listed := rawMode_matchersAt
  have opens : Opens rawMode "r\"ab\" y".toList 0 (.compile true
      (.spanRegexp "r\"" "\"" "literal3" none false { noWordBreak := true } {})) 2 := by
    decide +kernel
  have first : FirstAt "r\"ab\" y".toList 2 "\"".toList 4 :=
    ⟨by decide +kernel, by decide +kernel⟩
  have closes := Line.closes_spanRegexp_iff.mpr ⟨opens, first, by decide +kernel⟩
  have honours := always .rawStrings {} [.setLanguage "t"] 'r' "r\"ab\" y".toList 0 2 4 true "r\""
    "\"" "literal3" none false { noWordBreak := true } {} (by
      rw [show ((new .rawStrings {}).performAll [.setLanguage "t"]).base = rawMode from rfl, listed]
      exact List.mem_singleton_self _) closes
  exact absurd honours (show ¬Honours _ 2 rawMode.escape _ rawMode.wordChars 4 by decide +kernel)

end Session

end Highlighter
