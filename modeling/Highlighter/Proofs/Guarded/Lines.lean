import Highlighter.Proofs.Guarded.Run
import Highlighter.Proofs.Session.Issued
import Mathlib.Control.Monad.Basic

/-!
# Tagging lines under guard

A session tags a line under guard just as it does without, whatever calls led to it: the modes that
it knows try their matchers where these can be tried, and no call changes that.

So tagging a line is safe, whatever the library, the options and the calls so far: from no state,
and from every state that was given out since the language was set, a line is tagged.  No cut of the
line on the way falls inside a character or beyond its end, each match moves on to a later boundary
of characters, and the events are ranges of the line between characters.
-/

namespace Highlighter.Guarded

open Text
open Line (Run)

/-- The run of a whole line (the run in `Colorizer.process_line`). -/
def runLine? (limits : Limits) (session : Session) (state : StateId)
    (continuation : Option Continuation) (text : List Char) : Option Run :=
  let (restart, run) := session.startRun state continuation
  if Session.isBlankLine text then some run else start? limits session.options text restart run

/-- What came of a line that was run under guard, whose marks are in bytes (`LineRun.finish`). -/
def resultOf (run : Run) : LineResult where
  events := run.canvas.marks.map fun mark => ⟨mark.start, mark.stop, mark.tag⟩
  state := run.state
  switched := run.switched
  steps := run.steps

/-- Tags a line from a state (`Colorizer.process_line`). -/
def tagLine? (limits : Limits) (session : Session) (state : StateId) (text : List Char) :
    Option (Except StateError LineResult × Session) :=
  match session.states.continuationOf state with
  | .error error => some (.error error, session)
  | .ok continuation =>
    (runLine? limits session state continuation text).map fun run =>
      (.ok (resultOf run), { session with registry := run.canvas.registry, states := run.states })

/-- The modes of a session try their matchers where these can be tried. -/
structure SessionFits (session : Session) : Prop where
  known : session.registry.Consists FitsAt
  base : session.base.Consists FitsAt

variable {session : Session} {text : List Char} {limits : Limits}

theorem startRun_fits (fits : SessionFits session) (text : List Char)
    (state : StateId) (continuation : Option Continuation) :
    Fits text (session.startRun state continuation).2 := by
  cases continuation with
  | none => exact ⟨⟨fits.known, fun _ member => absurd member List.not_mem_nil⟩, fits.base⟩
  | some found =>
    refine ⟨⟨fits.known, fun _ member => absurd member List.not_mem_nil⟩, ?_⟩
    show ((session.registry.get? found.ruleset).getD session.base).Consists FitsAt
    cases kept : session.registry.get? found.ruleset with
    | none => exact fits.base
    | some mode => exact fits.known _ _ kept

/-- The least that a line needs. -/
def leastLimits (options : Options) (text : List Char) : Limits :=
  ⟨text.length + 2, options.maxDelegationDepth⟩

theorem leastLimits_suffice (options : Options) (text : List Char) :
    (leastLimits options text).Suffice options text :=
  ⟨Nat.le_refl _, Nat.le_refl _⟩

theorem runLine_fits (fits : SessionFits session) (text : List Char) (state : StateId)
    (continuation : Option Continuation) :
    Fits text (session.runLine state continuation text) := by
  have started := startRun_fits fits text state continuation
  unfold Session.runLine
  dsimp only
  split
  · exact started
  · exact (start_mirrors (leastLimits_suffice session.options text) _).keeps started

theorem runLine?_eq (fits : SessionFits session) (suffice : limits.Suffice session.options text)
    (state : StateId) (continuation : Option Continuation) :
    runLine? limits session state continuation text =
      some (runInBytes text (session.runLine state continuation text)) := by
  have started := startRun_fits fits text state continuation
  have unmarked : runInBytes text (session.startRun state continuation).2 =
      (session.startRun state continuation).2 := by
    cases continuation <;> rfl
  unfold runLine? Session.runLine
  dsimp only
  split
  · rw [unmarked]
  · rw [← (start_mirrors suffice _).same started, unmarked]

theorem resultOf_inBytes (text : List Char) (run : Run) :
    resultOf (runInBytes text run) = Session.resultOf text run := by
  unfold resultOf Session.resultOf
  rw [show (runInBytes text run).canvas.marks = run.canvas.marks.map (markInBytes text) from rfl,
    List.map_map]
  rfl

/-- A line that is tagged under guard comes to what it comes to at all, and never breaks off. -/
theorem tagLine?_eq (fits : SessionFits session) (suffice : limits.Suffice session.options text)
    (state : StateId) :
    tagLine? limits session state text = some (session.tagLine state text) := by
  cases stands : session.states.continuationOf state with
  | error error => rw [tagLine?, stands, Session.tagLine_of_error stands]
  | ok continuation =>
    rw [Session.tagLine_eq stands]
    simp only [tagLine?, stands, runLine?_eq fits suffice, Option.map_some, resultOf_inBytes]
    rfl

/-- An event is a range of the line with some text, between characters, and has a tag that is not
plain. -/
structure ProperEvent (text : List Char) (event : Event) : Prop where
  some : event.start < event.stop
  onLine : event.stop ≤ byteLength text
  startsBetween : (columnAt? text event.start).isSome
  stopsBetween : (columnAt? text event.stop).isSome
  tagged : event.tag ≠ .null

theorem Proper.event {mark : Mark} (proper : Proper text mark) :
    ProperEvent text (mark.toEvent text) where
  some := byteOffset_lt proper.some (Nat.lt_of_lt_of_le proper.some proper.onLine)
  onLine := byteOffset_le_byteLength ..
  startsBetween := Option.isSome_of_eq_some (columnAt?_byteOffset text mark.start)
  stopsBetween := Option.isSome_of_eq_some (columnAt?_byteOffset text mark.stop)
  tagged := proper.tagged

/-- All events of a line are proper. -/
theorem events_proper (fits : SessionFits session) (state : StateId)
    (continuation : Option Continuation) :
    ∀ event ∈ (Session.resultOf text (session.runLine state continuation text)).events,
      ProperEvent text event := by
  intro event member
  obtain ⟨mark, marked, rfl⟩ := List.mem_map.mp member
  exact ((runLine_fits fits text state continuation).canvas.marks mark marked).event

/-! ## Calls -/

theorem new_fits (library : Library) (options : Options) : SessionFits (.new library options) where
  known := Registry.consists_empty library options.highlightUrls
  base := .unknown .noLanguage

theorem tagLine_fits (fits : SessionFits session) (state : StateId) (text : List Char) :
    SessionFits (session.tagLine state text).2 := by
  cases stands : session.states.continuationOf state with
  | error error =>
    rw [Session.tagLine_of_error stands]
    exact fits
  | ok continuation =>
    rw [Session.tagLine_eq stands]
    exact ⟨(runLine_fits fits text state continuation).canvas.known, fits.base⟩

theorem perform_fits (fits : SessionFits session) (call : Session.Call) :
    SessionFits (session.perform call) := by
  cases call with
  | setLanguage name =>
    obtain ⟨base, known⟩ := Registry.resolve_consists fitsAt_ofMatchers fits.known name
    exact ⟨known, base⟩
  | initialState enabled => exact ⟨fits.known, fits.base⟩
  | describe state => exact fits
  | tagLine state line => exact tagLine_fits fits state line
  | tagLineInto state line report sink =>
    rw [Session.perform, (Session.tagLineInto_tags ..).2]
    exact tagLine_fits fits state line

/-- Whatever calls led to a session, its modes try their matchers where these can be tried. -/
theorem performAll_fits (fits : SessionFits session) (calls : List Session.Call) :
    SessionFits (session.performAll calls) :=
  Session.performAll_keeps SessionFits (fun _ call fits => perform_fits fits call) calls fits

end Highlighter.Guarded

namespace Highlighter.Session

/-- A line is tagged, its run under guard comes to the end with just this result, and the events are
proper ranges of the line. -/
theorem tagLine_safe (library : Library) (options : Options) (calls : List Call) (state : StateId)
    (line : List Char) (valid : state = .none ∨ (new library options).Issued calls state) :
    let session := (new library options).performAll calls
    ∃ result later, session.tagLine state line = (.ok result, later) ∧
      Guarded.tagLine? (Guarded.leastLimits session.options line) session state line =
        some (.ok result, later) ∧
      ∀ event ∈ result.events, Guarded.ProperEvent line event := by
  intro session
  have fits : Guarded.SessionFits session :=
    Guarded.performAll_fits (Guarded.new_fits library options) calls
  obtain ⟨continuation, result, later, -, tagged, same⟩ :=
    tagLine_of_issued (new_sound library options) valid line
  refine ⟨result, later, tagged, ?_, ?_⟩
  · rw [Guarded.tagLine?_eq fits (Guarded.leastLimits_suffice session.options line) state]
    exact congrArg some tagged
  · rw [same]
    exact Guarded.events_proper fits state continuation

/-- A quote behind a letter of two bytes: the event is in bytes and ends with the line. -/
theorem tagLine_safe_quote :
    let session := (new .quoting {}).performAll [.setLanguage "quoting"]
    let line := "é \"ü".toList
    (new .quoting {}).Issued [.setLanguage "quoting"] ⟨2, 1⟩ ∧
      (session.tagLine ⟨2, 1⟩ line).1 = .ok ⟨[⟨3, 6, .literal1⟩], ⟨2, 2⟩, none, 4⟩ ∧
      ∃ result later, session.tagLine ⟨2, 1⟩ line = (.ok result, later) ∧
        Guarded.tagLine? (Guarded.leastLimits session.options line) session ⟨2, 1⟩ line =
          some (.ok result, later) ∧
        ∀ event ∈ result.events, Guarded.ProperEvent line event := by
  have issued : (new .quoting {}).Issued [.setLanguage "quoting"] ⟨2, 1⟩ :=
    ⟨[], .setLanguage "quoting", [], rfl, by decide +kernel, fun _ none => nomatch none⟩
  exact ⟨issued, by decide +kernel,
    tagLine_safe .quoting {} [.setLanguage "quoting"] ⟨2, 1⟩ "é \"ü".toList (.inr issued)⟩

end Highlighter.Session
