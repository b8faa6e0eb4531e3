import Highlighter.Proofs.Document.Highlight
import Mathlib.Control.Monad.Basic

/-!
# Edited documents are tagged right

A document is used through a few calls.  Whoever calls has to mark the lines whose text is another
one than when they were last tagged, and then all lines come out as if they were tagged from top to
bottom.
-/

namespace Highlighter

namespace Document

/-- What can be asked of a document. -/
inductive Call where
  | refresh (wanted : ActiveLanguage)
  | editLine (line : Nat)
  | invalidateFrom (line : Nat)
  | invalidateAll
  | highlight (texts : List (List Char))

/-- The document after a call. -/
def perform (document : Document) : Call → Document
  | .refresh wanted => (document.refresh wanted).2
  | .editLine line => document.editLine line
  | .invalidateFrom line => document.invalidateFrom line
  | .invalidateAll => document.invalidateAll
  | .highlight texts => (document.highlight texts).2

/-- Whether a line lies between the first and the last one that are marked as edited. -/
def isMarked (document : Document) (line : Nat) : Bool :=
  document.edited.any fun (first, last) => first ≤ line && line ≤ last

end Document

open Document (Call Visit)

/-- A document with all visits that were paid to its lines. -/
structure History where
  document : Document
  visits : List Visit := []

namespace History

/-- A new document, to whose lines no visit was paid. -/
def new (library : Library) (options : Options) : History where
  document := .new library options

/-- The text that a line had when it was last tagged. -/
def textOf (history : History) (line : Nat) : Option (List Char) :=
  (history.visits.filter (·.line = line)).getLast?.map (·.text)

/-- The document after a call, with the visits that the call paid. -/
def perform (history : History) (call : Call) : History where
  document := history.document.perform call
  visits :=
    match call with
    | .highlight texts => history.visits ++ history.document.visits texts
    | _ => history.visits

/-- The document after calls in order. -/
def performAll (history : History) (calls : List Call) : History :=
  calls.foldl perform history

/-- Of the lines that are kept, those whose text is another one than when they were last tagged are
marked. -/
def Marks (history : History) : Call → Prop
  | .highlight texts => ∀ line, line < history.document.lines.length → line < texts.length →
      history.textOf line ≠ texts[line]? → history.document.isMarked line
  | _ => True

/-- Each time that lines are tagged, those that changed are marked. -/
def MarksAll (history : History) : List Call → Prop
  | [] => True
  | call :: calls => history.Marks call ∧ (history.perform call).MarksAll calls

instance (history : History) : (call : Call) → Decidable (history.Marks call)
  | .highlight texts =>
    inferInstanceAs (Decidable (∀ line, line < _ → line < _ → _ ≠ texts[line]? → _ = true))
  | .refresh _ | .editLine _ | .invalidateFrom _ | .invalidateAll => .isTrue trivial

instance decidableMarksAll : (history : History) → (calls : List Call) →
    Decidable (history.MarksAll calls)
  | _, [] => .isTrue trivial
  | history, call :: calls =>
    have := decidableMarksAll (history.perform call) calls
    inferInstanceAs (Decidable (_ ∧ _))

/-- What is kept of each line comes of the text that the line had when it was last tagged. -/
structure Sound (history : History) : Prop where
  session : history.document.session.Sound
  first : ∃ found, history.document.session.states.continuationOf history.document.firstState =
    .ok found
  keeps : ∀ line, history.document.Keeps history.textOf line

variable {history : History} {texts : List (List Char)}

theorem new_sound (library : Library) (options : Options) : (new library options).Sound where
  session := Session.new_sound library options
  first := ⟨none, rfl⟩
  keeps := fun _ => Document.keeps_of_length_le (Nat.zero_le _)

/-! ## Tagging -/

/-- A line that is not marked has the text that it had. -/
theorem Marks.textOf_eq (marks : history.Marks (.highlight texts)) {line : Nat}
    (kept : line < history.document.lines.length) (inside : line < texts.length)
    (unmarked : ¬history.document.isMarked line) : history.textOf line = texts[line]? := by
  by_contra different
  exact unmarked (marks line kept inside different)

/-- Lines before the first one to tag and lines behind the last edit are not marked. -/
theorem not_isMarked_of_window (document : Document) {line : Nat}
    (outside : line < document.window.1 ∨ document.window.2 < line) : ¬document.isMarked line := by
  unfold Document.window at outside
  unfold Document.isMarked
  cases edited : document.edited with
  | none => simp
  | some range =>
    simp only [edited] at outside
    simp only [Option.any_some, Bool.and_eq_true, decide_eq_true_eq]
    omega

theorem window_le (document : Document) : document.window.1 ≤ document.lines.length := by
  unfold Document.window
  split
  · exact Nat.min_le_right ..
  · exact Nat.le_refl _

/-- Before the first line to tag all lines are up to date. -/
theorem Sound.opened_upTo (sound : history.Sound) (marks : history.Marks (.highlight texts)) :
    (history.document.opened texts).UpTo texts history.textOf
      (history.document.invalidateFrom texts.length).window.2
      (history.document.invalidateFrom texts.length).window.1 := by
  have short : (history.document.opened texts).lines.length =
      min texts.length history.document.lines.length := List.length_take
  have keeps : ∀ line, (history.document.opened texts).Keeps history.textOf line := fun line =>
    ((sound.keeps line).invalidateFrom sound.session texts.length).frame sound.session
      sound.session (.refl _) rfl rfl
  have unmarked : ∀ line, line < (history.document.opened texts).lines.length →
      line < (history.document.invalidateFrom texts.length).window.1 ∨
        (history.document.invalidateFrom texts.length).window.2 < line →
      history.textOf line = texts[line]? := fun line inside outside =>
    marks.textOf_eq (by omega) (by omega)
      (not_isMarked_of_window (history.document.invalidateFrom texts.length) outside)
  refine ⟨sound.session, sound.first, window_le _, by omega, ?_, fun line _ => keeps line, ?_⟩
  · intro line before
    exact (keeps line).of_text fun inside => unmarked line inside (.inl before)
  · intro line _ pastEdits inside
    exact unmarked line inside (.inr pastEdits)

/-- Tagging brings the document up to date, and each line has then been tagged with its text. -/
theorem Sound.highlight (sound : history.Sound) (marks : history.Marks (.highlight texts)) :
    (∃ count, (history.document.highlight texts).1 = .ok count) ∧
    (∃ editedThrough, (history.document.highlight texts).2.UpTo texts history.textOf editedThrough
      texts.length) ∧
    ∀ line < texts.length, (∀ visit ∈ history.document.visits texts, visit.line ≠ line) →
      history.textOf line = texts[line]? := by
  have opened := sound.opened_upTo marks
  have start := Nat.zero_max (history.document.invalidateFrom texts.length).window.1
  rw [← start] at opened
  obtain ⟨answered, upTo, unvisited⟩ :=
    Document.tagFrom_upTo 0 List.drop_zero opened rfl
  rw [start] at answered upTo unvisited
  refine ⟨answered, ⟨_, upTo⟩, ?_⟩
  intro line inside notVisited
  by_cases before : line < (history.document.invalidateFrom texts.length).window.1
  · have reached := opened.reached
    have short : (history.document.opened texts).lines.length =
        min texts.length history.document.lines.length := List.length_take
    exact marks.textOf_eq (by omega) inside
      (not_isMarked_of_window (history.document.invalidateFrom texts.length) (.inl before))
  · exact unvisited line (by omega) inside
      fun arrival member => notVisited arrival.visit (List.mem_map_of_mem member)

/-- The texts of the visits that are paid are those of the lines. -/
theorem visits_text {document : Document} {visit : Visit} (member : visit ∈ document.visits texts) :
    texts[visit.line]? = some visit.text := by
  obtain ⟨arrival, arrives, rfl⟩ := List.mem_map.mp member
  exact (Document.arrivalsFrom_text arrives).2

/-- Once lines are tagged, they were last tagged with the texts that they have. -/
theorem textOf_highlight {line : Nat}
    (unvisited : (∀ visit ∈ history.document.visits texts, visit.line ≠ line) →
      history.textOf line = texts[line]?) :
    (history.perform (.highlight texts)).textOf line = texts[line]? := by
  simp only [textOf, perform, List.filter_append, List.getLast?_append] at unvisited ⊢
  cases last : ((history.document.visits texts).filter (·.line = line)).getLast? with
  | none =>
    have nothing := List.getLast?_eq_none_iff.mp last
    refine unvisited fun visit member here => ?_
    have present : visit ∈ (history.document.visits texts).filter (·.line = line) :=
      List.mem_filter.mpr ⟨member, decide_eq_true here⟩
    rw [nothing] at present
    exact List.not_mem_nil present
  | some visit =>
    have member := List.mem_filter.mp (List.mem_of_getLast? last)
    have hasText := visits_text member.1
    rw [of_decide_eq_true member.2] at hasText
    exact hasText.symm

/-! ## Calls -/

/-- A call that pays no visits and forgets lines at most. -/
theorem Sound.of_keeps {after : Document} (sound : history.Sound)
    (session : after.session = history.document.session)
    (first : after.firstState = history.document.firstState)
    (keeps : ∀ line, after.Keeps history.textOf line) :
    (⟨after, history.visits⟩ : History).Sound := by
  refine ⟨?_, ?_, keeps⟩
  · rw [session]
    exact sound.session
  · rw [session, first]
    exact sound.first

theorem refresh_sound (sound : history.Sound) (wanted : ActiveLanguage) :
    (history.perform (.refresh wanted)).Sound := by
  show (⟨(history.document.refresh wanted).2, history.visits⟩ : History).Sound
  unfold Document.refresh
  split
  · exact sound
  · have set := Session.setLanguage_sound sound.session wanted.name
    refine ⟨Session.initialState_sound set wanted.enabled, ?_, ?_⟩
    · exact ⟨_, States.continuationOf_stateOf ..⟩
    · exact fun line => Document.keeps_of_length_le (Nat.zero_le _)

theorem highlight_sound (sound : history.Sound) (marks : history.Marks (.highlight texts)) :
    (history.perform (.highlight texts)).Sound := by
  obtain ⟨-, ⟨editedThrough, upTo⟩, unvisited⟩ := sound.highlight marks
  refine ⟨upTo.sound, upTo.first, ?_⟩
  intro line
  by_cases inside : line < texts.length
  · exact (upTo.before line inside).of_text fun _ =>
      (textOf_highlight (unvisited line inside)).symm
  · have fits := upTo.fits
    exact Document.keeps_of_length_le (by simp only [perform, Document.perform]; omega)

theorem perform_sound (sound : history.Sound) {call : Call} (marks : history.Marks call) :
    (history.perform call).Sound := by
  cases call with
  | refresh wanted => exact refresh_sound sound wanted
  | editLine line =>
    refine sound.of_keeps rfl rfl fun other => ?_
    exact (sound.keeps other).frame sound.session sound.session (.refl _) rfl rfl
  | invalidateFrom line =>
    exact sound.of_keeps rfl rfl fun other => (sound.keeps other).invalidateFrom sound.session line
  | invalidateAll =>
    exact sound.of_keeps rfl rfl fun other => Document.keeps_of_length_le (Nat.zero_le _)
  | highlight texts => exact highlight_sound sound marks

/-- Whatever calls are made, what is kept of each line comes of the text that the line had when it
was last tagged. -/
theorem performAll_sound (sound : history.Sound) {calls : List Call}
    (marks : history.MarksAll calls) : (history.performAll calls).Sound := by
  induction calls generalizing history with
  | nil => exact sound
  | cons call calls ih => exact ih (perform_sound sound marks.1) marks.2

theorem marksAll_append {first second : List Call} :
    history.MarksAll (first ++ second) ↔
      history.MarksAll first ∧ (history.performAll first).MarksAll second := by
  induction first generalizing history with
  | nil => exact ⟨fun marks => ⟨trivial, marks⟩, fun both => both.2⟩
  | cons call calls ih =>
    simp only [List.cons_append, MarksAll, ih, and_assoc]
    rfl

/-- A document whose lines are all up to date keeps what comes of tagging them from top to
bottom. -/
theorem tagLines_of_keeps {document : Document} {rest : List (List Char)}
    (length : document.lines.length = texts.length)
    (keeps : ∀ line < texts.length, document.Keeps (texts[·]?) line) : ∀ {index : Nat},
    texts.drop index = rest → ∃ results : List LineResult,
      document.session.tagLines (document.stateBefore index) rest =
        (.ok results, document.session) ∧
      document.lines.drop index = results.map fun result => ⟨result.state, result.events⟩ := by
  induction rest with
  | nil =>
    intro index done
    refine ⟨[], rfl, ?_⟩
    rw [List.map_nil, List.drop_eq_nil_iff, length]
    exact List.drop_eq_nil_iff.mp done
  | cons text rest ih =>
    intro index remaining
    obtain ⟨hasText, remainingNext⟩ := Document.getElem?_of_drop remaining
    have inside := (List.getElem?_eq_some_iff.mp hasText).1
    have kept : index < document.lines.length := by omega
    obtain ⟨result, recalls, entry, starts⟩ := (keeps index inside).recalls kept hasText
    obtain ⟨results, tagged, same⟩ := ih remainingNext
    rw [starts] at tagged
    refine ⟨result :: results, Session.tagLines_cons recalls tagged, ?_⟩
    rw [List.drop_eq_getElem_cons kept, same, entry]
    rfl

/-- Tagging a document does to its session what tagging all lines from top to bottom does to it. -/
theorem Sound.highlight_session (sound : history.Sound) (marks : history.Marks (.highlight texts)) :
    ∃ results, history.document.session.tagLines history.document.firstState texts =
      (.ok results, (history.document.highlight texts).2.session) := by
  have opened := sound.opened_upTo marks
  have start := Nat.zero_max (history.document.invalidateFrom texts.length).window.1
  rw [← start] at opened
  have tagged := Document.tagFrom_session 0 List.drop_zero opened
  rwa [start] at tagged

/-- Among calls that mark all changes, tagging the lines of a document succeeds and does what
tagging them from top to bottom does, from the first state of the document on: it keeps what comes
of that, and leaves the session that this leaves.  From then on the session knows all that it needs
for the lines, and does not change when they are tagged again. -/
theorem highlight_eq_tagLines (library : Library) (options : Options) (earlier later : List Call)
    (texts : List (List Char))
    (marks : (new library options).MarksAll (earlier ++ .highlight texts :: later)) :
    let document := ((new library options).performAll earlier).document
    let after := (document.highlight texts).2
    (∃ count, (document.highlight texts).1 = .ok count) ∧ after.lines.length = texts.length ∧
      ∃ results : List LineResult,
        document.session.tagLines document.firstState texts = (.ok results, after.session) ∧
        after.session.tagLines document.firstState texts = (.ok results, after.session) ∧
        after.lines = results.map fun result => ⟨result.state, result.events⟩ := by
  intro document after
  obtain ⟨before, now, -⟩ := marksAll_append.mp marks
  have sound := performAll_sound (new_sound library options) before
  obtain ⟨answered, ⟨editedThrough, upTo⟩, -⟩ := sound.highlight now
  have length : after.lines.length = texts.length := Nat.le_antisymm upTo.fits upTo.reached
  have first : after.firstState = document.firstState := Document.tagFrom_firstState 0
  obtain ⟨results, tagged, kept⟩ := tagLines_of_keeps length upTo.before List.drop_zero
  simp only [Document.stateBefore, first, List.drop_zero] at tagged kept
  obtain ⟨others, plain⟩ := sound.highlight_session now
  have again := Session.tagLines_again sound.session upTo.sound plain (.refl _)
  have same : results = others := Except.ok.inj (congrArg Prod.fst (tagged.symm.trans again))
  subst same
  exact ⟨answered, length, results, plain, tagged, kept⟩

/-- A quote that is opened by an edit runs on over the lines that were tagged before. -/
theorem highlight_eq_tagLines_quote :
    let earlier : List Call := [.refresh ⟨"quoting", true⟩,
      .highlight ["x".toList, "y".toList, "z\"".toList], .editLine 0]
    let texts := ["\"x".toList, "y".toList, "z\"".toList]
    (new .quoting {}).MarksAll (earlier ++ .highlight texts :: []) ∧
      let document := ((new .quoting {}).performAll earlier).document
      let after := (document.highlight texts).2
      (∃ count, (document.highlight texts).1 = .ok count) ∧ after.lines.length = texts.length ∧
        ∃ results : List LineResult,
          document.session.tagLines document.firstState texts = (.ok results, after.session) ∧
          after.session.tagLines document.firstState texts = (.ok results, after.session) ∧
          after.lines = results.map fun result => ⟨result.state, result.events⟩ := by
  intro earlier texts
  have marks : (new .quoting {}).MarksAll (earlier ++ .highlight texts :: []) := by
    decide +kernel
  exact ⟨marks, highlight_eq_tagLines .quoting {} earlier [] texts marks⟩

end History

end Highlighter
