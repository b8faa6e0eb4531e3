import Highlighter.Proofs.Document.Incremental

/-!
# No line is tagged without a reason

A line is tagged again if it is marked, or if nothing is kept of it by the time that its turn comes,
or if it starts in another state than the one that it was last tagged from.  Between calls there is
no reason but marks: what is kept of each line came of the last visit to it, which was from the
state that the line still starts in.  While lines are tagged this is so of all lines but the next
one, because to tag a line changes the state that the next one starts in and no other.
-/

namespace Highlighter

namespace Document

/-- The last of some visits that was paid to a line. -/
def lastVisit (visits : List Visit) (line : Nat) : Option Visit :=
  (visits.filter (·.line = line)).getLast?

/-- What is kept of a line came of the last visit to it. -/
def Stems (document : Document) (visits : List Visit) (line : Nat) : Prop :=
  ∀ entry, document.lines[line]? = some entry → ∃ visit result,
    lastVisit visits line = some visit ∧
    document.session.Recalls visit.state visit.text result ∧ entry = ⟨result.state, result.events⟩

/-- If a line is kept, the last visit to it was from the state that it starts in. -/
def Follows (document : Document) (visits : List Visit) (line : Nat) : Prop :=
  line < document.lines.length →
    ∃ visit, lastVisit visits line = some visit ∧ visit.state = document.stateBefore line

/-- A reason to tag a line from a state, if it was visited last before by `old`: it is marked, or
nothing is kept of it, or what is kept of it came of a visit from another state. -/
def HasReason (marked : Nat → Prop) (old : Nat → Option Visit) (document : Document) (line : Nat)
    (state : StateId) : Prop :=
  marked line ∨ document.lines[line]? = none ∨ ∃ visit result,
    document.lines[line]? = some ⟨result.state, result.events⟩ ∧ old line = some visit ∧
    document.session.Recalls visit.state visit.text result ∧ visit.state ≠ state

/-- Before the line at the cursor is tagged: all lines follow the visits that were paid to them,
except perhaps for this one.  The lines from the cursor on have not been visited since `old`. -/
structure FollowsBut (document : Document) (texts : List (List Char)) (marked : Nat → Prop)
    (old : Nat → Option Visit) (editedThrough cursor : Nat) (visits : List Visit) : Prop where
  sound : document.session.Sound
  first : ∃ found, document.session.states.continuationOf document.firstState = .ok found
  noEdits : document.edited = none
  reached : cursor ≤ document.lines.length
  fits : document.lines.length ≤ texts.length
  stems : ∀ line, document.Stems visits line
  follows : ∀ line, line ≠ cursor → document.Follows visits line
  unvisited : ∀ line, cursor ≤ line → lastVisit visits line = old line
  edits : ∀ line, cursor ≤ line → line ≤ editedThrough → line < document.lines.length → marked line

variable {document : Document} {texts : List (List Char)} {marked : Nat → Prop}
  {old : Nat → Option Visit} {editedThrough cursor resumeAt line : Nat} {visits : List Visit}
  {text : List Char} {result : LineResult}

/-! ## Visits -/

theorem lastVisit_concat (visits : List Visit) (visit : Visit) (line : Nat) :
    lastVisit (visits ++ [visit]) line =
      if visit.line = line then some visit else lastVisit visits line := by
  unfold lastVisit
  by_cases here : visit.line = line
  · simp [List.filter_append, here]
  · simp [List.filter_append, here]

/-! ## What a line does to the others -/

theorem Stems.invalidateFrom (stems : document.Stems visits line) (first : Nat) :
    (document.invalidateFrom first).Stems visits line := by
  intro entry present
  by_cases before : line < first
  · rw [invalidateFrom_getElem? before] at present
    exact stems entry present
  · have short := List.length_take_le first document.lines
    have absent : (document.lines.take first)[line]? = none :=
      List.getElem?_eq_none (by omega)
    rw [show (document.invalidateFrom first).lines[line]? = none from absent] at present
    cases present

theorem Follows.invalidateFrom (follows : document.Follows visits line) (first : Nat) :
    (document.invalidateFrom first).Follows visits line := by
  intro kept
  have length : (document.invalidateFrom first).lines.length = min first document.lines.length :=
    List.length_take
  rw [invalidateFrom_stateBefore (by omega)]
  exact follows (by omega)

/-- A line starts in a state that stands for something. -/
theorem stateBefore_stands_of_stems (sound : document.session.Sound)
    (first : ∃ found, document.session.states.continuationOf document.firstState = .ok found)
    (stems : ∀ line, document.Stems visits line) (line : Nat) :
    ∃ found, document.session.states.continuationOf (document.stateBefore line) = .ok found := by
  refine stateBefore_stands_of_recalls sound first fun index _ entry present => ?_
  obtain ⟨visit, result, -, recalls, rfl⟩ := stems index entry present
  exact ⟨visit.state, visit.text, result, recalls, rfl⟩

namespace FollowsBut

theorem tagLine_ok (but : document.FollowsBut texts marked old editedThrough cursor visits)
    (text : List Char) :
    ∃ result, (document.session.tagLine (document.stateBefore cursor) text).1 = .ok result :=
  Session.tagLine_ok_iff.mpr (stateBefore_stands_of_stems but.sound but.first but.stems cursor)

/-- If the line at the cursor starts in another state than at the last visit to it, that is a reason
to tag it. -/
theorem hasReason (but : document.FollowsBut texts marked old editedThrough cursor visits)
    (elsewhere : ∀ visit, old cursor = some visit → visit.state ≠ document.stateBefore cursor) :
    HasReason marked old document cursor (document.stateBefore cursor) := by
  cases present : document.lines[cursor]? with
  | none => exact .inr (.inl present)
  | some entry =>
    obtain ⟨visit, result, last, recalls, rfl⟩ := but.stems cursor entry present
    have before : old cursor = some visit := (but.unvisited cursor (Nat.le_refl _)).symm.trans last
    exact .inr (.inr ⟨visit, result, present, before, recalls, elsewhere visit before⟩)

/-- What is forgotten has nothing to follow. -/
theorem invalidateFrom (but : document.FollowsBut texts marked old editedThrough cursor visits)
    (upTo : cursor ≤ line) :
    (document.invalidateFrom line).FollowsBut texts marked old editedThrough cursor visits := by
  have length : (document.invalidateFrom line).lines.length = min line document.lines.length :=
    List.length_take
  have reached := but.reached
  have fits := but.fits
  exact {
    sound := but.sound
    first := but.first
    noEdits := but.noEdits
    reached := by omega
    fits := by omega
    stems := fun other => (but.stems other).invalidateFrom line
    follows := fun other elsewhere => (but.follows other elsewhere).invalidateFrom line
    unvisited := but.unvisited
    edits := fun other behind within kept => but.edits other behind within (by omega) }

/-- Once the line at the cursor is tagged and kept, the next one is the only one that may not
follow. -/
theorem advanced (but : document.FollowsBut texts marked old editedThrough cursor visits)
    (hasText : texts[cursor]? = some text)
    (returned : (document.session.tagLine (document.stateBefore cursor) text).1 = .ok result) :
    (document.advanced cursor text result).FollowsBut texts marked old editedThrough (cursor + 1)
      (visits ++ [⟨cursor, text, document.stateBefore cursor⟩]) := by
  have sound := but.sound
  have taggedSound : (document.tagged cursor text).session.Sound :=
    Session.tagLine_sound sound _ text
  have grows : document.session.GrowsTo (document.tagged cursor text).session :=
    Session.tagLine_growsTo sound _ text
  have reached : cursor ≤ (document.tagged cursor text).lines.length := but.reached
  have inside := (List.getElem?_eq_some_iff.mp hasText).1
  have fits : document.lines.length ≤ texts.length := but.fits
  have length : (document.advanced cursor text result).lines.length =
      max (cursor + 1) document.lines.length := keepLine_length reached
  have session : (document.advanced cursor text result).session =
      (document.tagged cursor text).session := keepLine_session ..
  have lastElsewhere : ∀ line, line ≠ cursor →
      lastVisit (visits ++ [⟨cursor, text, document.stateBefore cursor⟩]) line =
        lastVisit visits line := by
    intro line elsewhere
    rw [lastVisit_concat, if_neg (Ne.symm elsewhere)]
  have lastHere : lastVisit (visits ++ [⟨cursor, text, document.stateBefore cursor⟩]) cursor =
      some ⟨cursor, text, document.stateBefore cursor⟩ := by
    rw [lastVisit_concat, if_pos rfl]
  have starts : ∀ line, line ≠ cursor + 1 →
      (document.advanced cursor text result).stateBefore line = document.stateBefore line :=
    fun line notNext => keepLine_stateBefore reached notNext
  exact {
    sound := by rwa [session]
    first := by
      obtain ⟨found, stands⟩ := but.first
      rw [session, Document.advanced, keepLine_firstState]
      exact ⟨found, grows.states.continuationOf stands⟩
    noEdits := by
      unfold Document.advanced keepLine
      split <;> exact but.noEdits
    reached := by omega
    fits := by omega
    stems := by
      intro line entry present
      rw [Document.advanced, keepLine_getElem? reached] at present
      rw [session]
      by_cases here : line = cursor
      · subst here
        rw [if_pos rfl] at present
        cases present
        exact ⟨_, result, lastHere, Session.recalls_of_tagLine sound returned, rfl⟩
      · rw [if_neg here] at present
        obtain ⟨visit, found, last, recalls, same⟩ := but.stems line entry present
        rw [lastElsewhere line here]
        exact ⟨visit, found, last, recalls.mono sound taggedSound grows, same⟩
    follows := by
      intro line notNext kept
      rw [starts line notNext]
      by_cases here : line = cursor
      · subst here
        exact ⟨_, lastHere, rfl⟩
      · rw [lastElsewhere line here]
        have upTo : cursor ≤ document.lines.length := but.reached
        exact but.follows line here (by omega)
    unvisited := by
      intro line behind
      rw [lastElsewhere line (by omega)]
      exact but.unvisited line (by omega)
    edits := fun line behind within kept => but.edits line (by omega) within (by omega) }

/-- Where tagging goes on behind a line, there is a reason for it. -/
theorem takeResult (but : document.FollowsBut texts marked old editedThrough cursor visits)
    (hasText : texts[cursor]? = some text)
    (returned : (document.session.tagLine (document.stateBefore cursor) text).1 = .ok result)
    (due : resumeAt ≤ cursor) :
    let pass := Document.takeResult editedThrough (document.tagged cursor text) cursor resumeAt
      result
    let next := max (cursor + 1) pass.resumeAt
    pass.document.FollowsBut texts marked old editedThrough next
        (visits ++ [⟨cursor, text, document.stateBefore cursor⟩]) ∧
      HasReason marked old pass.document next (pass.document.stateBefore next) ∧
      pass.state = pass.document.stateBefore next := by
  intro pass next
  have kept := but.advanced hasText returned
  have onward : max (cursor + 1) resumeAt = cursor + 1 := by omega
  have starts : (document.advanced cursor text result).stateBefore (cursor + 1) = result.state :=
    keepLine_stateBefore_next but.reached
  have length : (document.advanced cursor text result).lines.length =
      max (cursor + 1) document.lines.length := keepLine_length but.reached
  -- the last visit to the next line was from the state that this line left before
  have nextVisit : cursor + 1 < (document.advanced cursor text result).lines.length →
      ∃ visit, old (cursor + 1) = some visit ∧
        document.lines[cursor]?.map (·.state) = some visit.state := by
    intro more
    obtain ⟨visit, last, same⟩ := but.follows (cursor + 1) (by omega) (by omega)
    have inside : cursor < document.lines.length := by omega
    refine ⟨visit, ?_, ?_⟩
    · rw [← but.unvisited (cursor + 1) (by omega), last]
    · rw [same, stateBefore, List.getElem?_eq_getElem inside]
      rfl
  rcases takeResult_cases editedThrough document cursor resumeAt text result with
    passed | ⟨⟨-, previous, more⟩, passed⟩ | ⟨unsettled, passed⟩
  · simp only [next, pass, passed, onward]
    refine ⟨kept.invalidateFrom (Nat.le_refl _), .inr (.inl ?_), ?_⟩
    · exact List.getElem?_eq_none (List.length_take_le _ _)
    · rw [invalidateFrom_stateBefore (Nat.le_refl _), starts]
  · simp only [next, pass, passed, Nat.max_eq_right (Nat.le_of_lt more)]
    refine ⟨?_, .inr (.inl (List.getElem?_eq_none (Nat.le_refl _))), trivial⟩
    exact { kept with
      reached := Nat.le_refl _
      follows := by
        intro line _ inside
        by_cases isNext : line = cursor + 1
        · subst isNext
          obtain ⟨visit, last, left⟩ := nextVisit more
          refine ⟨visit, (kept.unvisited _ (Nat.le_refl _)).trans last, ?_⟩
          rw [starts]
          exact Option.some.inj (left.symm.trans previous)
        · exact kept.follows line isNext inside
      unvisited := fun line behind => kept.unvisited line (by omega)
      edits := fun line behind _ inside => absurd inside (Nat.not_lt.mpr behind) }
  · simp only [next, pass, passed, onward]
    refine ⟨kept, ?_, starts.symm⟩
    by_cases more : cursor + 1 < (document.advanced cursor text result).lines.length
    · by_cases within : cursor + 1 ≤ editedThrough
      · exact .inl (kept.edits (cursor + 1) (Nat.le_refl _) within more)
      · obtain ⟨visit, last, left⟩ := nextVisit more
        refine kept.hasReason fun found foundLast same => unsettled ⟨by omega, ?_, more⟩
        cases last.symm.trans foundLast
        rw [left, same, starts]
    · exact .inr (.inl (List.getElem?_eq_none (Nat.le_of_not_lt more)))

end FollowsBut

/-! ## All lines of a text -/

/-- Each line that is tagged has a reason, no line is refused, and at the end no line has a reason
but marks to be tagged again. -/
theorem tagFrom_followsBut {rest : List (List Char)} : ∀ {index resumeAt : Nat}
    {document : Document} {visits : List Visit} (count : Nat), texts.drop index = rest →
    document.FollowsBut texts marked old editedThrough (max index resumeAt) visits →
    HasReason marked old document (max index resumeAt)
      (document.stateBefore (max index resumeAt)) →
    let state := document.stateBefore (max index resumeAt)
    (∃ total, (tagFrom editedThrough document index resumeAt state count rest).1 = .ok total) ∧
    (tagFrom editedThrough document index resumeAt state count rest).2.FollowsBut texts marked old
      editedThrough texts.length
      (visits ++
        (arrivalsFrom editedThrough document index resumeAt state rest).map (·.visit)) ∧
    ∀ arrival ∈ arrivalsFrom editedThrough document index resumeAt state rest,
      HasReason marked old arrival.document arrival.visit.line arrival.visit.state := by
  induction rest with
  | nil =>
    intro index resumeAt document visits count done but reason state
    have short : texts.length ≤ index := List.drop_eq_nil_iff.mp done
    have reached := but.reached
    have fits := but.fits
    have atEnd : max index resumeAt = texts.length := by omega
    refine ⟨⟨count, rfl⟩, ?_, fun _ member => absurd member List.not_mem_nil⟩
    rw [arrivalsFrom, List.map_nil, List.append_nil, ← atEnd]
    exact but
  | cons text rest ih =>
    intro index resumeAt document visits count remaining but reason state
    obtain ⟨hasText, remainingNext⟩ := getElem?_of_drop remaining
    by_cases early : index < resumeAt
    · have same : max index resumeAt = max (index + 1) resumeAt := by omega
      simp only [state]
      rw [tagFrom_skip early, arrivalsFrom_skip early]
      rw [same] at but reason ⊢
      exact ih count remainingNext but reason
    · have due : resumeAt ≤ index := by omega
      simp only [state]
      rw [Nat.max_eq_left due] at but reason ⊢
      obtain ⟨result, returned⟩ := but.tagLine_ok text
      obtain ⟨nextBut, nextReason, nextState⟩ := but.takeResult hasText returned due
      obtain ⟨answered, final, reasons⟩ := ih (count + 1) remainingNext nextBut nextReason
      rw [← nextState] at answered final reasons
      rw [tagFrom_tag due returned, arrivalsFrom_tag due returned]
      refine ⟨answered, ?_, List.forall_mem_cons.mpr ⟨reason, reasons⟩⟩
      rwa [List.append_assoc] at final

/-- Lines before the first one to tag are left as they are. -/
theorem tagFrom_of_le {texts : List (List Char)} (state : StateId) (count : Nat) :
    ∀ {index : Nat}, index + texts.length ≤ resumeAt →
    tagFrom editedThrough document index resumeAt state count texts = (.ok count, document) := by
  induction texts with
  | nil => exact fun _ => rfl
  | cons text texts ih =>
    intro index early
    rw [List.length_cons] at early
    rw [tagFrom_skip (by omega)]
    exact ih (by omega)

/-- If all lines are kept and none is marked there is nothing to do. -/
theorem highlight_of_kept (noEdits : document.edited = none)
    (kept : document.lines.length = texts.length) :
    document.highlight texts = (.ok 0, document) := by
  have whole : document.invalidateFrom texts.length = document := by
    rw [invalidateFrom, List.take_of_length_le (Nat.le_of_eq kept)]
  have window : document.window = (texts.length, 0) := by
    rw [Document.window, noEdits, kept]
  have unmarked : { document with edited := none } = document := by
    rw [← noEdits]
  simp only [highlight, whole, window, unmarked]
  exact tagFrom_of_le _ 0 (Nat.le_of_eq (Nat.zero_add _))

end Document

open Document (Call Visit lastVisit HasReason)

namespace History

/-- The last visit that was paid to a line. -/
def lastVisit (history : History) (line : Nat) : Option Visit :=
  Document.lastVisit history.visits line

/-- What is kept of each line came of the last visit to it, which was from the state that the line
starts in. -/
structure Follows (history : History) : Prop where
  sound : history.document.session.Sound
  first : ∃ found, history.document.session.states.continuationOf history.document.firstState =
    .ok found
  edits : ∀ first last, history.document.edited = some (first, last) → first ≤ last
  stems : ∀ line, history.document.Stems history.visits line
  follows : ∀ line, history.document.Follows history.visits line

variable {history : History} {texts : List (List Char)}

/-- Where nothing is kept there is nothing to follow. -/
theorem follows_of_empty (sound : history.document.session.Sound)
    (first : ∃ found,
      history.document.session.states.continuationOf history.document.firstState = .ok found)
    (noEdits : history.document.edited = none) (empty : history.document.lines = []) :
    history.Follows where
  sound := sound
  first := first
  edits := by
    intro first last edited
    rw [noEdits] at edited
    cases edited
  stems := by
    intro line entry present
    rw [empty] at present
    cases present
  follows := by
    intro line kept
    rw [empty] at kept
    exact absurd kept (Nat.not_lt_zero line)

theorem new_follows (library : Library) (options : Options) : (new library options).Follows :=
  follows_of_empty (Session.new_sound library options) ⟨none, rfl⟩ rfl rfl

/-- From the first line to tag up to the last edit, all lines that are kept are marked. -/
theorem isMarked_of_window (document : Document) {line : Nat} (behind : document.window.1 ≤ line)
    (within : line ≤ document.window.2) (kept : line < document.lines.length) :
    document.isMarked line = true := by
  unfold Document.window at behind within
  unfold Document.isMarked
  cases edited : document.edited with
  | none =>
    simp only [edited] at behind
    omega
  | some range =>
    simp only [edited] at behind within
    simp only [Option.any_some, Bool.and_eq_true, decide_eq_true_eq]
    omega

/-- The first line to tag is marked, or it is not kept. -/
theorem Follows.isMarked_window (follows : history.Follows) (length : Nat)
    (kept : (history.document.invalidateFrom length).window.1 <
      (history.document.invalidateFrom length).lines.length) :
    history.document.isMarked (history.document.invalidateFrom length).window.1 = true := by
  refine isMarked_of_window (history.document.invalidateFrom length) (Nat.le_refl _) ?_ kept
  have edits := follows.edits
  have same : (history.document.invalidateFrom length).edited = history.document.edited := rfl
  unfold Document.window at kept ⊢
  rw [same] at kept ⊢
  cases edited : history.document.edited with
  | none =>
    simp only [edited] at kept
    exact absurd kept (Nat.lt_irrefl _)
  | some range =>
    simp only [edited] at kept ⊢
    have ordered := edits range.1 range.2 edited
    omega

/-- When lines are about to be tagged, all of them follow, and there is a reason for the first one
to tag. -/
theorem Follows.opened (follows : history.Follows) (texts : List (List Char)) :
    let window := (history.document.invalidateFrom texts.length).window
    let opened := history.document.opened texts
    opened.FollowsBut texts (history.document.isMarked ·) history.lastVisit window.2 window.1
        history.visits ∧
      HasReason (history.document.isMarked ·) history.lastVisit opened window.1
        (opened.stateBefore window.1) := by
  intro window opened
  have short : opened.lines.length = min texts.length history.document.lines.length :=
    List.length_take
  constructor
  · exact {
      sound := follows.sound
      first := follows.first
      noEdits := rfl
      reached := window_le _
      fits := by omega
      stems := fun line => (follows.stems line).invalidateFrom texts.length
      follows := fun line _ => (follows.follows line).invalidateFrom texts.length
      unvisited := fun _ _ => rfl
      edits := fun line => isMarked_of_window (history.document.invalidateFrom texts.length) }
  · by_cases kept : window.1 < opened.lines.length
    · exact .inl (follows.isMarked_window texts.length kept)
    · exact .inr (.inl (List.getElem?_eq_none (Nat.le_of_not_lt kept)))

/-- To tag all lines keeps this up, and there is a reason for each line that is tagged. -/
theorem Follows.highlight (follows : history.Follows) (texts : List (List Char)) :
    (∃ total, (history.document.highlight texts).1 = .ok total) ∧
    (∃ editedThrough, (history.document.highlight texts).2.FollowsBut texts
      (history.document.isMarked ·) history.lastVisit editedThrough texts.length
      (history.perform (.highlight texts)).visits) ∧
    ∀ arrival ∈ history.document.arrivals texts, HasReason (history.document.isMarked ·)
      history.lastVisit arrival.document arrival.visit.line arrival.visit.state := by
  obtain ⟨but, reason⟩ := follows.opened texts
  have start := Nat.zero_max (history.document.invalidateFrom texts.length).window.1
  rw [← start] at but reason
  obtain ⟨answered, final, reasons⟩ :=
    Document.tagFrom_followsBut 0 List.drop_zero but reason
  rw [start] at answered final reasons
  exact ⟨answered, ⟨_, final⟩, reasons⟩

/-! ## Calls -/

theorem refresh_follows (follows : history.Follows) (wanted : ActiveLanguage) :
    (history.perform (.refresh wanted)).Follows := by
  show (⟨(history.document.refresh wanted).2, history.visits⟩ : History).Follows
  unfold Document.refresh
  split
  · exact follows
  · have set := Session.setLanguage_sound follows.sound wanted.name
    exact follows_of_empty (Session.initialState_sound set wanted.enabled)
      ⟨_, States.continuationOf_stateOf ..⟩ rfl rfl

theorem editLine_follows (follows : history.Follows) (line : Nat) :
    (history.perform (.editLine line)).Follows := by
  refine { follows with edits := ?_ }
  intro first last edited
  have marks : (history.document.editLine line).edited = some (first, last) := edited
  unfold Document.editLine at marks
  cases before : history.document.edited with
  | none =>
    rw [before] at marks
    cases marks
    exact Nat.le_refl line
  | some range =>
    have ordered := follows.edits range.1 range.2 before
    rw [before] at marks
    cases marks
    omega

theorem highlight_follows (follows : history.Follows) (texts : List (List Char)) :
    (history.perform (.highlight texts)).Follows := by
  obtain ⟨-, ⟨editedThrough, but⟩, -⟩ := follows.highlight texts
  have noEdits : (history.perform (.highlight texts)).document.edited = none := but.noEdits
  exact {
    sound := but.sound
    first := but.first
    edits := by
      intro first last edited
      rw [noEdits] at edited
      cases edited
    stems := but.stems
    follows := by
      intro line kept
      have fits := but.fits
      exact but.follows line (Nat.ne_of_lt (Nat.lt_of_lt_of_le kept fits)) kept }

theorem perform_follows (follows : history.Follows) (call : Call) :
    (history.perform call).Follows := by
  cases call with
  | refresh wanted => exact refresh_follows follows wanted
  | editLine line => exact editLine_follows follows line
  | invalidateFrom line =>
    exact { follows with
      stems := fun other => (follows.stems other).invalidateFrom line
      follows := fun other => (follows.follows other).invalidateFrom line }
  | invalidateAll => exact follows_of_empty follows.sound follows.first rfl rfl
  | highlight texts => exact highlight_follows follows texts

theorem performAll_follows (follows : history.Follows) (calls : List Call) :
    (history.performAll calls).Follows := by
  induction calls generalizing history with
  | nil => exact follows
  | cons call calls ih => exact ih (perform_follows follows call)

/-- Whatever calls are made, no line is tagged without a reason: it is marked, or nothing is kept of
it when its turn comes, or what is kept of it then came of the last visit to it, which was from
another state than the one that it starts in.  So when the same lines are tagged once more, nothing
is done. -/
theorem highlight_has_reasons (library : Library) (options : Options) (calls : List Call)
    (texts : List (List Char)) :
    let history := (new library options).performAll calls
    let document := history.document
    let arrivals := document.arrivals texts
    let after := (document.highlight texts).2
    (document.highlight texts).1 = .ok arrivals.length ∧
    arrivals.map (·.visit) = document.visits texts ∧
    (∀ arrival ∈ arrivals, document.isMarked arrival.visit.line ∨
      arrival.document.lines[arrival.visit.line]? = none ∨ ∃ visit result,
        arrival.document.lines[arrival.visit.line]? = some ⟨result.state, result.events⟩ ∧
        history.lastVisit arrival.visit.line = some visit ∧
        arrival.document.session.Recalls visit.state visit.text result ∧
        visit.state ≠ arrival.visit.state) ∧
    after.highlight texts = (.ok 0, after) := by
  intro history document arrivals after
  have follows : history.Follows := performAll_follows (new_follows library options) calls
  obtain ⟨⟨total, answered⟩, ⟨editedThrough, but⟩, reasons⟩ := follows.highlight texts
  have count : total = arrivals.length := Document.highlight_count answered
  have kept : after.lines.length = texts.length := Nat.le_antisymm but.fits but.reached
  exact ⟨count ▸ answered, rfl, reasons, Document.highlight_of_kept but.noEdits kept⟩

end History

end Highlighter
