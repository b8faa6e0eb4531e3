import Highlighter.Proofs.Document.Kept

/-!
# Tagging a document

While a document is tagged, all lines before some line are up to date.  The lines behind it still
hold for the texts that they were tagged with, each from the state that the line before it left.
To tag the line keeps this up, and so does the jump to the end of what is kept: behind the last line
that was edited the texts are the ones that the lines were tagged with.
-/

namespace Highlighter

namespace Document

/-- A line that is tagged, with its text and the state that it starts in. -/
structure Visit where
  line : Nat
  text : List Char
  state : StateId

/-- A visit, with the document just before it is paid. -/
structure Arrival where
  visit : Visit
  document : Document

/-- The visits that are paid when `texts` are tagged, the first of which is line `index`, with the
document before each. -/
def arrivalsFrom (editedThrough : Nat) (document : Document) (index resumeAt : Nat)
    (state : StateId) : (texts : List (List Char)) → List Arrival
  | [] => []
  | text :: texts =>
    if index < resumeAt then arrivalsFrom editedThrough document (index + 1) resumeAt state texts
    else
      let (answer, session) := document.session.tagLine state text
      match answer with
      | .error _ => []
      | .ok result =>
        let pass := takeResult editedThrough { document with session } index resumeAt result
        ⟨⟨index, text, state⟩, document⟩ ::
          arrivalsFrom editedThrough pass.document (index + 1) pass.resumeAt pass.state texts

/-- The document once `texts` are given and the edits are taken note of. -/
def opened (document : Document) (texts : List (List Char)) : Document :=
  { document.invalidateFrom texts.length with edited := none }

/-- The visits that are paid to bring the document up to date, with the document before each. -/
def arrivals (document : Document) (texts : List (List Char)) : List Arrival :=
  let (start, editedThrough) := (document.invalidateFrom texts.length).window
  let document := document.opened texts
  arrivalsFrom editedThrough document 0 start (document.stateBefore start) texts

/-- The lines that are tagged to bring the document up to date. -/
def visits (document : Document) (texts : List (List Char)) : List Visit :=
  (document.arrivals texts).map (·.visit)

/-- Lines before `cursor` are up to date, and lines behind it hold for the texts that they were
tagged with; behind the last edit these texts are the same. -/
structure UpTo (texts : List (List Char)) (old : Nat → Option (List Char))
    (editedThrough cursor : Nat) (document : Document) : Prop where
  sound : document.session.Sound
  first : ∃ found, document.session.states.continuationOf document.firstState = .ok found
  reached : cursor ≤ document.lines.length
  fits : document.lines.length ≤ texts.length
  before : ∀ line < cursor, document.Keeps (texts[·]?) line
  behind : ∀ line, cursor < line → document.Keeps old line
  unedited : ∀ line, cursor < line → editedThrough < line → line < document.lines.length →
    old line = texts[line]?

variable {texts : List (List Char)} {old : Nat → Option (List Char)}
  {editedThrough cursor resumeAt : Nat} {document : Document} {text : List Char}
  {result : LineResult}

/-- The line at the cursor is never refused. -/
theorem UpTo.tagLine_ok (upTo : document.UpTo texts old editedThrough cursor) (text : List Char) :
    ∃ result, (document.session.tagLine (document.stateBefore cursor) text).1 = .ok result :=
  Session.tagLine_ok_iff.mpr (stateBefore_stands upTo.sound upTo.first upTo.before)

/-- The document with its session behind the line at the cursor. -/
def tagged (document : Document) (cursor : Nat) (text : List Char) : Document :=
  { document with session := (document.session.tagLine (document.stateBefore cursor) text).2 }

/-- The document once the line at the cursor is tagged and kept. -/
def advanced (document : Document) (cursor : Nat) (text : List Char) (result : LineResult) :
    Document :=
  (document.tagged cursor text).keepLine cursor ⟨result.state, result.events⟩

/-- Tagging a line does no harm to what is kept. -/
theorem Keeps.tagged {known : Nat → Option (List Char)} {line : Nat}
    (keeps : document.Keeps known line) (sound : document.session.Sound) (cursor : Nat)
    (text : List Char) : (document.tagged cursor text).Keeps known line :=
  keeps.frame sound (Session.tagLine_sound sound _ text) (Session.tagLine_growsTo sound _ text) rfl
    rfl

/-- Once the line at the cursor is kept, the cursor moves on by one. -/
theorem UpTo.keepLine (upTo : document.UpTo texts old editedThrough cursor)
    (hasText : texts[cursor]? = some text)
    (returned : (document.session.tagLine (document.stateBefore cursor) text).1 = .ok result) :
    (document.advanced cursor text result).UpTo texts old editedThrough (cursor + 1) := by
  have sound := upTo.sound
  have taggedSound : (document.tagged cursor text).session.Sound :=
    Session.tagLine_sound sound _ text
  have reached : cursor ≤ (document.tagged cursor text).lines.length := upTo.reached
  have inside := (List.getElem?_eq_some_iff.mp hasText).1
  have fits : document.lines.length ≤ texts.length := upTo.fits
  have length : (document.advanced cursor text result).lines.length =
      max (cursor + 1) document.lines.length := keepLine_length reached
  unfold advanced at length ⊢
  refine ⟨?_, ?_, ?_, ?_, ?_, ?_, ?_⟩
  · rwa [keepLine_session]
  · rw [keepLine_session, keepLine_firstState]
    obtain ⟨found, stands⟩ := upTo.first
    exact ⟨found, (Session.tagLine_growsTo sound _ text).states.continuationOf stands⟩
  · rw [length]
    omega
  · rw [length]
    omega
  · intro line before
    rcases Nat.lt_succ_iff_lt_or_eq.mp before with before | rfl
    · exact ((upTo.before line before).tagged sound cursor text).keepLine taggedSound reached
        (by omega) (by omega)
    · exact keeps_keepLine reached hasText (Session.recalls_of_tagLine sound returned)
  · intro line behind
    exact ((upTo.behind line (by omega)).tagged sound cursor text).keepLine taggedSound reached
      (by omega) (by omega)
  · intro line behind pastEdits kept
    exact upTo.unedited line (by omega) pastEdits (by omega)

/-- Nothing changes for the lines before the cursor if lines behind it are forgotten. -/
theorem UpTo.invalidateFrom (upTo : document.UpTo texts old editedThrough cursor) {line : Nat}
    (upToLine : cursor ≤ line) :
    (document.invalidateFrom line).UpTo texts old editedThrough cursor := by
  have reached := upTo.reached
  have fits := upTo.fits
  have length : (document.invalidateFrom line).lines.length = min line document.lines.length :=
    List.length_take
  refine ⟨upTo.sound, upTo.first, ?_, ?_, ?_, ?_, ?_⟩
  · omega
  · omega
  · intro other before
    exact (upTo.before other before).invalidateFrom upTo.sound line
  · intro other behind
    exact (upTo.behind other behind).invalidateFrom upTo.sound line
  · intro other behind pastEdits kept
    exact upTo.unedited other behind pastEdits (by omega)

/-- If the line at the cursor leaves the state that it left before, and is behind all edits, then
all that is kept behind it holds. -/
theorem UpTo.keepLine_same (upTo : document.UpTo texts old editedThrough cursor)
    (hasText : texts[cursor]? = some text)
    (returned : (document.session.tagLine (document.stateBefore cursor) text).1 = .ok result)
    (pastEdits : editedThrough ≤ cursor)
    (previous : document.lines[cursor]?.map (·.state) = some result.state) :
    let kept := document.advanced cursor text result
    kept.UpTo texts old editedThrough kept.lines.length := by
  intro kept
  have keptUpTo : kept.UpTo texts old editedThrough (cursor + 1) := upTo.keepLine hasText returned
  have taggedSound : (document.tagged cursor text).session.Sound :=
    Session.tagLine_sound upTo.sound _ text
  have length : kept.lines.length = max (cursor + 1) document.lines.length :=
    keepLine_length upTo.reached
  refine ⟨keptUpTo.sound, keptUpTo.first, Nat.le_refl _, keptUpTo.fits, ?_, ?_, ?_⟩
  · intro line inside
    rcases Nat.lt_trichotomy line (cursor + 1) with before | rfl | behind
    · exact keptUpTo.before line before
    · have starts : result.state = (document.tagged cursor text).stateBefore (cursor + 1) := by
        show result.state = (document.lines[cursor]?.map (·.state)).getD document.firstState
        rw [previous]
        rfl
      have keeps := (upTo.behind (cursor + 1) (by omega)).tagged upTo.sound cursor text
      exact (keeps.keepLine_next taggedSound upTo.reached starts).of_text fun _ =>
        upTo.unedited (cursor + 1) (by omega) (by omega) (by omega)
    · exact (keptUpTo.behind line behind).of_text fun kept =>
        keptUpTo.unedited line behind (by omega) kept
  · intro line behind
    exact keeps_of_length_le (Nat.le_of_lt behind)
  · intro line behind _ inside
    exact absurd inside (Nat.not_lt.mpr (Nat.le_of_lt behind))

/-- Where tagging goes on behind a line. -/
theorem takeResult_cases (editedThrough : Nat) (document : Document) (cursor resumeAt : Nat)
    (text : List Char) (result : LineResult) :
    let pass := takeResult editedThrough (document.tagged cursor text) cursor resumeAt result
    let kept := document.advanced cursor text result
    pass = ⟨kept.invalidateFrom (cursor + 1), resumeAt, result.state⟩ ∨
    ((editedThrough ≤ cursor ∧ document.lines[cursor]?.map (·.state) = some result.state ∧
        cursor + 1 < kept.lines.length) ∧
      pass = ⟨kept, kept.lines.length, kept.stateBefore kept.lines.length⟩) ∨
    (¬(editedThrough ≤ cursor ∧ document.lines[cursor]?.map (·.state) = some result.state ∧
        cursor + 1 < kept.lines.length) ∧
      pass = ⟨kept, resumeAt, result.state⟩) := by
  intro pass kept
  by_cases switched : result.switched.isSome
  · exact .inl (if_pos switched)
  · refine .inr ?_
    have passed : pass =
        if editedThrough ≤ cursor ∧ document.lines[cursor]?.map (·.state) = some result.state ∧
            cursor + 1 < kept.lines.length then
          ⟨kept, kept.lines.length, kept.stateBefore kept.lines.length⟩
        else ⟨kept, resumeAt, result.state⟩ := if_neg switched
    split at passed
    · rename_i settled
      exact .inl ⟨settled, passed⟩
    · rename_i unsettled
      exact .inr ⟨unsettled, passed⟩

/-- Behind a line, the next one starts in the state that the line left. -/
theorem takeResult_next (reached : cursor ≤ document.lines.length) (editedThrough resumeAt : Nat)
    (text : List Char) (result : LineResult) :
    let pass := takeResult editedThrough (document.tagged cursor text) cursor resumeAt result
    pass.document.session = (document.tagged cursor text).session ∧
      pass.document.stateBefore (cursor + 1) = result.state := by
  intro pass
  have session : (document.advanced cursor text result).session =
      (document.tagged cursor text).session := keepLine_session ..
  have starts : (document.advanced cursor text result).stateBefore (cursor + 1) = result.state :=
    keepLine_stateBefore_next reached
  rcases takeResult_cases editedThrough document cursor resumeAt text result with
    passed | ⟨-, passed⟩ | ⟨-, passed⟩
  · simp only [pass, passed, invalidateFrom_session, invalidateFrom_stateBefore (Nat.le_refl _)]
    exact ⟨session, starts⟩
  · simp only [pass, passed]
    exact ⟨session, starts⟩
  · simp only [pass, passed]
    exact ⟨session, starts⟩

/-- What tagging a line does to the cursor.  It moves on by one, or else over lines whose texts are
the ones that they were tagged with. -/
theorem takeResult_upTo (upTo : document.UpTo texts old editedThrough cursor)
    (hasText : texts[cursor]? = some text)
    (returned : (document.session.tagLine (document.stateBefore cursor) text).1 = .ok result)
    (due : resumeAt ≤ cursor) :
    let pass := takeResult editedThrough (document.tagged cursor text) cursor resumeAt result
    let next := max (cursor + 1) pass.resumeAt
    pass.document.UpTo texts old editedThrough next ∧
      pass.state = pass.document.stateBefore next ∧
      ∀ line, cursor < line → line < next → old line = texts[line]? := by
  intro pass next
  have keptUpTo := upTo.keepLine hasText returned
  have starts : (document.advanced cursor text result).stateBefore (cursor + 1) = result.state :=
    keepLine_stateBefore_next upTo.reached
  have onward : max (cursor + 1) resumeAt = cursor + 1 := by omega
  rcases takeResult_cases editedThrough document cursor resumeAt text result with
    passed | ⟨⟨pastEdits, previous, more⟩, passed⟩ | ⟨-, passed⟩
  · simp only [next, pass, passed, onward]
    refine ⟨keptUpTo.invalidateFrom (Nat.le_refl _), ?_, ?_⟩
    · rw [invalidateFrom_stateBefore (Nat.le_refl _), starts]
    · intro line behind before
      omega
  · simp only [next, pass, passed, Nat.max_eq_right (Nat.le_of_lt more)]
    refine ⟨upTo.keepLine_same hasText returned pastEdits previous, trivial, ?_⟩
    intro line behind before
    have length : (document.advanced cursor text result).lines.length =
        max (cursor + 1) document.lines.length := keepLine_length upTo.reached
    exact upTo.unedited line behind (by omega) (by omega)
  · simp only [next, pass, passed, onward]
    refine ⟨keptUpTo, starts.symm, ?_⟩
    intro line behind before
    omega

/-! ## All lines of a text -/

/-- The first of the texts that are left, and those behind it. -/
theorem getElem?_of_drop {index : Nat} {rest : List (List Char)}
    (remaining : texts.drop index = text :: rest) :
    texts[index]? = some text ∧ texts.drop (index + 1) = rest := by
  constructor
  · rw [← List.head?_drop, remaining]
    rfl
  · rw [← List.tail_drop, remaining]
    rfl

theorem tagFrom_skip (early : cursor < resumeAt) (state : StateId) (count : Nat)
    (rest : List (List Char)) :
    tagFrom editedThrough document cursor resumeAt state count (text :: rest) =
      tagFrom editedThrough document (cursor + 1) resumeAt state count rest := by
  rw [tagFrom, if_pos early]

theorem tagFrom_tag (due : resumeAt ≤ cursor)
    (returned : (document.session.tagLine (document.stateBefore cursor) text).1 = .ok result)
    (count : Nat) (rest : List (List Char)) :
    let pass := takeResult editedThrough (document.tagged cursor text) cursor resumeAt result
    tagFrom editedThrough document cursor resumeAt (document.stateBefore cursor) count
        (text :: rest) =
      tagFrom editedThrough pass.document (cursor + 1) pass.resumeAt pass.state (count + 1)
        rest := by
  have tags : document.session.tagLine (document.stateBefore cursor) text =
      (.ok result, (document.tagged cursor text).session) := Prod.ext returned rfl
  rw [tagFrom, if_neg (Nat.not_lt.mpr due), tags]
  rfl

theorem arrivalsFrom_skip (early : cursor < resumeAt) (state : StateId) (rest : List (List Char)) :
    arrivalsFrom editedThrough document cursor resumeAt state (text :: rest) =
      arrivalsFrom editedThrough document (cursor + 1) resumeAt state rest := by
  rw [arrivalsFrom, if_pos early]

theorem arrivalsFrom_tag (due : resumeAt ≤ cursor)
    (returned : (document.session.tagLine (document.stateBefore cursor) text).1 = .ok result)
    (rest : List (List Char)) :
    let pass := takeResult editedThrough (document.tagged cursor text) cursor resumeAt result
    arrivalsFrom editedThrough document cursor resumeAt (document.stateBefore cursor)
        (text :: rest) =
      ⟨⟨cursor, text, document.stateBefore cursor⟩, document⟩ ::
        arrivalsFrom editedThrough pass.document (cursor + 1) pass.resumeAt pass.state rest := by
  have tags : document.session.tagLine (document.stateBefore cursor) text =
      (.ok result, (document.tagged cursor text).session) := Prod.ext returned rfl
  rw [arrivalsFrom, if_neg (Nat.not_lt.mpr due), tags]
  rfl

/-- Every visit is one of a line that is given, with its text. -/
theorem arrivalsFrom_text {texts : List (List Char)} : ∀ {index resumeAt : Nat} {state : StateId}
    {document : Document} {arrival : Arrival},
    arrival ∈ arrivalsFrom editedThrough document index resumeAt state texts →
    index ≤ arrival.visit.line ∧
      texts[arrival.visit.line - index]? = some arrival.visit.text := by
  induction texts with
  | nil => exact fun member => absurd member List.not_mem_nil
  | cons text texts ih =>
    intro index resumeAt state document ⟨visit, before⟩ member
    have later : index + 1 ≤ visit.line ∧ texts[visit.line - (index + 1)]? = some visit.text →
        index ≤ visit.line ∧ (text :: texts)[visit.line - index]? = some visit.text := by
      rintro ⟨behind, hasText⟩
      refine ⟨by omega, ?_⟩
      rwa [show visit.line - index = visit.line - (index + 1) + 1 by omega, List.getElem?_cons_succ]
    by_cases early : index < resumeAt
    · rw [arrivalsFrom_skip early] at member
      exact later (ih member)
    · rw [arrivalsFrom, if_neg early] at member
      dsimp only at member
      split at member
      · exact absurd member List.not_mem_nil
      · rcases List.mem_cons.mp member with same | member
        · cases same
          simp
        · exact later (ih member)

/-- The count of lines tagged is that of the visits. -/
theorem tagFrom_count {texts : List (List Char)} : ∀ {index resumeAt : Nat} {state : StateId}
    {document : Document} {count total : Nat},
    (tagFrom editedThrough document index resumeAt state count texts).1 = .ok total →
    total = count + (arrivalsFrom editedThrough document index resumeAt state texts).length := by
  induction texts with
  | nil =>
    intro index resumeAt state document count total counted
    cases counted
    rfl
  | cons text texts ih =>
    intro index resumeAt state document count total counted
    rw [tagFrom] at counted
    rw [arrivalsFrom]
    split at counted
    · rename_i early
      rw [if_pos early]
      exact ih counted
    · rename_i due
      rw [if_neg due]
      dsimp only at counted ⊢
      cases returned : (document.session.tagLine state text).1 with
      | error error =>
        simp only [returned] at counted
        cases counted
      | ok result =>
        simp only [returned] at counted ⊢
        rw [ih counted, List.length_cons]
        omega

/-- The answer is the number of visits. -/
theorem highlight_count {count : Nat} (answered : (document.highlight texts).1 = .ok count) :
    count = (document.arrivals texts).length := by
  rw [arrivals, ← Nat.zero_add (arrivalsFrom ..).length]
  exact tagFrom_count answered

/-- Once all lines are tagged the document is up to date.  No line is refused, and the lines that
are not tagged have the texts that they were tagged with. -/
theorem tagFrom_upTo {rest : List (List Char)} : ∀ {index resumeAt : Nat} {state : StateId}
    {document : Document} (count : Nat), texts.drop index = rest →
    document.UpTo texts old editedThrough (max index resumeAt) →
    state = document.stateBefore (max index resumeAt) →
    (∃ total, (tagFrom editedThrough document index resumeAt state count rest).1 = .ok total) ∧
    (tagFrom editedThrough document index resumeAt state count rest).2.UpTo texts old editedThrough
      texts.length ∧
    ∀ line, max index resumeAt ≤ line → line < texts.length →
      (∀ arrival ∈ arrivalsFrom editedThrough document index resumeAt state rest,
        arrival.visit.line ≠ line) →
      old line = texts[line]? := by
  induction rest with
  | nil =>
    intro index resumeAt state document count done upTo starts
    have short : texts.length ≤ index := List.drop_eq_nil_iff.mp done
    have fits := upTo.fits
    have reached := upTo.reached
    have atEnd : max index resumeAt = texts.length := by omega
    refine ⟨⟨count, rfl⟩, ?_, ?_⟩
    · rw [← atEnd]
      exact upTo
    · intro line behind inside
      omega
  | cons text rest ih =>
    intro index resumeAt state document count remaining upTo starts
    obtain ⟨hasText, remainingNext⟩ := getElem?_of_drop remaining
    by_cases early : index < resumeAt
    · have same : max index resumeAt = max (index + 1) resumeAt := by omega
      rw [tagFrom_skip early, arrivalsFrom_skip early]
      rw [same] at upTo starts ⊢
      exact ih count remainingNext upTo starts
    · have due : resumeAt ≤ index := by omega
      rw [Nat.max_eq_left due] at upTo starts ⊢
      subst starts
      obtain ⟨result, returned⟩ := upTo.tagLine_ok text
      obtain ⟨nextUpTo, nextStarts, passedOver⟩ := takeResult_upTo upTo hasText returned due
      obtain ⟨total, final, unvisited⟩ := ih (count + 1) remainingNext nextUpTo nextStarts
      rw [tagFrom_tag due returned, arrivalsFrom_tag due returned]
      refine ⟨total, final, ?_⟩
      intro line behind inside notVisited
      have notHere : index ≠ line := notVisited _ List.mem_cons_self
      by_cases passed : line < max (index + 1) (takeResult editedThrough
          (document.tagged index text) index resumeAt result).resumeAt
      · exact passedOver line (by omega) passed
      · exact unvisited line (by omega) inside
          fun arrival member => notVisited arrival (List.mem_cons_of_mem _ member)

/-- What tagging the lines does to the session is what tagging all of them from top to bottom does
to it: the lines that are not tagged are recalled. -/
theorem tagFrom_session {rest : List (List Char)} : ∀ {index resumeAt : Nat} {document : Document}
    (count : Nat), texts.drop index = rest →
    document.UpTo texts old editedThrough (max index resumeAt) →
    ∃ results, document.session.tagLines (document.stateBefore index) rest = (.ok results,
      (tagFrom editedThrough document index resumeAt (document.stateBefore (max index resumeAt))
        count rest).2.session) := by
  induction rest with
  | nil => exact fun _ _ _ => ⟨[], rfl⟩
  | cons text rest ih =>
    intro index resumeAt document count remaining upTo
    obtain ⟨hasText, remainingNext⟩ := getElem?_of_drop remaining
    by_cases early : index < resumeAt
    · have same : max index resumeAt = max (index + 1) resumeAt := by omega
      have kept : index < document.lines.length := Nat.lt_of_lt_of_le (by omega) upTo.reached
      obtain ⟨result, recalls, -, starts⟩ := (upTo.before index (by omega)).recalls kept hasText
      rw [tagFrom_skip early]
      rw [same] at upTo ⊢
      obtain ⟨results, tagged⟩ := ih count remainingNext upTo
      rw [starts] at tagged
      exact ⟨result :: results, Session.tagLines_cons recalls tagged⟩
    · have due : resumeAt ≤ index := by omega
      rw [Nat.max_eq_left due] at upTo ⊢
      obtain ⟨result, returned⟩ := upTo.tagLine_ok text
      obtain ⟨nextUpTo, nextStarts, -⟩ := takeResult_upTo upTo hasText returned due
      obtain ⟨results, tagged⟩ := ih (count + 1) remainingNext nextUpTo
      obtain ⟨session, starts⟩ :=
        takeResult_next upTo.reached editedThrough resumeAt text result
      rw [tagFrom_tag due returned, nextStarts]
      rw [session, starts] at tagged
      exact ⟨result :: results, Session.tagLines_cons (Prod.ext returned rfl) tagged⟩

/-- Nothing that is done to a line changes the state of the first line. -/
theorem tagFrom_firstState {texts : List (List Char)} : ∀ {index resumeAt : Nat} {state : StateId}
    {document : Document} (count : Nat),
    (tagFrom editedThrough document index resumeAt state count texts).2.firstState =
      document.firstState := by
  induction texts with
  | nil => exact fun _ => rfl
  | cons text texts ih =>
    intro index resumeAt state document count
    have taken : ∀ (other : Document) (result : LineResult),
        (takeResult editedThrough other index resumeAt result).document.firstState =
          other.firstState := by
      intro other result
      unfold takeResult
      dsimp only
      split
      · rw [invalidateFrom_firstState, keepLine_firstState]
      · split <;> exact keepLine_firstState ..
    rw [tagFrom]
    split
    · exact ih count
    · dsimp only
      split
      · rfl
      · rw [ih, taken]

end Document

end Highlighter
