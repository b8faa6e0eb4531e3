import Highlighter.Document
import Highlighter.Proofs.Session.Lines

/-!
# What a document keeps of its lines

What is kept of a line holds if the session recalls it for the text of the line, from the state that
the line starts in.  So it depends on the line itself and on what is kept of the line before it, and
on nothing else: to keep something of one line does no harm to any line but the next, and none to
the next one if the state stays.
-/

namespace Highlighter

namespace Document

/-- What is kept of a line, if anything, is what comes of its text. -/
def Keeps (document : Document) (texts : Nat → Option (List Char)) (line : Nat) : Prop :=
  ∀ entry, document.lines[line]? = some entry → ∃ text result, texts line = some text ∧
    document.session.Recalls (document.stateBefore line) text result ∧
    entry = ⟨result.state, result.events⟩

variable {document after : Document} {texts : Nat → Option (List Char)} {line : Nat}

/-- What holds of a line goes on holding where the line starts in the same state. -/
theorem Keeps.frame (keeps : document.Keeps texts line) (sound : document.session.Sound)
    (afterSound : after.session.Sound) (grows : document.session.GrowsTo after.session)
    (entry : after.lines[line]? = document.lines[line]?)
    (starts : after.stateBefore line = document.stateBefore line) : after.Keeps texts line := by
  intro kept present
  rw [entry] at present
  obtain ⟨text, result, hasText, recalls, same⟩ := keeps kept present
  rw [← starts] at recalls
  exact ⟨text, result, hasText, recalls.mono sound afterSound grows, same⟩

/-- What is kept of a line depends on the text of this line alone. -/
theorem Keeps.of_text {others : Nat → Option (List Char)} (keeps : document.Keeps texts line)
    (same : line < document.lines.length → texts line = others line) :
    document.Keeps others line := by
  intro entry present
  obtain ⟨text, result, hasText, recalls⟩ := keeps entry present
  rw [same (List.getElem?_eq_some_iff.mp present).1] at hasText
  exact ⟨text, result, hasText, recalls⟩

/-- Nothing is kept of a line behind the last one. -/
theorem keeps_of_length_le (behind : document.lines.length ≤ line) : document.Keeps texts line := by
  intro entry present
  rw [List.getElem?_eq_none behind] at present
  cases present

/-- What is kept of a line is what the session recalls of its text, and the next line starts in the
state that this leaves. -/
theorem Keeps.recalls {text : List Char} (keeps : document.Keeps texts line)
    (kept : line < document.lines.length) (hasText : texts line = some text) :
    ∃ result, document.session.Recalls (document.stateBefore line) text result ∧
      document.lines[line] = ⟨result.state, result.events⟩ ∧
      document.stateBefore (line + 1) = result.state := by
  have present := List.getElem?_eq_getElem kept
  obtain ⟨found, result, hasFound, recalls, entry⟩ := keeps document.lines[line] present
  have same : found = text := Option.some.inj (hasFound.symm.trans hasText)
  subst same
  refine ⟨result, recalls, entry, ?_⟩
  simp only [stateBefore, present, entry]
  rfl

/-- A line starts in a state that stands for something if whatever is kept of the lines before it is
what the session recalls of some line. -/
theorem stateBefore_stands_of_recalls (sound : document.session.Sound)
    (first : ∃ found, document.session.states.continuationOf document.firstState = .ok found)
    (recalled : ∀ index < line, ∀ entry, document.lines[index]? = some entry →
      ∃ state text result, document.session.Recalls state text result ∧
        entry.state = result.state) :
    ∃ found, document.session.states.continuationOf (document.stateBefore line) = .ok found := by
  cases line with
  | zero => exact first
  | succ line =>
    simp only [stateBefore]
    cases present : document.lines[line]? with
    | none => exact first
    | some entry =>
      obtain ⟨state, text, result, recalls, same⟩ :=
        recalled line (Nat.lt_succ_self line) entry present
      obtain ⟨found, stands⟩ := recalls.stands sound
      rw [← same] at stands
      exact ⟨some found, stands⟩

/-- A line starts in a state that stands for something if all lines before it hold. -/
theorem stateBefore_stands (sound : document.session.Sound)
    (first : ∃ found, document.session.states.continuationOf document.firstState = .ok found)
    (keeps : ∀ index < line, document.Keeps texts index) :
    ∃ found, document.session.states.continuationOf (document.stateBefore line) = .ok found := by
  refine stateBefore_stands_of_recalls sound first fun index before entry present => ?_
  obtain ⟨text, result, -, recalls, rfl⟩ := keeps index before entry present
  exact ⟨_, text, result, recalls, rfl⟩

/-! ## Forgetting lines -/

@[simp] theorem invalidateFrom_session (document : Document) (line : Nat) :
    (document.invalidateFrom line).session = document.session := rfl

@[simp] theorem invalidateFrom_firstState (document : Document) (line : Nat) :
    (document.invalidateFrom line).firstState = document.firstState := rfl

theorem invalidateFrom_getElem? {first : Nat} (before : line < first) :
    (document.invalidateFrom first).lines[line]? = document.lines[line]? :=
  List.getElem?_take_of_lt before

theorem invalidateFrom_stateBefore {first : Nat} (upTo : line ≤ first) :
    (document.invalidateFrom first).stateBefore line = document.stateBefore line := by
  cases line with
  | zero => rfl
  | succ line => simp only [stateBefore, invalidateFrom_getElem? upTo, invalidateFrom_firstState]

/-- The lines that are not forgotten hold as before. -/
theorem Keeps.invalidateFrom (keeps : document.Keeps texts line) (sound : document.session.Sound)
    (first : Nat) : (document.invalidateFrom first).Keeps texts line := by
  by_cases before : line < first
  · exact keeps.frame sound sound (.refl _) (invalidateFrom_getElem? before)
      (invalidateFrom_stateBefore (Nat.le_of_lt before))
  · apply keeps_of_length_le
    have short := List.length_take_le first document.lines
    show (document.lines.take first).length ≤ line
    omega

/-! ## Keeping a line -/

variable {cursor : Nat} {entry : CachedLine}

@[simp] theorem keepLine_session (document : Document) (cursor : Nat) (entry : CachedLine) :
    (document.keepLine cursor entry).session = document.session := by
  unfold keepLine
  split <;> rfl

@[simp] theorem keepLine_firstState (document : Document) (cursor : Nat) (entry : CachedLine) :
    (document.keepLine cursor entry).firstState = document.firstState := by
  unfold keepLine
  split <;> rfl

theorem keepLine_getElem? (reached : cursor ≤ document.lines.length) (line : Nat) :
    (document.keepLine cursor entry).lines[line]? =
      if line = cursor then some entry else document.lines[line]? := by
  unfold keepLine
  split
  · rename_i inside
    rw [List.getElem?_set]
    by_cases same : cursor = line
    · rw [if_pos same, if_pos inside, if_pos same.symm]
    · rw [if_neg same, if_neg (Ne.symm same)]
  · have last : cursor = document.lines.length := by omega
    subst last
    rw [List.getElem?_append]
    by_cases before : line < document.lines.length
    · rw [if_pos before, if_neg (by omega)]
    · rw [if_neg before]
      by_cases same : line = document.lines.length
      · subst same
        simp
      · rw [if_neg same, List.getElem?_eq_none (by simp only [List.length_singleton]; omega),
          List.getElem?_eq_none (by omega)]

theorem keepLine_length (reached : cursor ≤ document.lines.length) :
    (document.keepLine cursor entry).lines.length = max (cursor + 1) document.lines.length := by
  unfold keepLine
  split
  · simp only [List.length_set]
    omega
  · simp only [List.length_append, List.length_singleton]
    omega

theorem keepLine_stateBefore (reached : cursor ≤ document.lines.length)
    (other : line ≠ cursor + 1) :
    (document.keepLine cursor entry).stateBefore line = document.stateBefore line := by
  cases line with
  | zero => exact keepLine_firstState ..
  | succ line =>
    have different : line ≠ cursor := fun same => other (congrArg (· + 1) same)
    simp only [stateBefore, keepLine_getElem? reached, if_neg different, keepLine_firstState]

@[simp] theorem keepLine_stateBefore_next (reached : cursor ≤ document.lines.length) :
    (document.keepLine cursor entry).stateBefore (cursor + 1) = entry.state := by
  simp only [stateBefore, keepLine_getElem? reached, if_true, Option.map_some, Option.getD_some]

/-- The lines other than the one that is kept and the next one hold as before. -/
theorem Keeps.keepLine (keeps : document.Keeps texts line) (sound : document.session.Sound)
    (reached : cursor ≤ document.lines.length) (notCursor : line ≠ cursor)
    (notNext : line ≠ cursor + 1) : (document.keepLine cursor entry).Keeps texts line := by
  refine keeps.frame sound ?_ ?_ ?_ (keepLine_stateBefore reached notNext)
  · rwa [keepLine_session]
  · rw [keepLine_session]
    exact .refl _
  · rw [keepLine_getElem? reached, if_neg notCursor]

/-- The next line holds as before if it starts in the same state as before. -/
theorem Keeps.keepLine_next (keeps : document.Keeps texts (cursor + 1))
    (sound : document.session.Sound) (reached : cursor ≤ document.lines.length)
    (starts : entry.state = document.stateBefore (cursor + 1)) :
    (document.keepLine cursor entry).Keeps texts (cursor + 1) := by
  refine keeps.frame sound ?_ ?_ ?_ ?_
  · rwa [keepLine_session]
  · rw [keepLine_session]
    exact .refl _
  · rw [keepLine_getElem? reached, if_neg (Nat.succ_ne_self cursor)]
  · rw [keepLine_stateBefore_next reached, starts]

/-- A line holds once it is kept as the session recalls it. -/
theorem keeps_keepLine {text : List Char} {result : LineResult}
    (reached : cursor ≤ document.lines.length) (hasText : texts cursor = some text)
    (recalls : document.session.Recalls (document.stateBefore cursor) text result) :
    (document.keepLine cursor ⟨result.state, result.events⟩).Keeps texts cursor := by
  intro entry present
  rw [keepLine_getElem? reached, if_pos rfl] at present
  cases present
  refine ⟨text, result, hasText, ?_, rfl⟩
  rwa [keepLine_session, keepLine_stateBefore reached (Nat.ne_add_one cursor)]

end Document

end Highlighter
