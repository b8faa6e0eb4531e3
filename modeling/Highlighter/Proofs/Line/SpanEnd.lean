import Highlighter.Line.SpanEnd
import Highlighter.Mode.Rule

/-!
# Looking for an end marker line by line

Where no flag makes the search for an end marker fail, its answer at a place depends on the rest of
the text and on the escape characters directly before the place.  A line feed that is neither part
of the marker nor the escape character cuts both off: the search over lines that are joined by line
feeds comes to the same as a search of one line after the other.
-/

namespace Highlighter

/-- A span that may go on over lines and whose end marker stands within one: a line feed is neither
part of the marker nor escapes it, and a line of white space cannot hold it. -/
structure SpanForm.CrossesLines (form : SpanForm) (escape : Option Char) : Prop where
  acrossLines : form.flags.noLineBreak = false
  behindWords : form.flags.noWordBreak = false
  stopFeed : '\n' ∉ form.stop
  visible : ∃ c ∈ form.stop, Unicode.isWhitespace c = false
  escapeFeed : escape ≠ some '\n'

variable {form : SpanForm} {escape : Option Char} {words : Alphabet}

theorem SpanForm.CrossesLines.stop_ne_nil (crosses : form.CrossesLines escape) :
    form.stop ≠ [] := by
  obtain ⟨c, member, -⟩ := crosses.visible
  exact List.ne_nil_of_mem member

/-- The end marker does not stand at the end of a line. -/
theorem SpanForm.CrossesLines.isPrefixOf_nil (crosses : form.CrossesLines escape) :
    form.stop.isPrefixOf [] = false := by
  cases shape : form.stop with
  | nil => exact absurd shape crosses.stop_ne_nil
  | cons _ _ => rfl

namespace Line

namespace SpanEnd

/-- The answer for a text that stands some columns further on. -/
def shift (offset : Nat) : SpanEnd → SpanEnd
  | found column => found (offset + column)
  | notFound => notFound
  | failed => failed

@[simp] theorem shift_zero (answer : SpanEnd) : answer.shift 0 = answer := by
  cases answer <;> simp [shift]

/-- The answer of a search, or that of another one if nothing is found. -/
def orElse : SpanEnd → SpanEnd → SpanEnd
  | found column, _ => found column
  | notFound, other => other
  | failed, other => other

theorem search_cons (stop : List Char) (flags : SpanFlags) (past : Past) (c : Char)
    (rest : List Char) :
    search stop escape flags words past (c :: rest) =
      if stop.isPrefixOf (c :: rest) then
        (atMarker? escape flags words past).getD
          (search stop escape flags words (past.next escape c) rest)
      else search stop escape flags words (past.next escape c) rest := by
  rw [search.eq_def _ _ _ _ _ (c :: rest)]
  split
  · cases atMarker? escape flags words past <;> rfl
  · rfl

theorem atMarker?_found {flags : SpanFlags} {past : Past} {column : Nat}
    (answer : atMarker? escape flags words past = some (found column)) : column = past.column := by
  unfold atMarker? at answer
  split at answer
  · cases answer
  · split at answer
    · cases answer
    · split at answer
      · cases answer
      · cases answer
        rfl

/-- The marker stands where it is found. -/
theorem search_found {stop : List Char} {flags : SpanFlags} {rest : List Char} :
    ∀ {past : Past} {column : Nat}, search stop escape flags words past rest = found column →
    ∃ before behind, rest = before ++ stop ++ behind ∧ column = past.column + before.length := by
  induction rest with
  | nil =>
    intro past column answer
    rw [search.eq_def] at answer
    by_cases here : stop.isPrefixOf []
    · obtain ⟨behind, same⟩ := List.isPrefixOf_iff_prefix.mp here
      cases marker : atMarker? escape flags words past with
      | none =>
        simp only [if_pos here, marker] at answer
        split at answer <;> cases answer
      | some verdict =>
        simp only [if_pos here, marker] at answer
        exact ⟨[], behind, same.symm, atMarker?_found (marker.trans (congrArg some answer))⟩
    · simp only [if_neg here] at answer
      split at answer <;> cases answer
  | cons c rest ih =>
    intro past column answer
    have later : search stop escape flags words (past.next escape c) rest = found column →
        ∃ before behind, c :: rest = before ++ stop ++ behind ∧
          column = past.column + before.length := by
      intro found
      obtain ⟨before, behind, same, place⟩ := ih found
      refine ⟨c :: before, behind, by rw [same]; rfl, ?_⟩
      simp only [Past.next, List.length_cons] at place ⊢
      omega
    rw [search_cons] at answer
    split at answer
    · rename_i here
      cases marker : atMarker? escape flags words past with
      | none =>
        rw [marker] at answer
        exact later answer
      | some verdict =>
        rw [marker] at answer
        obtain ⟨behind, same⟩ := List.isPrefixOf_iff_prefix.mp here
        exact ⟨[], behind, same.symm, atMarker?_found (marker.trans (congrArg some answer))⟩
    · exact later answer

/-- What the search says at an occurrence of the marker. -/
theorem atMarker?_eq (crosses : form.CrossesLines escape) (past : Past) :
    atMarker? escape form.flags words past =
      if escape.isSome && !form.flags.noEscape && past.escapes % 2 == 1 then none
      else some (found past.column) := by
  simp [atMarker?, crosses.acrossLines, crosses.behindWords]

theorem search_nil (crosses : form.CrossesLines escape) (past : Past) :
    search form.stop escape form.flags words past [] = notFound := by
  simp [search, crosses.isPrefixOf_nil, crosses.acrossLines]

/-- Only the column and the escape characters before a place count, and the column counts for
nothing but itself. -/
theorem search_shift (crosses : form.CrossesLines escape) (offset : Nat) (rest : List Char) :
    ∀ past other : Past, past.column = offset + other.column → past.escapes = other.escapes →
    search form.stop escape form.flags words past rest =
      (search form.stop escape form.flags words other rest).shift offset := by
  induction rest with
  | nil =>
    intro _ _ _ _
    rw [search_nil crosses, search_nil crosses]
    rfl
  | cons c rest ih =>
    intro past other column escapes
    have behind := ih (past.next escape c) (other.next escape c)
      (by simp only [Past.next, column, Nat.add_assoc]) (by simp only [Past.next, escapes])
    rw [search_cons, search_cons, atMarker?_eq crosses, atMarker?_eq crosses, behind, column,
      escapes]
    split
    · split <;> rfl
    · rfl

theorem search_congr (crosses : form.CrossesLines escape) (rest : List Char) {past other : Past}
    (column : past.column = other.column) (escapes : past.escapes = other.escapes) :
    search form.stop escape form.flags words past rest =
      search form.stop escape form.flags words other rest := by
  rw [search_shift crosses 0 rest past other (by omega) escapes, shift_zero]

/-- A marker without a line feed stands before a line feed or behind it. -/
theorem isPrefixOf_append_feed {stop : List Char} (stopFeed : '\n' ∉ stop)
    (line more : List Char) : stop.isPrefixOf (line ++ '\n' :: more) = stop.isPrefixOf line := by
  induction stop generalizing line with
  | nil => rfl
  | cons c stop ih =>
    obtain ⟨notHere, notBehind⟩ := not_or.mp (mt List.mem_cons.mpr stopFeed)
    cases line with
    | nil => simp [List.isPrefixOf, Ne.symm notHere]
    | cons d line => simp [List.isPrefixOf, ih notBehind]

/-- A search goes on behind a line feed with nothing but its column. -/
theorem search_append_feed (crosses : form.CrossesLines escape) (more line : List Char) :
    ∀ past : Past, search form.stop escape form.flags words past (line ++ '\n' :: more) =
      (search form.stop escape form.flags words past line).orElse
        ((search form.stop escape form.flags words ⟨0, none, 0, false⟩ more).shift
          (past.column + line.length + 1)) := by
  induction line with
  | nil =>
    intro past
    have absent : form.stop.isPrefixOf ('\n' :: more) = false := by
      rw [← List.nil_append ('\n' :: more), isPrefixOf_append_feed crosses.stopFeed]
      exact crosses.isPrefixOf_nil
    rw [List.nil_append, search_cons, absent, search_nil crosses]
    exact search_shift crosses _ more _ _ rfl (if_neg crosses.escapeFeed)
  | cons c line ih =>
    intro past
    rw [List.cons_append, search_cons, search_cons, ← List.cons_append,
      isPrefixOf_append_feed crosses.stopFeed, ih]
    have columns : (past.next escape c).column + line.length + 1 =
        past.column + (c :: line).length + 1 := by
      simp only [Past.next, List.length_cons]
      omega
    rw [columns]
    split
    · rw [atMarker?_eq crosses]
      split <;> rfl
    · rfl

/-- A search that nothing makes fail comes to an end marker or to none. -/
theorem search_ne_failed (crosses : form.CrossesLines escape) (rest : List Char) :
    ∀ past : Past, search form.stop escape form.flags words past rest ≠ failed := by
  induction rest with
  | nil =>
    intro past
    rw [search_nil crosses]
    exact SpanEnd.noConfusion
  | cons c rest ih =>
    intro past
    rw [search_cons, atMarker?_eq crosses]
    split
    · split
      · exact ih _
      · exact SpanEnd.noConfusion
    · exact ih _

end SpanEnd

open SpanEnd (found notFound failed)

/-! ## Lines that are joined -/

/-- The end of a span on a line with more lines behind it is that on the line, or else that on the
lines behind it. -/
theorem findSpanEnd_append_feed (crosses : form.CrossesLines escape) {line : List Char}
    {start : Nat} (inside : start ≤ line.length) (more : List Char) :
    findSpanEnd (line ++ '\n' :: more) start form.stop escape form.flags words =
      (findSpanEnd line start form.stop escape form.flags words).orElse
        ((findSpanEnd more 0 form.stop escape form.flags words).shift (line.length + 1)) := by
  simp only [findSpanEnd]
  rw [List.drop_append_of_le_length inside, List.take_append_of_le_length inside,
    SpanEnd.search_append_feed crosses]
  have column : start + (line.drop start).length + 1 = line.length + 1 := by
    rw [List.length_drop]
    omega
  rw [column]
  congr 1
  exact SpanEnd.search_congr crosses _ rfl rfl

/-- What is found on a line is found with more lines behind it. -/
theorem findSpanEnd_append_lines (crosses : form.CrossesLines escape) {line : List Char}
    {column : Nat} (answer : findSpanEnd line 0 form.stop escape form.flags words = found column)
    (lines : List (List Char)) :
    findSpanEnd (line ++ lines.flatMap ('\n' :: ·)) 0 form.stop escape form.flags words =
      found column := by
  cases lines with
  | nil => rw [List.flatMap_nil, List.append_nil, answer]
  | cons next lines =>
    rw [List.flatMap_cons, List.cons_append, findSpanEnd_append_feed crosses (Nat.zero_le _),
      answer]
    rfl

/-- The end marker stands where it is found, at or behind the start. -/
theorem findSpanEnd_found {line stop : List Char} {flags : SpanFlags} {start column : Nat}
    (answer : findSpanEnd line start stop escape flags words = found column) :
    ∃ before behind, line.drop start = before ++ stop ++ behind ∧ column = start + before.length :=
  SpanEnd.search_found answer

/-- A line of white space holds no end marker. -/
theorem findSpanEnd_of_blank (crosses : form.CrossesLines escape) {line : List Char}
    (blank : line.all Unicode.isWhitespace) :
    findSpanEnd line 0 form.stop escape form.flags words = notFound := by
  cases answer : findSpanEnd line 0 form.stop escape form.flags words with
  | notFound => rfl
  | failed => exact absurd answer (SpanEnd.search_ne_failed crosses _ _)
  | found column =>
    obtain ⟨before, behind, same, -⟩ := findSpanEnd_found answer
    rw [List.drop_zero] at same
    obtain ⟨c, member, visible⟩ := crosses.visible
    have white := List.all_eq_true.mp blank c (by simp [same, member])
    rw [visible] at white
    cases white

/-- The column of a place in lines that are joined by line feeds. -/
def joinedColumn : (lines : List (List Char)) → (index column : Nat) → Nat
  | line :: lines, index + 1, column => line.length + 1 + joinedColumn lines index column
  | _, _, column => column

/-- A place lies on one of the lines. -/
def OnLines (lines : List (List Char)) (index column : Nat) : Prop :=
  ∃ line, lines[index]? = some line ∧ column ≤ line.length

/-- Different places on the lines are different columns of the joined text. -/
theorem joinedColumn_inj {lines : List (List Char)} : ∀ {index other column otherColumn : Nat},
    OnLines lines index column → OnLines lines other otherColumn →
    joinedColumn lines index column = joinedColumn lines other otherColumn →
    index = other ∧ column = otherColumn := by
  induction lines with
  | nil =>
    rintro index other column otherColumn ⟨line, present, -⟩
    cases present
  | cons line lines ih =>
    rintro (_ | index) (_ | other) column otherColumn ⟨first, present, inside⟩
      ⟨second, otherPresent, otherInside⟩ same
    · exact ⟨rfl, same⟩
    · cases present
      simp only [joinedColumn] at same
      omega
    · cases otherPresent
      simp only [joinedColumn] at same
      omega
    · simp only [joinedColumn, Nat.add_left_cancel_iff] at same
      obtain ⟨sameIndex, sameColumn⟩ :=
        ih ⟨first, present, inside⟩ ⟨second, otherPresent, otherInside⟩ same
      exact ⟨congrArg (· + 1) sameIndex, sameColumn⟩

theorem intercalate_feed (first : List Char) (lines : List (List Char)) :
    ['\n'].intercalate (first :: lines) = first ++ lines.flatMap ('\n' :: ·) := by
  induction lines generalizing first with
  | nil => simp [List.intercalate]
  | cons line lines ih =>
    have step : ['\n'].intercalate (first :: line :: lines) =
        first ++ '\n' :: ['\n'].intercalate (line :: lines) := by
      simp [List.intercalate]
    rw [step, ih]
    rfl

end Line

end Highlighter
