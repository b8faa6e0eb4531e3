import Highlighter.Proofs.Guarded.SpanEnd

/-!
# The occurrence that decides a search

The search for an end marker is decided by one occurrence of the marker at or behind its start,
overlapping occurrences included: by the first one at which a flag makes the search fail, or which
nothing escapes.  If a flag does, the search fails there, and otherwise the marker is found there.
-/

namespace Highlighter.Line

namespace SpanEnd

/-- The end marker stands at a column, at or behind the start of the search. -/
def Occurs (line : List Char) (start : Nat) (stop : List Char) (column : Nat) : Prop :=
  start ≤ column ∧ column ≤ line.length ∧ stop <+: line.drop column

/-- A flag makes the search fail at a column: because a character of words stands before it, or a
line feed between the start of the search and it. -/
def Barred (line : List Char) (start : Nat) (flags : SpanFlags) (words : Alphabet)
    (column : Nat) : Prop :=
  (flags.noWordBreak ∧ (Text.charBefore? line column).any words.contains) ∨
    (flags.noLineBreak ∧ '\n' ∈ (line.take column).drop start)

/-- How often a character stands directly before a column, in a row. -/
def rowBefore (line : List Char) (c : Char) (column : Nat) : Nat :=
  ((line.take column).reverse.takeWhile (· == c)).length

/-- Nothing escapes what stands at a column: the escape character, if there is one and it is not to
be taken for an ordinary one, stands an even number of times before the column. -/
def Unescaped (line : List Char) (escape : Option Char) (flags : SpanFlags) (column : Nat) : Prop :=
  flags.noEscape ∨ ∀ c ∈ escape, rowBefore line c column % 2 = 0

instance {line : List Char} {start : Nat} {stop : List Char} :
    DecidablePred (Occurs line start stop) :=
  fun _ => inferInstanceAs (Decidable (_ ∧ _ ∧ _))

instance {line : List Char} {start : Nat} {flags : SpanFlags} {words : Alphabet} :
    DecidablePred (Barred line start flags words) :=
  fun _ => inferInstanceAs (Decidable (_ ∧ _ ∨ _ ∧ _))

instance {line : List Char} {escape : Option Char} {flags : SpanFlags} :
    DecidablePred (Unescaped line escape flags) :=
  fun column => decidable_of_iff
    (flags.noEscape ∨ escape.all fun c => rowBefore line c column % 2 == 0)
    (by cases escape <;> simp [Unescaped])

/-- No occurrence of the marker before a column is barred or unescaped. -/
def UndecidedBefore (line : List Char) (start : Nat) (stop : List Char) (escape : Option Char)
    (flags : SpanFlags) (words : Alphabet) (column : Nat) : Prop :=
  ∀ earlier < column, Occurs line start stop earlier →
    ¬Barred line start flags words earlier ∧ ¬Unescaped line escape flags earlier

instance {line : List Char} {start : Nat} {stop : List Char} {escape : Option Char}
    {flags : SpanFlags} {words : Alphabet} :
    DecidablePred (UndecidedBefore line start stop escape flags words) :=
  fun column => inferInstanceAs (Decidable (∀ earlier < column, _ → _))

/-- A column is that of the first occurrence of the marker that is barred or unescaped. -/
structure DecidedAt (line : List Char) (start : Nat) (stop : List Char) (escape : Option Char)
    (flags : SpanFlags) (words : Alphabet) (column : Nat) : Prop where
  occurs : Occurs line start stop column
  decides : Barred line start flags words column ∨ Unescaped line escape flags column
  first : UndecidedBefore line start stop escape flags words column

variable {line stop : List Char} {start column other : Nat} {escape : Option Char}
  {flags : SpanFlags} {words : Alphabet}

/-- At most one occurrence decides a search. -/
theorem DecidedAt.unique (decided : DecidedAt line start stop escape flags words column)
    (decidedToo : DecidedAt line start stop escape flags words other) : column = other := by
  have notBefore : ∀ {one two : Nat}, DecidedAt line start stop escape flags words one →
      DecidedAt line start stop escape flags words two → ¬one < two := by
    intro one two decided decidedToo before
    obtain ⟨notBarred, escaped⟩ := decidedToo.first one before decided.occurs
    exact decided.decides.elim notBarred escaped
  exact Nat.le_antisymm (Nat.not_lt.mp (notBefore decidedToo decided))
    (Nat.not_lt.mp (notBefore decided decidedToo))

/-! ## What the search sees at an occurrence -/

open Guarded (pastAt pastAt_next unended)

theorem barred_iff (escape : Option Char) : Barred line start flags words column ↔
    (flags.noWordBreak && (pastAt line start escape column).before.any words.contains) = true ∨
      (flags.noLineBreak && (pastAt line start escape column).brokeLine) = true := by
  simp [Barred, pastAt]

theorem not_unescaped_iff : ¬Unescaped line escape flags column ↔
    (escape.isSome && !flags.noEscape &&
      (pastAt line start escape column).escapes % 2 == 1) = true := by
  cases escape with
  | none => simp [Unescaped]
  | some c =>
    have row : (pastAt line start (some c) column).escapes = rowBefore line c column := by
      have test : (fun d => decide (some c = some d)) = (· == c) := by
        funext d
        by_cases same : c = d
        · simp [same]
        · simp [same, Ne.symm same]
      simp only [pastAt, rowBefore, test]
    rw [row]
    simp [Unescaped]

/-- Where a flag bars an occurrence, the search fails. -/
theorem atMarker?_of_barred (barred : Barred line start flags words column) :
    atMarker? escape flags words (pastAt line start escape column) = some failed := by
  unfold atMarker?
  rcases (barred_iff escape).mp barred with behindWord | brokeLine
  · rw [if_pos behindWord]
  · rw [if_pos brokeLine, ite_self]

/-- Where nothing bars or escapes an occurrence, the marker is found. -/
theorem atMarker?_of_unescaped (notBarred : ¬Barred line start flags words column)
    (unescaped : Unescaped line escape flags column) :
    atMarker? escape flags words (pastAt line start escape column) = some (found column) := by
  obtain ⟨notBehindWord, notBroken⟩ := not_or.mp ((not_congr (barred_iff escape)).mp notBarred)
  unfold atMarker?
  rw [if_neg notBehindWord, if_neg notBroken,
    if_neg (mt not_unescaped_iff.mpr (not_not_intro unescaped))]
  rfl

/-- An escaped occurrence does not count. -/
theorem atMarker?_of_escaped (notBarred : ¬Barred line start flags words column)
    (escaped : ¬Unescaped line escape flags column) :
    atMarker? escape flags words (pastAt line start escape column) = none := by
  obtain ⟨notBehindWord, notBroken⟩ := not_or.mp ((not_congr (barred_iff escape)).mp notBarred)
  unfold atMarker?
  rw [if_neg notBehindWord, if_neg notBroken, if_pos (not_unescaped_iff.mp escaped)]

theorem search_of_answer {past : Past} {rest : List Char} {answer : SpanEnd}
    (here : stop <+: rest) (answers : atMarker? escape flags words past = some answer) :
    search stop escape flags words past rest = answer := by
  rw [search.eq_def, if_pos (List.isPrefixOf_iff_prefix.mpr here), answers]

/-- At the end of the line nothing is left to be found. -/
theorem search_nil_of_passed {past : Past}
    (passed : stop <+: [] → atMarker? escape flags words past = none) :
    search stop escape flags words past [] = unended flags := by
  rw [search.eq_def]
  split
  · rename_i here
    rw [passed (List.isPrefixOf_iff_prefix.mp here)]
    rfl
  · rfl

/-- Where the marker does not stand or is escaped, the search goes on to the next place. -/
theorem search_cons_of_passed {past : Past} {c : Char} {rest : List Char}
    (passed : stop <+: c :: rest → atMarker? escape flags words past = none) :
    search stop escape flags words past (c :: rest) =
      search stop escape flags words (past.next escape c) rest := by
  rw [search_cons]
  split
  · rename_i here
    rw [passed (List.isPrefixOf_iff_prefix.mp here), Option.getD_none]
  · rfl

/-! ## The whole search -/

/-- An answer is that of the occurrence that decides the search, or that of a line without one. -/
def Settled (line : List Char) (start : Nat) (stop : List Char) (escape : Option Char)
    (flags : SpanFlags) (words : Alphabet) (answer : SpanEnd) : Prop :=
  (∃ place, DecidedAt line start stop escape flags words place ∧
      (Barred line start flags words place ∧ answer = failed ∨
        ¬Barred line start flags words place ∧ answer = found place)) ∨
    (∀ place, Occurs line start stop place →
      ¬Barred line start flags words place ∧ ¬Unescaped line escape flags place) ∧
    answer = unended flags

/-- The search from the occurrence that decides it comes to an end there. -/
theorem DecidedAt.settled (decided : DecidedAt line start stop escape flags words column) :
    Settled line start stop escape flags words
      (search stop escape flags words (pastAt line start escape column) (line.drop column)) := by
  refine .inl ⟨column, decided, ?_⟩
  have stands := decided.occurs.2.2
  by_cases barred : Barred line start flags words column
  · exact .inl ⟨barred, search_of_answer stands (atMarker?_of_barred barred)⟩
  · have unescaped := decided.decides.resolve_left barred
    exact .inr ⟨barred, search_of_answer stands (atMarker?_of_unescaped barred unescaped)⟩

/-- The next place decides the search, or leaves it undecided. -/
theorem UndecidedBefore.next (order : start ≤ column) (inside : column ≤ line.length)
    (undecided : UndecidedBefore line start stop escape flags words column) :
    DecidedAt line start stop escape flags words column ∨
      (stop <+: line.drop column →
        atMarker? escape flags words (pastAt line start escape column) = none) ∧
      UndecidedBefore line start stop escape flags words (column + 1) := by
  by_cases decides : Occurs line start stop column ∧
      (Barred line start flags words column ∨ Unescaped line escape flags column)
  · exact .inl ⟨decides.1, decides.2, undecided⟩
  · have here : Occurs line start stop column →
        ¬Barred line start flags words column ∧ ¬Unescaped line escape flags column :=
      fun occurs => not_or.mp fun either => decides ⟨occurs, either⟩
    refine .inr ⟨fun stands => ?_, fun earlier before occurs => ?_⟩
    · obtain ⟨notBarred, escaped⟩ := here ⟨order, inside, stands⟩
      exact atMarker?_of_escaped notBarred escaped
    · rcases Nat.lt_succ_iff_lt_or_eq.mp before with before | rfl
      · exact undecided earlier before occurs
      · exact here occurs

/-- Looking at the places of a line in order, from one before which the search is undecided, comes
to the occurrence that decides it or to the end of the line. -/
theorem UndecidedBefore.settled (rest : List Char) : ∀ {column : Nat}, start ≤ column →
    column ≤ line.length → line.drop column = rest →
    UndecidedBefore line start stop escape flags words column →
    Settled line start stop escape flags words
      (search stop escape flags words (pastAt line start escape column) rest) := by
  induction rest with
  | nil =>
    intro column order inside here undecided
    rcases undecided.next order inside with decided | ⟨passed, undecided⟩
    · exact here ▸ decided.settled
    · rw [here] at passed
      rw [search_nil_of_passed passed]
      refine .inr ⟨fun place occurs => undecided place ?_ occurs, rfl⟩
      have short := List.drop_eq_nil_iff.mp here
      have onLine := occurs.2.1
      omega
  | cons c rest ih =>
    intro column order inside here undecided
    rcases undecided.next order inside with decided | ⟨passed, undecided⟩
    · exact here ▸ decided.settled
    · have next : line.drop (column + 1) = rest := Text.drop_succ here
      have onLine : column < line.length := Text.lt_length_of_drop here
      rw [here] at passed
      rw [search_cons_of_passed passed, pastAt_next here order]
      exact ih (Nat.le_succ_of_le order) onLine next undecided

end SpanEnd

open SpanEnd (Barred DecidedAt Occurs Settled UndecidedBefore Unescaped failed found notFound)

variable {line stop : List Char} {start : Nat} {escape : Option Char} {flags : SpanFlags}
  {words : Alphabet}

theorem findSpanEnd_settled (inside : start ≤ line.length) :
    Settled line start stop escape flags words
      (findSpanEnd line start stop escape flags words) := by
  have undecided : UndecidedBefore line start stop escape flags words start :=
    fun earlier before occurs => absurd occurs.1 (Nat.not_le.mpr before)
  have settled := undecided.settled _ (Nat.le_refl start) inside rfl
  rwa [Guarded.search_pastAt_start] at settled

/-- The search for an end marker from a place of a line comes to an end, in byte offsets as in
columns.  Of the occurrences of the marker at or behind the place the first one that is barred or
unescaped decides it: it fails if that one is barred, and otherwise finds it.  If no occurrence is
barred or unescaped, it fails where spans must not go on to another line, and else finds nothing. -/
theorem findSpanEnd_first_decisive (line : List Char) (start : Nat) (stop : List Char)
    (escape : Option Char) (flags : SpanFlags) (words : Alphabet)
    (inside : start ≤ line.length) :
    let answer := findSpanEnd line start stop escape flags words
    (∀ rounds, line.length + 2 ≤ rounds →
      Guarded.searchEnd? line (Text.byteOffset line start) stop escape flags words rounds
        (Text.byteOffset line start) = some (Guarded.endInBytes line answer)) ∧
    (∀ place, DecidedAt line start stop escape flags words place →
      (Barred line start flags words place → answer = failed) ∧
        (¬Barred line start flags words place → answer = found place)) ∧
    ((∀ place, Occurs line start stop place →
        ¬Barred line start flags words place ∧ ¬Unescaped line escape flags place) →
      answer = if flags.noLineBreak then failed else notFound) := by
  intro answer
  have settled : Settled line start stop escape flags words answer := findSpanEnd_settled inside
  refine ⟨fun rounds enough => Guarded.searchEnd?_eq inside enough, ?_, ?_⟩
  · intro place decided
    rcases settled with ⟨other, decidedToo, answers⟩ | ⟨undecided, -⟩
    · obtain rfl := decided.unique decidedToo
      rcases answers with ⟨barred, same⟩ | ⟨notBarred, same⟩
      · exact ⟨fun _ => same, fun notBarred => absurd barred notBarred⟩
      · exact ⟨fun barred => absurd barred notBarred, fun _ => same⟩
    · obtain ⟨notBarred, escaped⟩ := undecided place decided.occurs
      exact absurd decided.decides (not_or.mpr ⟨notBarred, escaped⟩)
  · intro undecided
    rcases settled with ⟨other, decided, -⟩ | ⟨-, same⟩
    · obtain ⟨notBarred, escaped⟩ := undecided other decided.occurs
      exact absurd decided.decides (not_or.mpr ⟨notBarred, escaped⟩)
    · exact same

/-- Of three occurrences of `aa` that overlap, behind a letter of two bytes, the first one is
escaped and the second one is found.  If the marker must not stand behind a word, that one makes the
search fail. -/
theorem findSpanEnd_first_decisive_overlap :
    let line := "é\\aaaa".toList
    let stop := "aa".toList
    let strict : SpanFlags := { noWordBreak := true }
    1 ≤ line.length ∧
      (DecidedAt line 1 stop (some '\\') {} {} 3 ∧
        findSpanEnd line 1 stop (some '\\') {} {} = found 3 ∧
        Guarded.searchEnd? line 2 stop (some '\\') {} {} 8 2 = some (found 4)) ∧
      (DecidedAt line 1 stop (some '\\') strict {} 3 ∧ Barred line 1 strict {} 3 ∧
        findSpanEnd line 1 stop (some '\\') strict {} = failed) ∧
      findSpanEnd line 1 "b".toList (some '\\') {} {} = notFound := by
  intro line stop strict
  have inside : 1 ≤ line.length := by decide +kernel
  have plain : DecidedAt line 1 stop (some '\\') {} {} 3 :=
    ⟨by decide +kernel, by decide +kernel, by decide +kernel⟩
  have barred : DecidedAt line 1 stop (some '\\') strict {} 3 :=
    ⟨by decide +kernel, by decide +kernel, by decide +kernel⟩
  obtain ⟨loop, decided, -⟩ :=
    findSpanEnd_first_decisive line 1 stop (some '\\') {} {} inside
  have finds : findSpanEnd line 1 stop (some '\\') {} {} = found 3 :=
    (decided 3 plain).2 (by decide +kernel)
  refine ⟨inside, ⟨plain, finds, ?_⟩, ⟨barred, by decide +kernel, ?_⟩, ?_⟩
  · have rounds := loop 8 (by decide +kernel)
    rwa [finds] at rounds
  · exact ((findSpanEnd_first_decisive line 1 stop (some '\\') strict {} inside).2.1 3 barred).1
      (by decide +kernel)
  · have nowhere : ∀ place, Occurs line 1 "b".toList place →
        ¬Barred line 1 {} {} place ∧ ¬Unescaped line (some '\\') {} place := by
      intro place occurs
      have absent : ∀ place < 7, ¬Occurs line 1 "b".toList place := by decide +kernel
      exact absurd occurs (absent place (Nat.lt_succ_of_le occurs.2.1))
    exact (findSpanEnd_first_decisive line 1 "b".toList (some '\\') {} {} inside).2.2 nowhere

end Highlighter.Line
