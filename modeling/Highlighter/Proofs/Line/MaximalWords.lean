import Highlighter.Proofs.Line.Keywords
import Highlighter.Proofs.Line.Repeating
import Highlighter.Proofs.Registry.Listing
import Highlighter.Proofs.Text.Boundaries

/-!
# Lines that are split into words

If keywords are all that a mode looks for, a line is split into words: into its runs of word
characters that go on in neither direction.  The dispatch never comes to rest inside a word, because
a word is taken or passed over as a whole.  So each word is looked up once, at its start, and the
marks are those of the words that have a tag.
-/

namespace Highlighter

open Text (charAt? charBefore?)

namespace Line

/-- A run of characters of words, before and behind which there is none. -/
structure IsWord (words : Alphabet) (line : List Char) (start stop : Nat) : Prop where
  notEmpty : start < stop
  onLine : stop ≤ line.length
  letters : ∀ c ∈ (line.take stop).drop start, words.contains c = true
  before : (charBefore? line start).any words.contains = false
  behind : (charAt? line stop).any words.contains = false

/-- A character of words stands before a column, and another one at it. -/
def IsInside (words : Alphabet) (line : List Char) (column : Nat) : Prop :=
  (charBefore? line column).any words.contains = true ∧
    (charAt? line column).any words.contains = true

variable {words : Alphabet} {line rest : List Char} {column start stop first last : Nat} {c : Char}

/-! ## Words -/

theorem drop_eq_append (onward : start ≤ stop) :
    line.drop start = (line.take stop).drop start ++ line.drop stop := by
  rcases Nat.le_total stop line.length with onLine | beyond
  · have lengths : start ≤ (line.take stop).length := by
      rw [List.length_take, Nat.min_eq_left onLine]
      exact onward
    conv_lhs => rw [← List.take_append_drop stop line]
    exact List.drop_append_of_le_length lengths
  · rw [List.take_of_length_le beyond, List.drop_of_length_le beyond, List.append_nil]

/-- A word is all that is passed over from its start. -/
theorem IsWord.stop_eq (word : IsWord words line start stop) : stop = words.scan line start := by
  have width : ((line.take stop).drop start).length = stop - start := by
    rw [List.length_drop, List.length_take, Nat.min_eq_left word.onLine]
  have scanned := (Alphabet.scan_eq_iff (drop_eq_append (Nat.le_of_lt word.notEmpty))
    word.behind).mpr word.letters
  have notEmpty := word.notEmpty
  omega

/-- What is passed over from a column is a word, unless it is nothing or the column is inside a
word. -/
theorem isWord_scan (before : (charBefore? line start).any words.contains = false)
    (moves : start < words.scan line start) : IsWord words line start (words.scan line start) := by
  have place := List.takeWhile_append_dropWhile (p := words.contains) (l := line.drop start)
  generalize taken : (line.drop start).takeWhile words.contains = word at place
  generalize left : (line.drop start).dropWhile words.contains = rest at place
  have stopIs : words.scan line start = start + word.length := by rw [Alphabet.scan, taken]
  rw [stopIs] at moves ⊢
  have lengths := congrArg List.length place
  rw [List.length_append, List.length_drop] at lengths
  have between : (line.take (start + word.length)).drop start = word := by
    rw [List.drop_take, Nat.add_sub_cancel_left, ← place, List.take_left]
  exact {
    notEmpty := moves
    onLine := by omega
    letters := by
      rw [between, ← taken]
      exact List.all_eq_true.mp List.all_takeWhile
    before
    behind := by
      rw [charAt?, ← List.drop_drop, ← place, List.drop_left, ← left]
      have ends := List.head?_dropWhile_not words.contains (line.drop start)
      cases head : ((line.drop start).dropWhile words.contains).head? with
      | none => rfl
      | some c =>
        rw [head] at ends
        simpa using ends }

/-- Between its ends a word has characters of words only. -/
theorem IsWord.any_charAt? (word : IsWord words line start stop) (from_start : start ≤ column)
    (to_stop : column < stop) : (charAt? line column).any words.contains = true := by
  have onLine : column < line.length := Nat.lt_of_lt_of_le to_stop word.onLine
  obtain ⟨c, rest, place⟩ : ∃ c rest, line.drop column = c :: rest := by
    refine List.exists_cons_of_ne_nil fun nothing => ?_
    have beyond := List.drop_eq_nil_iff.mp nothing
    omega
  have member : c ∈ (line.take stop).drop column := by
    rw [List.drop_take, place, show stop - column = stop - column - 1 + 1 by omega]
    exact List.mem_cons_self
  have behind : (line.take stop).drop column =
      ((line.take stop).drop start).drop (column - start) := by
    rw [List.drop_drop, Nat.add_sub_cancel' from_start]
  rw [Text.charAt?_of_drop place]
  exact word.letters c (List.mem_of_mem_drop (behind ▸ member))

/-- No word starts inside another. -/
theorem IsWord.stop_le (word : IsWord words line start stop) (other : IsWord words line first last)
    (later : start < first) : stop ≤ first := by
  apply Nat.le_of_not_lt
  intro within
  have letter : (charAt? line (first - 1)).any words.contains = true :=
    word.any_charAt? (by omega) (by omega)
  have nothing := other.before
  rw [charBefore?, if_neg (by omega), letter] at nothing
  cases nothing

/-- There is no word at a column that is none of its characters. -/
theorem IsWord.start_ne (word : IsWord words line start stop)
    (nothing : (charAt? line column).any words.contains = false) : start ≠ column := by
  rintro rfl
  rw [word.any_charAt? (Nat.le_refl _) word.notEmpty] at nothing
  cases nothing

end Line

/-! ## Looking words up -/

/-- The tag of a word: that of a keyword, or else that of a number if it is one. -/
def Mode.wordTag? (mode : Mode) (word : List Char) : Option Tag :=
  match mode.keyword? word with
  | some tag => some tag
  | none => if mode.isDigitWord word then some .digit else none

/-- A mark is that of a word, under the tag of the word if that is not plain text. -/
structure Mode.MarksWord (mode : Mode) (line : List Char) (mark : Mark) : Prop where
  word : Line.IsWord mode.wordChars line mark.start mark.stop
  tagged : mode.wordTag? ((line.take mark.stop).drop mark.start) = some mark.tag
  visible : mark.tag ≠ .null

/-- Wherever a mode is asked on a line, it looks words up and does nothing else. -/
structure Mode.LooksUpWords (mode : Mode) (line : List Char) : Prop where
  /-- What may be part of keywords is what words are made of. -/
  alphabets : ∀ c, mode.keywordChars.contains c = mode.wordChars.contains c
  verdict : ∀ {column : Nat} {c : Char} {rest : List Char}, line.drop column = c :: rest →
    Line.firstVerdict mode line column (mode.matchersAt c) = Line.keywordsVerdict mode line column

namespace Line

variable {mode : Mode}

theorem firstVerdict_singleton {matcher : Matcher} :
    firstVerdict mode line column [matcher] = matcherVerdict mode line column false matcher := by
  rw [firstVerdict]
  split
  · rename_i declined
    rw [declined, firstVerdict]
  · rfl

/-- Inside a word, or where there is none, nothing is found. -/
theorem keywordsVerdict_eq_declined
    (alphabets : ∀ c, mode.keywordChars.contains c = mode.wordChars.contains c)
    (nothing : (charAt? line column).any mode.wordChars.contains = false) :
    keywordsVerdict mode line column = .declined := by
  have stays : mode.keywordChars.scan line column = column := by
    rw [Alphabet.scan, funext alphabets]
    cases place : line.drop column with
    | nil => rfl
    | cons c rest =>
      rw [charAt?, place] at nothing
      have outside : mode.wordChars.contains c = false := nothing
      rw [List.takeWhile_cons, outside]
      rfl
  simp [keywordsVerdict, stays]

/-- At the start of a word all of it is looked up. -/
theorem keywordsVerdict_of_isWord
    (alphabets : ∀ c, mode.keywordChars.contains c = mode.wordChars.contains c)
    (word : IsWord mode.wordChars line start stop) :
    keywordsVerdict mode line start =
      match mode.wordTag? ((line.take stop).drop start) with
      | some tag => .taken (stop - start) [.paint { start, stop, tag }]
      | none => .passed (stop - start) := by
  have scanned : mode.keywordChars.scan line start = stop := by
    rw [word.stop_eq, Alphabet.scan, Alphabet.scan, funext alphabets]
  have notEmpty : stop ≠ start := Nat.ne_of_gt word.notEmpty
  simp only [keywordsVerdict, word.before, scanned, notEmpty, Bool.false_eq_true, if_false,
    Mode.wordTag?]
  cases mode.keyword? ((line.take stop).drop start) with
  | some tag => rfl
  | none => cases mode.isDigitWord ((line.take stop).drop start) <;> rfl

/-! ## The words from a column on -/

/-- The marks of all words that start at a column or behind it, in order. -/
structure MarksFrom (mode : Mode) (line : List Char) (column : Nat) (marks : List Mark) :
    Prop where
  mem_iff : ∀ mark, mark ∈ marks ↔ column ≤ mark.start ∧ mode.MarksWord line mark
  inOrder : marks.Pairwise fun first second => first.stop < second.start

/-- The mark of a word, if there is one. -/
def wordMarks (mode : Mode) (line : List Char) (start stop : Nat) : List Mark :=
  match mode.wordTag? ((line.take stop).drop start) with
  | some tag => if tag = .null then [] else [⟨start, stop, tag⟩]
  | none => []

theorem mem_wordMarks {mark : Mark} (word : IsWord mode.wordChars line start stop) :
    mark ∈ wordMarks mode line start stop ↔ mark.start = start ∧ mode.MarksWord line mark := by
  obtain ⟨first, last, tag⟩ := mark
  constructor
  · intro member
    unfold wordMarks at member
    split at member
    · rename_i found
      split at member
      · cases member
      · rename_i visible
        cases List.mem_singleton.mp member
        exact ⟨rfl, word, found, visible⟩
    · cases member
  · rintro ⟨rfl, other, tagged, visible⟩
    dsimp only at other tagged visible word ⊢
    obtain rfl : last = stop := other.stop_eq.trans word.stop_eq.symm
    simp [wordMarks, tagged, visible]

theorem marksFrom_nil (beyond : line.length ≤ column) : MarksFrom mode line column [] where
  mem_iff := by
    rintro ⟨start, stop, tag⟩
    refine iff_of_false List.not_mem_nil ?_
    rintro ⟨from_column, word, -⟩
    have notEmpty := word.notEmpty
    have onLine := word.onLine
    dsimp only at from_column notEmpty onLine
    omega
  inOrder := List.Pairwise.nil

/-- No word starts at a column that is none of its characters. -/
theorem MarksFrom.pass {marks : List Mark} (from_next : MarksFrom mode line (column + 1) marks)
    (nothing : (charAt? line column).any mode.wordChars.contains = false) :
    MarksFrom mode line column marks where
  mem_iff := by
    intro mark
    rw [from_next.mem_iff]
    refine and_congr_left fun marksWord => ?_
    have elsewhere := marksWord.word.start_ne nothing
    omega
  inOrder := from_next.inOrder

/-- Behind the start of a word the next words start behind its end. -/
theorem MarksFrom.word {marks : List Mark} (word : IsWord mode.wordChars line start stop)
    (from_stop : MarksFrom mode line stop marks) :
    MarksFrom mode line start (wordMarks mode line start stop ++ marks) where
  mem_iff := by
    intro mark
    rw [List.mem_append, mem_wordMarks word, from_stop.mem_iff, ← or_and_right]
    refine and_congr_left fun marksWord => ?_
    have behind : start < mark.start → stop ≤ mark.start := word.stop_le marksWord.word
    have notEmpty := word.notEmpty
    omega
  inOrder := by
    refine List.pairwise_append.mpr ⟨?_, from_stop.inOrder, ?_⟩
    · unfold wordMarks
      split
      · split
        · exact List.Pairwise.nil
        · exact List.pairwise_singleton ..
      · exact List.Pairwise.nil
    · intro first member second later
      obtain ⟨same, marksWord⟩ := (mem_wordMarks word).mp member
      obtain ⟨onward, next⟩ := (from_stop.mem_iff second).mp later
      have ends : first.stop = stop := by
        rw [marksWord.word.stop_eq, same, word.stop_eq]
      have apart := next.word.start_ne word.behind
      omega

/-! ## Dispatching -/

namespace Run

variable {options : Options} {run : Run}

/-- A run with more marks, after so many steps. -/
def withMarks (run : Run) (marks : List Mark) (steps : Nat) : Run :=
  { run with canvas := { run.canvas with marks := run.canvas.marks ++ marks }, steps }

theorem withMarks_withMarks (one two : List Mark) (steps last : Nat) :
    (run.withMarks one steps).withMarks two last = run.withMarks (one ++ two) last := by
  simp only [withMarks, List.append_assoc]

theorem withMarks_nil : run.withMarks [] run.steps = run := by
  rw [withMarks, List.append_nil]

/-- A word is tagged as it is, but not as plain text. -/
theorem performAll_paint_word (noUrls : options.highlightUrls = false)
    (colored : run.suppressed = false) {tag : Tag} (notEmpty : column < stop)
    (onLine : stop ≤ line.length) :
    run.performAll options line [.paint { start := column, stop, tag }] =
      run.withMarks (if tag = .null then [] else [⟨column, stop, tag⟩]) run.steps := by
  have full : ¬stop ≤ column := Nat.not_le_of_lt notEmpty
  simp only [performAll, List.foldl_cons, List.foldl_nil, perform, paint, colored, paintCanvas,
    Canvas.paint, Canvas.add, noUrls, Nat.min_eq_left onLine, full, Bool.false_eq_true, if_false,
    and_false, false_or, withMarks]
  split <;> simp

/-- At the start of a word its mark is added, and the dispatch goes on behind it. -/
theorem heed_word (noUrls : options.highlightUrls = false) (colored : run.suppressed = false)
    (word : IsWord mode.wordChars line column stop)
    (alphabets : ∀ c, mode.keywordChars.contains c = mode.wordChars.contains c) :
    heed options line column rest (keywordsVerdict mode line column) run =
      dispatch options line (column + 1) (stop - column - 1)
        (run.withMarks (wordMarks mode line column stop) run.steps) rest := by
  rw [keywordsVerdict_of_isWord alphabets word, wordMarks]
  cases mode.wordTag? ((line.take stop).drop column) with
  | none => rw [withMarks_nil]; rfl
  | some tag =>
    exact congrArg (dispatch options line (column + 1) (stop - column - 1) · rest)
      (performAll_paint_word noUrls colored word.notEmpty word.onLine)

/-- From a column that is not inside a word all words are marked, and nothing else. -/
theorem dispatch_marksFrom (noUrls : options.highlightUrls = false)
    (looksUp : mode.LooksUpWords line) (rest : List Char) : ∀ (column skip : Nat) (run : Run),
    line.drop column = rest → run.mode = mode → run.suppressed = false →
    ¬IsInside mode.wordChars line (column + skip) →
    ∃ marks steps, MarksFrom mode line (column + skip) marks ∧
      dispatch options line column skip run rest = run.withMarks marks steps := by
  induction rest with
  | nil =>
    intro column skip run place _ _ _
    have beyond : line.length ≤ column := List.drop_eq_nil_iff.mp place
    exact ⟨[], run.steps, marksFrom_nil (Nat.le_add_right_of_le beyond), withMarks_nil.symm⟩
  | cons c rest ih =>
    intro column skip run place inMode colored outside
    have next := Text.drop_succ place
    have here := Text.charAt?_of_drop place
    cases skip with
    | succ skip =>
      have ahead : column + (skip + 1) = column + 1 + skip := by omega
      rw [ahead] at outside ⊢
      exact ih (column + 1) skip run next inMode colored outside
    | zero =>
      rw [Nat.add_zero] at outside ⊢
      have verdict : firstVerdict run.mode line column (run.mode.matchersAt c) =
          keywordsVerdict mode line column := by
        rw [inMode]
        exact looksUp.verdict place
      rw [dispatch_cons, verdict]
      cases letter : mode.wordChars.contains c with
      | false =>
        have nothing : (charAt? line column).any mode.wordChars.contains = false := by
          rw [here]
          exact letter
        have onward : ¬IsInside mode.wordChars line (column + 1) := fun inside =>
          Bool.false_ne_true (nothing.symm.trans inside.1)
        obtain ⟨marks, steps, marksFrom, dispatched⟩ :=
          ih (column + 1) 0 run.step next inMode colored onward
        rw [keywordsVerdict_eq_declined looksUp.alphabets nothing]
        exact ⟨marks, steps, marksFrom.pass nothing, dispatched⟩
      | true =>
        have before : (charBefore? line column).any mode.wordChars.contains = false := by
          rw [Bool.eq_false_iff]
          exact fun letterBefore => outside ⟨letterBefore, by rw [here]; exact letter⟩
        have moves : column < mode.wordChars.scan line column := by
          rw [Alphabet.scan, place, List.takeWhile_cons_of_pos letter, List.length_cons]
          omega
        have word := isWord_scan before moves
        generalize mode.wordChars.scan line column = stop at word
        have ahead : column + 1 + (stop - column - 1) = stop := by
          have notEmpty := word.notEmpty
          omega
        have onward : ¬IsInside mode.wordChars line stop := fun inside =>
          Bool.false_ne_true (word.behind.symm.trans inside.2)
        obtain ⟨marks, steps, marksFrom, dispatched⟩ := ih (column + 1) (stop - column - 1)
          (run.step.withMarks (wordMarks mode line column stop) run.step.steps) next inMode colored
          (by rwa [ahead])
        rw [ahead] at marksFrom
        refine ⟨_, steps, marksFrom.word word, ?_⟩
        have colors : run.step.suppressed = false := colored
        rw [heed_word noUrls colors word looksUp.alphabets, dispatched, withMarks_withMarks]
        rfl

/-- A line that is run from nothing open has the marks of its words. -/
theorem start_marksFrom (noUrls : options.highlightUrls = false) (run : Run)
    (looksUp : run.mode.LooksUpWords line) (colored : run.suppressed = false) :
    ∃ marks steps, MarksFrom run.mode line 0 marks ∧
      start options line .clear run = run.withMarks marks steps := by
  obtain ⟨marks, steps, marksFrom, dispatched⟩ := dispatch_marksFrom noUrls looksUp line 0 0
    run.step rfl rfl colored fun inside => nomatch inside.1
  exact ⟨marks, steps, marksFrom, dispatched⟩

end Run

end Line

/-! ## Modes that look for keywords alone -/

theorem Mode.keywordChars_eq_of_attributes {first second : Mode}
    (same : first.attributes = second.attributes) : first.keywordChars = second.keywordChars := by
  have keywordChars := congrArg Mode.keywordChars same
  exact keywordChars

namespace Registry

/-- A ruleset that has keywords looked up, and no other rule or import, is made into a mode that
does so on lines without `@` and `<`, if addresses are not looked for. -/
theorem MadeOf.looksUpWords {library : Library} {ruleset : Ruleset} {mode : Mode}
    (made : MadeOf library false ruleset mode) (noImports : ruleset.imports = [])
    (rules : ruleset.rules = [{ spec := .keywords }])
    (alphabets : ∀ c, mode.keywordChars.contains c = mode.wordChars.contains c)
    {line : List Char} (noAt : '@' ∉ line) (noLess : '<' ∉ line) : mode.LooksUpWords line where
  alphabets
  verdict := by
    intro column c rest place
    have member : c ∈ line := List.mem_of_mem_drop (place ▸ List.mem_cons_self)
    cases made with
    | @assembled resolved file found others alone =>
      let origin : Origin := ⟨resolved, file, ruleset⟩
      obtain rfl := alone noImports
      have same : (Registry.assembled false resolved file ruleset []).keywordChars =
          origin.mode.keywordChars :=
        Mode.keywordChars_eq_of_attributes (Mode.installDirectives_attributes origin.mode false)
      rw [assembled_alone_matchersAt origin (fun here => noAt (here ▸ member))
        fun here => noLess (here ▸ member), Origin.listed]
      simp only [origin, rules, List.filter_cons, List.filter_nil, decide_eq_true_eq]
      split
      · exact Line.firstVerdict_singleton
      · rename_i absent
        have outside : (Registry.assembled false resolved file ruleset []).wordChars.contains c =
            false := by
          rw [← alphabets, same, Bool.eq_false_iff]
          exact fun has => absent (Alphabet.mem_toList has)
        refine (Line.keywordsVerdict_eq_declined alphabets ?_).symm
        rw [Text.charAt?_of_drop place]
        exact outside

end Registry

end Highlighter
