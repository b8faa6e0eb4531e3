import Highlighter.Line.Url
import Highlighter.Pattern.Matching
import Highlighter.Proofs.Line.Dispatching
import Highlighter.Proofs.Text.Boundaries
import Highlighter.Proofs.Unicode.AsciiCase

/-!
# Looking along a line under guard

Matchers work on the bytes of a line: they reckon with byte offsets and cut the line at them.  A cut
inside a character or beyond the end of the line breaks the run off, and so does a loop that goes
on for too long.  This is the looking along a line in which all of that is seen: the answer `none`
is that of a run that breaks off.
-/

namespace Highlighter.Guarded

open Text

/-- What is seen if it is asked for.  Where nothing is asked, nothing is cut. -/
def lookIf {α : Type} (asked : Bool) (seen : Option α) (otherwise : α) : Option α :=
  if asked then seen else some otherwise

@[simp] theorem lookIf_some {α : Type} (asked : Bool) (seen otherwise : α) :
    lookIf asked (some seen) otherwise = some (if asked then seen else otherwise) := by
  cases asked <;> rfl

/-- The character before an offset (`prev_char`). -/
def charBefore? (text : List Char) (offset : Nat) : Option (Option Char) :=
  (upTo? text offset).map List.getLast?

/-- The offset of the first character from an offset on for which the test fails. -/
def skipWhile? (test : Char → Bool) (text : List Char) (offset : Nat) : Option Nat :=
  (from? text offset).map fun rest => offset + byteLength (rest.takeWhile test)

/-- Whether a literal starts at an offset (`literal_at`).  This looks whether the text can be cut
before it does so. -/
def literalAt (text : List Char) (offset : Nat) (literal : List Char) (ignoreCase : Bool) : Bool :=
  match slice? text offset (offset + byteLength literal) with
  | some found =>
    found.length == literal.length && Line.startsWithLiteral ignoreCase literal found
  | none => false

/-- Whether a word starts the line and no identifier goes on behind it (`match_word`). -/
def startsWithWord? (text : List Char) (word : String) : Option Bool :=
  if word.toList.isPrefixOf text then
    (from? text (byteLength word.toList)).map fun rest =>
      !rest.head?.any Unicode.isIdentifierCharacter
  else some false

/-- How many bytes stand before the first occurrence of a pattern in a text. -/
def offsetOf? (pattern : List Char) : (text : List Char) → Option Nat
  | [] => if pattern.isEmpty then some 0 else none
  | c :: rest =>
    if pattern.isPrefixOf (c :: rest) then some 0
    else (offsetOf? pattern rest).map (c.utf8Size + ·)

/-- The number of bytes that a pattern matches at an offset, 0 if it does not (`regex_len_at`).  A
match lies inside the text. -/
def patternWidth? (pattern : Pattern) (text : List Char) (offset : Nat) : Option Nat := do
  let column ← columnAt? text offset
  let width := pattern.lengthAt text column
  if column + width ≤ text.length then some (byteLength ((text.drop column).take width)) else none

/-- The number of bytes of the address that starts at an offset, 0 if there is none
(`URL_REGEX`). -/
def urlWidth? (text : List Char) (offset : Nat) : Option Nat := do
  let rest ← from? text offset
  let width := Line.Url.lengthAtStart rest
  if width ≤ rest.length then some (byteLength (rest.take width)) else none

/-- Whether an offset is where the blanks at the start of a line end, if that is asked for. -/
def blanksPermit? (anchors : Anchors) (text : List Char) (offset : Nat) : Option Bool :=
  lookIf anchors.atWhitespaceEnd ((skipWhile? Line.isBlank text 0).map (offset == ·)) true

/-- Whether no word goes on before an offset or behind the `width` bytes there, if that is asked
for. -/
def wordsPermit? (anchors : Anchors) (text : List Char) (offset width : Nat) (words : Alphabet) :
    Option Bool :=
  if anchors.atWordStart then do
    let before ← charBefore? text offset
    if before.any words.contains then some false
    else if width = 0 then some true
    else (from? text (offset + width)).map fun rest => !rest.head?.any words.contains
  else some true

/-- Whether the anchors allow a rule to open at an offset with `width` bytes (`Anchors.permits`). -/
def anchorsPermit? (anchors : Anchors) (text : List Char) (offset width : Nat)
    (words : Alphabet) : Option Bool :=
  if anchors.atLineStart && offset != 0 then some false
  else do
    let blanks ← blanksPermit? anchors text offset
    if blanks then wordsPermit? anchors text offset width words else some false

/-! ## Characters and runs of characters -/

variable {text : List Char} {column : Nat}

theorem charBefore?_eq (inside : column ≤ text.length) :
    charBefore? text (byteOffset text column) = some (Text.charBefore? text column) := by
  rw [charBefore?, upTo?_byteOffset, Option.map_some, Text.charBefore?]
  cases column with
  | zero => rfl
  | succ column =>
    rw [if_neg (Nat.succ_ne_zero column), Nat.add_sub_cancel, Text.charAt?, List.head?_drop]
    simp [List.getLast?_take, List.getElem?_eq_getElem inside]

theorem take_takeWhile_length (test : Char → Bool) (text : List Char) :
    text.take (text.takeWhile test).length = text.takeWhile test :=
  (List.prefix_iff_eq_take.mp (List.takeWhile_prefix test)).symm

theorem skipWhile?_eq (test : Char → Bool) (text : List Char) (column : Nat) :
    skipWhile? test text (byteOffset text column) =
      some (byteOffset text (Line.skipWhile test text column)) := by
  rw [skipWhile?, from?_byteOffset, Option.map_some, Line.skipWhile, byteOffset_add,
    take_takeWhile_length]

/-! ## Literals -/

/-- Characters that differ in the case of ASCII letters take the same number of bytes. -/
theorem utf8Size_eq_of_equalIgnoringAsciiCase {c d : Char}
    (same : Unicode.equalIgnoringAsciiCase c d) : c.utf8Size = d.utf8Size := by
  rw [← Unicode.utf8Size_asciiLower c, ← Unicode.utf8Size_asciiLower d, eq_of_beq same]

/-- What a literal matches takes as many bytes as the literal. -/
theorem byteLength_of_startsWithLiteral {ignoreCase : Bool} {literal text : List Char}
    (starts : Line.startsWithLiteral ignoreCase literal text) :
    byteLength (text.take literal.length) = byteLength literal := by
  induction literal generalizing text with
  | nil => rfl
  | cons c literal ih =>
    cases text with
    | nil => cases starts
    | cons d text =>
      simp only [Line.startsWithLiteral, Bool.and_eq_true] at starts
      obtain ⟨first, others⟩ := starts
      have size : d.utf8Size = c.utf8Size := by
        cases ignoreCase with
        | true => exact (utf8Size_eq_of_equalIgnoringAsciiCase first).symm
        | false => rw [eq_of_beq first]
      rw [List.length_cons, List.take_succ_cons, byteLength_cons, byteLength_cons, ih others, size]

/-- Only as many characters of a text count as the literal has. -/
theorem startsWithLiteral_append (ignoreCase : Bool) {literal found : List Char}
    (long : found.length = literal.length) (rest : List Char) :
    Line.startsWithLiteral ignoreCase literal (found ++ rest) =
      Line.startsWithLiteral ignoreCase literal found := by
  induction literal generalizing found with
  | nil => rfl
  | cons c literal ih =>
    cases found with
    | nil => cases long
    | cons d found => simp [Line.startsWithLiteral, ih (Nat.succ_inj.mp long)]

theorem byteOffset_of_literalAt {literal : List Char} {ignoreCase : Bool}
    (starts : Line.literalAt text column literal ignoreCase) :
    byteOffset text (column + literal.length) = byteOffset text column + byteLength literal := by
  rw [byteOffset_add, byteLength_of_startsWithLiteral starts]

theorem literalAt_eq (text : List Char) (column : Nat) (literal : List Char)
    (ignoreCase : Bool) :
    literalAt text (byteOffset text column) literal ignoreCase =
      Line.literalAt text column literal ignoreCase := by
  rw [Bool.eq_iff_iff]
  constructor
  · intro starts
    unfold literalAt at starts
    split at starts
    · rename_i found cut
      obtain ⟨start, stop, -, -, same, -, rfl⟩ := slice?_eq_some_iff.mp cut
      simp only [Bool.and_eq_true, beq_iff_eq] at starts
      rw [List.drop_take, drop_eq_of_byteOffset_eq same] at starts
      have whole := startsWithLiteral_append ignoreCase starts.1
        ((text.drop column).drop (stop - start))
      rw [List.take_append_drop] at whole
      exact whole.trans starts.2
    · cases starts
  · intro starts
    have ends := byteOffset_of_literalAt starts
    have long := Line.length_le_of_startsWithLiteral starts
    unfold literalAt
    rw [← ends, slice?_byteOffset text (Nat.le_add_right ..), List.drop_take,
      Nat.add_sub_cancel_left]
    have length : ((text.drop column).take literal.length).length = literal.length :=
      List.length_take_of_le long
    have whole := startsWithLiteral_append ignoreCase length
      ((text.drop column).drop literal.length)
    rw [List.take_append_drop] at whole
    simp only [length, beq_self_eq_true, Bool.true_and]
    exact whole.symm.trans starts

/-! ## Texts that stand on a line -/

/-- A text that stands at a column ends as many bytes behind it as the text has. -/
theorem byteOffset_of_isPrefixOf {pattern : List Char}
    (here : pattern.isPrefixOf (text.drop column)) :
    byteOffset text (column + pattern.length) = byteOffset text column + byteLength pattern := by
  obtain ⟨rest, same⟩ := List.isPrefixOf_iff_prefix.mp here
  rw [byteOffset_add, ← same, List.take_left]

theorem startsWithWord?_eq (text : List Char) (word : String) :
    startsWithWord? text word = some (Line.startsWithWord text word) := by
  unfold startsWithWord? Line.startsWithWord
  by_cases starts : word.toList.isPrefixOf text
  · have ends : byteLength word.toList = byteOffset text word.toList.length := by
      have ends : byteOffset text (0 + word.toList.length) = _ := byteOffset_of_isPrefixOf starts
      rw [Nat.zero_add, byteOffset_zero, Nat.zero_add] at ends
      exact ends.symm
    rw [if_pos starts, ends, from?_byteOffset, starts]
    rfl
  · rw [if_neg starts, Bool.eq_false_iff.mpr starts]
    rfl

theorem offsetOf?_rest (pattern : List Char) : ∀ (rest : List Char) (column : Nat),
    rest = text.drop column →
    (offsetOf? pattern rest).map (byteOffset text column + ·) =
      (Line.findFrom? pattern column rest).map (byteOffset text) := by
  intro rest
  induction rest with
  | nil =>
    intro column _
    rw [offsetOf?, Line.findFrom?]
    split <;> rfl
  | cons c rest ih =>
    intro column here
    rw [offsetOf?, Line.findFrom?]
    split
    · rfl
    · have next : rest = text.drop (column + 1) := (drop_succ here.symm).symm
      rw [← ih (column + 1) next, Option.map_map, byteOffset_succ here.symm]
      congr 1
      funext ahead
      exact (Nat.add_assoc ..).symm

/-- A text occurs first where it is found. -/
theorem offsetOf?_eq (pattern text : List Char) (column : Nat) :
    (offsetOf? pattern (text.drop column)).map (byteOffset text column + ·) =
      (Line.find? pattern text column).map (byteOffset text) :=
  offsetOf?_rest pattern (text.drop column) column rfl

theorem findFrom?_prefix {pattern rest : List Char} : ∀ {column place : Nat},
    Line.findFrom? pattern column rest = some place →
    column ≤ place ∧ place ≤ column + rest.length ∧
      pattern.isPrefixOf (rest.drop (place - column)) := by
  induction rest with
  | nil =>
    intro column place found
    rw [Line.findFrom?] at found
    split at found
    · rename_i empty
      cases found
      rw [List.isEmpty_iff.mp empty]
      exact ⟨Nat.le_refl _, Nat.le_refl _, rfl⟩
    · cases found
  | cons c rest ih =>
    intro column place found
    rw [Line.findFrom?] at found
    split at found
    · rename_i here
      cases found
      rw [Nat.sub_self]
      exact ⟨Nat.le_refl _, Nat.le_add_right .., here⟩
    · obtain ⟨behind, onLine, there⟩ := ih found
      refine ⟨Nat.le_of_succ_le behind, by rw [List.length_cons]; omega, ?_⟩
      rwa [show place - column = (place - (column + 1)) + 1 by omega, List.drop_succ_cons]

/-- A text stands where it is found, at or behind the start. -/
theorem find?_prefix {pattern : List Char} {place : Nat}
    (found : Line.find? pattern text column = some place) :
    column ≤ place ∧ pattern.isPrefixOf (text.drop place) := by
  obtain ⟨behind, -, here⟩ := findFrom?_prefix found
  rw [List.drop_drop, Nat.add_sub_cancel' behind] at here
  exact ⟨behind, here⟩

/-- A text is found on the line. -/
theorem find?_le {pattern : List Char} {place : Nat} (inside : column ≤ text.length)
    (found : Line.find? pattern text column = some place) : place ≤ text.length := by
  obtain ⟨-, onLine, -⟩ := findFrom?_prefix found
  rw [List.length_drop] at onLine
  omega

/-! ## Patterns and addresses -/

/-- A match ends on the line or is the one found before. -/
theorem run_le {program : Array Pattern.Instruction} {rest : List Char} :
    ∀ {pending : List Nat} {before : Option Char} {taken : Nat} {found : Option Nat} {width : Nat},
    Pattern.run program pending before taken found rest = some width →
    width ≤ taken + rest.length ∨ found = some width := by
  induction rest with
  | nil =>
    intro pending before taken found width matched
    rw [Pattern.run] at matched
    split at matched
    · cases matched
      exact .inl (Nat.le_refl _)
    · exact .inr matched
  | cons c rest ih =>
    intro pending before taken found width matched
    have here : ∀ other : Option Nat, other = some width →
        other = (if (Pattern.Threads.start program ⟨before, (c :: rest).head?⟩ pending).accepted
          then some taken else found) →
        width ≤ taken + (c :: rest).length ∨ found = some width := by
      intro other same choice
      rw [same] at choice
      split at choice
      · cases choice
        exact .inl (Nat.le_add_right ..)
      · exact .inr choice.symm
    rw [Pattern.run] at matched
    split at matched
    · exact here _ matched rfl
    · rcases ih matched with inside | old
      · rw [List.length_cons]
        exact .inl (by omega)
      · exact here _ old rfl

/-- A match ends on the line. -/
theorem lengthAt_le (pattern : Pattern) (text : List Char) (column : Nat) :
    pattern.lengthAt text column ≤ (text.drop column).length := by
  unfold Pattern.lengthAt
  cases matched : Pattern.run pattern.program [0] (Text.charBefore? text column) 0 none
      (text.drop column) with
  | none => exact Nat.zero_le _
  | some width =>
    rcases run_le matched with inside | old
    · rwa [Nat.zero_add] at inside
    · cases old

theorem patternWidth?_eq (inside : column ≤ text.length) (pattern : Pattern) :
    patternWidth? pattern text (byteOffset text column) =
      some (byteOffset text (column + pattern.lengthAt text column) - byteOffset text column) := by
  have onLine := lengthAt_le pattern text column
  rw [List.length_drop] at onLine
  simp only [patternWidth?, columnAt?_byteOffset, Nat.min_eq_left inside, Option.bind_eq_bind,
    Option.bind_some]
  rw [if_pos (by omega), byteOffset_add, Nat.add_sub_cancel_left]

theorem lengthBehindProtocol_le (text : List Char) :
    Line.Url.lengthBehindProtocol text ≤ text.length := by
  have cut := (List.dropWhile_sublist (fun c => !Line.Url.isLast c)
    (l := (text.takeWhile Line.Url.isInside).reverse)).length_le
  have run := (List.takeWhile_sublist Line.Url.isInside (l := text)).length_le
  rw [List.length_reverse] at cut
  unfold Line.Url.lengthBehindProtocol
  dsimp only
  split <;> omega

/-- An address ends on the line. -/
theorem lengthAtStart_le (text : List Char) : Line.Url.lengthAtStart text ≤ text.length := by
  unfold Line.Url.lengthAtStart
  split
  · exact Nat.zero_le _
  · dsimp only
    split
    · exact Nat.zero_le _
    · rename_i protocol _ _ found
      have behind := lengthBehindProtocol_le (text.drop (protocol.length + 3))
      have some : Line.Url.lengthBehindProtocol (text.drop (protocol.length + 3)) ≠ 0 := found
      rw [List.length_drop] at behind
      omega

theorem urlWidth?_eq (text : List Char) (column : Nat) :
    urlWidth? text (byteOffset text column) =
      some (byteOffset text (column + Line.Url.lengthAtStart (text.drop column)) -
        byteOffset text column) := by
  simp only [urlWidth?, from?_byteOffset, Option.bind_eq_bind, Option.bind_some]
  rw [if_pos (lengthAtStart_le _), byteOffset_add, Nat.add_sub_cancel_left]

/-! ## Anchors -/

theorem byteOffset_eq_iff {other : Nat} (inside : column ≤ text.length)
    (otherInside : other ≤ text.length) :
    byteOffset text column = byteOffset text other ↔ column = other := by
  rw [Nat.eq_iff_le_and_ge, byteOffset_le_iff, byteOffset_le_iff]
  omega

/-- Characters on a line take bytes. -/
theorem byteWidth_eq_zero_iff {width : Nat} (inside : column + width ≤ text.length) :
    byteOffset text (column + width) - byteOffset text column = 0 ↔ width = 0 := by
  constructor
  · intro none
    refine Nat.eq_zero_of_not_pos fun positive => ?_
    have := byteOffset_lt (Nat.lt_add_of_pos_right positive)
      (Nat.lt_of_lt_of_le (Nat.lt_add_of_pos_right positive) inside)
    omega
  · rintro rfl
    exact Nat.sub_self _

theorem skipWhile_le (test : Char → Bool) (inside : column ≤ text.length) :
    Line.skipWhile test text column ≤ text.length := by
  have run := (List.takeWhile_sublist test (l := text.drop column)).length_le
  rw [List.length_drop] at run
  unfold Line.skipWhile
  omega

theorem blanksPermit?_eq (inside : column ≤ text.length) (anchors : Anchors) :
    blanksPermit? anchors text (byteOffset text column) =
      some (!anchors.atWhitespaceEnd || column == Line.skipBlanks text 0) := by
  have blanks : skipWhile? Line.isBlank text 0 = some (byteOffset text (Line.skipBlanks text 0)) :=
    skipWhile?_eq Line.isBlank text 0
  have same : (byteOffset text column == byteOffset text (Line.skipBlanks text 0)) =
      (column == Line.skipBlanks text 0) := by
    rw [Bool.eq_iff_iff, beq_iff_eq, beq_iff_eq]
    exact byteOffset_eq_iff inside (skipWhile_le _ (Nat.zero_le _))
  rw [blanksPermit?, blanks, Option.map_some, lookIf_some, same]
  cases anchors.atWhitespaceEnd <;> rfl

/-- `bytes` is the width of the opening, which stands on the line. -/
theorem wordsPermit?_eq (inside : column ≤ text.length) {width bytes : Nat}
    (ends : byteOffset text (column + width) = byteOffset text column + bytes)
    (empty : bytes = 0 ↔ width = 0) (anchors : Anchors) (words : Alphabet) :
    wordsPermit? anchors text (byteOffset text column) bytes words =
      some (!anchors.atWordStart
        || (!(Text.charBefore? text column).any words.contains
          && (width == 0 || !(Text.charAt? text (column + width)).any words.contains))) := by
  unfold wordsPermit?
  cases anchors.atWordStart with
  | false => rfl
  | true =>
    rw [if_pos rfl, charBefore?_eq inside, ← ends, from?_byteOffset]
    simp only [Option.bind_eq_bind, Option.bind_some, Option.map_some, Text.charAt?, empty]
    cases (Text.charBefore? text column).any words.contains with
    | true => rfl
    | false =>
      by_cases none : width = 0
      · simp [none]
      · simp [none]

/-- Anchors allow a place on a line under guard if they do so at all. -/
theorem anchorsPermit?_eq (inside : column ≤ text.length) {width bytes : Nat}
    (ends : byteOffset text (column + width) = byteOffset text column + bytes)
    (empty : bytes = 0 ↔ width = 0) (anchors : Anchors) (words : Alphabet) :
    anchorsPermit? anchors text (byteOffset text column) bytes words =
      some (Line.anchorsPermit anchors text column width words) := by
  have atStart : (byteOffset text column != 0) = (column != 0) := by
    have same := byteOffset_eq_iff inside (Nat.zero_le text.length)
    rw [Bool.eq_iff_iff, bne_iff_ne, bne_iff_ne, ne_eq, ne_eq, ← same, byteOffset_zero]
  unfold anchorsPermit? Line.anchorsPermit
  rw [blanksPermit?_eq inside, wordsPermit?_eq inside ends empty, atStart]
  simp only [Option.bind_eq_bind, Option.bind_some]
  generalize (!anchors.atWhitespaceEnd || column == Line.skipBlanks text 0) = blanks
  by_cases start : column = 0
  · cases blanks <;> simp [start]
  · cases anchors.atLineStart <;> cases blanks <;> simp [start]

end Highlighter.Guarded
