import Highlighter.Proofs.Guarded.Scan
import Highlighter.Proofs.Line.SpanEnd

/-!
# Looking for an end marker under guard

A guarded search goes from one occurrence of the end marker to the next, and starts anew behind one
that is escaped.  It needs a round for each place of the line at most, and comes to the end that the
search from place to place finds.
-/

namespace Highlighter.Guarded

open Text
open Line (SpanEnd)
open Line.SpanEnd (Past atMarker? search)

/-- The number of escape characters directly before an offset. -/
def escapesBefore? (text : List Char) (offset : Nat) (escape : Option Char) : Option Nat :=
  (upTo? text offset).map fun front =>
    (front.reverse.takeWhile fun c => escape = some c).length

/-- The answer at an occurrence of the end marker, unless the occurrence is escaped. -/
def markerAt? (text : List Char) (start : Nat) (escape : Option Char) (flags : SpanFlags)
    (words : Alphabet) (offset : Nat) : Option (Option SpanEnd) := do
  let before ← lookIf flags.noWordBreak (charBefore? text offset) none
  if before.any words.contains then some (some .failed)
  else do
    let inside ← lookIf flags.noLineBreak (slice? text start offset) []
    if inside.contains '\n' then some (some .failed)
    else do
      let escapes ← lookIf (escape.isSome && !flags.noEscape) (escapesBefore? text offset escape) 0
      some (if escapes % 2 == 1 then none else some (.found offset))

/-- What a search comes to that finds no end marker. -/
def unended (flags : SpanFlags) : SpanEnd :=
  if flags.noLineBreak then .failed else .notFound

/-- Looks for an end marker from an offset on, in so many rounds at most (`find_span_end`).  A round
goes to the next occurrence of the marker, and on behind its first character if the occurrence is
escaped. -/
def searchEnd? (text : List Char) (start : Nat) (stop : List Char) (escape : Option Char)
    (flags : SpanFlags) (words : Alphabet) : (rounds offset : Nat) → Option SpanEnd
  | 0, _ => none
  | rounds + 1, offset =>
    match (from? text offset).bind (offsetOf? stop) with
    | none => some (unended flags)
    | some ahead => do
      let answer ← markerAt? text start escape flags words (offset + ahead)
      match answer with
      | some answer => some answer
      | none => do
        let rest ← from? text (offset + ahead)
        searchEnd? text start stop escape flags words rounds
          (offset + ahead + (rest.head?.map Char.utf8Size).getD 1)

/-- An end in byte offsets. -/
def endInBytes (text : List Char) : SpanEnd → SpanEnd
  | .found column => .found (byteOffset text column)
  | .notFound => .notFound
  | .failed => .failed

/-- What a search from `start` on knows at a column. -/
def pastAt (text : List Char) (start : Nat) (escape : Option Char) (column : Nat) : Past where
  column := column
  before := Text.charBefore? text column
  escapes := ((text.take column).reverse.takeWhile fun c => escape = some c).length
  brokeLine := ((text.take column).drop start).contains '\n'

variable {text stop : List Char} {start column : Nat} {escape : Option Char} {flags : SpanFlags}
  {words : Alphabet}

theorem take_succ_of_drop {c : Char} {rest : List Char} (here : text.drop column = c :: rest) :
    text.take (column + 1) = text.take column ++ [c] := by
  rw [List.take_add, here]
  rfl

/-- A search knows at a column what it knew at the column before, and the character there. -/
theorem pastAt_next {c : Char} {rest : List Char} (here : text.drop column = c :: rest)
    (order : start ≤ column) :
    (pastAt text start escape column).next escape c = pastAt text start escape (column + 1) := by
  have inside : column < text.length := lt_length_of_drop here
  have front := take_succ_of_drop here
  have escapes : ((text.take (column + 1)).reverse.takeWhile fun c => escape = some c).length =
      if escape = some c then
        ((text.take column).reverse.takeWhile fun c => escape = some c).length + 1
      else 0 := by
    rw [front, List.reverse_append, List.reverse_singleton, List.singleton_append,
      List.takeWhile_cons]
    by_cases same : escape = some c <;> simp [same]
  have broke : ((text.take (column + 1)).drop start).contains '\n' =
      (((text.take column).drop start).contains '\n' || c == '\n') := by
    rw [front, List.drop_append_of_le_length (by rw [List.length_take]; omega)]
    by_cases feed : c = '\n'
    · simp [feed]
    · simp [feed, Ne.symm feed]
  have before : Text.charBefore? text (column + 1) = some c := by
    rw [Text.charBefore?, if_neg (Nat.succ_ne_zero column), Nat.add_sub_cancel, Text.charAt?, here]
    rfl
  unfold Past.next pastAt
  rw [before, escapes, broke]

/-- A search goes to the next occurrence of the end marker. -/
theorem search_eq_at (rest : List Char) : ∀ column, start ≤ column → rest = text.drop column →
    search stop escape flags words (pastAt text start escape column) rest =
      match Line.findFrom? stop column rest with
      | none => unended flags
      | some place =>
        match atMarker? escape flags words (pastAt text start escape place), text.drop place with
        | some answer, _ => answer
        | none, [] => unended flags
        | none, _ :: behind =>
          search stop escape flags words (pastAt text start escape (place + 1)) behind := by
  induction rest with
  | nil =>
    intro column order here
    rw [Highlighter.Line.SpanEnd.search.eq_def, Line.findFrom?]
    cases stop with
    | nil =>
      simp only [List.isPrefixOf, List.isEmpty_nil, if_true, ← here]
      cases atMarker? escape flags words (pastAt text start escape column) <;> rfl
    | cons _ _ => rfl
  | cons c rest ih =>
    intro column order here
    have next : rest = text.drop (column + 1) := (drop_succ here.symm).symm
    rw [SpanEnd.search_cons, Line.findFrom?, pastAt_next here.symm order]
    by_cases starts : stop.isPrefixOf (c :: rest)
    · simp only [if_pos starts, ← here]
      cases atMarker? escape flags words (pastAt text start escape column) <;> rfl
    · simp only [if_neg starts]
      exact ih (column + 1) (by omega) next

/-- What stands at an occurrence of the end marker is the same under guard. -/
theorem markerAt?_eq (order : start ≤ column) (inside : column ≤ text.length) :
    markerAt? text (byteOffset text start) escape flags words (byteOffset text column) =
      some ((atMarker? escape flags words (pastAt text start escape column)).map
        (endInBytes text)) := by
  -- what is not asked for is seen as nothing, which no test holds of
  have before : ∀ (asked : Bool) (seen : Option Char),
      (if asked then seen else none).any words.contains = (asked && seen.any words.contains) := by
    intro asked seen
    cases asked <;> rfl
  have between : ∀ (asked : Bool) (seen : List Char),
      (if asked then seen else []).contains '\n' = (asked && seen.contains '\n') := by
    intro asked seen
    cases asked <;> rfl
  have escapes : ∀ (asked : Bool) (seen : Nat),
      ((if asked then seen else 0) % 2 == 1) = (asked && seen % 2 == 1) := by
    intro asked seen
    cases asked <;> rfl
  simp only [markerAt?, charBefore?_eq inside, slice?_byteOffset text order, escapesBefore?,
    upTo?_byteOffset, Option.map_some, lookIf_some, Option.bind_eq_bind, Option.bind_some,
    before, between, escapes]
  change _ = some (Option.map (endInBytes text) (atMarker? escape flags words
    ⟨column, Text.charBefore? text column, _, ((text.take column).drop start).contains '\n'⟩))
  unfold atMarker?
  split
  · rfl
  · split
    · rfl
    · split <;> rfl

theorem from?_of_byteLength_lt {offset : Nat} (beyond : byteLength text < offset) :
    from? text offset = none := by
  rw [from?, Option.map_eq_none_iff, Option.eq_none_iff_forall_ne_some]
  intro column found
  obtain ⟨-, rfl⟩ := columnAt?_eq_some_iff.mp found
  exact absurd (byteOffset_le_byteLength text column) (Nat.not_le.mpr beyond)

/-- A guarded search finds the end that there is, if it may go through a round for each place of the
line that is left. -/
theorem searchEnd?_eq_search (rounds : Nat) : ∀ column, start ≤ column → column ≤ text.length →
    text.length + 2 ≤ rounds + column →
    searchEnd? text (byteOffset text start) stop escape flags words rounds
        (byteOffset text column) =
      some (endInBytes text (search stop escape flags words (pastAt text start escape column)
        (text.drop column))) := by
  induction rounds with
  | zero =>
    intro column _ inside enough
    omega
  | succ rounds ih =>
    intro column order inside enough
    have occurrence := offsetOf?_eq stop text column
    rw [searchEnd?, from?_byteOffset, Option.bind_some, search_eq_at _ column order rfl]
    unfold Line.find? at occurrence
    cases found : Line.findFrom? stop column (text.drop column) with
    | none =>
      rw [found, Option.map_none, Option.map_eq_none_iff] at occurrence
      rw [occurrence]
      unfold unended endInBytes
      cases flags.noLineBreak <;> rfl
    | some place =>
      rw [found, Option.map_some, Option.map_eq_some_iff] at occurrence
      obtain ⟨ahead, occurs, same⟩ := occurrence
      obtain ⟨behind, -⟩ := find?_prefix found
      have placeInside : place ≤ text.length := find?_le inside found
      rw [occurs]
      simp only [same, markerAt?_eq (Nat.le_trans order behind) placeInside, Option.bind_eq_bind,
        Option.bind_some]
      cases atMarker? escape flags words (pastAt text start escape place) with
      | some answer => rfl
      | none =>
        simp only [Option.map_none, from?_byteOffset, Option.bind_some]
        cases here : text.drop place with
        | nil =>
          have last : place = text.length := by
            have := List.drop_eq_nil_iff.mp here
            omega
          obtain ⟨more, rfl⟩ : ∃ more, rounds = more + 1 := ⟨rounds - 1, by omega⟩
          rw [searchEnd?, from?_of_byteLength_lt, Option.bind_none]
          · unfold unended endInBytes
            cases flags.noLineBreak <;> rfl
          · rw [last, byteOffset_length]
            exact Nat.lt_succ_self _
        | cons c rest =>
          have next : rest = text.drop (place + 1) := (drop_succ here).symm
          rw [next, ← ih (place + 1) (by omega) _ (by omega), byteOffset_succ here]
          · rfl
          · have inside := length_of_drop here
            omega

/-- What a search knows at its start is what it is given there. -/
theorem search_pastAt_start :
    search stop escape flags words (pastAt text start escape start) (text.drop start) =
      Line.findSpanEnd text start stop escape flags words := by
  rw [pastAt, List.drop_eq_nil_of_le (List.length_take_le _ _)]
  rfl

/-- A guarded search for the end of a span finds the end that there is. -/
theorem searchEnd?_eq {rounds : Nat} (inside : start ≤ text.length)
    (enough : text.length + 2 ≤ rounds) :
    searchEnd? text (byteOffset text start) stop escape flags words rounds
        (byteOffset text start) =
      some (endInBytes text (Line.findSpanEnd text start stop escape flags words)) := by
  rw [searchEnd?_eq_search rounds start (Nat.le_refl _) inside (by omega), search_pastAt_start]

/-- The end marker of a span stands where it is found, on the line. -/
theorem findSpanEnd_found {closing : Nat} (inside : start ≤ text.length)
    (found : Line.findSpanEnd text start stop escape flags words = .found closing) :
    start ≤ closing ∧ closing + stop.length ≤ text.length ∧
      stop.isPrefixOf (text.drop closing) := by
  obtain ⟨before, behind, same, place⟩ := SpanEnd.search_found found
  have place : closing = start + before.length := place
  have lengths := congrArg List.length same
  simp only [List.length_drop, List.length_append] at lengths
  refine ⟨by omega, by omega, ?_⟩
  rw [place, ← List.drop_drop, same, List.append_assoc, List.drop_left]
  exact List.isPrefixOf_iff_prefix.mpr (List.prefix_append _ _)

end Highlighter.Guarded
