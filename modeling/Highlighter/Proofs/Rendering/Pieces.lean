import Highlighter.Proofs.Rendering.Flattening
import Highlighter.Proofs.Text.Boundaries
import Highlighter.Rendering

/-!
# Showing a line keeps its text

The pieces that a line is shown as make up its text: the spans of the line follow each other, each
piece goes on where the one before it ends, and the last one goes to the end of the line.  Spans
start and end only where events do, so the line can be shown if no event starts or ends inside a
character; where on the line the events are, and whether they overlap, makes no difference.
-/

namespace Highlighter

/-- An offset of a text at which it can be cut: it is that of a column. -/
def Text.IsBoundary (text : List Char) (offset : Nat) : Prop :=
  ∃ column ≤ text.length, byteOffset text column = offset

/-- The spans of a line start and end where events do, cut to the length of the line. -/
theorem mem_cutPoints_of_mem_lineSpans {length : Nat} {events : List Event} {span : Span}
    (member : span ∈ lineSpans length events) :
    span.start ∈ cutPoints length events ∧ span.stop ∈ cutPoints length events := by
  have ends : ∀ other ∈ stretches events (cutPoints length events),
      other.start ∈ cutPoints length events ∧ other.stop ∈ cutPoints length events := by
    intro other among
    obtain ⟨start, stop, -⟩ := mem_stretches (cutPoints_ascending length events) among
    exact ⟨start, stop⟩
  rw [lineSpans] at member
  generalize stretches events (cutPoints length events) = spans at ends member
  cases spans with
  | nil => exact absurd member List.not_mem_nil
  | cons first rest =>
    obtain ⟨⟨opening, amongOpening, start⟩, closing, amongClosing, stop⟩ :=
      Span.ends_of_mem_joinOnto member
    rw [start, stop]
    exact ⟨(ends opening amongOpening).1, (ends closing amongClosing).2⟩

namespace Rendering

open Text (byteLength byteOffset slice?)

variable {line : List Char}

/-- What is between two columns and what is behind the second make up what is behind the first. -/
theorem drop_take_append_drop {column start : Nat} (before : column ≤ start)
    (onLine : start ≤ line.length) :
    (line.take start).drop column ++ line.drop start = line.drop column := by
  rw [← List.drop_append_of_le_length, List.take_append_drop]
  rw [List.length_take]
  omega

/-- The piece between an offset and the start of a span, if there is any text there. -/
def piecesBefore? (line : List Char) (offset start : Nat) : Option (List Piece) :=
  if offset < start then (slice? line offset start).map fun text => [.bare text] else some []

theorem piecesFrom?_cons (line : List Char) (offset : Nat) (span : Span) (spans : List Span) :
    piecesFrom? line offset (span :: spans) =
      (piecesBefore? line offset span.start).bind fun before =>
        (slice? line span.start span.stop).bind fun inside =>
          (piecesFrom? line span.stop spans).map fun rest =>
            before ++ .styled span.style inside :: rest := by
  rw [piecesFrom?, piecesBefore?]
  simp only [Option.bind_eq_bind, Option.map_eq_bind]
  split <;> rfl

/-- What is shown before a span is the text there. -/
theorem exists_piecesBefore? {column start : Nat} (before : column ≤ start)
    (onLine : start ≤ line.length) :
    ∃ pieces, piecesBefore? line (byteOffset line column) (byteOffset line start) = some pieces ∧
      pieces.flatMap Piece.text = (line.take start).drop column := by
  unfold piecesBefore?
  split
  · rw [Text.slice?_byteOffset line before]
    exact ⟨_, rfl, by simp [Piece.text]⟩
  · rename_i nothing
    have reaches := (Text.byteOffset_le_iff line start column).mp (Nat.le_of_not_lt nothing)
    refine ⟨[], rfl, Eq.symm (List.drop_eq_nil_of_le ?_)⟩
    rw [List.length_take]
    omega

/-- From a column on, spans that follow each other and can be cut out are shown with all of the
text. -/
theorem exists_piecesFrom? {spans : List Span} : ∀ {column : Nat}, column ≤ line.length →
    (spans.Pairwise fun first second => first.stop ≤ second.start) →
    (∀ span ∈ spans, byteOffset line column ≤ span.start ∧ span.start ≤ span.stop ∧
      Text.IsBoundary line span.start ∧ Text.IsBoundary line span.stop) →
    ∃ pieces, piecesFrom? line (byteOffset line column) spans = some pieces ∧
      pieces.flatMap Piece.text = line.drop column := by
  induction spans with
  | nil =>
    intro column onLine _ _
    refine ⟨[.bare (line.drop column)], ?_, by simp [Piece.text]⟩
    rw [piecesFrom?, ← Text.byteOffset_length, Text.slice?_byteOffset line onLine, List.take_length]
    rfl
  | cons span spans ih =>
    intro column onLine follow each
    obtain ⟨behind, follow⟩ := List.pairwise_cons.mp follow
    obtain ⟨from_column, ordered, ⟨start, startOnLine, isStart⟩, ⟨stop, stopOnLine, isStop⟩⟩ :=
      each span List.mem_cons_self
    rw [← isStart, Text.byteOffset_le_iff] at from_column
    rw [← isStart, ← isStop, Text.byteOffset_le_iff] at ordered
    have before : column ≤ start := by omega
    have inside : start ≤ stop := by omega
    obtain ⟨first, isFirst, firstText⟩ := exists_piecesBefore? before startOnLine
    obtain ⟨rest, isRest, restText⟩ := ih stopOnLine follow fun other member =>
      ⟨isStop ▸ behind other member, (each other (List.mem_cons_of_mem _ member)).2⟩
    refine ⟨first ++ .styled span.style ((line.take stop).drop start) :: rest, ?_, ?_⟩
    · rw [piecesFrom?_cons, ← isStart, ← isStop, isFirst, isRest,
        Text.slice?_byteOffset line inside]
      rfl
    · calc
        (first ++ .styled span.style ((line.take stop).drop start) :: rest).flatMap Piece.text =
            (line.take start).drop column ++ ((line.take stop).drop start ++ line.drop stop) := by
          rw [List.flatMap_append, List.flatMap_cons, firstText, restText]
          rfl
        _ = (line.take start).drop column ++ line.drop start := by
          rw [drop_take_append_drop inside stopOnLine]
        _ = line.drop column := drop_take_append_drop before startOnLine

/-- Whatever the events, as long as their ends, cut to the length of the line, do not fall inside a
character: the line is shown, as pieces between control sequences, and the text of all that is
printed, in order, is that of the line and one line feed. -/
theorem colored?_keeps_text (line : List Char) (events : List Event)
    (boundaries : ∀ event ∈ events,
      Text.IsBoundary line (min event.start (byteLength line)) ∧
        Text.IsBoundary line (min event.stop (byteLength line))) :
    ∃ pieces, pieces? line events = some pieces ∧
      colored? line events = some (String.join (pieces.map Piece.render) ++ rendition "0" ++
        (Piece.bare ['\n']).render) ∧
      (pieces ++ [Piece.bare ['\n']]).flatMap Piece.text = line ++ ['\n'] := by
  have isBoundary : ∀ point ∈ cutPoints (byteLength line) events, Text.IsBoundary line point := by
    intro point member
    obtain ⟨event, among, rfl | rfl⟩ := mem_cutPoints.mp member
    · exact (boundaries event among).1
    · exact (boundaries event among).2
  obtain ⟨onLine, apart⟩ := lineSpans_apart (byteLength line) events
  have follow : (lineSpans (byteLength line) events).Pairwise
      fun first second => first.stop ≤ second.start := apart.imp And.left
  obtain ⟨pieces, shown, text⟩ := exists_piecesFrom? (Nat.zero_le line.length) follow
    fun span member => ⟨Nat.zero_le _, Nat.le_of_lt (onLine span member).1,
      isBoundary _ (mem_cutPoints_of_mem_lineSpans member).1,
      isBoundary _ (mem_cutPoints_of_mem_lineSpans member).2⟩
  have isShown : pieces? line events = some pieces := shown
  refine ⟨pieces, isShown, ?_, ?_⟩
  · rw [colored?, isShown]
    rfl
  · rw [List.flatMap_append, text]
    rfl

/-- A line with a letter of two bytes, under events that overlap, are turned round, and reach beyond
its end. -/
theorem colored?_keeps_text_umlaut :
    let line := "añb".toList
    let events : List Event := [⟨0, 3, .comment1⟩, ⟨1, 9, .url⟩, ⟨4, 1, .digit⟩]
    (∀ event ∈ events, Text.IsBoundary line (min event.start (byteLength line)) ∧
      Text.IsBoundary line (min event.stop (byteLength line))) ∧
    ∃ pieces, pieces? line events = some pieces ∧
      colored? line events = some (String.join (pieces.map Piece.render) ++ rendition "0" ++
        (Piece.bare ['\n']).render) ∧
      (pieces ++ [Piece.bare ['\n']]).flatMap Piece.text = line ++ ['\n'] := by
  intro line events
  have boundaries : ∀ event ∈ events, Text.IsBoundary line (min event.start (byteLength line)) ∧
      Text.IsBoundary line (min event.stop (byteLength line)) := by
    unfold Text.IsBoundary
    decide +kernel
  exact ⟨boundaries, colored?_keeps_text line events boundaries⟩

end Rendering

end Highlighter
