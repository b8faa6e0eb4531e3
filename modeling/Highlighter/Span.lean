import Highlighter.Tag
import Highlighter.Text.Basic

/-!
# Ranges of a line

A `Mark` is a tagged range of a line in columns, as the library works it out; an `Event` is the same
range in byte offsets, as the library reports it.

Events of a line may overlap, and where they do the later one wins.  `lineSpans` flattens them into
styled spans that follow each other: the ends of all events cut the line into elementary stretches,
each stretch takes the style of the last event over it, and touching stretches of one style join.
-/

namespace Highlighter

/-! ## Tagged ranges -/

/-- A tagged range of a line, in columns from `start` up to but not including `stop`. -/
structure Mark where
  start : Nat
  stop : Nat
  tag : Tag
  deriving DecidableEq, Repr

/-- A tagged range of a line, in byte offsets from `start` up to but not including `stop`
(`TagEvent`). -/
structure Event where
  start : Nat
  stop : Nat
  tag : Tag
  deriving DecidableEq, Repr

/-- The report of a mark on a line. -/
def Mark.toEvent (line : List Char) (mark : Mark) : Event :=
  ⟨Text.byteOffset line mark.start, Text.byteOffset line mark.stop, mark.tag⟩

namespace Event

/-- Whether the event covers the byte at `offset`. -/
def covers (event : Event) (offset : Nat) : Bool :=
  event.start ≤ offset && offset < event.stop

/-- The text of the event, if its ends are boundaries of characters of the line
(`TagEvent.slice`). -/
def slice? (event : Event) (line : List Char) : Option (List Char) :=
  Text.slice? line event.start event.stop

end Event

/-! ## Styled spans -/

/-- A stretch of a line with one style, in byte offsets. -/
structure Span where
  start : Nat
  stop : Nat
  style : Style
  deriving DecidableEq, Repr

namespace Span

/-- Whether the byte at `offset` lies in the span (`Span.contains`). -/
def contains (span : Span) (offset : Nat) : Bool :=
  span.start ≤ offset && offset < span.stop

/-- Whether the span holds no byte (`Span.is_empty`). -/
def isEmpty (span : Span) : Bool :=
  span.stop ≤ span.start

/-- Joins a span with those after it for as long as they touch and look the same. -/
def joinOnto (current : Span) : List Span → List Span
  | [] => [current]
  | next :: rest =>
    if current.stop = next.start ∧ current.style = next.style then
      joinOnto { current with stop := next.stop } rest
    else current :: joinOnto next rest

/-- Joins touching spans of one style. -/
def join : List Span → List Span
  | [] => []
  | first :: rest => joinOnto first rest

end Span

/-- Puts a number into an ascending list, unless it is there. -/
def insertAscending (n : Nat) : List Nat → List Nat
  | [] => [n]
  | m :: rest =>
    if n < m then n :: m :: rest
    else if n = m then m :: rest
    else m :: insertAscending n rest

/-- The ends of all events, cut to the length of the line, in ascending order and each once (the
bounds of `line_spans`). -/
def cutPoints (length : Nat) (events : List Event) : List Nat :=
  events.foldr
    (fun event points =>
      insertAscending (min event.start length) (insertAscending (min event.stop length) points)) []

/-- The style of the last event that covers the whole of a stretch. -/
def styleOver? (events : List Event) (start stop : Nat) : Option Style :=
  (events.reverse.find? fun event => event.start ≤ start && stop ≤ event.stop).map (·.tag.style)

/-- The stretches between neighbouring cut points that some event covers, with their styles. -/
def stretches (events : List Event) : List Nat → List Span
  | start :: stop :: rest =>
    let others := stretches events (stop :: rest)
    match styleOver? events start stop with
    | some style => ⟨start, stop, style⟩ :: others
    | none => others
  | _ => []

/-- The styled spans of a line of `length` bytes (`line_spans`).  Text without an event is in no
span. -/
def lineSpans (length : Nat) (events : List Event) : List Span :=
  Span.join (stretches events (cutPoints length events))

end Highlighter
