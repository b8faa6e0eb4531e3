import Highlighter.Proofs.Line.RangeClaims

/-!
# Marks in a row

Marks lie in a row between two columns if each of them stands in a given relation to those behind
it.  If the relation holds of marks of which one ends before the other starts, rows between columns
that follow each other are one row.  The ranges that a match tags are in order, so the marks of a
match that asks for no delegation lie in a row up to the end of the match.
-/

namespace Highlighter

/-- A mark ends before another one starts. -/
def Mark.Precedes (mark other : Mark) : Prop :=
  mark.stop ≤ other.start

instance : DecidableRel Mark.Precedes :=
  fun mark other => inferInstanceAs (Decidable (mark.stop ≤ other.start))

/-- Marks lie between two columns, each of them in a relation to those behind it. -/
structure InRow (relation : Mark → Mark → Prop) (start stop : Nat) (marks : List Mark) : Prop where
  order : start ≤ stop
  inside : ∀ mark ∈ marks, start ≤ mark.start ∧ mark.stop ≤ stop
  related : marks.Pairwise relation

namespace InRow

variable {relation : Mark → Mark → Prop} {start between stop : Nat} {marks others : List Mark}

theorem nil (order : start ≤ stop) : InRow relation start stop [] :=
  ⟨order, fun _ member => absurd member List.not_mem_nil, .nil⟩

theorem single {mark : Mark} (order : start ≤ stop) (behind : start ≤ mark.start)
    (before : mark.stop ≤ stop) : InRow relation start stop [mark] :=
  ⟨order, List.forall_mem_singleton.mpr ⟨behind, before⟩, List.pairwise_singleton ..⟩

theorem widen (row : InRow relation start stop marks) {earlier later : Nat}
    (before : earlier ≤ start) (behind : stop ≤ later) : InRow relation earlier later marks where
  order := Nat.le_trans before (Nat.le_trans row.order behind)
  inside := by
    intro mark member
    obtain ⟨first, last⟩ := row.inside mark member
    exact ⟨Nat.le_trans before first, Nat.le_trans last behind⟩
  related := row.related

/-- A row and a row behind it are one row. -/
theorem append (follows : ∀ {mark other : Mark}, mark.Precedes other → relation mark other)
    (one : InRow relation start between marks) (two : InRow relation between stop others) :
    InRow relation start stop (marks ++ others) where
  order := Nat.le_trans one.order two.order
  inside := by
    intro mark member
    rcases List.mem_append.mp member with first | second
    · exact (one.widen (Nat.le_refl _) two.order).inside mark first
    · exact (two.widen one.order (Nat.le_refl _)).inside mark second
  related := by
    refine List.pairwise_append.mpr ⟨one.related, two.related, fun mark first other second => ?_⟩
    exact follows (Nat.le_trans (one.inside mark first).2 (two.inside other second).1)

end InRow

namespace Line

variable {relation : Mark → Mark → Prop} {line : List Char} {start stop : Nat}

theorem rangeMarks_inRow (order : start ≤ stop) (tag : Tag) :
    InRow relation start stop (rangeMarks line start stop tag) := by
  unfold rangeMarks
  dsimp only
  split
  · exact .nil order
  · exact .single order (Nat.le_refl _) (Nat.min_le_left ..)

theorem Painting.marks_inRow {painting : Painting} (order : painting.start ≤ painting.stop) :
    InRow relation painting.start painting.stop (painting.marks line) := by
  unfold Painting.marks
  split
  · exact .nil order
  · exact rangeMarks_inRow order _

/-- What has its marks in ranges that follow each other has them in a row. -/
theorem flatMap_inRow {α : Type} {range : α → Nat × Nat} {marks : α → List Mark}
    (follows : ∀ {mark other : Mark}, mark.Precedes other → relation mark other)
    (each : ∀ item, (range item).1 ≤ (range item).2 →
      InRow relation (range item).1 (range item).2 (marks item))
    {items : List α} (inOrder : InOrder start stop (items.map range)) :
    InRow relation start stop (items.flatMap marks) := by
  induction items generalizing start with
  | nil => exact .nil inOrder
  | cons item items ih =>
    obtain ⟨before, order, later⟩ := inOrder
    have first : InRow relation start (range item).2 (marks item) :=
      (each item order).widen before (Nat.le_refl _)
    exact first.append follows (ih later)

end Line

end Highlighter
