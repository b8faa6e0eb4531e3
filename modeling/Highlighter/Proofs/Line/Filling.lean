import Highlighter.Proofs.Line.Inserting
import Highlighter.Proofs.Line.Rows
import Highlighter.Proofs.Session.Consulting

/-!
# Filling the gaps

The matches of a delegated range claim stretches of it.  What is left are gaps, the longest runs of
characters that no match claims.  If there is a tag to fill them, each gap gets one mark, behind the
marks of the match before it and in front of those of the match behind it.
-/

namespace Highlighter.Line

/-! ## Parts of a range -/

/-- A part of a delegated range: a gap, or a stretch that a match claims, with its marks. -/
inductive Part where
  | gap (first last : Nat)
  | claimed (claim : Claim) (marks : List Mark)
  deriving DecidableEq

namespace Part

/-- Where a part starts. -/
def start : Part → Nat
  | gap first _ => first
  | claimed claim _ => claim.column

/-- Where a part ends. -/
def stop : Part → Nat
  | gap _ last => last
  | claimed claim _ => claim.stop

/-- The marks of a part, with a tag for gaps. -/
def marks (filler : Tag) : Part → List Mark
  | gap first last => [⟨first, last, filler⟩]
  | claimed _ marks => marks

/-- The match of a part with its marks, if it is not a gap. -/
def claimed? : Part → Option (Claim × List Mark)
  | gap .. => none
  | claimed claim marks => some (claim, marks)

end Part

/-- The gap between two columns, if there is any. -/
def gapBetween (start stop : Nat) : List Part :=
  if start < stop then [.gap start stop] else []

/-- The parts of a range, from left to right. -/
def partsBetween (start stop : Nat) : List (Claim × List Mark) → List Part
  | [] => gapBetween start stop
  | (claim, marks) :: painted =>
    gapBetween start claim.column ++ .claimed claim marks :: partsBetween claim.stop stop painted

/-- The matches of a delegated range, in order. -/
def claimsBetween (mode : Mode) (line : List Char) (start stop : Nat) : List Claim :=
  claimsFrom (rangeFinding mode line) start 0 ((line.take stop).drop start)

/-- Matches with the marks that they get, one after the other. -/
def paintedClaims (line : List Char) (delegation : Delegation) (registry : Registry) :
    List Claim → List (Claim × List Mark)
  | [] => []
  | claim :: claims =>
    let painted := Canvas.paintAll line delegation claim.paintings ⟨registry, []⟩
    (claim, painted.marks) :: paintedClaims line delegation painted.registry claims

/-- A match claims a place. -/
def Claimed (claims : List Claim) (place : Nat) : Prop :=
  ∃ claim ∈ claims, claim.column ≤ place ∧ place < claim.stop

/-- A longest run of places of a range that no match claims. -/
structure IsGap (claims : List Claim) (start stop first last : Nat) : Prop where
  behind : start ≤ first
  some : first < last
  before : last ≤ stop
  unclaimed : ∀ place, first ≤ place → place < last → ¬Claimed claims place
  startsThere : start < first → Claimed claims (first - 1)
  stopsThere : last < stop → Claimed claims last

variable {mode : Mode} {line : List Char} {start stop : Nat} {claim : Claim} {claims : List Claim}
  {painted : List (Claim × List Mark)}

/-! ## Matches in order -/

/-- Matches start in a range, each of them behind the end of the one before. -/
def ClaimsInOrder (start stop : Nat) : List Claim → Prop
  | [] => True
  | claim :: claims => start ≤ claim.column ∧ claim.column < stop ∧ claim.column < claim.stop ∧
      ClaimsInOrder claim.stop stop claims

theorem ClaimsInOrder.widen (inOrder : ClaimsInOrder start stop claims) {earlier : Nat}
    (before : earlier ≤ start) : ClaimsInOrder earlier stop claims := by
  cases claims with
  | nil => exact trivial
  | cons claim claims => exact ⟨Nat.le_trans before inOrder.1, inOrder.2⟩

theorem ClaimsInOrder.mem (inOrder : ClaimsInOrder start stop claims) (member : claim ∈ claims) :
    start ≤ claim.column ∧ claim.column < stop ∧ claim.column < claim.stop := by
  induction claims generalizing start with
  | nil => cases member
  | cons first claims ih =>
    obtain ⟨before, inside, some, later⟩ := inOrder
    rcases List.mem_cons.mp member with rfl | member
    · exact ⟨before, inside, some⟩
    · obtain ⟨behind, rest⟩ := ih later member
      exact ⟨Nat.le_trans before (Nat.le_trans (Nat.le_of_lt some) behind), rest⟩

theorem claimsFrom_inOrder (find : Nat → Char → Finding) (rest : List Char) :
    ∀ {column : Nat} (skip : Nat), rest.length ≤ stop - column →
    ClaimsInOrder (column + skip) stop (claimsFrom find column skip rest) := by
  induction rest with
  | nil => exact fun _ _ => trivial
  | cons c rest ih =>
    intro column skip within
    rw [List.length_cons] at within
    have onward : ∀ skip, ClaimsInOrder (column + 1 + skip) stop
        (claimsFrom find (column + 1) skip rest) := fun skip => ih skip (by omega)
    cases skip with
    | succ skip =>
      have later := onward skip
      rwa [Nat.add_right_comm] at later
    | zero =>
      have later := onward ((find column c).width - 1)
      simp only [claimsFrom]
      split
      · exact later.widen (by omega)
      · have ends : column + 1 + ((find column c).width - 1) =
            column + max 1 (find column c).width := by omega
        exact ⟨Nat.le_refl _, show column < stop by omega, Nat.lt_add_of_pos_right (by omega),
          ends ▸ later⟩

theorem claimsBetween_inOrder (mode : Mode) (line : List Char) (start stop : Nat) :
    ClaimsInOrder start stop (claimsBetween mode line start stop) := by
  have within : ((line.take stop).drop start).length ≤ stop - start := by
    rw [List.length_drop, List.length_take]
    omega
  exact claimsFrom_inOrder (rangeFinding mode line) _ 0 within

/-- A match in a delegated range is what the first matcher finds that finds something. -/
theorem firstClaim?_of_mem {rest : List Char} : ∀ {column skip : Nat},
    claim ∈ claimsFrom (rangeFinding mode line) column skip rest →
    ∃ c width, claim.stop = claim.column + max 1 width ∧
      firstClaim? mode line claim.column (mode.matchersAt c) = some (width, claim.paintings) := by
  induction rest with
  | nil => exact fun member => absurd member List.not_mem_nil
  | cons c rest ih =>
    intro column skip member
    cases skip with
    | succ skip => exact ih member
    | zero =>
      simp only [claimsFrom] at member
      split at member
      · exact ih member
      · rename_i paintings found
        rcases List.mem_cons.mp member with rfl | later
        · refine ⟨c, (rangeFinding mode line column c).width, rfl, ?_⟩
          simp only [rangeFinding] at found ⊢
          split at found
          · cases found
          · cases found
            assumption
        · exact ih later

/-! ## Gaps -/

theorem claimed_cons {place : Nat} : Claimed (claim :: claims) place ↔
    (claim.column ≤ place ∧ place < claim.stop) ∨ Claimed claims place := by
  simp [Claimed]

/-- Before all matches nothing is claimed. -/
theorem ClaimsInOrder.not_claimed (inOrder : ClaimsInOrder start stop claims) {place : Nat}
    (before : place < start) : ¬Claimed claims place := by
  rintro ⟨claim, member, starts, -⟩
  have behind := (inOrder.mem member).1
  omega

theorem mem_gapBetween {first last : Nat} :
    .gap first last ∈ gapBetween start stop ↔ first = start ∧ last = stop ∧ start < stop := by
  unfold gapBetween
  split <;> rename_i some <;> simp [some]

theorem isGap_nil {first last : Nat} :
    IsGap [] start stop first last ↔ first = start ∧ last = stop ∧ start < stop := by
  have nowhere : ∀ place, ¬Claimed [] place := by simp [Claimed]
  constructor
  · intro gap
    have first_eq := Nat.le_antisymm (Nat.not_lt.mp fun late => nowhere _ (gap.startsThere late))
      gap.behind
    have last_eq := Nat.le_antisymm gap.before
      (Nat.not_lt.mp fun early => nowhere _ (gap.stopsThere early))
    have some := gap.some
    exact ⟨first_eq, last_eq, by omega⟩
  · rintro ⟨rfl, rfl, some⟩
    exact ⟨Nat.le_refl _, some, Nat.le_refl _, fun place _ _ => nowhere place,
      fun absurdly => absurd absurdly (Nat.lt_irrefl _),
      fun absurdly => absurd absurdly (Nat.lt_irrefl _)⟩

/-- A gap before a match goes up to it, and one behind it is one of what is left. -/
theorem isGap_cons {first last : Nat} (inOrder : ClaimsInOrder start stop (claim :: claims)) :
    IsGap (claim :: claims) start stop first last ↔
      (first = start ∧ last = claim.column ∧ start < claim.column) ∨
        IsGap claims claim.stop stop first last := by
  obtain ⟨behindStart, beforeStop, some, later⟩ := inOrder
  have notYet : ∀ {place}, place < claim.stop → ¬Claimed claims place := later.not_claimed
  constructor
  · intro gap
    have nonempty := gap.some
    have starts := gap.startsThere
    have stops := gap.stopsThere
    have unclaimed := gap.unclaimed
    have inside := gap.behind
    have within := gap.before
    simp only [claimed_cons] at starts stops unclaimed
    by_cases early : first < claim.column
    · have ends : last ≤ claim.column := Nat.not_lt.mp fun overlaps =>
        unclaimed claim.column (Nat.le_of_lt early) overlaps (.inl ⟨Nat.le_refl _, some⟩)
      refine .inl ⟨?_, ?_, by omega⟩
      · refine Nat.le_antisymm (Nat.not_lt.mp fun late => ?_) inside
        rcases starts late with here | there
        · omega
        · exact notYet (by omega) there
      · refine Nat.le_antisymm ends (Nat.not_lt.mp fun short => ?_)
        rcases stops (by omega) with here | there
        · omega
        · exact notYet (by omega) there
    · have late : claim.stop ≤ first := Nat.not_lt.mp fun overlaps =>
        unclaimed first (Nat.le_refl _) nonempty (.inl ⟨Nat.not_lt.mp early, overlaps⟩)
      refine .inr ⟨late, nonempty, within, ?_, ?_, ?_⟩
      · exact fun place after before claimed => unclaimed place after before (.inr claimed)
      · intro past
        rcases starts (by omega) with here | there
        · omega
        · exact there
      · intro short
        rcases stops short with here | there
        · omega
        · exact there
  · rintro (⟨rfl, rfl, nonempty⟩ | gap)
    · refine ⟨Nat.le_refl _, nonempty, Nat.le_of_lt beforeStop, ?_,
        fun absurdly => absurd absurdly (Nat.lt_irrefl _), ?_⟩
      · intro place after before claimed
        rcases claimed_cons.mp claimed with here | there
        · omega
        · exact notYet (by omega) there
      · exact fun _ => claimed_cons.mpr (.inl ⟨Nat.le_refl _, some⟩)
    · have after := gap.behind
      refine ⟨by omega, gap.some, gap.before, ?_, ?_, ?_⟩
      · intro place starts before claimed
        rcases claimed_cons.mp claimed with here | there
        · omega
        · exact gap.unclaimed place starts before there
      · intro late
        by_cases directly : first = claim.stop
        · exact claimed_cons.mpr (.inl (by omega))
        · exact claimed_cons.mpr (.inr (gap.startsThere (by omega)))
      · exact fun short => claimed_cons.mpr (.inr (gap.stopsThere short))

/-- The gaps among the parts of a range are the longest runs that no match claims. -/
theorem mem_partsBetween_iff {first last : Nat} : ∀ {start : Nat},
    ClaimsInOrder start stop (painted.map Prod.fst) →
    (.gap first last ∈ partsBetween start stop painted ↔
      IsGap (painted.map Prod.fst) start stop first last) := by
  induction painted with
  | nil =>
    intro start _
    rw [partsBetween, mem_gapBetween, List.map_nil, isGap_nil]
  | cons first painted ih =>
    obtain ⟨claim, marks⟩ := first
    intro start inOrder
    rw [List.map_cons, isGap_cons inOrder, partsBetween, List.mem_append, mem_gapBetween,
      List.mem_cons, ih inOrder.2.2.2]
    simp

/-- The stretches that are claimed are the matches, in order. -/
theorem filterMap_partsBetween (painted : List (Claim × List Mark)) : ∀ start : Nat,
    (partsBetween start stop painted).filterMap Part.claimed? = painted := by
  have noClaim : ∀ start stop, (gapBetween start stop).filterMap Part.claimed? = [] := by
    intro start stop
    unfold gapBetween
    split <;> rfl
  induction painted with
  | nil => exact fun start => noClaim start stop
  | cons first painted ih =>
    obtain ⟨claim, marks⟩ := first
    intro start
    rw [partsBetween, List.filterMap_append, noClaim, List.nil_append]
    exact congrArg ((claim, marks) :: ·) (ih claim.stop)

theorem of_mem_gapBetween {part : Part} (member : part ∈ gapBetween start stop) :
    start < stop ∧ part.start = start ∧ part.stop = stop := by
  unfold gapBetween at member
  split at member
  · rename_i some
    rw [List.mem_singleton.mp member]
    exact ⟨some, rfl, rfl⟩
  · cases member

/-- No part of a range is empty or starts before it. -/
theorem of_mem_partsBetween {part : Part} : ∀ {start : Nat},
    ClaimsInOrder start stop (painted.map Prod.fst) → part ∈ partsBetween start stop painted →
    start ≤ part.start ∧ part.start < part.stop := by
  have ofGap : ∀ {start stop : Nat}, part ∈ gapBetween start stop →
      start ≤ part.start ∧ part.start < part.stop := by
    intro start stop member
    obtain ⟨some, starts, stops⟩ := of_mem_gapBetween member
    omega
  induction painted with
  | nil => exact fun _ member => ofGap member
  | cons first painted ih =>
    obtain ⟨claim, marks⟩ := first
    intro start inOrder member
    obtain ⟨before, -, some, later⟩ := inOrder
    rcases List.mem_append.mp member with gap | rest
    · exact ofGap gap
    · rcases List.mem_cons.mp rest with rfl | behind
      · exact ⟨before, some⟩
      · obtain ⟨starts, nonempty⟩ := ih later behind
        exact ⟨Nat.le_trans before (Nat.le_trans (Nat.le_of_lt some) starts), nonempty⟩

/-- The parts of a range follow each other. -/
theorem partsBetween_pairwise : ∀ {start : Nat},
    ClaimsInOrder start stop (painted.map Prod.fst) →
    (partsBetween start stop painted).Pairwise fun part other => part.stop ≤ other.start := by
  have lone : ∀ start stop, (gapBetween start stop).Pairwise
      fun part other => part.stop ≤ other.start := by
    intro start stop
    unfold gapBetween
    split
    · exact List.pairwise_singleton ..
    · exact .nil
  induction painted with
  | nil => exact fun _ => lone _ _
  | cons first painted ih =>
    obtain ⟨claim, marks⟩ := first
    intro start inOrder
    obtain ⟨-, -, some, later⟩ := inOrder
    have behind : ∀ part ∈ partsBetween claim.stop stop painted, claim.stop ≤ part.start :=
      fun part member => (of_mem_partsBetween later member).1
    refine List.pairwise_append.mpr ⟨lone _ _, List.pairwise_cons.mpr ⟨behind, ih later⟩, ?_⟩
    intro part gap other member
    rw [(of_mem_gapBetween gap).2.2]
    rcases List.mem_cons.mp member with rfl | member
    · exact Nat.le_refl _
    · exact Nat.le_trans (Nat.le_of_lt some) (behind other member)

/-! ## Marks -/

variable {delegation : Delegation} {filler : Tag}

theorem map_fst_paintedClaims (line : List Char) (delegation : Delegation) (claims : List Claim) :
    ∀ registry : Registry,
      (paintedClaims line delegation registry claims).map Prod.fst = claims := by
  induction claims with
  | nil => exact fun _ => rfl
  | cons claim claims ih => exact fun registry => congrArg (claim :: ·) (ih _)

/-- A tag that is not plain marks a gap that ends on the line. -/
theorem rangeMarks_eq_gap (visible : filler ≠ .null) (onLine : stop ≤ line.length) :
    rangeMarks line start stop filler = (gapBetween start stop).flatMap (Part.marks filler) := by
  unfold rangeMarks gapBetween
  rw [Nat.min_eq_left onLine]
  by_cases some : start < stop
  · simp [some, visible, Part.marks]
  · simp [some, Nat.not_lt.mp some]

theorem claimsFrom_succ (find : Nat → Char → Finding) (column skip : Nat) (rest : List Char) :
    claimsFrom find column (skip + 1) rest = claimsFrom find (column + 1) skip rest.tail := by
  cases rest <;> rfl

theorem Canvas.fill_eq (line : List Char) (fallback : Tag) (unclaimed : Option Nat) (stop : Nat)
    (canvas : Canvas) : canvas.fill line fallback unclaimed stop =
      ⟨canvas.registry, canvas.marks ++
        rangeMarks line (unclaimed.getD stop) stop fallback⟩ := by
  rw [← fill_marks, ← fill_registry line fallback unclaimed stop canvas]

/-- Going through a range adds the marks of its parts. -/
theorem Canvas.tagRest_parts (each : ∀ name start stop fallback,
    Appends (delegation name start stop fallback)) (visible : filler ≠ .null)
    (onLine : stop ≤ line.length) (mode : Mode) (rest : List Char) :
    ∀ (column skip : Nat) (unclaimed : Option Nat) (canvas : Canvas), line.drop column = rest →
      (unclaimed.isSome → skip = 0 ∧ column ≤ stop) →
      (tagRest line mode filler delegation stop column skip unclaimed canvas rest).marks =
        canvas.marks ++ (partsBetween (unclaimed.getD (column + skip)) stop
          (paintedClaims line delegation canvas.registry
            (claimsFrom (rangeFinding mode line) column skip
              ((line.take stop).drop column)))).flatMap (Part.marks filler) := by
  have filled : ∀ {column skip : Nat} {unclaimed : Option Nat} (canvas : Canvas),
      stop ≤ column → (unclaimed.isSome → skip = 0 ∧ column ≤ stop) →
      (canvas.fill line filler unclaimed (min column stop)).marks = canvas.marks ++
        (gapBetween (unclaimed.getD (column + skip)) stop).flatMap (Part.marks filler) := by
    intro column skip unclaimed canvas past waits
    rw [fill_marks, Nat.min_eq_right past, rangeMarks_eq_gap visible onLine]
    cases unclaimed with
    | none => simp [gapBetween, show ¬column + skip < stop by omega]
    | some first => rfl
  have ended : ∀ {column : Nat}, stop ≤ column → (line.take stop).drop column = [] := by
    intro column past
    refine List.drop_eq_nil_of_le ?_
    rw [List.length_take]
    omega
  induction rest with
  | nil =>
    intro column skip unclaimed canvas place waits
    have past : stop ≤ column := Nat.le_trans onLine (List.drop_eq_nil_iff.mp place)
    rw [tagRest, filled canvas past waits, ended past]
    rfl
  | cons c rest ih =>
    intro column skip unclaimed canvas place waits
    have next : line.drop (column + 1) = rest := Text.drop_succ place
    cases skip with
    | succ skip =>
      have taken : unclaimed = none := by
        cases unclaimed with
        | none => rfl
        | some first => cases (waits rfl).1
      subst taken
      have later := ih (column + 1) skip none canvas next (by simp)
      rw [tagRest, later, claimsFrom_succ, List.tail_drop, Option.getD_none, Option.getD_none,
        Nat.add_right_comm, Nat.add_assoc]
    | zero =>
      rw [tagRest]
      by_cases past : stop ≤ column
      · rw [if_pos past, filled canvas past waits, ended past]
        rfl
      · have inside : column < stop := Nat.not_le.mp past
        have here : (line.take stop).drop column = c :: (line.take stop).drop (column + 1) := by
          rw [List.drop_take, place, List.drop_take, next,
            show stop - column = stop - (column + 1) + 1 by omega, List.take_succ_cons]
        rw [if_neg past, here]
        simp only [claimsFrom, rangeFinding]
        cases claim : firstClaim? mode line column (mode.matchersAt c) with
        | none =>
          exact ih (column + 1) 0 (some (unclaimed.getD column)) canvas next fun _ => ⟨rfl, inside⟩
        | some found =>
          obtain ⟨width, paintings⟩ := found
          have behind : column + 1 + (width - 1) = column + max 1 width := by omega
          have onLineHere : column ≤ line.length := Nat.le_trans (Nat.le_of_lt inside) onLine
          have work : Appends (paintAll line delegation paintings) :=
            (appends_composes line).paintAll each paintings
          have painted := work canvas.registry
            (canvas.marks ++ rangeMarks line (unclaimed.getD column) column filler)
          rw [← fill_eq, rangeMarks_eq_gap visible onLineHere] at painted
          dsimp only
          rw [ih (column + 1) (width - 1) none _ next (by simp), painted]
          simp only [paintedClaims, partsBetween, List.flatMap_append, List.flatMap_cons,
            Part.marks, Option.getD_none, behind, Nat.add_zero, List.append_assoc]

/-- The marks of matches that ask for no delegation lie in rows. -/
theorem paintedClaims_inRow {relation : Mark → Mark → Prop}
    (follows : ∀ {mark other : Mark}, mark.Precedes other → relation mark other) :
    ∀ {registry : Registry},
    (∀ claim ∈ claims, (∀ painting ∈ claim.paintings, painting.delegate = none) ∧
      InOrder claim.column claim.stop (claim.paintings.map Painting.range)) →
    ∀ entry ∈ paintedClaims line delegation registry claims,
      InRow relation entry.1.column entry.1.stop entry.2 := by
  induction claims with
  | nil => exact fun _ entry member => absurd member List.not_mem_nil
  | cons claim claims ih =>
    intro registry each entry member
    obtain ⟨own, inOrder⟩ := each claim List.mem_cons_self
    rcases List.mem_cons.mp member with rfl | later
    · dsimp only
      rw [Canvas.paintAll_marks own]
      exact flatMap_inRow follows (fun _ order => Painting.marks_inRow order) inOrder
    · exact ih (fun other member => each other (List.mem_cons_of_mem _ member)) entry later

theorem gapBetween_inRow {relation : Mark → Mark → Prop} (order : start ≤ stop) (filler : Tag) :
    InRow relation start stop ((gapBetween start stop).flatMap (Part.marks filler)) := by
  unfold gapBetween
  split
  · exact .single order (Nat.le_refl _) (Nat.le_refl _)
  · exact .nil order

/-- If those of each match do, the marks of all parts of a range lie in a row. -/
theorem partsBetween_inRow {relation : Mark → Mark → Prop}
    (follows : ∀ {mark other : Mark}, mark.Precedes other → relation mark other) (filler : Tag) :
    ∀ {start : Nat}, ClaimsInOrder start stop (painted.map Prod.fst) →
    (∀ entry ∈ painted, InRow relation entry.1.column entry.1.stop entry.2) →
    ∃ bound, InRow relation start bound
      ((partsBetween start stop painted).flatMap (Part.marks filler)) := by
  induction painted with
  | nil =>
    intro start _ _
    by_cases order : start ≤ stop
    · exact ⟨stop, gapBetween_inRow order filler⟩
    · refine ⟨start, ?_⟩
      simp only [partsBetween, gapBetween, if_neg (show ¬start < stop by omega)]
      exact .nil (Nat.le_refl _)
  | cons first painted ih =>
    obtain ⟨claim, marks⟩ := first
    intro start inOrder rows
    obtain ⟨before, -, -, later⟩ := inOrder
    obtain ⟨bound, rest⟩ := ih later fun entry member => rows entry (List.mem_cons_of_mem _ member)
    have here : InRow relation claim.column claim.stop marks := rows _ List.mem_cons_self
    refine ⟨bound, ?_⟩
    rw [partsBetween, List.flatMap_append, List.flatMap_cons]
    exact (gapBetween_inRow before filler).append follows (here.append follows rest)

/-- Take a range of a line that is delegated to a mode with a tag for what no rule of the mode
matches, on a level at which the mode is asked.  The loop that puts fillers in before the marks of
the next match does the same as the one that adds them first.  It adds the marks of the parts of the
range, from left to right: those of the matches, and one mark for each longest run that no match
claims.  If no rule of the mode delegates further, each mark that is added ends before the next one
starts. -/
theorem delegate_fills (line : List Char) (canvas : Canvas) (name : String) (start stop : Nat)
    (fallback : Tag) (depth : Nat) (onLine : stop ≤ line.length)
    (visible : (canvas.registry.resolve name).1.defaultTag.getD fallback ≠ .null) :
    let mode := (canvas.registry.resolve name).1
    let registry := (canvas.registry.resolve name).2
    let filler := mode.defaultTag.getD fallback
    let claims := claimsBetween mode line start stop
    let painted := paintedClaims line (delegate line depth) registry claims
    let parts := partsBetween start stop painted
    let added := parts.flatMap (Part.marks filler)
    let after := delegate line (depth + 1) name start stop fallback canvas
    after = delegateInserting line (depth + 1) name start stop fallback canvas ∧
    after.marks = canvas.marks ++ added ∧
    parts.filterMap Part.claimed? = painted ∧ painted.map Prod.fst = claims ∧
    parts.Pairwise (fun part other => part.stop ≤ other.start) ∧
    (∀ part ∈ parts, part.start < part.stop) ∧
    (∀ first last, .gap first last ∈ parts ↔ IsGap claims start stop first last) ∧
    (mode.Undelegated → (added.map (Mark.toEvent line)).Pairwise fun event other =>
      event.stop ≤ other.start) := by
  intro mode registry filler claims painted parts added after
  have sameClaims : painted.map Prod.fst = claims := map_fst_paintedClaims line _ claims registry
  have inOrder : ClaimsInOrder start stop (painted.map Prod.fst) :=
    sameClaims ▸ claimsBetween_inOrder mode line start stop
  refine ⟨?_, ?_, filterMap_partsBetween painted start, sameClaims, partsBetween_pairwise inOrder,
    fun part member => (of_mem_partsBetween inOrder member).2, ?_, ?_⟩
  · rw [delegateInserting_eq]
  · exact Canvas.tagRest_parts ((Canvas.appends_composes line).delegate depth) visible onLine mode
      (line.drop start) start 0 none { canvas with registry } rfl (by simp)
  · exact fun first last => sameClaims ▸ mem_partsBetween_iff inOrder
  · intro undelegated
    have rows : ∀ entry ∈ painted,
        InRow Mark.Precedes entry.1.column entry.1.stop entry.2 := by
      refine paintedClaims_inRow id fun claim member => ?_
      obtain ⟨c, width, ends, finds⟩ := firstClaim?_of_mem member
      have onLineThere : claim.column < line.length :=
        Nat.lt_of_lt_of_le ((claimsBetween_inOrder mode line start stop).mem member).2.1 onLine
      exact ⟨firstClaim?_undelegated undelegated.matchersAt finds,
        (firstClaim?_inOrder onLineThere finds).widen (Nat.le_refl _) (by omega)⟩
    obtain ⟨bound, row⟩ := partsBetween_inRow id filler inOrder rows
    exact List.pairwise_map.mpr (row.related.imp fun precedes => Text.byteOffset_mono line precedes)

/-- A language whose parentheses hold sums, with a tag for what is added up. -/
def sums : Library where
  files := .ofList [("t", {
    rulesets := [
      ("main", { rules := [{ spec := .span "(" ")" "markup" (some "t::sum") false {} {} }] }),
      ("sum", {
        attributes := { default := some "literal1" }
        rules := [{ spec := .seq "+" "operator" none {} }] })] })]

/-- The two letters around a plus are filled, the first of which takes two bytes. -/
theorem delegate_fills_sum :
    let line := "(é+b)".toList
    let canvas : Canvas := ⟨⟨sums, false, .empty⟩, []⟩
    let mode := (canvas.registry.resolve "t::sum").1
    let claims := claimsBetween mode line 1 4
    (delegate line 16 "t::sum" 1 4 .markup canvas).marks =
        [⟨1, 2, .literal1⟩, ⟨2, 3, .operator⟩, ⟨3, 4, .literal1⟩] ∧
      IsGap claims 1 4 1 2 ∧ IsGap claims 1 4 3 4 ∧ ¬IsGap claims 1 4 2 3 := by
  intro line canvas mode claims
  obtain ⟨-, marks, -, -, -, -, gaps, -⟩ := delegate_fills line canvas "t::sum" 1 4 .markup 15
    (by with_unfolding_all decide) (by with_unfolding_all decide)
  refine ⟨marks.trans (by with_unfolding_all decide), ?_, ?_, ?_⟩
  · exact (gaps 1 2).mp (by with_unfolding_all decide)
  · exact (gaps 3 4).mp (by with_unfolding_all decide)
  · exact mt (gaps 2 3).mpr (by with_unfolding_all decide)

end Highlighter.Line
