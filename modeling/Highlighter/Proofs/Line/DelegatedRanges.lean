import Highlighter.Proofs.Line.Claims
import Highlighter.Proofs.Text.Boundaries
import Highlighter.Session
import Mathlib.Control.Monad.Basic

/-!
# Where delegated tagging ends

The tags that a delegated range gets start in it, and all of the text that no rule claims is filled
up to its end and no further.  But the rules of the delegate see the whole line.  `Overruns` says
when a delegated range gets a tag that passes a limit: when a rule that matches inside the range
tags text behind the limit, or delegates a range that overruns in turn.
-/

namespace Highlighter.Line

namespace Canvas

/-- Marks are added, which start at a column or behind it and lie on the line; some of them end
behind a limit exactly if `passes` holds. -/
def Adds (line : List Char) (start limit : Nat) (passes : Prop) (before after : Canvas) : Prop :=
  ∃ added, after.marks = before.marks ++ added ∧
    (∀ mark ∈ added, start ≤ mark.start ∧ mark.start < mark.stop ∧ mark.stop ≤ line.length) ∧
    ((∃ mark ∈ added, limit < mark.stop) ↔ passes)

variable {line : List Char} {start limit : Nat} {first second : Prop}
  {before between after canvas : Canvas}

theorem Adds.nothing (line : List Char) (start limit : Nat) {before after : Canvas}
    (same : after.marks = before.marks) : Adds line start limit False before after :=
  ⟨[], by rw [same, List.append_nil], fun _ member => absurd member List.not_mem_nil, by simp⟩

theorem Adds.comp (one : Adds line start limit first before between)
    (two : Adds line start limit second between after) :
    Adds line start limit (first ∨ second) before after := by
  obtain ⟨added, marks, range, passes⟩ := one
  obtain ⟨more, moreMarks, moreRange, morePasses⟩ := two
  refine ⟨added ++ more, by rw [moreMarks, marks, List.append_assoc], ?_, ?_⟩
  · intro mark member
    exact (List.mem_append.mp member).elim (range mark) (moreRange mark)
  · simp only [List.mem_append, or_and_right, exists_or, passes, morePasses]

theorem Adds.congr (adds : Adds line start limit first before after) (same : first ↔ second) :
    Adds line start limit second before after := by
  rwa [propext same] at adds

theorem Adds.from_before (adds : Adds line start limit first before after) {earlier : Nat}
    (isBefore : earlier ≤ start) : Adds line earlier limit first before after := by
  obtain ⟨added, marks, range, passes⟩ := adds
  refine ⟨added, marks, ?_, passes⟩
  intro mark member
  have inside := range mark member
  omega

/-- A range that is tagged passes the limit if there is something to be seen of it behind the
limit. -/
def RangePasses (line : List Char) (limit start stop : Nat) (tag : Tag) : Prop :=
  start < min stop line.length ∧ tag ≠ .null ∧ limit < min stop line.length

theorem add_adds (line : List Char) (start limit stop : Nat) (tag : Tag) (canvas : Canvas) :
    Adds line start limit (RangePasses line limit start stop tag) canvas
      (canvas.add line start stop tag) := by
  unfold add RangePasses
  by_cases nothing : min stop line.length ≤ start ∨ tag = .null
  · simp only [if_pos nothing]
    refine (Adds.nothing line start limit rfl).congr ⟨False.elim, ?_⟩
    rintro ⟨inside, visible, -⟩
    exact nothing.elim (fun empty => absurd inside (Nat.not_lt.mpr empty)) visible
  · simp only [if_neg nothing]
    obtain ⟨inside, visible⟩ := not_or.mp nothing
    have inside := Nat.not_le.mp inside
    refine ⟨[⟨start, min stop line.length, tag⟩], rfl, ?_, ?_⟩
    · intro mark member
      rw [List.mem_singleton.mp member]
      exact ⟨Nat.le_refl _, inside, Nat.min_le_right ..⟩
    · simp [inside, visible]

/-- What is asked of a delegation: its marks start in its range, and pass the limit in the cases
that `nested` gives. -/
def Delegates (line : List Char) (limit : Nat) (delegation : Delegation)
    (nested : String → Nat → Nat → Tag → Canvas → Prop) : Prop :=
  ∀ name start stop fallback canvas,
    Adds line start limit (nested name start stop fallback canvas) canvas
      (delegation name start stop fallback canvas)

/-- A painting passes the limit by itself or by the range that it delegates. -/
def PaintingPasses (line : List Char) (limit : Nat)
    (nested : String → Nat → Nat → Tag → Canvas → Prop) (painting : Painting)
    (canvas : Canvas) : Prop :=
  match painting.delegate with
  | none => painting.silent = false ∧
      RangePasses line limit painting.start (min painting.stop line.length) painting.tag
  | some name => nested name painting.start (min painting.stop line.length) painting.tag canvas

variable {delegation : Delegation} {nested : String → Nat → Nat → Tag → Canvas → Prop}

theorem paint_adds (delegates : Delegates line limit delegation nested) {painting : Painting}
    (behind : start ≤ painting.start) (canvas : Canvas) :
    Adds line start limit (PaintingPasses line limit nested painting canvas) canvas
      (canvas.paint line delegation painting) := by
  unfold paint PaintingPasses
  cases painting.delegate with
  | some name => exact (delegates name _ _ _ canvas).from_before behind
  | none =>
    cases painting.silent with
    | true => exact (Adds.nothing line start limit rfl).congr (by simp)
    | false =>
      exact ((add_adds line painting.start limit _ painting.tag canvas).from_before behind).congr
        (by simp)

/-- One of some paintings passes the limit when its turn comes. -/
def SomePasses (line : List Char) (limit : Nat) (delegation : Delegation)
    (nested : String → Nat → Nat → Tag → Canvas → Prop) (paintings : List Painting)
    (canvas : Canvas) : Prop :=
  ∃ before painting behind, paintings = before ++ painting :: behind ∧
    PaintingPasses line limit nested painting (canvas.paintAll line delegation before)

theorem somePasses_cons {painting : Painting} {paintings : List Painting} :
    SomePasses line limit delegation nested (painting :: paintings) canvas ↔
      PaintingPasses line limit nested painting canvas ∨
        SomePasses line limit delegation nested paintings
          (canvas.paint line delegation painting) := by
  constructor
  · rintro ⟨_ | ⟨other, before⟩, one, behind, split, passes⟩
    · cases split
      exact .inl passes
    · cases split
      exact .inr ⟨before, one, behind, rfl, passes⟩
  · rintro (passes | ⟨before, one, behind, rfl, passes⟩)
    · exact ⟨[], painting, paintings, rfl, passes⟩
    · exact ⟨painting :: before, one, behind, rfl, passes⟩

theorem paintAll_adds (delegates : Delegates line limit delegation nested)
    {paintings : List Painting} (behind : ∀ painting ∈ paintings, start ≤ painting.start)
    (canvas : Canvas) :
    Adds line start limit (SomePasses line limit delegation nested paintings canvas) canvas
      (canvas.paintAll line delegation paintings) := by
  induction paintings generalizing canvas with
  | nil =>
    refine (Adds.nothing line start limit rfl).congr ⟨False.elim, ?_⟩
    rintro ⟨before, painting, behind, split, -⟩
    exact absurd split.symm (List.append_ne_nil_of_right_ne_nil _ (List.cons_ne_nil _ _))
  | cons painting paintings ih =>
    have one := paint_adds delegates (behind painting List.mem_cons_self) canvas
    have rest := ih (fun other member => behind other (List.mem_cons_of_mem _ member))
      (canvas.paint line delegation painting)
    exact (one.comp rest).congr somePasses_cons.symm

/-- Going through the rest of a range comes to a character at which the rules are tried.  By then
the text before it is filled. -/
inductive Reaches (line : List Char) (mode : Mode) (fallback : Tag) (delegation : Delegation)
    (stop : Nat) :
    (column skip : Nat) → (unclaimed : Option Nat) → Canvas → (rest : List Char) →
      (place : Nat) → Char → Canvas → Prop where
  | here {column : Nat} {unclaimed : Option Nat} {canvas : Canvas} {c : Char} {rest : List Char}
      (inside : column < stop) :
      Reaches line mode fallback delegation stop column 0 unclaimed canvas (c :: rest) column c
        (canvas.fill line fallback unclaimed column)
  | skip {column skip place : Nat} {unclaimed : Option Nat} {canvas reached : Canvas} {c d : Char}
      {rest : List Char}
      (later : Reaches line mode fallback delegation stop (column + 1) skip unclaimed canvas rest
        place d reached) :
      Reaches line mode fallback delegation stop column (skip + 1) unclaimed canvas (c :: rest)
        place d reached
  | unclaimed {column place : Nat} {unclaimed : Option Nat} {canvas reached : Canvas} {c d : Char}
      {rest : List Char} (inside : column < stop)
      (nothing : firstClaim? mode line column (mode.matchersAt c) = none)
      (later : Reaches line mode fallback delegation stop (column + 1) 0
        (some (unclaimed.getD column)) canvas rest place d reached) :
      Reaches line mode fallback delegation stop column 0 unclaimed canvas (c :: rest) place d
        reached
  | claimed {column place width : Nat} {unclaimed : Option Nat} {canvas reached : Canvas}
      {c d : Char} {rest : List Char} {paintings : List Painting} (inside : column < stop)
      (claim : firstClaim? mode line column (mode.matchersAt c) = some (width, paintings))
      (later : Reaches line mode fallback delegation stop (column + 1) (width - 1) none
        ((canvas.fill line fallback unclaimed column).paintAll line delegation paintings) rest place
        d reached) :
      Reaches line mode fallback delegation stop column 0 unclaimed canvas (c :: rest) place d
        reached

theorem Reaches.lt {line rest : List Char} {mode : Mode} {fallback : Tag} {delegation : Delegation}
    {stop column skip place : Nat} {unclaimed : Option Nat} {canvas reached : Canvas} {c : Char}
    (reaches : Reaches line mode fallback delegation stop column skip unclaimed canvas rest place c
      reached) : place < stop := by
  induction reaches with
  | here inside => exact inside
  | skip _ ih => exact ih
  | unclaimed _ _ _ ih => exact ih
  | claimed _ _ _ ih => exact ih

/-- At a character behind the limit that is to be filled, or at a match that tags text behind the
limit, the limit is passed. -/
def PassesAt (line : List Char) (limit : Nat) (mode : Mode) (fallback : Tag)
    (delegation : Delegation) (nested : String → Nat → Nat → Tag → Canvas → Prop) (place : Nat)
    (c : Char) (canvas : Canvas) : Prop :=
  match firstClaim? mode line place (mode.matchersAt c) with
  | none => fallback ≠ .null ∧ limit ≤ place
  | some (_, paintings) => SomePasses line limit delegation nested paintings canvas

/-- Somewhere in the rest of a range the limit is passed. -/
def RestPasses (line : List Char) (limit : Nat) (mode : Mode) (fallback : Tag)
    (delegation : Delegation) (nested : String → Nat → Nat → Tag → Canvas → Prop)
    (stop column skip : Nat) (unclaimed : Option Nat) (canvas : Canvas) (rest : List Char) : Prop :=
  ∃ place c reached,
    Reaches line mode fallback delegation stop column skip unclaimed canvas rest place c reached ∧
      PassesAt line limit mode fallback delegation nested place c reached

/-- Text that is waiting to be filled reaches behind the limit. -/
def PendingPasses (limit : Nat) (fallback : Tag) (column : Nat) (unclaimed : Option Nat) : Prop :=
  unclaimed.isSome ∧ fallback ≠ .null ∧ limit < column

variable {mode : Mode} {fallback : Tag} {stop : Nat}

/-- Text that is waiting to be filled lies before a column. -/
def Waits (line : List Char) (start column : Nat) (unclaimed : Option Nat) : Prop :=
  ∀ place, unclaimed = some place → start ≤ place ∧ place < column ∧ column ≤ line.length

theorem fill_adds {column : Nat} {unclaimed : Option Nat}
    (waits : Waits line start column unclaimed) (fallback : Tag) (canvas : Canvas) :
    Adds line start limit (PendingPasses limit fallback column unclaimed) canvas
      (canvas.fill line fallback unclaimed column) := by
  unfold PendingPasses
  cases unclaimed with
  | none => exact (Adds.nothing line start limit rfl).congr (by simp)
  | some place =>
    obtain ⟨behind, before, onLine⟩ := waits place rfl
    have least : min column line.length = column := Nat.min_eq_left onLine
    refine ((add_adds line place limit column fallback canvas).from_before behind).congr ?_
    simp only [RangePasses, least, before, Option.isSome_some, true_and]

variable {column skip : Nat} {unclaimed : Option Nat} {c : Char} {rest : List Char}

theorem restPasses_skip :
    RestPasses line limit mode fallback delegation nested stop column (skip + 1) unclaimed canvas
        (c :: rest) ↔
      RestPasses line limit mode fallback delegation nested stop (column + 1) skip unclaimed canvas
        rest := by
  constructor
  · rintro ⟨place, d, reached, reaches, passes⟩
    cases reaches with
    | skip later => exact ⟨place, d, reached, later, passes⟩
  · rintro ⟨place, d, reached, later, passes⟩
    exact ⟨place, d, reached, .skip later, passes⟩

theorem not_restPasses_of_le (past : stop ≤ column) :
    ¬RestPasses line limit mode fallback delegation nested stop column 0 unclaimed canvas
      (c :: rest) := by
  rintro ⟨place, d, reached, reaches, -⟩
  cases reaches with
  | here inside => omega
  | unclaimed inside _ _ => omega
  | claimed inside _ _ => omega

theorem restPasses_unclaimed (inside : column < stop)
    (nothing : firstClaim? mode line column (mode.matchersAt c) = none) :
    RestPasses line limit mode fallback delegation nested stop column 0 unclaimed canvas
        (c :: rest) ↔
      (fallback ≠ .null ∧ limit ≤ column) ∨
        RestPasses line limit mode fallback delegation nested stop (column + 1) 0
          (some (unclaimed.getD column)) canvas rest := by
  constructor
  · rintro ⟨place, d, reached, reaches, passes⟩
    cases reaches with
    | here _ =>
      rw [PassesAt, nothing] at passes
      exact .inl passes
    | unclaimed _ _ later => exact .inr ⟨place, d, reached, later, passes⟩
    | claimed _ claim _ =>
      rw [nothing] at claim
      cases claim
  · rintro (passes | ⟨place, d, reached, later, passes⟩)
    · exact ⟨column, c, _, .here inside, by rwa [PassesAt, nothing]⟩
    · exact ⟨place, d, reached, .unclaimed inside nothing later, passes⟩

theorem restPasses_claimed {width : Nat} {paintings : List Painting} (inside : column < stop)
    (claim : firstClaim? mode line column (mode.matchersAt c) = some (width, paintings)) :
    RestPasses line limit mode fallback delegation nested stop column 0 unclaimed canvas
        (c :: rest) ↔
      SomePasses line limit delegation nested paintings
          (canvas.fill line fallback unclaimed column) ∨
        RestPasses line limit mode fallback delegation nested stop (column + 1) (width - 1) none
          ((canvas.fill line fallback unclaimed column).paintAll line delegation paintings)
          rest := by
  constructor
  · rintro ⟨place, d, reached, reaches, passes⟩
    cases reaches with
    | here _ =>
      rw [PassesAt, claim] at passes
      exact .inl passes
    | unclaimed _ nothing _ =>
      rw [claim] at nothing
      cases nothing
    | claimed _ other later =>
      rw [claim] at other
      cases other
      exact .inr ⟨place, d, reached, later, passes⟩
  · rintro (passes | ⟨place, d, reached, later, passes⟩)
    · exact ⟨column, c, _, .here inside, by rwa [PassesAt, claim]⟩
    · exact ⟨place, d, reached, .claimed inside claim later, passes⟩

/-- Going through the rest of a range adds marks from its start on, and passes the limit exactly if
the text that is waiting does or a character somewhere in the rest does. -/
theorem tagRest_adds (delegates : Delegates line limit delegation nested) (mode : Mode)
    (fallback : Tag) (stop : Nat) {rest : List Char} : ∀ (column skip : Nat)
    (unclaimed : Option Nat) (canvas : Canvas), rest = line.drop column → start ≤ column →
    Waits line start column unclaimed →
    (unclaimed.isSome → skip = 0 ∧ column ≤ stop) →
    Adds line start limit
      (PendingPasses limit fallback column unclaimed ∨
        RestPasses line limit mode fallback delegation nested stop column skip unclaimed canvas
          rest)
      canvas (tagRest line mode fallback delegation stop column skip unclaimed canvas rest) := by
  have atEnd : ∀ {column : Nat} {unclaimed : Option Nat} (canvas : Canvas),
      Waits line start column unclaimed → (unclaimed.isSome → column ≤ stop) →
      Adds line start limit (PendingPasses limit fallback column unclaimed) canvas
        (canvas.fill line fallback unclaimed (min column stop)) := by
    intro column unclaimed canvas waits inRange
    cases unclaimed with
    | none => exact (Adds.nothing line start limit rfl).congr (by simp [PendingPasses])
    | some place =>
      rw [Nat.min_eq_left (inRange rfl)]
      exact fill_adds waits fallback canvas
  induction rest with
  | nil =>
    intro column skip unclaimed canvas _ _ waits inRange
    refine (atEnd canvas waits fun some => (inRange some).2).congr ?_
    refine ⟨Or.inl, fun either => either.elim id ?_⟩
    rintro ⟨place, c, reached, reaches, -⟩
    cases reaches
  | cons c rest ih =>
    intro column skip unclaimed canvas isRest behind waits inRange
    have isNext : rest = line.drop (column + 1) := (Text.drop_succ isRest.symm).symm
    have onLine : column < line.length := Text.lt_length_of_drop isRest.symm
    have nothingWaits : Waits line start (column + 1) none := fun _ some => nomatch some
    cases skip with
    | succ skip =>
      have taken : unclaimed = none := by
        cases unclaimed with
        | none => rfl
        | some place => exact absurd (inRange rfl).1 (Nat.succ_ne_zero skip)
      subst taken
      have later := ih (column + 1) skip none canvas isNext (Nat.le_succ_of_le behind) nothingWaits
        (fun some => nomatch some)
      rw [tagRest]
      refine later.congr ?_
      rw [restPasses_skip]
      simp [PendingPasses]
    | zero =>
      rw [tagRest]
      split
      · rename_i past
        refine (atEnd canvas waits fun some => (inRange some).2).congr ?_
        simp [not_restPasses_of_le past]
      · rename_i notPast
        have inside : column < stop := Nat.not_le.mp notPast
        split
        · rename_i nothing
          have waitsOn : Waits line start (column + 1) (some (unclaimed.getD column)) := by
            rintro place same
            cases same
            cases unclaimed with
            | none => exact ⟨behind, Nat.lt_succ_self column, onLine⟩
            | some place =>
              obtain ⟨inRange, before, -⟩ := waits place rfl
              exact ⟨inRange, Nat.lt_succ_of_lt before, onLine⟩
          have later := ih (column + 1) 0 (some (unclaimed.getD column)) canvas isNext
            (Nat.le_succ_of_le behind) waitsOn (fun _ => ⟨rfl, inside⟩)
          refine later.congr ?_
          rw [restPasses_unclaimed inside nothing]
          -- text that waits behind the limit is joined by this character, which is behind it too
          have joins : PendingPasses limit fallback column unclaimed →
              fallback ≠ .null ∧ limit ≤ column := by
            rintro ⟨-, visible, passes⟩
            exact ⟨visible, Nat.le_of_lt passes⟩
          simp only [PendingPasses, Option.isSome_some, true_and, Nat.lt_succ_iff, ← or_assoc]
          exact or_congr_left ⟨Or.inr, fun either => either.elim joins id⟩
        · rename_i width paintings claim
          have filled : Adds line start limit (PendingPasses limit fallback column unclaimed) canvas
              (canvas.fill line fallback unclaimed column) := fill_adds waits fallback canvas
          have claimed : ∀ painting ∈ paintings, start ≤ painting.start := fun painting member =>
            Nat.le_trans behind (firstClaim?_from onLine claim painting member)
          have painted := paintAll_adds delegates claimed
            (canvas.fill line fallback unclaimed column)
          have later := ih (column + 1) (width - 1) none
            ((canvas.fill line fallback unclaimed column).paintAll line delegation paintings) isNext
            (Nat.le_succ_of_le behind) nothingWaits (fun some => nomatch some)
          refine ((filled.comp painted).comp later).congr ?_
          rw [restPasses_claimed inside claim]
          simp [PendingPasses, or_assoc]

end Canvas

open Canvas (Adds Delegates RangePasses PassesAt Reaches RestPasses SomePasses)

/-- A delegated range gets a tag that ends behind a limit: at the deepest level by itself, and else
at one of the characters at which the rules of the delegate are tried. -/
def Overruns (line : List Char) (limit : Nat) :
    (depth : Nat) → (name : String) → (start stop : Nat) → (fallback : Tag) → Canvas → Prop
  | 0 => fun _ start stop fallback _ => RangePasses line limit start stop fallback
  | depth + 1 => fun name start stop fallback canvas =>
    let (mode, registry) := canvas.registry.resolve name
    RestPasses line limit mode (mode.defaultTag.getD fallback) (delegate line depth)
      (Overruns line limit depth) stop start 0 none { canvas with registry } (line.drop start)

/-- A rule that matches inside a delegated range tags text behind the end of the range, be it by
itself or by a range that it delegates. -/
def MatchOverruns (line : List Char) :
    (depth : Nat) → (name : String) → (start stop : Nat) → (fallback : Tag) → Canvas → Prop
  | 0 => fun _ _ _ _ _ => False
  | depth + 1 => fun name start stop fallback canvas =>
    let (mode, registry) := canvas.registry.resolve name
    ∃ place c reached width paintings,
      Reaches line mode (mode.defaultTag.getD fallback) (delegate line depth) stop start 0 none
        { canvas with registry } (line.drop start) place c reached ∧
      firstClaim? mode line place (mode.matchersAt c) = some (width, paintings) ∧
      SomePasses line stop (delegate line depth) (Overruns line stop depth) paintings reached

/-- What overruns the end of a delegated range is a match: the range itself is cut there, and so is
the text in it that is to be filled. -/
theorem overruns_stop_iff (line : List Char) (depth : Nat) (name : String) (start stop : Nat)
    (fallback : Tag) (canvas : Canvas) :
    Overruns line stop depth name start stop fallback canvas ↔
      MatchOverruns line depth name start stop fallback canvas := by
  cases depth with
  | zero =>
    simp only [Overruns, MatchOverruns, RangePasses, iff_false]
    omega
  | succ depth =>
    simp only [Overruns, MatchOverruns, RestPasses]
    constructor
    · rintro ⟨place, c, reached, reaches, passes⟩
      unfold PassesAt at passes
      split at passes
      · exact absurd passes.2 (Nat.not_le.mpr reaches.lt)
      · rename_i width paintings claim
        exact ⟨place, c, reached, width, paintings, reaches, claim, passes⟩
    · rintro ⟨place, c, reached, width, paintings, reaches, claim, passes⟩
      exact ⟨place, c, reached, reaches, by rwa [PassesAt, claim]⟩

theorem delegate_adds (line : List Char) (limit depth : Nat) :
    Delegates line limit (delegate line depth) (Overruns line limit depth) := by
  induction depth with
  | zero =>
    intro name start stop fallback canvas
    exact Canvas.add_adds line start limit stop fallback canvas
  | succ depth ih =>
    intro name start stop fallback canvas
    have rest := Canvas.tagRest_adds ih (canvas.registry.resolve name).1
      ((canvas.registry.resolve name).1.defaultTag.getD fallback) stop start 0 none
      { canvas with registry := (canvas.registry.resolve name).2 } rfl (Nat.le_refl start)
      (fun _ some => nomatch some) (fun some => nomatch some)
    exact rest.congr (by simp [Canvas.PendingPasses, Overruns])

/-- Tagging a delegated range adds marks that start in the range and lie on the line.  They all end
in the range exactly if no rule that matches there tags text behind its end, be it by itself or by a
range that it delegates. -/
theorem delegate_within_iff (line : List Char) (depth : Nat) (name : String) (start stop : Nat)
    (fallback : Tag) (canvas : Canvas) :
    ∃ added, (delegate line depth name start stop fallback canvas).marks =
        canvas.marks ++ added ∧
      (∀ mark ∈ added, start ≤ mark.start ∧ mark.start < mark.stop ∧ mark.stop ≤ line.length) ∧
      ((∀ mark ∈ added, mark.stop ≤ stop) ↔
        ¬Overruns line stop depth name start stop fallback canvas) ∧
      (Overruns line stop depth name start stop fallback canvas ↔
        MatchOverruns line depth name start stop fallback canvas) := by
  obtain ⟨added, marks, range, passes⟩ :=
    delegate_adds line stop depth name start stop fallback canvas
  refine ⟨added, marks, range, ?_, overruns_stop_iff line depth name start stop fallback canvas⟩
  rw [← passes]
  simp

/-- A language whose parentheses hold another one, with comments up to the end of the line. -/
def commented : Library where
  files := .ofList [("t", {
    rulesets := [
      ("main", { rules := [{ spec := .span "(" ")" "markup" (some "t::inner") false {} {} }] }),
      ("inner", { rules := [{ spec := .eolSpan "#" "comment1" none false {} }] })] })]

/-- A comment between parentheses runs on behind the closing one. -/
theorem not_delegate_within :
    let line := "(# x) y".toList
    (delegate line 16 "t::inner" 1 4 .markup ⟨⟨commented, false, .empty⟩, []⟩).marks =
        [⟨1, 7, .comment1⟩] ∧
      (((Session.new commented ⟨false, 16⟩).setLanguage "t").2.tagLine ⟨2, 1⟩ line).1 =
        .ok ⟨[⟨0, 1, .markup⟩, ⟨1, 7, .comment1⟩, ⟨4, 5, .markup⟩], ⟨2, 1⟩, none, 4⟩ := by
  decide +kernel

end Highlighter.Line
