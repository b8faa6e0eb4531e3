import Highlighter.Proofs.Line.LineStart
import Highlighter.Proofs.Line.LocalActions

/-!
# Matches of lines and of delegated ranges

A line, and a delegated range over all of it, are gone through by two loops.  Both put the matchers
of a mode to one character after the other and go on behind what they match.  They differ in what
they do where a token is passed over.  The line goes on behind the token; the range tries the
matchers that are left, and then those at every character inside the token.  So the two come to the
same matches exactly if there is nothing to be found where the line passes something over.
-/

namespace Highlighter.Line

/-! ## Matches -/

/-- A match: where it starts, where matching goes on behind it, and what it asks to be tagged. -/
structure Claim where
  column : Nat
  stop : Nat
  paintings : List Painting
  deriving DecidableEq

/-- What is found at a character: how much is done with, and what is to be tagged if it is a
match. -/
structure Finding where
  width : Nat
  paintings? : Option (List Painting)

/-- The matches in the rest of a line, which starts at `column` and of which the first `skip`
characters are done with. -/
def claimsFrom (find : Nat → Char → Finding) (column skip : Nat) : (rest : List Char) → List Claim
  | [] => []
  | c :: rest =>
    match skip with
    | skip + 1 => claimsFrom find (column + 1) skip rest
    | 0 =>
      let found := find column c
      let later := claimsFrom find (column + 1) (found.width - 1) rest
      match found.paintings? with
      | none => later
      | some paintings => ⟨column, column + max 1 found.width, paintings⟩ :: later

/-- What a verdict comes to on a line of which so many characters are left. -/
def Verdict.finding (left : Nat) : Verdict → Finding
  | .declined => ⟨1, none⟩
  | .passed width => ⟨width, none⟩
  | .taken width actions => ⟨width, some (actions.filterMap Action.painting?)⟩
  | .endsLine actions => ⟨left, some (actions.filterMap Action.painting?)⟩

/-- What is found at a character of a line. -/
def ownFinding (mode : Mode) (line : List Char) (column : Nat) (c : Char) : Finding :=
  (firstVerdict mode line column (mode.matchersAt c)).finding (line.length - column)

/-- What is found at a character of a delegated range. -/
def rangeFinding (mode : Mode) (line : List Char) (column : Nat) (c : Char) : Finding :=
  match firstClaim? mode line column (mode.matchersAt c) with
  | none => ⟨1, none⟩
  | some (width, paintings) => ⟨width, some paintings⟩

/-- The matches of a line that starts with nothing open. -/
def ownClaims (mode : Mode) (line : List Char) : List Claim :=
  claimsFrom (ownFinding mode line) 0 0 line

/-- The matches of a delegated range over all of a line. -/
def rangeClaims (mode : Mode) (line : List Char) : List Claim :=
  claimsFrom (rangeFinding mode line) 0 0 line

/-! ## Marks -/

/-- The mark of a range, if there is anything to be seen of it. -/
def rangeMarks (line : List Char) (start stop : Nat) (tag : Tag) : List Mark :=
  let stop := min stop line.length
  if stop ≤ start ∨ tag = .null then [] else [⟨start, stop, tag⟩]

/-- The marks of a range that no other mode has a hand in. -/
def Painting.marks (line : List Char) (painting : Painting) : List Mark :=
  if painting.silent then [] else rangeMarks line painting.start painting.stop painting.tag

/-- The marks of a match. -/
def Claim.marks (line : List Char) (claim : Claim) : List Mark :=
  claim.paintings.flatMap (Painting.marks line)

/-- The marks of matches from a column on, with a tag for what lies between them. -/
def filledMarks (line : List Char) (filler : Tag) (start : Nat) : List Claim → List Mark
  | [] => rangeMarks line start line.length filler
  | claim :: claims =>
    rangeMarks line start claim.column filler ++
      (claim.marks line ++ filledMarks line filler claim.stop claims)

theorem rangeMarks_null (line : List Char) (start stop : Nat) :
    rangeMarks line start stop .null = [] := by
  simp [rangeMarks]

theorem rangeMarks_of_le {line : List Char} {start stop : Nat} (none : stop ≤ start) (tag : Tag) :
    rangeMarks line start stop tag = [] := by
  have empty : min stop line.length ≤ start := Nat.le_trans (Nat.min_le_left ..) none
  simp only [rangeMarks, if_pos (Or.inl empty)]

/-- With nothing to fill the gaps, there are the marks of the matches alone. -/
theorem filledMarks_null (line : List Char) (claims : List Claim) : ∀ start : Nat,
    filledMarks line .null start claims = claims.flatMap (Claim.marks line) := by
  induction claims with
  | nil => exact fun start => rangeMarks_null line start line.length
  | cons claim claims ih =>
    intro start
    rw [filledMarks, rangeMarks_null, ih, List.nil_append, List.flatMap_cons]

variable {mode : Mode} {line rest : List Char} {column skip : Nat}

namespace Canvas

variable {delegation : Delegation}

theorem add_marks (line : List Char) (start stop : Nat) (tag : Tag) (canvas : Canvas) :
    (canvas.add line start stop tag).marks = canvas.marks ++ rangeMarks line start stop tag := by
  unfold add rangeMarks
  by_cases nothing : min stop line.length ≤ start ∨ tag = .null
  · simp only [if_pos nothing, List.append_nil]
  · simp only [if_neg nothing]

theorem fill_marks (line : List Char) (fallback : Tag) (unclaimed : Option Nat) (stop : Nat)
    (canvas : Canvas) : (canvas.fill line fallback unclaimed stop).marks =
      canvas.marks ++ rangeMarks line (unclaimed.getD stop) stop fallback := by
  cases unclaimed with
  | none =>
    rw [Option.getD_none, rangeMarks_of_le (Nat.le_refl stop), List.append_nil]
    rfl
  | some start => exact add_marks line start stop fallback canvas

theorem paint_marks {painting : Painting} (own : painting.delegate = none) (canvas : Canvas) :
    (canvas.paint line delegation painting).marks = canvas.marks ++ painting.marks line := by
  unfold paint Painting.marks
  rw [own]
  by_cases silent : painting.silent
  · simp [silent]
  · simp [silent, add_marks, rangeMarks]

theorem paintAll_marks {paintings : List Painting}
    (own : ∀ painting ∈ paintings, painting.delegate = none) : ∀ canvas : Canvas,
    (canvas.paintAll line delegation paintings).marks =
      canvas.marks ++ paintings.flatMap (Painting.marks line) := by
  induction paintings with
  | nil => exact fun canvas => (List.append_nil _).symm
  | cons painting paintings ih =>
    intro canvas
    have later := ih (fun other member => own other (List.mem_cons_of_mem _ member))
      (canvas.paint line delegation painting)
    rw [paint_marks (own painting List.mem_cons_self)] at later
    rw [List.flatMap_cons, ← List.append_assoc, ← later]
    rfl

end Canvas

/-- Where nothing has a delegate, the matches of a delegated range ask for no further delegation. -/
theorem firstClaim?_undelegated {matchers : List Matcher}
    (undelegated : ∀ matcher ∈ matchers, matcher.Undelegated) {width : Nat}
    {paintings : List Painting}
    (claim : firstClaim? mode line column matchers = some (width, paintings)) :
    ∀ painting ∈ paintings, painting.delegate = none := by
  obtain ⟨matcher, listed, actions, rfl, verdict⟩ := firstClaim?_cases claim
  have own := matcherVerdict_undelegated (undelegated matcher listed) mode line column true
  rcases verdict with taken | ⟨ends, -⟩
  · rw [taken] at own
    exact own
  · rw [ends] at own
    exact own

/-- A delegated range over all of a line gets the marks of its matches, and the fallback between
them. -/
theorem Canvas.tagRest_marks (alone : mode.StandsAlone line) (fallback : Tag)
    (delegation : Delegation) (rest : List Char) :
    ∀ (column skip : Nat) (unclaimed : Option Nat) (canvas : Canvas), line.drop column = rest →
      (unclaimed.isSome → skip = 0) →
      (tagRest line mode fallback delegation line.length column skip unclaimed canvas rest).marks =
        canvas.marks ++ filledMarks line fallback (unclaimed.getD (column + skip))
          (claimsFrom (rangeFinding mode line) column skip rest) := by
  induction rest with
  | nil =>
    intro column skip unclaimed canvas place _
    have past : line.length ≤ column := List.drop_eq_nil_iff.mp place
    rw [tagRest, fill_marks, Nat.min_eq_right past, claimsFrom, filledMarks]
    cases unclaimed with
    | none =>
      rw [Option.getD_none, Option.getD_none, rangeMarks_of_le (Nat.le_refl _),
        rangeMarks_of_le (Nat.le_add_right_of_le past)]
    | some start => rfl
  | cons c rest ih =>
    intro column skip unclaimed canvas place waits
    have next : line.drop (column + 1) = rest := Text.drop_succ place
    have onLine : column < line.length := Text.lt_length_of_drop place
    cases skip with
    | succ skip =>
      have taken : unclaimed = none := by
        cases unclaimed with
        | none => rfl
        | some start => cases waits rfl
      subst taken
      have later := ih (column + 1) skip none canvas next (by simp)
      rw [tagRest, later, Option.getD_none, Option.getD_none, Nat.add_right_comm, Nat.add_assoc]
      rfl
    | zero =>
      have listed : c ∈ line := List.mem_of_mem_drop (place ▸ List.mem_cons_self)
      rw [tagRest, if_neg (Nat.not_le.mpr onLine)]
      simp only [claimsFrom, rangeFinding]
      cases claim : firstClaim? mode line column (mode.matchersAt c) with
      | none => exact ih (column + 1) 0 (some (unclaimed.getD column)) canvas next fun _ => rfl
      | some found =>
        obtain ⟨width, paintings⟩ := found
        have own := firstClaim?_undelegated
          (fun matcher member => (alone c listed matcher member).undelegated) claim
        have later := ih (column + 1) (width - 1) none
          ((canvas.fill line fallback unclaimed column).paintAll line delegation paintings) next
          (by simp)
        have behind : column + 1 + (width - 1) = column + max 1 width := by omega
        rw [paintAll_marks own, fill_marks, Option.getD_none, behind] at later
        dsimp only
        rw [later, filledMarks]
        simp only [Claim.marks, Nat.add_zero, List.append_assoc]

/-- A delegated range over all of a line gets the marks of its matches, and between them the default
tag of the mode, or else that of the rule that delegates. -/
theorem delegate_marks (alone : mode.StandsAlone line) (depth : Nat) {name : String}
    {canvas : Canvas} (resolves : (canvas.registry.resolve name).1 = mode) (fallback : Tag) :
    (delegate line (depth + 1) name 0 line.length fallback canvas).marks = canvas.marks ++
      filledMarks line (mode.defaultTag.getD fallback) 0 (rangeClaims mode line) := by
  rw [← resolves] at alone ⊢
  exact Canvas.tagRest_marks alone _ (delegate line depth) line 0 0 none
    { canvas with registry := (canvas.registry.resolve name).2 } rfl (by simp)

namespace Run

variable {options : Options} {run reached : Run}

/-- Where no addresses are looked for, an action tags what it asks for. -/
theorem perform_marks (noUrls : options.highlightUrls = false) {action : Action}
    (ofRule : action.OfRule True) (on : run.suppressed = false) :
    (run.perform options line action).canvas.marks =
      run.canvas.marks ++ action.painting?.toList.flatMap (Painting.marks line) := by
  cases action with
  | paint painting =>
    have own : painting.delegate = none := ofRule trivial
    have painted : (run.canvas.paint line (delegate line options.maxDelegationDepth)
        painting).marks = run.canvas.marks ++ painting.marks line :=
      Canvas.paint_marks own run.canvas
    simpa [perform, paint, on, paintCanvas, noUrls, Action.painting?] using painted
  | arm restart => exact (List.append_nil _).symm
  | close => exact (List.append_nil _).symm
  | switchLanguage name => cases ofRule

theorem performAll_marks (noUrls : options.highlightUrls = false) {actions : List Action}
    (ofRule : AllOfRule True actions) : ∀ {run : Run},
    run.suppressed = false → (run.performAll options line actions).canvas.marks =
      run.canvas.marks ++ (actions.filterMap Action.painting?).flatMap (Painting.marks line) := by
  induction actions with
  | nil => exact fun _ => (List.append_nil _).symm
  | cons action actions ih =>
    intro run on
    have first : (run.perform options line action).canvas.marks =
        run.canvas.marks ++ action.painting?.toList.flatMap (Painting.marks line) :=
      perform_marks noUrls (ofRule action List.mem_cons_self) on
    have stillOn : (run.perform options line action).suppressed = false :=
      perform_unsuppressed (ofRule.ordinary action List.mem_cons_self).keepsColor line on
    have later := ih (fun other member => ofRule other (List.mem_cons_of_mem _ member)) stillOn
    show (performAll options line (run.perform options line action) actions).canvas.marks = _
    rw [later, first, List.append_assoc, ← List.flatMap_append]
    cases action <;> rfl

end Run

/-! ## The two loops -/

section Finders

variable {find : Nat → Char → Finding}

theorem claimsFrom_past {rest : List Char} : ∀ {column skip : Nat}, rest.length ≤ skip →
    claimsFrom find column skip rest = [] := by
  induction rest with
  | nil => exact fun _ => rfl
  | cons c rest ih =>
    intro column skip past
    cases skip with
    | zero => cases past
    | succ skip => exact ih (Nat.le_of_succ_le_succ past)

/-- Matches start behind what is done with. -/
theorem le_column_of_mem_claimsFrom {claim : Claim} {rest : List Char} : ∀ {column skip : Nat},
    claim ∈ claimsFrom find column skip rest → column + skip ≤ claim.column := by
  induction rest with
  | nil => exact fun member => absurd member List.not_mem_nil
  | cons c rest ih =>
    intro column skip member
    cases skip with
    | succ skip =>
      have later := ih member
      omega
    | zero =>
      simp only [claimsFrom] at member
      split at member
      · have later := ih member
        omega
      · rcases List.mem_cons.mp member with rfl | behind
        · exact Nat.le_refl _
        · have later := ih behind
          omega

end Finders

/-- There is no match in a delegated range at the characters of a line from a column on up to
another. -/
def NoClaims (mode : Mode) (line : List Char) (column stop : Nat) : Prop :=
  ∀ place c, column ≤ place → place < stop → Text.charAt? line place = some c →
    firstClaim? mode line place (mode.matchersAt c) = none

/-- Where a line passes a token over at a place, there is no match in a delegated range, at the
place itself or inside the token. -/
def NothingPassed (mode : Mode) (line : List Char) (place : Nat) : Prop :=
  ∀ c width, Text.charAt? line place = some c →
    firstVerdict mode line place (mode.matchersAt c) = .passed width →
    NoClaims mode line place (place + max 1 width)

theorem nothingPassed_iff {place : Nat} {c : Char}
    (present : Text.charAt? line place = some c) : NothingPassed mode line place ↔
      ∀ width, firstVerdict mode line place (mode.matchersAt c) = .passed width →
        NoClaims mode line place (place + max 1 width) := by
  constructor
  · exact fun nothing width passed => nothing c width present passed
  · intro nothing d width there passed
    obtain rfl := Option.some.inj (present.symm.trans there)
    exact nothing width passed

/-- Where there are no matches, a delegated range goes on as if all of it were done with. -/
theorem rangeClaims_skip (rest : List Char) : ∀ (column skip : Nat), line.drop column = rest →
    NoClaims mode line column (column + skip) →
    claimsFrom (rangeFinding mode line) column 0 rest =
      claimsFrom (rangeFinding mode line) column skip rest := by
  induction rest with
  | nil => exact fun _ _ _ _ => rfl
  | cons c rest ih =>
    intro column skip place none
    cases skip with
    | zero => rfl
    | succ skip =>
      have next : line.drop (column + 1) = rest := Text.drop_succ place
      have here := none column c (Nat.le_refl _) (by omega) (Text.charAt?_of_drop place)
      have later := ih (column + 1) skip next fun other d behind before =>
        none other d (by omega) (by omega)
      simp only [claimsFrom, rangeFinding, here]
      exact later

/-- What a delegated range finds before a column is among its matches. -/
theorem exists_claim_before (rest : List Char) : ∀ {column stop place : Nat} {c : Char}
    {found : Nat × List Painting}, line.drop column = rest → column ≤ place → place < stop →
    Text.charAt? line place = some c →
    firstClaim? mode line place (mode.matchersAt c) = some found →
    ∃ claim ∈ claimsFrom (rangeFinding mode line) column 0 rest, claim.column < stop := by
  induction rest with
  | nil =>
    intro column stop place c found isRest behind _ present _
    have past := List.drop_eq_nil_iff.mp isRest
    have onLine := Text.lt_length_of_charAt? present
    omega
  | cons d rest ih =>
    intro column stop place c found isRest behind before present claims
    have next : line.drop (column + 1) = rest := Text.drop_succ isRest
    simp only [claimsFrom, rangeFinding]
    cases claim : firstClaim? mode line column (mode.matchersAt d) with
    | some here => exact ⟨_, List.mem_cons_self, Nat.lt_of_le_of_lt behind before⟩
    | none =>
      have later : column + 1 ≤ place := by
        rcases Nat.lt_or_eq_of_le behind with less | rfl
        · exact less
        · rw [Text.charAt?, isRest] at present
          cases present
          rw [claim] at claims
          cases claims
      exact ih next later before present claims

/-- A delegated range has matches from the end of a token on exactly if it finds nothing up to
there, and has these matches behind. -/
theorem rangeClaims_eq_iff {c : Char} (place : line.drop column = c :: rest) (width : Nat)
    {claims : List Claim} (behind : ∀ claim ∈ claims, column + max 1 width ≤ claim.column) :
    claimsFrom (rangeFinding mode line) column 0 (c :: rest) = claims ↔
      NoClaims mode line column (column + max 1 width) ∧
        claimsFrom (rangeFinding mode line) (column + 1) (width - 1) rest = claims := by
  have skips : NoClaims mode line column (column + max 1 width) →
      claimsFrom (rangeFinding mode line) column 0 (c :: rest) =
        claimsFrom (rangeFinding mode line) (column + 1) (width - 1) rest := by
    intro none
    have width : max 1 width = width - 1 + 1 := by omega
    rw [width] at none
    exact rangeClaims_skip (c :: rest) column _ place none
  constructor
  · intro equal
    -- a match inside the token would be one of the others, which all start behind it
    have none : NoClaims mode line column (column + max 1 width) := by
      intro other d after before present
      rw [Option.eq_none_iff_forall_ne_some]
      intro found claimed
      obtain ⟨claim, member, early⟩ :=
        exists_claim_before (c :: rest) place after before present claimed
      rw [equal] at member
      have late := behind claim member
      omega
    exact ⟨none, (skips none).symm.trans equal⟩
  · rintro ⟨none, onward⟩
    exact (skips none).trans onward

/-- What a matcher that stands alone finds is no other matter in a delegated range. -/
theorem matcherVerdict_nested {matcher : Matcher} (alone : matcher.StandsAlone) :
    matcherVerdict mode line column true matcher =
      matcherVerdict mode line column false matcher := by
  cases matcher with
  | rule rule => rfl
  | directive directive => rcases alone with rfl | rfl <;> rfl

/-- Unless a line passes a token over, a delegated range finds what the line finds. -/
theorem rangeFinding_eq {c : Char} (alone : ∀ matcher ∈ mode.matchersAt c, matcher.StandsAlone) :
    (∃ width, firstVerdict mode line column (mode.matchersAt c) = .passed width) ∨
      rangeFinding mode line column c = ownFinding mode line column c := by
  unfold rangeFinding ownFinding
  generalize mode.matchersAt c = matchers at alone ⊢
  induction matchers with
  | nil => exact .inr rfl
  | cons matcher matchers ih =>
    have others := ih fun other member => alone other (List.mem_cons_of_mem _ member)
    rw [firstVerdict, firstClaim?, matcherVerdict_nested (alone matcher List.mem_cons_self)]
    cases matcherVerdict mode line column false matcher with
    | declined => exact others
    | passed width => exact .inl ⟨width, rfl⟩
    | taken width actions => exact .inr rfl
    | endsLine actions => exact .inr rfl

namespace Run

variable {options : Options} {run : Run}

/-- A line gets the marks of its matches. -/
theorem dispatch_marks (noUrls : options.highlightUrls = false) (alone : mode.StandsAlone line)
    (rest : List Char) : ∀ (column skip : Nat) {run : Run}, run.mode = mode →
    run.suppressed = false → line.drop column = rest →
    (dispatch options line column skip run rest).canvas.marks = run.canvas.marks ++
      (claimsFrom (ownFinding mode line) column skip rest).flatMap (Claim.marks line) := by
  induction rest with
  | nil => exact fun _ _ _ _ _ _ => (List.append_nil _).symm
  | cons c rest ih =>
    intro column skip run inMode on place
    have next : line.drop (column + 1) = rest := Text.drop_succ place
    cases skip with
    | succ skip => exact ih (column + 1) skip inMode on next
    | zero =>
      have listed := alone c (List.mem_of_mem_drop (place ▸ List.mem_cons_self))
      have ofRule : AllOfRule True (firstVerdict mode line column (mode.matchersAt c)).actions :=
        firstVerdict_ofRule listed
      rw [dispatch_cons, inMode]
      simp only [claimsFrom, ownFinding]
      generalize firstVerdict mode line column (mode.matchersAt c) = verdict at ofRule ⊢
      cases verdict with
      | declined => exact ih (column + 1) 0 inMode on next
      | passed width => exact ih (column + 1) (width - 1) inMode on next
      | taken width actions =>
        have kept : (run.step.performAll options line actions).mode = mode :=
          (performAll_mode (ofRule.isLocal trivial) line run.step).trans inMode
        have stillOn : (run.step.performAll options line actions).suppressed = false :=
          performAll_unsuppressed
            (fun action member => (ofRule.ordinary action member).keepsColor) (.inl on)
        have marks : (run.step.performAll options line actions).canvas.marks = _ :=
          performAll_marks noUrls ofRule on
        show (dispatch options line (column + 1) (width - 1)
          (run.step.performAll options line actions) rest).canvas.marks = _
        rw [ih (column + 1) (width - 1) kept stillOn next, marks, List.append_assoc]
        rfl
      | endsLine actions =>
        have length := Text.length_of_drop place
        have last : claimsFrom (ownFinding mode line) (column + 1) (line.length - column - 1) rest =
            [] := claimsFrom_past (by omega)
        have marks : (run.step.performAll options line actions).canvas.marks = _ :=
          performAll_marks noUrls ofRule on
        simp only [Verdict.finding, last, List.flatMap_cons, List.flatMap_nil, List.append_nil]
        exact marks

/-- What holds of all places to which the line comes holds at this one, and of those to which it
comes from where it goes on. -/
theorem forall_comes_cons {holds : Nat → Prop} {c : Char} :
    (∀ place reached, Comes options line column 0 run (c :: rest) place reached → holds place) ↔
      holds column ∧
        match firstVerdict run.mode line column (run.mode.matchersAt c) with
        | .declined => ∀ place reached,
          Comes options line (column + 1) 0 run.step rest place reached → holds place
        | .passed width => ∀ place reached,
          Comes options line (column + 1) (width - 1) run.step rest place reached → holds place
        | .taken width actions => ∀ place reached,
          Comes options line (column + 1) (width - 1) (run.step.performAll options line actions)
            rest place reached → holds place
        | .endsLine _ => True := by
  constructor
  · intro every
    refine ⟨every column run .here, ?_⟩
    split
    · exact fun place reached later => every place reached (.declined ‹_› later)
    · exact fun place reached later => every place reached (.passed ‹_› later)
    · exact fun place reached later => every place reached (.taken ‹_› later)
    · exact trivial
  · rintro ⟨here, every⟩ place reached comes
    cases comes with
    | here => exact here
    | declined verdict later =>
      rw [verdict] at every
      exact every place reached later
    | passed verdict later =>
      rw [verdict] at every
      exact every place reached later
    | taken verdict later =>
      rw [verdict] at every
      exact every place reached later

/-- A delegated range over a line has the matches of the line, from a column on, exactly if there is
nothing to be found where the line passes something over. -/
theorem claims_eq_iff (alone : mode.StandsAlone line) (rest : List Char) :
    ∀ (column skip : Nat) {run : Run}, run.mode = mode → line.drop column = rest →
    (claimsFrom (rangeFinding mode line) column skip rest =
        claimsFrom (ownFinding mode line) column skip rest ↔
      ∀ place reached, Comes options line column skip run rest place reached →
        NothingPassed mode line place) := by
  induction rest with
  | nil =>
    intro column skip run _ _
    refine ⟨fun _ place reached comes => ?_, fun _ => rfl⟩
    cases comes
  | cons c rest ih =>
    intro column skip run inMode place
    have next : line.drop (column + 1) = rest := Text.drop_succ place
    cases skip with
    | succ skip =>
      refine (ih (column + 1) skip inMode next).trans ?_
      constructor
      · intro passes place reached comes
        cases comes with
        | skip later => exact passes place reached later
      · exact fun passes place reached later => passes place reached (.skip later)
    | zero =>
      have listed := alone c (List.mem_of_mem_drop (place ▸ List.mem_cons_self))
      have finds : (∃ width, firstVerdict mode line column (mode.matchersAt c) = .passed width) ∨
          rangeFinding mode line column c = ownFinding mode line column c := rangeFinding_eq listed
      have isLocal : AllLocal (firstVerdict mode line column (mode.matchersAt c)).actions :=
        firstVerdict_local listed
      rw [forall_comes_cons, inMode, nothingPassed_iff (Text.charAt?_of_drop place)]
      cases verdict : firstVerdict mode line column (mode.matchersAt c) with
      | declined =>
        have same := finds.resolve_left (by simp [verdict])
        simp only [claimsFrom, same, ownFinding, verdict, Verdict.finding, reduceCtorEq,
          false_implies, implies_true, true_and]
        exact ih (column + 1) 0 (show run.step.mode = mode from inMode) next
      | taken width actions =>
        have same := finds.resolve_left (by simp [verdict])
        rw [verdict] at isLocal
        have kept : (run.step.performAll options line actions).mode = mode :=
          (performAll_mode isLocal line run.step).trans inMode
        simp only [claimsFrom, same, ownFinding, verdict, Verdict.finding, List.cons.injEq,
          reduceCtorEq, false_implies, implies_true, true_and]
        exact ih (column + 1) (width - 1) kept next
      | endsLine actions =>
        have same := finds.resolve_left (by simp [verdict])
        have length := Text.length_of_drop place
        have last : ∀ find : Nat → Char → Finding,
            claimsFrom find (column + 1) (line.length - column - 1) rest = [] :=
          fun find => claimsFrom_past (by omega)
        simp [claimsFrom, same, ownFinding, verdict, Verdict.finding, last]
      | passed width =>
        have own : claimsFrom (ownFinding mode line) column 0 (c :: rest) =
            claimsFrom (ownFinding mode line) (column + 1) (width - 1) rest := by
          simp only [claimsFrom, ownFinding, verdict, Verdict.finding]
        have behind : ∀ claim ∈ claimsFrom (ownFinding mode line) (column + 1) (width - 1) rest,
            column + max 1 width ≤ claim.column := by
          intro claim member
          have late := le_column_of_mem_claimsFrom member
          omega
        rw [own, rangeClaims_eq_iff place width behind,
          ih (column + 1) (width - 1) (show run.step.mode = mode from inMode) next]
        simp only [Verdict.passed.injEq, forall_eq']

end Run

end Highlighter.Line
