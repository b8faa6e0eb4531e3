import Highlighter.Proofs.Guarded.Matching

/-!
# What is claimed

A match asks for ranges of the line to be tagged.  They follow each other from the column of the
match on, and end where the match ends.  So do the ranges that the start of a line asks for.  Where
a match ends is another matter: matchers see the whole line, also in a delegated range.
-/

namespace Highlighter.Line

/-- What a verdict asks for. -/
def Verdict.actions : Verdict → List Action
  | .taken _ actions => actions
  | .endsLine actions => actions
  | .declined => []
  | .passed _ => []

/-! ## Ranges in order -/

/-- Ranges follow each other between two columns. -/
def InOrder (start stop : Nat) : List (Nat × Nat) → Prop
  | [] => start ≤ stop
  | (first, last) :: ranges => start ≤ first ∧ first ≤ last ∧ InOrder last stop ranges

section

variable {start stop : Nat} {ranges : List (Nat × Nat)}

theorem InOrder.le (inOrder : InOrder start stop ranges) : start ≤ stop := by
  induction ranges generalizing start with
  | nil => exact inOrder
  | cons range ranges ih =>
    obtain ⟨before, order, later⟩ := inOrder
    exact Nat.le_trans before (Nat.le_trans order (ih later))

/-- Ranges in order are in order between columns further apart. -/
theorem InOrder.widen (inOrder : InOrder start stop ranges) {earlier later : Nat}
    (before : earlier ≤ start) (behind : stop ≤ later) : InOrder earlier later ranges := by
  induction ranges generalizing start earlier with
  | nil => exact Nat.le_trans before (Nat.le_trans inOrder behind)
  | cons range ranges ih =>
    obtain ⟨first, order, rest⟩ := inOrder
    exact ⟨Nat.le_trans before first, order, ih rest (Nat.le_refl _)⟩

theorem InOrder.mem (inOrder : InOrder start stop ranges) {range : Nat × Nat}
    (member : range ∈ ranges) : start ≤ range.1 ∧ range.1 ≤ range.2 ∧ range.2 ≤ stop := by
  induction ranges generalizing start with
  | nil => cases member
  | cons first ranges ih =>
    obtain ⟨before, order, rest⟩ := inOrder
    rcases List.mem_cons.mp member with rfl | later
    · exact ⟨before, order, rest.le⟩
    · obtain ⟨behind, inside⟩ := ih rest later
      exact ⟨Nat.le_trans before (Nat.le_trans order behind), inside⟩

end

/-- The range that is to be tagged. -/
def Painting.range (painting : Painting) : Nat × Nat :=
  (painting.start, painting.stop)

/-- The ranges that are to be tagged follow each other between two columns. -/
def PaintsInOrder (start stop : Nat) (actions : List Action) : Prop :=
  InOrder start stop ((actions.filterMap Action.painting?).map Painting.range)

/-- A match at a column of a line tags ranges in order, up to its end. -/
def Verdict.InOrderFrom (line : List Char) (column : Nat) : Verdict → Prop
  | .taken width actions => PaintsInOrder column (column + width) actions
  | .endsLine actions => PaintsInOrder column line.length actions
  | .declined => True
  | .passed _ => True

/-- The start of a line tags ranges in order, up to where matching goes on or the line ends. -/
def Resumption.InOrderOn (line : List Char) : Resumption → Prop
  | .at stop actions => PaintsInOrder 0 stop actions
  | .done actions => PaintsInOrder 0 line.length actions

variable {mode : Mode} {line : List Char} {column inside : Nat}

/-! ## Rules -/

theorem paintSpan_inOrder (form : SpanForm) {start closing stop : Nat} (opening : start ≤ inside)
    (closed : inside ≤ closing) (ends : closing ≤ stop) (others : List Action)
    (noPaint : others.filterMap Action.painting? = []) :
    PaintsInOrder start stop (paintSpan form start inside closing stop ++ others) := by
  unfold PaintsInOrder paintSpan
  split
  · simp [Action.painting?, Painting.range, InOrder, noPaint, opening, closed, ends]
  · have whole : start ≤ stop := Nat.le_trans opening (Nat.le_trans closed ends)
    split <;>
      simp [Action.painting?, Painting.range, InOrder, noPaint, opening, closed, ends, whole]

theorem spanVerdict_inOrder (form : SpanForm) (opening : column ≤ inside)
    (onLine : inside ≤ line.length) :
    (spanVerdict mode line column inside form).InOrderFrom line column := by
  unfold spanVerdict
  split
  · exact trivial
  · rename_i closing found
    have closed := (Guarded.findSpanEnd_found onLine found).1
    have paints := paintSpan_inOrder form opening closed
      (Nat.le_add_right closing form.stop.length) [.close] rfl
    exact InOrder.widen paints (Nat.le_refl _) (by omega)
  · exact paintSpan_inOrder form opening onLine (Nat.le_refl _) _ rfl

theorem enclosedVerdict_inOrder (form : SpanForm) (opening : column ≤ inside) :
    (enclosedVerdict mode line column inside form).InOrderFrom line column := by
  unfold enclosedVerdict
  split
  · exact trivial
  · rename_i closing found
    dsimp only
    split
    · exact trivial
    · have closed := (Guarded.find?_prefix found).1
      have paints := paintSpan_inOrder form opening closed
        (Nat.le_add_right closing form.stop.length) [] rfl
      rw [List.append_nil] at paints
      exact InOrder.widen paints (Nat.le_refl _) (by omega)

theorem bodyVerdict_inOrder (opening : column ≤ inside) (onLine : inside ≤ line.length)
    (body : Body) : (bodyVerdict mode line column inside body).InOrderFrom line column := by
  cases body with
  | token tag delegate =>
    simp [bodyVerdict, Verdict.InOrderFrom, PaintsInOrder, Action.painting?, Painting.range,
      InOrder, opening]
  | span form => exact spanVerdict_inOrder form opening onLine
  | enclosed form => exact enclosedVerdict_inOrder form opening
  | restOfLine tag delegate excludeMatch =>
    have whole : column ≤ line.length := Nat.le_trans opening onLine
    have ends : column + (line.length - column) = line.length := by omega
    simp only [bodyVerdict, restOfLineVerdict, Verdict.InOrderFrom, PaintsInOrder, ends]
    split
    · simp [Action.painting?, Painting.range, InOrder, opening, onLine]
    · cases excludeMatch <;>
        simp [Action.painting?, Painting.range, InOrder, opening, onLine, whole]
  | nextWord tag excludeMatch =>
    have behind : inside ≤ mode.wordChars.scan line inside := Nat.le_add_right ..
    have ends : column + (mode.wordChars.scan line inside - column) =
        mode.wordChars.scan line inside := by omega
    simp only [bodyVerdict]
    split
    · exact trivial
    · simp [Verdict.InOrderFrom, PaintsInOrder, Action.painting?, Painting.range, InOrder, opening,
        behind, ends]
  | patternBehind tag pattern patternTag excludeMatch =>
    simp only [bodyVerdict]
    split
    · exact trivial
    · have ends : ∀ width, column + (inside + width - column) = inside + width := by omega
      simp [Verdict.InOrderFrom, PaintsInOrder, Action.painting?, Painting.range, InOrder, opening,
        ends]

theorem keywordsVerdict_inOrder (mode : Mode) (line : List Char) (column : Nat) :
    (keywordsVerdict mode line column).InOrderFrom line column := by
  have behind : column ≤ mode.keywordChars.scan line column := Nat.le_add_right ..
  have ends : column + (mode.keywordChars.scan line column - column) =
      mode.keywordChars.scan line column := by omega
  unfold keywordsVerdict
  split
  · exact trivial
  · dsimp only
    split
    · exact trivial
    · split
      · simp [Verdict.InOrderFrom, PaintsInOrder, Action.painting?, Painting.range, InOrder, behind,
          ends]
      · split
        · simp [Verdict.InOrderFrom, PaintsInOrder, Action.painting?, Painting.range, InOrder,
            behind, ends]
        · exact trivial

/-- An opening ends on the line. -/
theorem opening_onLine (onLine : column < line.length) {opener : Opener} {anchors : Anchors}
    {width : Nat} (opens : openingWidth? mode line column opener anchors = some width) :
    column + width ≤ line.length := by
  cases opener with
  | literal literal => exact literal_opening_le onLine opens
  | pattern pattern =>
    have bound := Guarded.lengthAt_le pattern line column
    rw [List.length_drop] at bound
    rw [openingWidth?] at opens
    split at opens
    · split at opens
      · cases opens
      · cases opens
        omega
    · cases opens

/-- A rule tags ranges in order from the column at which it matches. -/
theorem ruleVerdict_inOrder (onLine : column < line.length) (mode : Mode) (rule : Rule) :
    (ruleVerdict mode line column rule).InOrderFrom line column := by
  unfold ruleVerdict
  split
  · exact trivial
  · exact keywordsVerdict_inOrder mode line column
  · split
    · exact trivial
    · rename_i width opens
      exact bodyVerdict_inOrder (Nat.le_add_right ..) (opening_onLine onLine opens) _

/-! ## Directives -/

theorem leoKeywordsVerdict_inOrder (onLine : column < line.length) (mode : Mode) :
    (leoKeywordsVerdict mode line column).InOrderFrom line column := by
  unfold leoKeywordsVerdict
  split
  · exact trivial
  · have behind : column + 1 ≤ skipWhile (fun c => mode.wordChars.contains c || c == '-') line
        (column + 1) := Nat.le_add_right ..
    have ends := Guarded.skipWhile_le (fun c => mode.wordChars.contains c || c == '-')
      (show column + 1 ≤ line.length from onLine)
    dsimp only
    generalize skipWhile (fun c => mode.wordChars.contains c || c == '-') line (column + 1) = stop
      at behind ends
    split
    · exact trivial
    · split
      · simp only [Verdict.InOrderFrom, PaintsInOrder, paintDirective, List.filterMap,
          Action.painting?, List.map, Painting.range, InOrder]
        omega
      · split
        · simp only [Verdict.InOrderFrom, PaintsInOrder, List.filterMap, Action.painting?,
            List.map, Painting.range, InOrder]
          omega
        · exact trivial

theorem sectionRefVerdict_inOrder (line : List Char) (column : Nat) :
    (sectionRefVerdict line column).InOrderFrom line column := by
  unfold sectionRefVerdict
  split
  · split
    · exact trivial
    · rename_i closing found
      have behind := (Guarded.find?_prefix found).1
      simp only [Verdict.InOrderFrom, PaintsInOrder, List.filterMap, Action.painting?, List.map,
        Painting.range, InOrder]
      omega
  · exact trivial

theorem languageDirective_inOrder (line : List Char) :
    PaintsInOrder 0 (languageDirective line).1 (languageDirective line).2 := by
  have behind : "@language".length ≤ (languageDirective line).1 :=
    Nat.le_trans (Nat.le_add_right ..) (Nat.le_add_right ..)
  exact ⟨Nat.le_refl _, Nat.zero_le _, behind⟩

theorem docPartVerdict_inOrder (line : List Char) : (docPartVerdict line).InOrderFrom line 0 := by
  have paints : ∀ width, width ≤ line.length → PaintsInOrder 0 line.length [
      paintDirective 0 width, .paint { start := width, stop := line.length, tag := .docPart },
      .arm .docPart] :=
    fun width onLine => ⟨Nat.le_refl _, Nat.zero_le _, Nat.le_refl _, onLine, Nat.le_refl _⟩
  unfold docPartVerdict
  dsimp only
  split
  · exact trivial
  · rename_i width found
    refine paints width ?_
    split at found
    · rename_i starts
      cases found
      exact (prefix_of_startsWithWord starts).length_le
    · split at found
      · split at found
        · cases found
          exact Nat.le_add_left ..
        · cases found
      · cases found

theorem lineStartVerdict_inOrder (line : List Char) (directive : Directive) :
    (lineStartVerdict line directive).InOrderFrom line 0 := by
  have unpainted : ∀ restart, PaintsInOrder 0 line.length [.arm restart] :=
    fun _ => Nat.zero_le _
  cases directive with
  | docPart => exact docPartVerdict_inOrder line
  | wrap =>
    simp only [lineStartVerdict]
    split
    · simp [Verdict.InOrderFrom, PaintsInOrder, paintDirective, Action.painting?, Painting.range,
        InOrder]
    · exact trivial
  | noColorNode =>
    simp only [lineStartVerdict]
    split
    · exact unpainted _
    · exact trivial
  | noColor =>
    simp only [lineStartVerdict]
    split
    · exact unpainted _
    · exact trivial
  | language =>
    simp only [lineStartVerdict]
    split
    · simpa [Verdict.InOrderFrom] using languageDirective_inOrder line
    · exact trivial
  | killColor =>
    simp only [lineStartVerdict]
    split
    · exact unpainted _
    · exact trivial
  | color =>
    simp only [lineStartVerdict]
    split
    · exact ⟨Nat.le_refl _, Nat.zero_le _, Nat.le_add_left ..⟩
    · exact trivial
  | leoKeywords => exact trivial
  | sectionRef => exact trivial
  | url => exact trivial

/-- A directive tags ranges in order from the column at which it matches. -/
theorem directiveVerdict_inOrder (onLine : column < line.length) (mode : Mode) (nested : Bool)
    (directive : Directive) :
    (directiveVerdict mode line column nested directive).InOrderFrom line column := by
  have atStart : (if column = 0 && !nested then lineStartVerdict line directive
      else .declined).InOrderFrom line column := by
    split
    · rename_i first
      have isFirst : column = 0 := of_decide_eq_true (Bool.and_eq_true_iff.mp first).1
      exact isFirst ▸ lineStartVerdict_inOrder line directive
    · exact trivial
  cases directive with
  | leoKeywords => exact leoKeywordsVerdict_inOrder onLine mode
  | sectionRef => exact sectionRefVerdict_inOrder line column
  | url =>
    simp only [directiveVerdict]
    split
    · exact trivial
    · simp [Verdict.InOrderFrom, PaintsInOrder, Action.painting?, Painting.range, InOrder]
  | _ => exact atStart

/-! ## Matches -/

/-- Whatever is tried at a column of a line tags ranges in order from this column. -/
theorem matcherVerdict_inOrder (onLine : column < line.length) (mode : Mode) (nested : Bool)
    (matcher : Matcher) :
    (matcherVerdict mode line column nested matcher).InOrderFrom line column := by
  cases matcher with
  | directive directive => exact directiveVerdict_inOrder onLine mode nested directive
  | rule rule => exact ruleVerdict_inOrder onLine mode rule

theorem firstVerdict_inOrder (onLine : column < line.length) (mode : Mode)
    (matchers : List Matcher) :
    (firstVerdict mode line column matchers).InOrderFrom line column := by
  induction matchers with
  | nil => exact trivial
  | cons matcher matchers ih =>
    rw [firstVerdict]
    split
    · exact ih
    · exact matcherVerdict_inOrder onLine mode false matcher

/-- What is claimed at a column of the line is tagged in order, up to the end of the match. -/
theorem firstClaim?_inOrder (onLine : column < line.length) {matchers : List Matcher} {width : Nat}
    {paintings : List Painting}
    (claim : firstClaim? mode line column matchers = some (width, paintings)) :
    InOrder column (column + width) (paintings.map Painting.range) := by
  obtain ⟨matcher, -, actions, rfl, verdict⟩ := firstClaim?_cases claim
  have inOrder := matcherVerdict_inOrder onLine mode true matcher
  rcases verdict with taken | ⟨ends, rfl⟩
  · rw [taken] at inOrder
    exact inOrder
  · rw [ends] at inOrder
    rw [Nat.add_sub_cancel' (Nat.le_of_lt onLine)]
    exact inOrder

/-- What is claimed at a column of the line is tagged from this column on. -/
theorem firstClaim?_from (onLine : column < line.length) {matchers : List Matcher} {width : Nat}
    {paintings : List Painting}
    (claim : firstClaim? mode line column matchers = some (width, paintings)) :
    ∀ painting ∈ paintings, column ≤ painting.start :=
  fun _ member =>
    ((firstClaim?_inOrder onLine claim).mem (List.mem_map_of_mem (f := Painting.range) member)).1

/-- What becomes of a line at its start tags ranges in order. -/
theorem resume_inOrder (mode : Mode) (line : List Char) (restart : Restart) :
    (resume mode line restart).InOrderOn line := by
  have unpainted : ∀ restart stop, PaintsInOrder 0 stop [.arm restart] :=
    fun _ _ => Nat.zero_le _
  cases restart with
  | clear => exact Nat.le_refl 0
  | span form =>
    simp only [resume, resumeSpan]
    split
    · rename_i closing found
      exact paintSpan_inOrder form (Nat.le_refl _) (Nat.zero_le _) (Nat.le_add_right ..) _ rfl
    · exact paintSpan_inOrder form (Nat.le_refl _) (Nat.zero_le _) (Nat.le_refl _) _ rfl
  | docPart =>
    have closedBy : ∀ word : String,
        PaintsInOrder 0 word.length [paintDirective 0 word.length, .close] :=
      fun word => ⟨Nat.le_refl _, Nat.zero_le _, Nat.le_refl _⟩
    simp only [resume, resumeDocPart]
    split
    · exact languageDirective_inOrder line
    · split
      · exact closedBy "@c"
      · split
        · exact closedBy "@code"
        · exact ⟨Nat.le_refl _, Nat.zero_le _, Nat.le_refl _⟩
  | color =>
    simp only [resume, resumeColor]
    split
    · exact unpainted _ _
    · split
      · exact unpainted _ _
      · split <;> exact unpainted _ _
  | noColor =>
    simp only [resume, resumeNoColor]
    split
    · exact ⟨Nat.le_refl _, Nat.zero_le _, Nat.le_refl _⟩
    · exact unpainted _ _
  | noColorNode => exact unpainted _ _
  | killColor => exact unpainted _ _

end Highlighter.Line
