import Highlighter.Line.Matching
import Highlighter.Proofs.Guarded.SpanEnd
import Highlighter.Proofs.Registry.Matchers

/-!
# Matching rules under guard

The verdicts of rules, over byte offsets and with every cut of the line guarded.  At a place of the
line none of them breaks off, and each is the verdict at the column there, in bytes.
-/

namespace Highlighter.Guarded

open Text
open Line (Action Painting Verdict Resumption paintSpan)

/-- The number of bytes that the opening of a rule takes at an offset, if it is there and its
anchors allow the place (`literal_at` or `regex_len_at`, then `Anchors.permits`). -/
def openingWidth? (mode : Mode) (text : List Char) (offset : Nat) (opener : Opener)
    (anchors : Anchors) : Option (Option Nat) :=
  match opener with
  | .literal literal =>
    if literalAt text offset literal mode.ignoreCase then do
      let permitted ← anchorsPermit? anchors text offset (byteLength literal) mode.wordChars
      some (if permitted then some (byteLength literal) else none)
    else some none
  | .pattern pattern => do
    let permitted ← anchorsPermit? anchors text offset 0 mode.wordChars
    if permitted then do
      let width ← patternWidth? pattern text offset
      some (if width = 0 then none else some width)
    else some none

/-- A span whose opening is `[offset, inside)` (`LineRun.match_span`). -/
def spanVerdict? (rounds : Nat) (mode : Mode) (text : List Char) (offset inside : Nat)
    (form : SpanForm) : Option Verdict := do
  let found ← searchEnd? text inside form.stop mode.escape form.flags mode.wordChars rounds inside
  match found with
  | .failed => some .declined
  | .found closing =>
    let stop := closing + byteLength form.stop
    some (.taken (stop - offset) (paintSpan form offset inside closing stop ++ [.close]))
  | .notFound =>
    some (.endsLine (paintSpan form offset inside (byteLength text) (byteLength text) ++
      [.arm (.span form)]))

/-- A span on one line whose opening is `[offset, inside)` (`LineRun.match_span_regexp`). -/
def enclosedVerdict? (mode : Mode) (text : List Char) (offset inside : Nat) (form : SpanForm) :
    Option Verdict := do
  let rest ← from? text inside
  match offsetOf? form.stop rest with
  | none => some .declined
  | some ahead =>
    let closing := inside + ahead
    let escapes ←
      lookIf (mode.escape.isSome && !form.flags.noEscape)
        (escapesBefore? text closing mode.escape) 0
    if escapes % 2 == 1 then some .declined
    else
      let stop := closing + byteLength form.stop
      some (.taken (stop - offset) (paintSpan form offset inside closing stop))

/-- What follows an opening `[offset, inside)`. -/
def bodyVerdict? (rounds : Nat) (mode : Mode) (text : List Char) (offset inside : Nat) :
    Body → Option Verdict
  | .token tag delegate =>
    some (.taken (inside - offset) [.paint { start := offset, stop := inside, tag, delegate }])
  | .span form => spanVerdict? rounds mode text offset inside form
  | .enclosed form => enclosedVerdict? mode text offset inside form
  | .restOfLine tag delegate excludeMatch =>
    some <| .taken (byteLength text - offset) <|
      match delegate with
      | some name => [
          .paint { start := offset, stop := inside, tag, silent := excludeMatch },
          .paint { start := inside, stop := byteLength text, tag, delegate := some name }]
      | none =>
        let start := if excludeMatch then inside else offset
        [.paint { start, stop := byteLength text, tag }]
  | .nextWord tag excludeMatch => do
    let stop ← skipWhile? mode.wordChars.contains text inside
    if stop = inside then some .declined
    else
      some (.taken (stop - offset) [
        .paint { start := offset, stop := inside, tag, silent := excludeMatch },
        .paint { start := inside, stop, tag }])
  | .patternBehind tag pattern patternTag excludeMatch => do
    let width ← patternWidth? pattern text inside
    if width = 0 then some .declined
    else
      some (.taken (inside + width - offset) [
        .paint { start := offset, stop := inside, tag, silent := excludeMatch },
        .paint { start := inside, stop := inside + width, tag := patternTag }])

/-- The word that starts at an offset, tagged as a keyword or a number or passed over
(`LineRun.match_keywords`). -/
def keywordsVerdict? (mode : Mode) (text : List Char) (offset : Nat) : Option Verdict := do
  let before ← charBefore? text offset
  if before.any mode.wordChars.contains then some .declined
  else do
    let stop ← skipWhile? mode.keywordChars.contains text offset
    if stop = offset then some .declined
    else do
      let word ← slice? text offset stop
      match mode.keyword? word with
      | some tag => some (.taken (stop - offset) [.paint { start := offset, stop, tag }])
      | none =>
        if mode.isDigitWord word then
          some (.taken (stop - offset) [.paint { start := offset, stop, tag := .digit }])
        else some (.passed (stop - offset))

/-- The verdict of a rule at an offset (`LineRun.match_rule`). -/
def ruleVerdict? (rounds : Nat) (mode : Mode) (text : List Char) (offset : Nat) (rule : Rule) :
    Option Verdict :=
  match rule.form with
  | none => some .declined
  | some .keywords => keywordsVerdict? mode text offset
  | some (.led opener anchors body) => do
    let opening ← openingWidth? mode text offset opener anchors
    match opening with
    | none => some .declined
    | some width => bodyVerdict? rounds mode text offset (offset + width) body

/-- The start of a line inside a span (`LineRun.restart_span`). -/
def resumeSpan? (rounds : Nat) (mode : Mode) (text : List Char) (form : SpanForm) :
    Option Resumption := do
  let found ← searchEnd? text 0 form.stop mode.escape form.flags mode.wordChars rounds 0
  match found with
  | .found closing =>
    let stop := closing + byteLength form.stop
    some (.at stop (paintSpan form 0 0 closing stop ++ [.close]))
  | _ =>
    some (.done (paintSpan form 0 0 (byteLength text) (byteLength text) ++ [.arm (.span form)]))

/-! ## Verdicts in bytes -/

/-- A range to be tagged, in bytes. -/
def paintingInBytes (text : List Char) (painting : Painting) : Painting :=
  { painting with
    start := byteOffset text painting.start
    stop := byteOffset text painting.stop }

/-- An action in bytes. -/
def actionInBytes (text : List Char) : Action → Action
  | .paint painting => .paint (paintingInBytes text painting)
  | action => action

/-- A verdict at a column, in bytes. -/
def verdictInBytes (text : List Char) (column : Nat) : Verdict → Verdict
  | .declined => .declined
  | .passed width => .passed (byteOffset text (column + width) - byteOffset text column)
  | .taken width actions =>
    .taken (byteOffset text (column + width) - byteOffset text column)
      (actions.map (actionInBytes text))
  | .endsLine actions => .endsLine (actions.map (actionInBytes text))

/-- What becomes of a line at its start, in bytes. -/
def resumptionInBytes (text : List Char) : Resumption → Resumption
  | .at column actions => .at (byteOffset text column) (actions.map (actionInBytes text))
  | .done actions => .done (actions.map (actionInBytes text))

variable {text : List Char} {column inside stop : Nat} {mode : Mode} {rounds : Nat}

theorem paintSpan_inBytes (text : List Char) (form : SpanForm) (start inside closing stop : Nat) :
    (paintSpan form start inside closing stop).map (actionInBytes text) =
      paintSpan form (byteOffset text start) (byteOffset text inside) (byteOffset text closing)
        (byteOffset text stop) := by
  unfold paintSpan
  split
  · rfl
  · split <;> rfl

/-- A match up to a column, in bytes. -/
theorem takenTo_inBytes (order : column ≤ stop) (actions : List Action) :
    verdictInBytes text column (.taken (stop - column) actions) =
      .taken (byteOffset text stop - byteOffset text column)
        (actions.map (actionInBytes text)) := by
  rw [verdictInBytes, Nat.add_sub_cancel' order]

/-! ## Openings -/

/-- An opening that is not empty. -/
def SomeOpener : Opener → Prop
  | .literal literal => literal ≠ []
  | .pattern _ => True

/-- The opening of a rule takes some of the line. -/
theorem openingWidth_fits {opener : Opener} {anchors : Anchors} {width : Nat}
    (some : SomeOpener opener) (onLine : column < text.length)
    (opens : Line.openingWidth? mode text column opener anchors = .some width) :
    0 < width ∧ column + width ≤ text.length := by
  cases opener with
  | literal literal =>
    refine ⟨?_, Line.literal_opening_le onLine opens⟩
    rw [Line.openingWidth?] at opens
    split at opens
    · cases opens
      exact List.length_pos_iff.mpr some
    · cases opens
  | pattern pattern =>
    rw [Line.openingWidth?] at opens
    split at opens
    · have bound := lengthAt_le pattern text column
      rw [List.length_drop] at bound
      split at opens
      · cases opens
      · rename_i positive
        cases opens
        have : pattern.lengthAt text column ≠ 0 := positive
        omega
    · cases opens

theorem openingWidth?_eq {opener : Opener} {anchors : Anchors} (some : SomeOpener opener)
    (onLine : column < text.length) :
    openingWidth? mode text (byteOffset text column) opener anchors =
      .some ((Line.openingWidth? mode text column opener anchors).map fun width =>
        byteOffset text (column + width) - byteOffset text column) := by
  cases opener with
  | literal literal =>
    rw [openingWidth?, Line.openingWidth?, literalAt_eq]
    by_cases starts : Line.literalAt text column literal mode.ignoreCase
    · have ends := byteOffset_of_literalAt starts
      have empty : byteLength literal = 0 ↔ literal.length = 0 := by
        rw [byteLength_eq_zero_iff, List.length_eq_zero_iff]
      rw [if_pos starts, anchorsPermit?_eq (Nat.le_of_lt onLine) ends empty, starts]
      cases permits : Line.anchorsPermit anchors text column literal.length mode.wordChars with
      | true => simp [ends]
      | false => simp
    · simp [starts]
  | pattern pattern =>
    have nothing : byteOffset text (column + 0) = byteOffset text column + 0 := rfl
    rw [openingWidth?, Line.openingWidth?,
      anchorsPermit?_eq (Nat.le_of_lt onLine) nothing Iff.rfl]
    have onLineToo := lengthAt_le pattern text column
    rw [List.length_drop] at onLineToo
    simp only [Option.bind_eq_bind, Option.bind_some]
    split
    · simp only [patternWidth?_eq (Nat.le_of_lt onLine), Option.bind_some,
        byteWidth_eq_zero_iff (show column + pattern.lengthAt text column ≤ text.length by omega)]
      cases pattern.lengthAt text column <;> rfl
    · rfl

/-! ## Bodies -/

theorem spanVerdict?_eq (order : column ≤ inside) (onLine : inside ≤ text.length)
    (enough : text.length + 2 ≤ rounds) (form : SpanForm) :
    spanVerdict? rounds mode text (byteOffset text column) (byteOffset text inside) form =
      some (verdictInBytes text column (Line.spanVerdict mode text column inside form)) := by
  rw [spanVerdict?, searchEnd?_eq onLine enough, Line.spanVerdict]
  cases found : Line.findSpanEnd text inside form.stop mode.escape form.flags mode.wordChars with
  | found closing =>
    obtain ⟨behind, -, here⟩ := findSpanEnd_found onLine found
    simp only [Option.bind_eq_bind, Option.bind_some, endInBytes]
    rw [takenTo_inBytes (by omega), List.map_append, paintSpan_inBytes,
      byteOffset_of_isPrefixOf here]
    rfl
  | notFound =>
    simp only [Option.bind_eq_bind, Option.bind_some, endInBytes, verdictInBytes, List.map_append,
      paintSpan_inBytes, byteOffset_length]
    rfl
  | failed => rfl

theorem enclosedVerdict?_eq (order : column ≤ inside) (form : SpanForm) :
    enclosedVerdict? mode text (byteOffset text column) (byteOffset text inside) form =
      some (verdictInBytes text column (Line.enclosedVerdict mode text column inside form)) := by
  have occurrence := offsetOf?_eq form.stop text inside
  rw [enclosedVerdict?, from?_byteOffset, Line.enclosedVerdict]
  cases found : Line.find? form.stop text inside with
  | none =>
    rw [found, Option.map_none, Option.map_eq_none_iff] at occurrence
    simp [occurrence, verdictInBytes]
  | some closing =>
    rw [found, Option.map_some, Option.map_eq_some_iff] at occurrence
    obtain ⟨ahead, occurs, same⟩ := occurrence
    obtain ⟨behind, here⟩ := find?_prefix found
    -- without an escape character nothing is escaped, whether this is asked for or not
    have escaped : ((if mode.escape.isSome && !form.flags.noEscape then
          ((text.take closing).reverse.takeWhile fun c => mode.escape = some c).length
        else 0) % 2 == 1) =
        (!form.flags.noEscape &&
          ((text.take closing).reverse.takeWhile
            fun c => mode.escape = some c).length % 2 == 1) := by
      cases form.flags.noEscape with
      | true => simp
      | false =>
        cases mode.escape with
        | none => cases (text.take closing).reverse <;> rfl
        | some escape => rfl
    simp only [Option.bind_eq_bind, Option.bind_some, occurs, same, escapesBefore?,
      upTo?_byteOffset, Option.map_some, lookIf_some, escaped]
    split
    · rfl
    · rw [takenTo_inBytes (by omega), paintSpan_inBytes, byteOffset_of_isPrefixOf here]

theorem bodyVerdict?_eq (order : column ≤ inside) (onLine : inside ≤ text.length)
    (enough : text.length + 2 ≤ rounds) (body : Body) :
    bodyVerdict? rounds mode text (byteOffset text column) (byteOffset text inside) body =
      some (verdictInBytes text column (Line.bodyVerdict mode text column inside body)) := by
  cases body with
  | token tag delegate =>
    rw [Line.bodyVerdict, takenTo_inBytes order]
    rfl
  | span form => exact spanVerdict?_eq order onLine enough form
  | enclosed form => exact enclosedVerdict?_eq order form
  | restOfLine tag delegate excludeMatch =>
    simp only [Line.bodyVerdict, Line.restOfLineVerdict, bodyVerdict?]
    rw [takenTo_inBytes (Nat.le_trans order onLine), byteOffset_length]
    cases delegate with
    | none => cases excludeMatch <;> simp [actionInBytes, paintingInBytes]
    | some name => simp [actionInBytes, paintingInBytes]
  | nextWord tag excludeMatch =>
    have behind : inside ≤ mode.wordChars.scan text inside := Nat.le_add_right ..
    have stopOnLine : mode.wordChars.scan text inside ≤ text.length := skipWhile_le _ onLine
    have scans : skipWhile? mode.wordChars.contains text (byteOffset text inside) =
      some (byteOffset text (mode.wordChars.scan text inside)) := skipWhile?_eq ..
    simp only [bodyVerdict?, Line.bodyVerdict, scans, Option.bind_eq_bind, Option.bind_some,
      byteOffset_eq_iff stopOnLine onLine]
    split
    · rfl
    · rw [takenTo_inBytes (Nat.le_trans order behind)]
      rfl
  | patternBehind tag pattern patternTag excludeMatch =>
    have bound := lengthAt_le pattern text inside
    rw [List.length_drop] at bound
    have ends : byteOffset text inside + (byteOffset text (inside + pattern.lengthAt text inside) -
        byteOffset text inside) = byteOffset text (inside + pattern.lengthAt text inside) :=
      Nat.add_sub_cancel' (byteOffset_mono text (Nat.le_add_right ..))
    simp only [bodyVerdict?, Line.bodyVerdict, patternWidth?_eq onLine, Option.bind_eq_bind,
      Option.bind_some, ends,
      byteWidth_eq_zero_iff (show inside + pattern.lengthAt text inside ≤ text.length by omega)]
    cases pattern.lengthAt text inside with
    | zero => rfl
    | succ width =>
      simp only [Nat.succ_ne_zero, if_false]
      rw [takenTo_inBytes (by omega)]
      rfl

/-! ## Rules -/

theorem keywordsVerdict?_eq (onLine : column ≤ text.length) :
    keywordsVerdict? mode text (byteOffset text column) =
      some (verdictInBytes text column (Line.keywordsVerdict mode text column)) := by
  have behind : column ≤ mode.keywordChars.scan text column := Nat.le_add_right ..
  have stopOnLine : mode.keywordChars.scan text column ≤ text.length := skipWhile_le _ onLine
  have scans : skipWhile? mode.keywordChars.contains text (byteOffset text column) =
    some (byteOffset text (mode.keywordChars.scan text column)) := skipWhile?_eq ..
  simp only [keywordsVerdict?, Line.keywordsVerdict, charBefore?_eq onLine, scans,
    slice?_byteOffset text behind, Option.bind_eq_bind, Option.bind_some,
    byteOffset_eq_iff stopOnLine onLine]
  split
  · rfl
  · split
    · rfl
    · cases mode.keyword? ((text.take (mode.keywordChars.scan text column)).drop column) with
      | some tag =>
        simp only [takenTo_inBytes behind]
        rfl
      | none =>
        dsimp only
        split
        · rw [takenTo_inBytes behind]
          rfl
        · rw [verdictInBytes, Nat.add_sub_cancel' behind]

/-- A rule that opens with something. -/
def SomeRule (rule : Rule) : Prop :=
  ∀ opener anchors body, rule.form = some (.led opener anchors body) → SomeOpener opener

theorem ruleVerdict?_eq {rule : Rule} (opens : SomeRule rule) (onLine : column < text.length)
    (enough : text.length + 2 ≤ rounds) :
    ruleVerdict? rounds mode text (byteOffset text column) rule =
      some (verdictInBytes text column (Line.ruleVerdict mode text column rule)) := by
  unfold ruleVerdict? Line.ruleVerdict
  cases form : rule.form with
  | none => rfl
  | some form' =>
    cases form' with
    | keywords => exact keywordsVerdict?_eq (Nat.le_of_lt onLine)
    | led opener anchors body =>
      have some := opens opener anchors body form
      simp only [openingWidth?_eq some onLine, Option.bind_eq_bind, Option.bind_some]
      cases opening : Line.openingWidth? mode text column opener anchors with
      | none => rfl
      | some width =>
        obtain ⟨-, insideOnLine⟩ := openingWidth_fits some onLine opening
        have goes := byteOffset_mono text (Nat.le_add_right column width)
        simp only [Option.map_some, Nat.add_sub_cancel' goes]
        exact bodyVerdict?_eq (Nat.le_add_right ..) insideOnLine enough body

theorem resumeSpan?_eq (enough : text.length + 2 ≤ rounds) (form : SpanForm) :
    resumeSpan? rounds mode text form =
      some (resumptionInBytes text (Line.resumeSpan mode text form)) := by
  have search : searchEnd? text 0 form.stop mode.escape form.flags mode.wordChars rounds 0 = _ :=
    searchEnd?_eq (Nat.zero_le text.length) enough
  rw [resumeSpan?, search, Line.resumeSpan]
  have goesOn : resumptionInBytes text
      (.done (paintSpan form 0 0 text.length text.length ++ [.arm (.span form)])) =
      .done (paintSpan form 0 0 (byteLength text) (byteLength text) ++ [.arm (.span form)]) := by
    rw [resumptionInBytes, List.map_append, paintSpan_inBytes, byteOffset_length]
    rfl
  cases found : Line.findSpanEnd text 0 form.stop mode.escape form.flags mode.wordChars with
  | found closing =>
    obtain ⟨-, -, here⟩ := findSpanEnd_found (Nat.zero_le _) found
    simp only [Option.bind_eq_bind, Option.bind_some, endInBytes, resumptionInBytes,
      List.map_append, paintSpan_inBytes, byteOffset_of_isPrefixOf here]
    rfl
  | notFound => exact congrArg some goesOn.symm
  | failed => exact congrArg some goesOn.symm

/-! ## Rules of modes -/

/-- Compiled rules open with something. -/
theorem someRule_compile (ignoreCase : Bool) (spec : RuleSpec) :
    SomeRule (.compile ignoreCase spec) := by
  have some : ∀ {text : String} {literal : List Char}, Rule.literal? text = some literal →
      literal ≠ [] := fun found => (Rule.literal?_eq_some found).2
  intro opener anchors body form
  cases opener with
  | pattern pattern => exact trivial
  | literal literal =>
    cases spec <;>
      simp only [Rule.compile, Rule.form?, Option.bind_eq_bind, Option.bind_eq_some_iff,
        Option.some.injEq, RuleForm.led.injEq, Opener.literal.injEq, reduceCtorEq, false_and,
        and_false] at form
    all_goals exact show literal ≠ [] by grind

/-! ## Progress -/

/-- A verdict that takes something takes at least one character. -/
def Moves : Verdict → Prop
  | .passed width => 0 < width
  | .taken width _ => 0 < width
  | _ => True

theorem bodyVerdict_moves (later : column < inside) (onLine : inside ≤ text.length) (body : Body) :
    Moves (Line.bodyVerdict mode text column inside body) := by
  cases body with
  | token tag delegate => exact Nat.sub_pos_of_lt later
  | span form =>
    rw [Line.bodyVerdict, Line.spanVerdict]
    cases found : Line.findSpanEnd text inside form.stop mode.escape form.flags mode.wordChars with
    | found closing =>
      obtain ⟨behind, -, -⟩ := findSpanEnd_found onLine found
      exact Nat.sub_pos_of_lt (by omega)
    | notFound => exact trivial
    | failed => exact trivial
  | enclosed form =>
    rw [Line.bodyVerdict, Line.enclosedVerdict]
    cases found : Line.find? form.stop text inside with
    | none => exact trivial
    | some closing =>
      obtain ⟨behind, -⟩ := find?_prefix found
      simp only
      split
      · exact trivial
      · exact Nat.sub_pos_of_lt (by omega)
  | restOfLine tag delegate excludeMatch =>
    exact Nat.sub_pos_of_lt (Nat.lt_of_lt_of_le later onLine)
  | nextWord tag excludeMatch =>
    have behind : inside ≤ mode.wordChars.scan text inside := Nat.le_add_right ..
    rw [Line.bodyVerdict]
    split
    · exact trivial
    · exact Nat.sub_pos_of_lt (by omega)
  | patternBehind tag pattern patternTag excludeMatch =>
    rw [Line.bodyVerdict]
    split
    · exact trivial
    · exact Nat.sub_pos_of_lt (by omega)

theorem keywordsVerdict_moves (mode : Mode) (text : List Char) (column : Nat) :
    Moves (Line.keywordsVerdict mode text column) := by
  have behind : column ≤ mode.keywordChars.scan text column := Nat.le_add_right ..
  unfold Line.keywordsVerdict
  dsimp only
  split
  · exact trivial
  · split
    · exact trivial
    · rename_i moved
      have forward : 0 < mode.keywordChars.scan text column - column := by omega
      split
      · exact forward
      · split <;> exact forward

theorem ruleVerdict_moves {rule : Rule} (opens : SomeRule rule) (onLine : column < text.length) :
    Moves (Line.ruleVerdict mode text column rule) := by
  unfold Line.ruleVerdict
  split
  · exact trivial
  · exact keywordsVerdict_moves mode text column
  · rename_i opener anchors body form
    cases opening : Line.openingWidth? mode text column opener anchors with
    | none => exact trivial
    | some width =>
      obtain ⟨positive, insideOnLine⟩ :=
        openingWidth_fits (opens opener anchors body form) onLine opening
      exact bodyVerdict_moves (Nat.lt_add_of_pos_right positive) insideOnLine body

end Highlighter.Guarded
