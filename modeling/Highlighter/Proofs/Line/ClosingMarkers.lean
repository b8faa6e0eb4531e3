import Highlighter.Proofs.Line.Claims
import Highlighter.Proofs.Line.EndMarkers

/-!
# Where spans close

A span that a literal opens, or that is open at the start of a line, closes at the end marker that
decides the search for it, unless a flag of its rule bars that one.  A span that a pattern opens
closes at the first end marker, unless that one is escaped.  Whether another flag bars the marker is
not asked there.
-/

namespace Highlighter

open Line (openingWidth?)

variable {mode : Mode} {line : List Char} {column inside place : Nat} {ignoreCase : Bool}
  {start stop tag : String} {delegate : Option String} {excludeMatch : Bool} {flags : SpanFlags}
  {anchors : Anchors}

/-! ## Rules as written -/

namespace Rule

/-- A span that a literal opens has the marker and the flags that the rule is written with. -/
theorem form_span {form : RuleForm}
    (compiled : (compile ignoreCase
      (.span start stop tag delegate excludeMatch flags anchors)).form = some form) :
    ∃ literal color, literal ≠ [] ∧ form = .led (.literal literal) anchors
      (.span ⟨stop.toList, color, delegate, excludeMatch, flags⟩) := by
  simp only [compile, form?, spanForm?, Option.bind_eq_bind, Option.bind_eq_some_iff,
    Option.some.injEq] at compiled
  obtain ⟨literal, opens, _, ⟨marker, ends, color, -, rfl⟩, rfl⟩ := compiled
  obtain ⟨rfl, -⟩ := literal?_eq_some ends
  exact ⟨literal, color, (literal?_eq_some opens).2, rfl⟩

/-- So has a span that a pattern opens. -/
theorem form_spanRegexp {form : RuleForm}
    (compiled : (compile ignoreCase
      (.spanRegexp start stop tag delegate excludeMatch flags anchors)).form = some form) :
    ∃ pattern color, form = .led (.pattern pattern) anchors
      (.enclosed ⟨stop.toList, color, delegate, excludeMatch, flags⟩) := by
  simp only [compile, form?, spanForm?, Option.bind_eq_bind, Option.bind_eq_some_iff,
    Option.some.injEq] at compiled
  obtain ⟨pattern, -, _, ⟨marker, ends, color, -, rfl⟩, rfl⟩ := compiled
  obtain ⟨rfl, -⟩ := literal?_eq_some ends
  exact ⟨pattern, color, rfl⟩

/-- What goes on to the next line is a span that a literal opens. -/
theorem spec_of_span {spec : RuleSpec} {opener : Opener} {form : SpanForm}
    (compiled : (compile ignoreCase spec).form = some (.led opener anchors (.span form))) :
    ∃ start stop tag, stop.toList = form.stop ∧ form.stop ≠ [] ∧
      Tag.ofWord? tag = some form.tag ∧
      spec = .span start stop tag form.delegate form.excludeMatch form.flags anchors := by
  cases spec <;>
    simp only [compile, form?, spanForm?, Option.bind_eq_bind, Option.bind_eq_some_iff,
      Option.some.injEq, RuleForm.led.injEq, reduceCtorEq, and_false, exists_false] at compiled
  case span start stop tag delegate excludeMatch flags anchors =>
    obtain ⟨_, -, _, ⟨marker, ends, color, isTag, rfl⟩, -, rfl, same⟩ := compiled
    cases same
    exact ⟨start, stop, tag, (literal?_eq_some ends).1, (literal?_eq_some ends).2, isTag, rfl⟩

end Rule

namespace Line

namespace SpanEnd

/-- The end marker at a column keeps to the flags of a span whose inside begins at `start`: nothing
escapes it, and no other flag bars it. -/
def Honours (line : List Char) (start : Nat) (escape : Option Char) (flags : SpanFlags)
    (words : Alphabet) (column : Nat) : Prop :=
  Unescaped line escape flags column ∧ ¬Barred line start flags words column

instance {line : List Char} {start : Nat} {escape : Option Char} {flags : SpanFlags}
    {words : Alphabet} : DecidablePred (Honours line start escape flags words) :=
  fun _ => inferInstanceAs (Decidable (_ ∧ _))

/-- The end marker stands at a column, and nowhere before it behind the start. -/
def FirstAt (line : List Char) (start : Nat) (stop : List Char) (column : Nat) : Prop :=
  Occurs line start stop column ∧ ∀ earlier < column, ¬Occurs line start stop earlier

theorem Occurs.of_succ {stop : List Char} (occurs : Occurs line (column + 1) stop place) :
    Occurs line column stop place :=
  ⟨Nat.le_of_succ_le occurs.1, occurs.2⟩

theorem Occurs.succ_of_ne {stop : List Char} (occurs : Occurs line column stop place)
    (elsewhere : column ≠ place) : Occurs line (column + 1) stop place :=
  ⟨Nat.lt_of_le_of_ne occurs.1 elsewhere, occurs.2⟩

/-- Where a marker does not stand, it is looked for behind. -/
theorem firstAt_succ_iff {stop : List Char} (notHere : ¬Occurs line column stop column) :
    FirstAt line (column + 1) stop place ↔ FirstAt line column stop place := by
  have shift : ∀ other, Occurs line (column + 1) stop other ↔ Occurs line column stop other := by
    intro other
    refine ⟨Occurs.of_succ, fun occurs => occurs.succ_of_ne ?_⟩
    rintro rfl
    exact notHere occurs
  simp only [FirstAt, shift]

theorem firstAt_here_iff {stop : List Char} (here : Occurs line column stop column) :
    FirstAt line column stop place ↔ column = place := by
  constructor
  · rintro ⟨occurs, first⟩
    refine (Nat.lt_or_eq_of_le occurs.1).resolve_left fun before => ?_
    exact first column before here
  · rintro rfl
    exact ⟨here, fun earlier before occurs => absurd occurs.1 (Nat.not_le.mpr before)⟩

end SpanEnd

open SpanEnd (Barred DecidedAt FirstAt Honours Occurs Unescaped)

/-! ## Searches -/

theorem findFrom?_eq_some_iff {stop : List Char} (rest : List Char) : ∀ {column : Nat},
    column ≤ line.length → line.drop column = rest →
    (findFrom? stop column rest = some place ↔ FirstAt line column stop place) := by
  induction rest with
  | nil =>
    intro column onLine here
    rw [findFrom?]
    split
    · rename_i empty
      have stands : Occurs line column stop column :=
        ⟨Nat.le_refl _, onLine, List.isEmpty_iff.mp empty ▸ List.nil_prefix⟩
      rw [SpanEnd.firstAt_here_iff stands, Option.some.injEq]
    · rename_i some
      refine ⟨fun found => absurd found (Option.some_ne_none place).symm, fun first => ?_⟩
      have short := List.drop_eq_nil_iff.mp here
      obtain ⟨behind, within, stands⟩ := first.1
      rw [List.drop_eq_nil_iff.mpr (Nat.le_trans short behind), List.prefix_nil] at stands
      exact absurd (List.isEmpty_iff.mpr stands) some
  | cons c rest ih =>
    intro column onLine here
    have next : line.drop (column + 1) = rest := Text.drop_succ here
    have inside : column < line.length := Text.lt_length_of_drop here
    have stands_iff : Occurs line column stop column ↔ stop.isPrefixOf (c :: rest) := by
      rw [List.isPrefixOf_iff_prefix, ← here]
      exact ⟨fun occurs => occurs.2.2, fun stands => ⟨Nat.le_refl _, onLine, stands⟩⟩
    rw [findFrom?]
    split
    · rename_i stands
      rw [SpanEnd.firstAt_here_iff (stands_iff.mpr stands), Option.some.injEq]
    · rename_i absent
      rw [ih inside next, SpanEnd.firstAt_succ_iff (mt stands_iff.mp absent)]

/-- A text is found where it first stands. -/
theorem find?_eq_some_iff {stop : List Char} (onLine : column ≤ line.length) :
    find? stop line column = some place ↔ FirstAt line column stop place :=
  findFrom?_eq_some_iff _ onLine rfl

/-- An end marker is found where it decides the search and keeps to the flags. -/
theorem findSpanEnd_eq_found_iff {stop : List Char} {escape : Option Char} {words : Alphabet}
    (onLine : column ≤ line.length) :
    findSpanEnd line column stop escape flags words = .found place ↔
      DecidedAt line column stop escape flags words place ∧
        Honours line column escape flags words place := by
  have settled : SpanEnd.Settled line column stop escape flags words
      (findSpanEnd line column stop escape flags words) := findSpanEnd_settled onLine
  constructor
  · intro answer
    rw [answer] at settled
    rcases settled with ⟨other, decided, ⟨-, failed⟩ | ⟨notBarred, found⟩⟩ | ⟨-, nothing⟩
    · cases failed
    · cases found
      exact ⟨decided, decided.decides.resolve_left notBarred, notBarred⟩
    · rw [Guarded.unended] at nothing
      split at nothing <;> cases nothing
  · rintro ⟨decided, -, notBarred⟩
    rcases settled with ⟨other, decidedToo, ⟨barred, -⟩ | ⟨-, found⟩⟩ | ⟨undecided, -⟩
    · exact absurd (decided.unique decidedToo ▸ barred) notBarred
    · rw [found, decided.unique decidedToo]
    · obtain ⟨notBarred, escaped⟩ := undecided place decided.occurs
      exact absurd decided.decides (not_or.mpr ⟨notBarred, escaped⟩)

/-! ## Rules that close -/

/-- The column behind the opening of a rule that is tried at `column`, if that stands there. -/
def behindOpening? (mode : Mode) (line : List Char) (column : Nat) (rule : Rule) : Option Nat :=
  match rule.form with
  | some (.led opener anchors _) => (openingWidth? mode line column opener anchors).map (column + ·)
  | _ => none

/-- The opening of a rule that is tried at `column` stands there, up to `inside`. -/
def Opens (mode : Mode) (line : List Char) (column : Nat) (rule : Rule) (inside : Nat) : Prop :=
  behindOpening? mode line column rule = some inside

instance {rule : Rule} : DecidablePred (Opens mode line column rule) :=
  fun _ => inferInstanceAs (Decidable (_ = _))

/-- A rule that is tried at `column` takes a span, with the inside from `inside` to `place`, where
the end marker `stop` closes it. -/
def Closes (mode : Mode) (line : List Char) (column : Nat) (rule : Rule) (stop : List Char)
    (inside place : Nat) : Prop :=
  Opens mode line column rule inside ∧ inside ≤ place ∧
    ∃ actions, ruleVerdict mode line column rule = .taken (place + stop.length - column) actions

theorem Opens.exists {rule : Rule} (opens : Opens mode line column rule inside) :
    ∃ opener anchors body width, rule.form = some (.led opener anchors body) ∧
      openingWidth? mode line column opener anchors = some width ∧ column + width = inside := by
  unfold Opens behindOpening? at opens
  split at opens
  · rename_i opener anchors body form
    obtain ⟨width, opening, same⟩ := Option.map_eq_some_iff.mp opens
    exact ⟨opener, anchors, body, width, form, opening, same⟩
  · cases opens

/-- Compiled rules open on the line. -/
theorem Opens.fits {spec : RuleSpec} (opens : Opens mode line column (.compile ignoreCase spec)
    inside) : column ≤ inside ∧ inside ≤ line.length := by
  obtain ⟨opener, anchors, body, width, form, opening, rfl⟩ := opens.exists
  refine ⟨Nat.le_add_right .., ?_⟩
  by_cases onLine : column < line.length
  · exact opening_onLine onLine opening
  · -- nothing opens behind the end of the line
    have some := Guarded.someRule_compile ignoreCase spec opener anchors body form
    have behind : line.drop column = [] := List.drop_eq_nil_of_le (Nat.not_lt.mp onLine)
    cases opener with
    | literal literal =>
      have absent : literalAt line column literal mode.ignoreCase = false := by
        cases literal with
        | nil => exact absurd rfl some
        | cons c literal => rw [literalAt, behind, startsWithLiteral]
      simp [openingWidth?, absent] at opening
    | pattern pattern =>
      have short := Guarded.lengthAt_le pattern line column
      have nothing : pattern.lengthAt line column = 0 := by simpa [behind] using short
      simp [openingWidth?, nothing] at opening

/-- A span up to an end marker closes where the search for the marker says. -/
theorem spanVerdict_taken_iff {form : SpanForm} (order : column ≤ inside)
    (onLine : inside ≤ line.length) :
    (inside ≤ place ∧ ∃ actions, spanVerdict mode line column inside form =
        .taken (place + form.stop.length - column) actions) ↔
      findSpanEnd line inside form.stop mode.escape form.flags mode.wordChars = .found place := by
  constructor
  · rintro ⟨behind, actions, taken⟩
    rw [spanVerdict] at taken
    split at taken
    · cases taken
    · rename_i closing found
      have after := (Guarded.findSpanEnd_found onLine found).1
      have widths := (Verdict.taken.inj taken).1
      have same : closing = place := by omega
      exact same ▸ found
    · cases taken
  · intro found
    have behind := (Guarded.findSpanEnd_found onLine found).1
    exact ⟨behind, _, by rw [spanVerdict, found]⟩

/-- The escape characters before a marker are an even number, or do not count. -/
theorem unescaped_iff_even {escape : Option Char} : Unescaped line escape flags place ↔
    (!flags.noEscape && ((line.take place).reverse.takeWhile fun c => escape = some c).length % 2
      == 1) = false := by
  cases escape with
  | none =>
    have noRow : ∀ text : List Char, text.takeWhile (fun _ => false) = [] := by
      rintro (_ | _) <;> rfl
    simp [Unescaped, noRow]
  | some c =>
    have escaped : ¬Unescaped line (some c) flags place ↔ ((some c).isSome && !flags.noEscape &&
        (Guarded.pastAt line 0 (some c) place).escapes % 2 == 1) = true :=
      SpanEnd.not_unescaped_iff
    rw [← Bool.not_eq_true, ← Decidable.not_iff_not, escaped]
    simp [Guarded.pastAt]

/-- A span on one line closes at the first end marker, unless that is escaped. -/
theorem enclosedVerdict_taken_iff {form : SpanForm} (order : column ≤ inside)
    (onLine : inside ≤ line.length) :
    (inside ≤ place ∧ ∃ actions, enclosedVerdict mode line column inside form =
        .taken (place + form.stop.length - column) actions) ↔
      FirstAt line inside form.stop place ∧ Unescaped line mode.escape form.flags place := by
  rw [← find?_eq_some_iff onLine]
  constructor
  · rintro ⟨behind, actions, taken⟩
    rw [enclosedVerdict] at taken
    split at taken
    · cases taken
    · rename_i closing found
      have after := (Guarded.find?_prefix found).1
      dsimp only at taken
      split at taken
      · cases taken
      · rename_i even
        have widths := (Verdict.taken.inj taken).1
        have same : closing = place := by omega
        subst same
        exact ⟨found, unescaped_iff_even.mpr (Bool.not_eq_true _ ▸ even)⟩
  · rintro ⟨found, unescaped⟩
    have behind := (Guarded.find?_prefix found).1
    refine ⟨behind, paintSpan form column inside place (place + form.stop.length), ?_⟩
    rw [enclosedVerdict, found]
    simp [unescaped_iff_even.mp unescaped]

/-- Behind its opening a rule does what its body says. -/
theorem closes_iff_body {rule : Rule} {stop : List Char} {opener : Opener} {body : Body}
    (form : rule.form = some (.led opener anchors body)) :
    Closes mode line column rule stop inside place ↔
      Opens mode line column rule inside ∧ inside ≤ place ∧ ∃ actions,
        bodyVerdict mode line column inside body =
          .taken (place + stop.length - column) actions := by
  refine and_congr_right fun opens => ?_
  obtain ⟨opener, anchors, body, width, formToo, opening, rfl⟩ := opens.exists
  cases form.symm.trans formToo
  simp only [ruleVerdict, form, opening]

/-- A span that a literal opens closes at the end marker that decides the search for it, if that
keeps to all flags. -/
theorem closes_span_iff :
    let rule := Rule.compile ignoreCase
      (.span start stop tag delegate excludeMatch flags anchors)
    Closes mode line column rule stop.toList inside place ↔
      Opens mode line column rule inside ∧
        DecidedAt line inside stop.toList mode.escape flags mode.wordChars place ∧
        Honours line inside mode.escape flags mode.wordChars place := by
  intro rule
  cases compiled : rule.form with
  | none => simp [Closes, Opens, behindOpening?, compiled]
  | some form =>
    obtain ⟨literal, color, -, rfl⟩ := Rule.form_span compiled
    rw [closes_iff_body compiled]
    refine and_congr_right fun opens => ?_
    obtain ⟨order, onLine⟩ := opens.fits
    rw [← findSpanEnd_eq_found_iff onLine]
    exact spanVerdict_taken_iff order onLine

/-- A span that a pattern opens closes at the first end marker, if that is not escaped. -/
theorem closes_spanRegexp_iff :
    let rule := Rule.compile ignoreCase
      (.spanRegexp start stop tag delegate excludeMatch flags anchors)
    Closes mode line column rule stop.toList inside place ↔
      Opens mode line column rule inside ∧ FirstAt line inside stop.toList place ∧
        Unescaped line mode.escape flags place := by
  intro rule
  cases compiled : rule.form with
  | none => simp [Closes, Opens, behindOpening?, compiled]
  | some form =>
    obtain ⟨pattern, color, rfl⟩ := Rule.form_spanRegexp compiled
    rw [closes_iff_body compiled]
    refine and_congr_right fun opens => ?_
    obtain ⟨order, onLine⟩ := opens.fits
    exact enclosedVerdict_taken_iff order onLine

/-- A span that is open at the start of a line closes as it would where a literal opens it. -/
theorem resumeSpan_at_iff {form : SpanForm} :
    (∃ actions, resumeSpan mode line form = .at (place + form.stop.length) actions) ↔
      DecidedAt line 0 form.stop mode.escape form.flags mode.wordChars place ∧
        Honours line 0 mode.escape form.flags mode.wordChars place := by
  rw [← findSpanEnd_eq_found_iff (Nat.zero_le _)]
  constructor
  · rintro ⟨actions, resumes⟩
    rw [resumeSpan] at resumes
    split at resumes
    · rename_i closing found
      have ends := (Resumption.at.inj resumes).1
      rw [found, Nat.add_right_cancel ends]
    · cases resumes
  · intro found
    exact ⟨_, by rw [resumeSpan, found]⟩

end Line

end Highlighter
