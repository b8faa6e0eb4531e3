import Highlighter.Proofs.Registry.Matchers
import Highlighter.Proofs.Registry.Origins

/-!
# Directives come first

Importing brings no directives along, so a mode has none until all are installed.  Those that open
with `@` then stand before all rules, in the order in which they are tried.
-/

namespace Highlighter

namespace Mode

/-- The directives that open with `@` stand in front at that character. -/
def DirectivesFirst (mode : Mode) : Prop :=
  ∃ rules, mode.matchersAt '@' = Directive.atDirectives.map .directive ++ rules

/-- A mode lists nothing but rules. -/
def RulesOnly (mode : Mode) : Prop :=
  mode.Consists fun _ matcher => matcher.isDirective = false

variable {mode : Mode}

theorem rulesOnly_compile (language : String) (id : RulesetId) (delims : CommentDelims)
    (ruleset : Ruleset) : (compile language id delims ruleset).RulesOnly := by
  unfold RulesOnly Consists
  apply lists_ruleTable
  exact fun _ _ _ => rfl

theorem isDirective_of_mem_mergeMatchers {own imported : List Matcher}
    (rules : ∀ matcher ∈ own, matcher.isDirective = false) :
    ∀ matcher ∈ mergeMatchers own imported, matcher.isDirective = false := by
  induction imported generalizing own with
  | nil => exact rules
  | cons first imported ih =>
    rw [mergeMatchers_cons]
    apply ih
    unfold mergeMatcher
    split
    · exact rules
    · intro matcher member
      rcases List.mem_append.mp member with old | new
      · exact rules matcher old
      · rw [List.mem_singleton.mp new]
        simp_all

/-- Whatever is imported, no directives come along. -/
theorem RulesOnly.importRules (only : mode.RulesOnly) (other : Mode) :
    (mode.importRules other).RulesOnly := by
  unfold RulesOnly Consists at only ⊢
  refine Lists.foldl _ (fun entry _ table lists => ?_) only
  exact lists.insert (isDirective_of_mem_mergeMatchers lists.listAt)

theorem RulesOnly.foldl_importRules (only : mode.RulesOnly) (others : List Mode) :
    (others.foldl Mode.importRules mode).RulesOnly := by
  induction others generalizing mode with
  | nil => exact only
  | cons other others ih => exact ih (only.importRules other)

/-- Among rules there is no directive. -/
theorem RulesOnly.lacks (only : mode.RulesOnly) (c : Char) (directive : Directive) :
    (mode.matchersAt c).any (Matcher.directive directive).same = false := by
  rw [List.any_eq_false]
  intro matcher member
  have rule := only.matchersAt matcher member
  cases matcher with
  | directive other => cases rule
  | rule compiled => simp [Matcher.same]

/-- Different directives that are put before rules one after the other all come to stand there. -/
theorem RulesOnly.foldr_prependDirective (only : mode.RulesOnly) {directives : List Directive}
    (distinct : directives.Nodup) (c : Char) :
    (directives.foldr (fun directive mode => mode.prependDirective c directive) mode).matchersAt c =
      directives.map .directive ++ mode.matchersAt c := by
  induction directives with
  | nil => rfl
  | cons directive directives ih =>
    obtain ⟨new, distinct⟩ := List.nodup_cons.mp distinct
    have there := ih distinct
    have missing : (directives.map Matcher.directive ++ mode.matchersAt c).any
        (Matcher.directive directive).same = false := by
      rw [List.any_append, only.lacks, Bool.or_false, List.any_map, List.any_eq_false]
      intro other member same
      have equal : directive = other := by simpa [Matcher.same] using same
      exact new (equal ▸ member)
    rw [List.foldr_cons, prependDirective_matchersAt, there, if_pos ⟨rfl, missing⟩]
    rfl

theorem foldl_appendDirective_matchersAt {initials : List Char} {c : Char} (absent : c ∉ initials)
    (directive : Directive) :
    (initials.foldl (fun mode initial => mode.appendDirective initial directive)
      mode).matchersAt c = mode.matchersAt c := by
  induction initials generalizing mode with
  | nil => rfl
  | cons initial initials ih =>
    simp only [List.mem_cons, not_or] at absent
    rw [List.foldl_cons, ih absent.2, appendDirective_matchersAt,
      if_neg fun here => absent.1 here.1.symm]

theorem foldr_prependDirective_elsewhere {key c : Char} (elsewhere : key ≠ c)
    (directives : List Directive) :
    (directives.foldr (fun directive mode => mode.prependDirective key directive)
      mode).matchersAt c = mode.matchersAt c := by
  induction directives with
  | nil => rfl
  | cons directive directives ih =>
    rw [List.foldr_cons, prependDirective_matchersAt, if_neg fun here => elsewhere here.1, ih]

/-- A mode with its directives lists those that open with `@` at that character, in front of the
rules. -/
theorem RulesOnly.installDirectives_atSign (only : mode.RulesOnly) (highlightUrls : Bool) :
    (mode.installDirectives highlightUrls).matchersAt '@' =
      Directive.atDirectives.map .directive ++ mode.matchersAt '@' := by
  have atSign := only.foldr_prependDirective (show Directive.atDirectives.Nodup by decide) '@'
  unfold Mode.installDirectives
  dsimp only
  generalize Directive.atDirectives.foldr (fun directive (mode : Mode) =>
    mode.prependDirective '@' directive) mode = opened at atSign ⊢
  have sections : (opened.prependDirective '<' .sectionRef).matchersAt '@' =
      opened.matchersAt '@' := by
    rw [prependDirective_matchersAt]
    simp
  rw [← atSign, ← sections]
  split
  · exact foldl_appendDirective_matchersAt (by decide) .url
  · rfl

/-- Elsewhere it lists section references in front, if addresses are not looked for. -/
theorem RulesOnly.installDirectives_elsewhere (only : mode.RulesOnly) {c : Char}
    (elsewhere : c ≠ '@') : (mode.installDirectives false).matchersAt c =
      if c = '<' then .directive .sectionRef :: mode.matchersAt c else mode.matchersAt c := by
  have opened : ∀ c, c ≠ '@' → (Directive.atDirectives.foldr (fun directive (mode : Mode) =>
      mode.prependDirective '@' directive) mode).matchersAt c = mode.matchersAt c :=
    fun c elsewhere => foldr_prependDirective_elsewhere elsewhere.symm _
  unfold Mode.installDirectives
  dsimp only
  rw [if_neg Bool.false_ne_true, prependDirective_matchersAt, opened '<' (by decide),
    only.lacks, opened c elsewhere]
  by_cases here : c = '<'
  · simp [here]
  · simp [here, Ne.symm here]

theorem RulesOnly.directivesFirst (only : mode.RulesOnly) (highlightUrls : Bool) :
    (mode.installDirectives highlightUrls).DirectivesFirst :=
  ⟨mode.matchersAt '@', only.installDirectives_atSign highlightUrls⟩

end Mode

namespace Registry

/-- Every mode that is made and has a ruleset has the directives in front. -/
theorem Made.directivesFirst {library : Library} {highlightUrls : Bool} {mode : Mode}
    (made : Made library highlightUrls mode) (known : mode.isUnknown = false) :
    mode.DirectivesFirst := by
  obtain ⟨ruleset, ⟨found, alone⟩⟩ := made.ruleset_of_known known
  exact ((Mode.rulesOnly_compile _ _ _ _).foldl_importRules _).directivesFirst _

end Registry

end Highlighter
