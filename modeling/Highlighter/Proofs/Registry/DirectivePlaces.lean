import Highlighter.Proofs.Registry.Leading

/-!
# Where directives stand

Imports bring rules along and no directives, so the directives of a mode are those that are
installed when all its rules are there.  Each is listed once at every character where it belongs and
nowhere else: those that open with `@` and section references in front, addresses directly before
the look-up of keywords.  So it is in every mode that a registry keeps.
-/

namespace Highlighter

/-- A language of words, two rulesets of which import each other. -/
def Library.interlocked : Library where
  files := .ofList [("words", {
    initialDelegate := some "words::inner"
    rulesets := [
      ("main", {
        imports := ["words::inner"]
        rules := [{ spec := .seq "h" "operator" none {} }] }),
      ("inner", {
        imports := ["words"]
        keywords := [("keyword1", ["def"])]
        rules := [{ spec := .keywords }] })] })]

/-- Whether a directive belongs among the matchers for a character. -/
def Directive.belongsAt (highlightUrls : Bool) (c : Char) : Directive → Bool
  | .sectionRef => c == '<'
  | .url => highlightUrls && ['f', 'g', 'h', 'm', 'n', 'p', 't', 'w'].contains c
  | _ => c == '@'

/-- Where neither `@` directives nor section references open, only addresses belong. -/
theorem Directive.belongsAt_letter {c : Char} (notAt : c ≠ '@') (notSection : c ≠ '<')
    (highlightUrls : Bool) (directive : Directive) : directive.belongsAt highlightUrls c =
      (decide (directive = .url) && Directive.url.belongsAt highlightUrls c) := by
  cases directive <;> simp [belongsAt, notAt, notSection]

namespace Mode

/-- How often a directive is listed for a character. -/
def occurrences (mode : Mode) (c : Char) (directive : Directive) : Nat :=
  (mode.matchersAt c).countP (Matcher.directive directive).same

/-- Each directive of a mode stands where it should. -/
structure DirectivesInPlace (highlightUrls : Bool) (mode : Mode) : Prop where
  /-- Those that open with `@` come first there, in the order in which they are tried. -/
  atSign : ∃ others, mode.matchersAt '@' =
    [.docPart, .wrap, .noColorNode, .noColor, .language, .killColor, .color, .leoKeywords].map
      Matcher.directive ++ others
  /-- Section references come first where they open. -/
  sectionRef : ∃ others, mode.matchersAt '<' = .directive .sectionRef :: others
  /-- Addresses come directly before the first look-up of keywords, or last if there is none. -/
  url : ∀ c, Directive.url.belongsAt highlightUrls c = true →
    ∃ before behind, mode.matchersAt c = before ++ .directive .url :: behind ∧
      (∀ other ∈ before, other.isKeywords = false) ∧
      ∀ next rest, behind = next :: rest → next.isKeywords = true
  /-- There are no others. -/
  once : ∀ c directive, mode.occurrences c directive =
    if directive.belongsAt highlightUrls c then 1 else 0

variable {mode : Mode}

/-- Different characters get a directive each, before the look-up of keywords in their lists. -/
theorem foldl_appendDirective_of_mem {initials : List Char} {directive : Directive} {c : Char}
    (distinct : initials.Nodup) (member : c ∈ initials)
    (lacks : (mode.matchersAt c).any (Matcher.directive directive).same = false) :
    (initials.foldl (fun mode initial => mode.appendDirective initial directive)
      mode).matchersAt c =
      (mode.matchersAt c).takeWhile (fun matcher => !matcher.isKeywords) ++
        .directive directive ::
          (mode.matchersAt c).dropWhile (fun matcher => !matcher.isKeywords) := by
  induction initials generalizing mode with
  | nil => cases member
  | cons initial initials ih =>
    obtain ⟨new, distinct⟩ := List.nodup_cons.mp distinct
    rw [List.foldl_cons]
    by_cases here : initial = c
    · subst here
      rw [foldl_appendDirective_matchersAt new, appendDirective_matchersAt, if_pos ⟨rfl, lacks⟩]
    · have kept : (mode.appendDirective initial directive).matchersAt c = mode.matchersAt c := by
        rw [appendDirective_matchersAt, if_neg fun both => here both.1]
      have later : c ∈ initials := (List.mem_cons.mp member).resolve_left (Ne.symm here)
      rw [ih distinct later (kept.symm ▸ lacks), kept]

/-- Addresses are added when the other directives are there. -/
theorem installDirectives_true (mode : Mode) : mode.installDirectives true =
    Directive.protocolInitials.foldl (fun mode c => mode.appendDirective c .url)
      (mode.installDirectives false) := by
  unfold installDirectives
  dsimp only
  rw [if_pos rfl, if_neg Bool.false_ne_true]

/-- Section references come first where they open, whether addresses are looked for or not. -/
theorem RulesOnly.installDirectives_sectionRef (only : mode.RulesOnly) (highlightUrls : Bool) :
    (mode.installDirectives highlightUrls).matchersAt '<' =
      .directive .sectionRef :: mode.matchersAt '<' := by
  have alone := only.installDirectives_elsewhere (show '<' ≠ '@' by decide)
  rw [if_pos rfl] at alone
  cases highlightUrls with
  | false => exact alone
  | true =>
    rw [installDirectives_true, foldl_appendDirective_matchersAt (by decide), alone]

/-- Elsewhere only addresses are added to the rules, if they are looked for. -/
theorem RulesOnly.installDirectives_letter (only : mode.RulesOnly) {c : Char} (notAt : c ≠ '@')
    (notSection : c ≠ '<') (highlightUrls : Bool) :
    (mode.installDirectives highlightUrls).matchersAt c =
      if Directive.url.belongsAt highlightUrls c then
        (mode.matchersAt c).takeWhile (fun matcher => !matcher.isKeywords) ++
          .directive .url :: (mode.matchersAt c).dropWhile (fun matcher => !matcher.isKeywords)
      else mode.matchersAt c := by
  have alone := only.installDirectives_elsewhere notAt
  rw [if_neg notSection] at alone
  cases highlightUrls with
  | false => exact alone
  | true =>
    rw [installDirectives_true]
    by_cases initial : c ∈ Directive.protocolInitials
    · have lacks := only.lacks c .url
      rw [← alone] at lacks
      rw [foldl_appendDirective_of_mem (by decide) initial lacks, alone, if_pos]
      exact List.contains_iff_mem.mpr initial
    · rw [foldl_appendDirective_matchersAt initial, alone, if_neg]
      exact fun contains => initial (List.contains_iff_mem.mp contains)

/-- Among rules there is no directive to be counted. -/
theorem countP_rules_eq_zero {rules : List Matcher}
    (each : ∀ matcher ∈ rules, matcher.isDirective = false) (directive : Directive) :
    rules.countP (Matcher.directive directive).same = 0 := by
  rw [List.countP_eq_zero]
  intro matcher member
  have rule := each matcher member
  cases matcher with
  | directive other => cases rule
  | rule compiled => simp [Matcher.same]

/-- A directive is counted where it is added to rules. -/
theorem RulesOnly.occurrences_installDirectives (only : mode.RulesOnly) (highlightUrls : Bool)
    (c : Char) (directive : Directive) :
    (mode.installDirectives highlightUrls).occurrences c directive =
      if directive.belongsAt highlightUrls c then 1 else 0 := by
  have none : (mode.matchersAt c).countP (Matcher.directive directive).same = 0 :=
    countP_rules_eq_zero only.matchersAt directive
  unfold occurrences
  by_cases isAt : c = '@'
  · subst isAt
    rw [only.installDirectives_atSign, List.countP_append, none]
    cases directive <;> simp [Directive.atDirectives, Matcher.same, Directive.belongsAt]
  · by_cases isSection : c = '<'
    · subst isSection
      rw [only.installDirectives_sectionRef, List.countP_cons, none]
      cases directive <;> simp [Matcher.same, Directive.belongsAt]
    · rw [only.installDirectives_letter isAt isSection,
        Directive.belongsAt_letter isAt isSection highlightUrls directive]
      split
      · rename_i belongs
        rw [List.countP_append, List.countP_cons, ← Nat.add_assoc, ← List.countP_append,
          List.takeWhile_append_dropWhile, none, belongs]
        simp [Matcher.same]
      · rename_i elsewhere
        rw [none]
        simp [elsewhere]

/-- Directives that are added to rules alone stand where they should. -/
theorem RulesOnly.directivesInPlace (only : mode.RulesOnly) (highlightUrls : Bool) :
    (mode.installDirectives highlightUrls).DirectivesInPlace highlightUrls where
  atSign := ⟨_, only.installDirectives_atSign highlightUrls⟩
  sectionRef := ⟨_, only.installDirectives_sectionRef highlightUrls⟩
  url := by
    intro c belongs
    have notAt : c ≠ '@' := by
      rintro rfl
      simp [Directive.belongsAt] at belongs
    have notSection : c ≠ '<' := by
      rintro rfl
      simp [Directive.belongsAt] at belongs
    refine ⟨_, _, (only.installDirectives_letter notAt notSection highlightUrls).trans
      (if_pos belongs), ?_, ?_⟩
    · intro other member
      simpa using List.all_eq_true.mp List.all_takeWhile other member
    · intro next rest same
      have stops := List.head?_dropWhile_not (fun matcher : Matcher => !matcher.isKeywords)
        (mode.matchersAt c)
      rw [same] at stops
      simpa using stops
  once := only.occurrences_installDirectives highlightUrls

end Mode

namespace Registry

/-- Whatever the library and the names that were asked for: every mode that is kept and has a
ruleset has all directives where they should be, and no others. -/
theorem kept_directivesInPlace (library : Library) (highlightUrls : Bool)
    (requests : List Request) (id : RulesetId) (mode : Mode)
    (kept : ((⟨library, highlightUrls, .empty⟩ : Registry).serveAll requests).get? id = some mode)
    (known : mode.isUnknown = false) : mode.DirectivesInPlace highlightUrls := by
  have all : AllStem library highlightUrls (fun _ => True) _ :=
    serveAll_stems (fun _ _ => trivial) requests (fun _ _ => trivial) (allStem_empty ..)
  obtain ⟨ruleset, ⟨found, alone⟩⟩ := (all.stems id mode kept).made.ruleset_of_known known
  exact ((Mode.rulesOnly_compile _ _ _ _).foldl_importRules _).directivesInPlace highlightUrls

/-- The inner ruleset is ready with its directives when the outer one imports it. -/
theorem kept_directivesInPlace_interlocked :
    let registry := (⟨.interlocked, true, .empty⟩ : Registry).serveAll [.resolve "words"]
    (∃ inner, registry.get? ⟨"words_inner"⟩ = some inner ∧ inner.isUnknown = false) ∧
      ∃ mode, registry.get? ⟨"words_main"⟩ = some mode ∧ mode.isUnknown = false ∧
        mode.DirectivesInPlace true := by
  intro registry
  have innerKept : (registry.get? ⟨"words_inner"⟩).map Mode.isUnknown = some false := by
    decide +kernel
  have mainKept : (registry.get? ⟨"words_main"⟩).map Mode.isUnknown = some false := by
    decide +kernel
  obtain ⟨mode, kept, known⟩ := Option.map_eq_some_iff.mp mainKept
  exact ⟨Option.map_eq_some_iff.mp innerKept, mode, kept, known,
    kept_directivesInPlace .interlocked true [.resolve "words"] _ mode kept known⟩

end Registry

end Highlighter
