import Highlighter.Proofs.Registry.PlainRules

/-!
# What modes are gathered from

A mode has the rules of its own ruleset and those of the rulesets that it came to import, and
nothing else but directives.  A rule is tried at a character exactly if one of these rulesets, on
its own, would try it there: merging drops a rule only where one that is written the same is listed.
-/

namespace Highlighter

/-- A ruleset of a library, with its name and the file that it is from. -/
structure Origin where
  name : ModeName
  file : ModeFile
  ruleset : Ruleset

/-- The mode of the ruleset with its own rules alone. -/
def Origin.mode (origin : Origin) : Mode :=
  .compile origin.name.language origin.name.id origin.file.delims origin.ruleset

/-- The rulesets that a mode has its rules from, its own one before those of its imports. -/
inductive Registry.Gathers (library : Library) (highlightUrls : Bool) : List Origin → Mode → Prop
  | unknown (id : RulesetId) : Gathers library highlightUrls [] (.unknown id)
  | assembled (origin : Origin)
      (found : source? library origin.name = some (origin.file, origin.ruleset))
      (others : List (List Origin × Mode))
      (each : ∀ other ∈ others, Gathers library highlightUrls other.1 other.2) :
      Gathers library highlightUrls (origin :: others.flatMap (·.1))
        (assembled highlightUrls origin.name origin.file origin.ruleset (others.map (·.2)))

/-! ## Where a rule is tried -/

/-- The rules among the matchers that are tried at a character. -/
def Mode.rulesAt (mode : Mode) (c : Char) : List Matcher :=
  (mode.matchersAt c).filter fun matcher => !matcher.isDirective

/-- A rule that is written so is tried at a character. -/
def Mode.Tries (mode : Mode) (c : Char) (spec : RuleSpec) : Prop :=
  ∃ rule : Rule, rule.spec = spec ∧ .rule rule ∈ mode.matchersAt c

/-- A ruleset has a rule that is written so, to be tried at a character. -/
def Origin.Tries (origin : Origin) (c : Char) (spec : RuleSpec) : Prop :=
  ∃ entry ∈ origin.ruleset.rules, entry.spec = spec ∧
    c ∈ spec.leadingChars entry.chars origin.mode.keywordChars origin.ruleset.attributes.ignoreCase

namespace Mode

variable {mode : Mode} {c : Char} {spec : RuleSpec}

/-- Where rules of a ruleset are tried, they come as they are compiled. -/
theorem mem_compile_matchersAt (origin : Origin) {matcher : Matcher} :
    matcher ∈ origin.mode.matchersAt c ↔ ∃ entry ∈ origin.ruleset.rules,
      c ∈ entry.spec.leadingChars entry.chars origin.mode.keywordChars
        origin.ruleset.attributes.ignoreCase ∧
      matcher = .rule (.compile origin.ruleset.attributes.ignoreCase entry.spec) := by
  have listed : origin.mode.matchersAt c = origin.ruleset.rules.flatMap
      (entryMatchers origin.ruleset.attributes.ignoreCase origin.mode.keywordChars c) :=
    ruleTable_listAt origin.ruleset.attributes.ignoreCase origin.mode.keywordChars
      origin.ruleset.rules c
  rw [listed, List.mem_flatMap]
  simp only [entryMatchers, List.mem_map, List.mem_filter, decide_eq_true_eq]
  grind

theorem tries_compile_iff (origin : Origin) : origin.mode.Tries c spec ↔ origin.Tries c spec := by
  simp only [Tries, Origin.Tries, mem_compile_matchersAt]
  constructor
  · rintro ⟨rule, rfl, entry, member, tried, same⟩
    cases same
    exact ⟨entry, member, rfl, tried⟩
  · rintro ⟨entry, member, rfl, tried⟩
    exact ⟨.compile origin.ruleset.attributes.ignoreCase entry.spec, rfl, entry, member, tried, rfl⟩

/-- Directives leave the rules in their order. -/
theorem rulesAt_installDirectives (mode : Mode) (highlightUrls : Bool) (c : Char) :
    (mode.installDirectives highlightUrls).rulesAt c = mode.rulesAt c := by
  refine installDirectives_keeps (fun later => later.rulesAt c = mode.rulesAt c) ?_ ?_ rfl
    highlightUrls
  · intro later other directive same
    rw [← same, rulesAt, rulesAt, prependDirective_matchersAt]
    split
    · rename_i here
      rw [here.1]
      rfl
    · rfl
  · intro later other directive same
    rw [← same, rulesAt, rulesAt, appendDirective_matchersAt]
    split
    · rename_i here
      have parts := List.takeWhile_append_dropWhile (p := fun matcher => !matcher.isKeywords)
        (l := later.matchersAt c)
      rw [here.1]
      conv_rhs => rw [← parts]
      simp only [List.filter_append, List.filter_cons]
      rfl
    · rfl

theorem rule_mem_rulesAt {rule : Rule} :
    .rule rule ∈ mode.rulesAt c ↔ .rule rule ∈ mode.matchersAt c := by
  simp [rulesAt, Matcher.isDirective]

/-- Directives neither bring rules nor take them away. -/
theorem rule_mem_installDirectives {rule : Rule} (highlightUrls : Bool) :
    .rule rule ∈ (mode.installDirectives highlightUrls).matchersAt c ↔
      .rule rule ∈ mode.matchersAt c := by
  rw [← rule_mem_rulesAt, rulesAt_installDirectives, rule_mem_rulesAt]

theorem tries_installDirectives_iff (highlightUrls : Bool) :
    (mode.installDirectives highlightUrls).Tries c spec ↔ mode.Tries c spec := by
  simp only [Tries, rule_mem_installDirectives]

/-- Of two lists that are merged, each rule of either is in the outcome, as it is or written the
same. -/
theorem exists_rule_mem_mergeMatchers {own imported : List Matcher} :
    (∃ rule : Rule, rule.spec = spec ∧ .rule rule ∈ mergeMatchers own imported) ↔
      (∃ rule : Rule, rule.spec = spec ∧ .rule rule ∈ own) ∨
        ∃ rule : Rule, rule.spec = spec ∧ .rule rule ∈ imported := by
  constructor
  · rintro ⟨rule, same, member⟩
    exact (mem_mergeMatchers member).imp (fun there => ⟨rule, same, there⟩)
      fun there => ⟨rule, same, there⟩
  · rintro (⟨rule, same, member⟩ | ⟨rule, same, member⟩)
    · exact ⟨rule, same, (prefix_mergeMatchers own imported).subset member⟩
    · have has : HasLike (mergeMatchers own imported) (.rule rule) :=
        hasLike_mergeMatchers _ member
      simp only [HasLike, Matcher.isDirective, Bool.false_or, List.any_eq_true] at has
      obtain ⟨other, there, alike⟩ := has
      cases other with
      | directive directive => cases alike
      | rule other =>
        have specs : rule.spec = other.spec := by simpa [Matcher.same] using alike
        exact ⟨other, specs.symm.trans same, there⟩

theorem tries_foldl_importRules_iff {others : List Mode} (keyed : ∀ other ∈ others, other.Keyed) :
    (others.foldl importRules mode).Tries c spec ↔
      mode.Tries c spec ∨ ∃ other ∈ others, other.Tries c spec := by
  simp only [Tries, foldl_importRules_matchersAt others keyed, exists_rule_mem_mergeMatchers,
    List.mem_flatMap]
  grind

end Mode

namespace Registry

variable {library : Library} {highlightUrls : Bool} {origins : List Origin} {mode : Mode}

theorem Gathers.keyed (gathers : Gathers library highlightUrls origins mode) : mode.Keyed := by
  cases gathers with
  | unknown id => exact Mode.keyed_unknown id
  | assembled origin found others each =>
    exact ((Mode.keyed_compile ..).foldl_importRules _).installDirectives _

theorem keyed_of_gathers {others : List (List Origin × Mode)}
    (each : ∀ other ∈ others, Gathers library highlightUrls other.1 other.2) :
    ∀ other ∈ others.map (·.2), other.Keyed := by
  intro other member
  obtain ⟨gathered, among, rfl⟩ := List.mem_map.mp member
  exact (each gathered among).keyed

theorem Gathers.exists_of_known (gathers : Gathers library highlightUrls origins mode)
    (known : mode.isUnknown = false) : ∃ origin, origin ∈ origins := by
  cases gathers with
  | unknown id => cases known
  | assembled origin found others each => exact ⟨origin, List.mem_cons_self⟩

/-- Imports leave a mode with the attributes of its own ruleset. -/
theorem Gathers.attributes {origin : Origin}
    (gathers : Gathers library highlightUrls (origin :: origins) mode) :
    mode.attributes = origin.mode.attributes := by
  cases gathers with
  | assembled origin found others each =>
    rw [Registry.assembled, Mode.installDirectives_attributes, Mode.foldl_importRules_attributes]
    rfl

/-- The rules of its own ruleset are listed as they are. -/
theorem Gathers.own_mem_matchersAt {origin : Origin}
    (gathers : Gathers library highlightUrls (origin :: origins) mode) {c : Char} {rule : Rule}
    (own : .rule rule ∈ origin.mode.matchersAt c) : .rule rule ∈ mode.matchersAt c := by
  cases gathers with
  | assembled origin found others each =>
    rw [Registry.assembled, Mode.rule_mem_installDirectives,
      Mode.foldl_importRules_matchersAt _ (keyed_of_gathers each)]
    exact (Mode.prefix_mergeMatchers _ _).subset own

/-- All of these rulesets are in the library. -/
theorem Gathers.found (gathers : Gathers library highlightUrls origins mode) :
    ∀ origin ∈ origins, source? library origin.name = some (origin.file, origin.ruleset) := by
  induction gathers with
  | unknown id => simp
  | assembled own found others each ih =>
    intro origin member
    rcases List.mem_cons.mp member with rfl | imported
    · exact found
    · obtain ⟨other, among, there⟩ := List.mem_flatMap.mp imported
      exact ih other among origin there

/-- A rule is tried at a character exactly if one of the rulesets has it tried there. -/
theorem Gathers.tries_iff (gathers : Gathers library highlightUrls origins mode) (c : Char)
    (spec : RuleSpec) : mode.Tries c spec ↔ ∃ origin ∈ origins, origin.Tries c spec := by
  induction gathers with
  | unknown id =>
    have nothing : (Mode.unknown id).matchersAt c = [] := rfl
    simp [Mode.Tries, nothing]
  | assembled origin found others each ih =>
    rw [Registry.assembled, Mode.tries_installDirectives_iff,
      Mode.tries_foldl_importRules_iff (keyed_of_gathers each)]
    rw [List.exists_mem_cons_iff]
    refine or_congr (Mode.tries_compile_iff origin) ?_
    simp only [List.mem_map, List.mem_flatMap]
    constructor
    · rintro ⟨-, ⟨other, among, rfl⟩, tried⟩
      obtain ⟨imported, member, there⟩ := (ih other among).mp tried
      exact ⟨imported, ⟨other, among, member⟩, there⟩
    · rintro ⟨imported, ⟨other, among, member⟩, there⟩
      exact ⟨other.2, ⟨other, among, rfl⟩, (ih other among).mpr ⟨imported, member, there⟩⟩

/-! ## Every mode is gathered -/

/-- What holds of modes without rules, and of modes that are assembled from others of which it
holds. -/
structure OfAssembled (library : Library) (highlightUrls : Bool) (holds : Mode → Prop) : Prop where
  unknown : ∀ id, holds (.unknown id)
  assembled : ∀ {resolved : ModeName} {file : ModeFile} {ruleset : Ruleset} {others : List Mode},
    source? library resolved = some (file, ruleset) → (∀ other ∈ others, holds other) →
    holds (assembled highlightUrls resolved file ruleset others)

/-- A registry of a library in which something holds of every mode. -/
structure Keeping (library : Library) (highlightUrls : Bool) (holds : Mode → Prop)
    (registry : Registry) : Prop where
  sameLibrary : registry.library = library
  sameUrls : registry.highlightUrls = highlightUrls
  each : ∀ id mode, registry.get? id = some mode → holds mode

variable {holds : Mode → Prop} {registry : Registry} {loader : Loader}

theorem keeping_empty (library : Library) (highlightUrls : Bool) (holds : Mode → Prop) :
    Keeping library highlightUrls holds ⟨library, highlightUrls, .empty⟩ :=
  ⟨rfl, rfl, fun _ _ kept => nomatch kept⟩

theorem Keeping.keep (keeping : Keeping library highlightUrls holds registry) {id : RulesetId}
    (new : holds mode) : Keeping library highlightUrls holds (registry.keep id mode) where
  sameLibrary := keeping.sameLibrary
  sameUrls := keeping.sameUrls
  each := by
    intro other found kept
    rw [get?_keep] at kept
    split at kept
    · cases kept
      exact new
    · exact keeping.each other found kept

/-- A loader that gives and keeps only modes of which something holds. -/
def LoadsKeeping (library : Library) (highlightUrls : Bool) (holds : Mode → Prop)
    (loader : Loader) : Prop :=
  ∀ name progress, Keeping library highlightUrls holds progress.registry →
    holds (loader name progress).1 ∧
      Keeping library highlightUrls holds (loader name progress).2.registry

theorem collect_keeping (loads : LoadsKeeping library highlightUrls holds loader)
    (imports : List String) : ∀ progress,
    Keeping library highlightUrls holds progress.registry →
    (∀ other ∈ (collect loader library imports progress).1, holds other) ∧
      Keeping library highlightUrls holds
        (collect loader library imports progress).2.registry := by
  induction imports with
  | nil => exact fun _ keeping => ⟨by simp [collect], keeping⟩
  | cons name imports ih =>
    intro progress keeping
    rw [collect]
    split
    · exact ih progress keeping
    · obtain ⟨first, after⟩ := loads name progress keeping
      obtain ⟨rest, later⟩ := ih _ after
      refine ⟨?_, later⟩
      dsimp only
      split
      · exact rest
      · intro other member
        rcases List.mem_cons.mp member with rfl | among
        · exact first
        · exact rest other among

theorem followDelegate_keeping (loads : LoadsKeeping library highlightUrls holds loader)
    (id : RulesetId) (own : holds mode) (delegate : Option String) {progress : Progress}
    (keeping : Keeping library highlightUrls holds progress.registry) :
    holds (followDelegate loader library id mode delegate progress).1 ∧
      Keeping library highlightUrls holds
        (followDelegate loader library id mode delegate progress).2.registry := by
  cases delegate with
  | none => exact ⟨own, keeping⟩
  | some name =>
    obtain ⟨live, after⟩ := loads name progress keeping
    rw [followDelegate]
    split
    · exact ⟨own, keeping⟩
    · dsimp only
      split
      · exact ⟨own, after⟩
      · exact ⟨live, after.keep live⟩

theorem load_keeping (of : OfAssembled library highlightUrls holds) (fuel : Nat) :
    LoadsKeeping library highlightUrls holds (load fuel) := by
  induction fuel with
  | zero => exact fun name _ keeping => ⟨of.unknown _, keeping⟩
  | succ fuel ih =>
    intro name progress keeping
    rw [load_succ, loadStep, keeping.sameLibrary]
    generalize ModeName.ofText library name = resolved
    dsimp only
    cases kept : progress.registry.get? resolved.id with
    | some mode => exact ⟨keeping.each _ _ kept, keeping⟩
    | none =>
      cases found : source? library resolved with
      | none => exact ⟨of.unknown _, keeping.keep (of.unknown _)⟩
      | some source =>
        obtain ⟨file, ruleset⟩ := source
        obtain ⟨others, after⟩ :=
          collect_keeping ih ruleset.imports (progress.visit resolved.id) keeping
        simp only [importAll_eq_collect]
        rw [after.sameUrls]
        have own := of.assembled found others
        exact followDelegate_keeping ih resolved.id own file.initialDelegate (after.keep own)

theorem resolve_keeping (of : OfAssembled library highlightUrls holds)
    (keeping : Keeping library highlightUrls holds registry) (name : String) :
    holds (registry.resolve name).1 ∧
      Keeping library highlightUrls holds (registry.resolve name).2 :=
  load_keeping of (registry.library.mentions.length + 2) name ⟨registry, []⟩ keeping

theorem serveAll_keeping (of : OfAssembled library highlightUrls holds)
    (keeping : Keeping library highlightUrls holds registry) (requests : List Request) :
    Keeping library highlightUrls holds (registry.serveAll requests) :=
  serveAll_keeps (Keeping library highlightUrls holds)
    (fun _ request _ kept => (resolve_keeping of kept request.name).2) keeping

/-- If every mode of some is gathered, all can be said at once what they are gathered from. -/
theorem exists_gathered (others : List Mode)
    (each : ∀ other ∈ others, ∃ origins, Gathers library highlightUrls origins other) :
    ∃ gathered : List (List Origin × Mode), gathered.map (·.2) = others ∧
      ∀ other ∈ gathered, Gathers library highlightUrls other.1 other.2 := by
  induction others with
  | nil => exact ⟨[], rfl, by simp⟩
  | cons first others ih =>
    obtain ⟨origins, gathers⟩ := each first List.mem_cons_self
    obtain ⟨gathered, same, all⟩ :=
      ih fun other member => each other (List.mem_cons_of_mem _ member)
    exact ⟨(origins, first) :: gathered, by rw [List.map_cons, same],
      List.forall_mem_cons.mpr ⟨gathers, all⟩⟩

theorem ofAssembled_gathers (library : Library) (highlightUrls : Bool) :
    OfAssembled library highlightUrls
      fun mode => ∃ origins, Gathers library highlightUrls origins mode where
  unknown := fun id => ⟨[], .unknown id⟩
  assembled := by
    intro resolved file ruleset others found each
    obtain ⟨gathered, rfl, all⟩ := exists_gathered others each
    exact ⟨_, .assembled ⟨resolved, file, ruleset⟩ found gathered all⟩

/-- Whatever was asked for before, the mode of a name is gathered from rulesets of the library. -/
theorem resolve_gathers (library : Library) (highlightUrls : Bool) (requests : List Request)
    (name : String) : ∃ origins, Gathers library highlightUrls origins
      (((⟨library, highlightUrls, .empty⟩ : Registry).serveAll requests).resolve name).1 := by
  have of := ofAssembled_gathers library highlightUrls
  have keeping := serveAll_keeping of (keeping_empty library highlightUrls _) requests
  exact (resolve_keeping of keeping name).1

end Registry

end Highlighter
