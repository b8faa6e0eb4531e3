import Highlighter.Proofs.Registry.Courses
import Highlighter.Proofs.Registry.History
import Highlighter.Proofs.Registry.Listing

/-!
# What a first resolution collects

In a resolution each name is put together once, and whoever imports it later passes it over.  So of
a name the mode at the end has the rules of just those rulesets that were visited for it in between.
`Gains` says this of a task, along with where the visited rulesets are: reached by imports from the
names of the task, and such that their own imports are visited as well, unless they were visited
before.  If nothing was visited before, these are all that imports reach, go round in circles as
they may.
-/

namespace Highlighter

/-- The rules of a mode and of one that it imports are tried. -/
theorem Mode.tries_importRules_iff {mode other : Mode} (keyed : other.Keyed) {c : Char}
    {spec : RuleSpec} :
    (mode.importRules other).Tries c spec ↔ mode.Tries c spec ∨ other.Tries c spec := by
  simp only [Tries, importRules_matchersAt mode keyed, exists_rule_mem_mergeMatchers]

namespace Registry

/-- The names that a task has to load. -/
def Task.names (library : Library) : Task → List ModeName
  | load name => [ModeName.ofText library name]
  | importAll names _ => names.map (ModeName.ofText library)
  | follow _ _ delegate => delegate.toList.map (ModeName.ofText library)

/-- The mode that a task starts with. -/
def Task.mode? : Task → Option Mode
  | load _ => none
  | importAll _ mode => some mode
  | follow _ mode _ => some mode

/-- A task that has no delegate to load. -/
def Task.IsUndelegated : Task → Prop
  | load _ => True
  | importAll _ _ => True
  | follow _ _ delegate => delegate = none

/-- All that is kept is visited. -/
def Progress.KeepsVisited (progress : Progress) : Prop :=
  ∀ id, (progress.registry.get? id).isSome → id ∈ progress.visited

/-- A ruleset in play that comes to be visited. -/
structure IsNew (library : Library) (inPlay : ModeName → Prop) (before after : List RulesetId)
    (origin : Origin) : Prop where
  playing : inPlay origin.name
  found : source? library origin.name = some (origin.file, origin.ruleset)
  fresh : origin.name.id ∉ before
  visited : origin.name.id ∈ after

/-- What comes of a task. -/
structure Gains (library : Library) (inPlay : ModeName → Prop) (task : Task) (before : Progress)
    (outcome : Mode × Progress) : Prop where
  visited : before.visited ⊆ outcome.2.visited
  keepsVisited : outcome.2.KeepsVisited
  named : ∀ name ∈ task.names library, name.id ∈ outcome.2.visited
  imports : ∀ {importer imported : ModeName}, inPlay importer →
    Imports library importer imported → importer.id ∈ outcome.2.visited →
    importer.id ∈ before.visited ∨ imported.id ∈ outcome.2.visited
  reached : ∀ {name : ModeName}, inPlay name → name.id ∈ outcome.2.visited →
    name.id ∈ before.visited ∨
      ∃ first ∈ task.names library, Relation.ReflTransGen (Imports library) first name
  keyed : (∀ mode ∈ task.mode?, mode.Keyed) → outcome.1.Keyed
  attributes : ∀ mode ∈ task.mode?, outcome.1.attributes = mode.attributes
  /-- A name without a ruleset has no rules. -/
  nothing : task.mode? = none → outcome.1.isUnknown = true → ∀ c spec, ¬outcome.1.Tries c spec
  /-- The rules are those of the mode at the start and of all rulesets that are visited. -/
  tries : ∀ c spec, outcome.1.Tries c spec ↔ (∃ mode ∈ task.mode?, mode.Tries c spec) ∨
    ∃ origin, IsNew library inPlay before.visited outcome.2.visited origin ∧
      origin.Tries c spec

variable {library : Library} {inPlay : ModeName → Prop} {task : Task} {before after : Progress}
  {compiled : List RulesetId} {outcome : Mode × Progress} {mode : Mode} {origin : Origin}

/-! ## Rulesets that are new -/

theorem isNew_trans {first second third : List RulesetId} (one : first ⊆ second)
    (two : second ⊆ third) : IsNew library inPlay first third origin ↔
      IsNew library inPlay first second origin ∨ IsNew library inPlay second third origin := by
  constructor
  · intro new
    by_cases between : origin.name.id ∈ second
    · exact .inl ⟨new.playing, new.found, new.fresh, between⟩
    · exact .inr ⟨new.playing, new.found, between, new.visited⟩
  · rintro (new | new)
    · exact ⟨new.playing, new.found, new.fresh, two new.visited⟩
    · exact ⟨new.playing, new.found, fun earlier => new.fresh (one earlier), new.visited⟩

theorem not_isNew_self {visited : List RulesetId} :
    ¬IsNew library inPlay visited visited origin :=
  fun new => new.fresh new.visited

/-- When a name is visited, its ruleset is all that is new. -/
theorem isNew_cons (tells : TellsApart library inPlay) {resolved : ModeName}
    {visited : List RulesetId} (playing : inPlay resolved) (fresh : resolved.id ∉ visited) :
    IsNew library inPlay visited (resolved.id :: visited) origin ↔ origin.name = resolved ∧
      source? library resolved = some (origin.file, origin.ruleset) := by
  constructor
  · intro new
    have same : origin.name = resolved := by
      rcases List.mem_cons.mp new.visited with here | earlier
      · exact tells.same new.playing playing here
      · exact absurd earlier new.fresh
    exact ⟨same, same ▸ new.found⟩
  · rintro ⟨rfl, found⟩
    exact ⟨playing, found, fresh, List.mem_cons_self⟩

/-! ## What comes of each task -/

theorem Progress.KeepsVisited.keep {progress : Progress} (keeps : progress.KeepsVisited)
    {id : RulesetId} (member : id ∈ progress.visited) (mode : Mode) :
    (progress.keep id mode).KeepsVisited := by
  intro other present
  rw [Progress.keep, get?_keep] at present
  split at present
  · rename_i same
    exact same ▸ member
  · exact keeps other present

theorem Progress.KeepsVisited.visit {progress : Progress} (keeps : progress.KeepsVisited)
    (id : RulesetId) : (progress.visit id).KeepsVisited :=
  fun other present => List.mem_cons_of_mem _ (keeps other present)

/-- Where there is no name to load, nothing is done. -/
theorem gains_nothing (keeps : before.KeepsVisited) (names : task.names library = [])
    (start : task.mode? = some mode) : Gains library inPlay task before (mode, before) where
  visited := List.Subset.refl _
  keepsVisited := keeps
  named := by simp [names]
  imports := fun _ _ => .inl
  reached := fun _ => .inl
  keyed := fun keyed => keyed mode start
  attributes := by
    rintro other same
    rw [start] at same
    rw [Option.mem_some.mp same]
  nothing := by simp [start]
  tries := by simp [start, not_isNew_self]

/-- A name without a ruleset is visited and gains no rules. -/
theorem gains_missing (tells : TellsApart library inPlay) (keeps : before.KeepsVisited)
    {name : String} {resolved : ModeName} (named : ModeName.ofText library name = resolved)
    (playing : inPlay resolved) (fresh : resolved.id ∉ before.visited)
    (nowhere : source? library resolved = none) :
    Gains library inPlay (.load name) before (.unknown resolved.id,
      (before.visit resolved.id).keep resolved.id (.unknown resolved.id)) := by
  have none : ∀ c spec, ¬(Mode.unknown resolved.id).Tries c spec := by
    rintro c spec ⟨rule, -, member⟩
    exact absurd member List.not_mem_nil
  exact {
    visited := List.subset_cons_self _ _
    keepsVisited := (keeps.visit resolved.id).keep List.mem_cons_self _
    named := by simp [Task.names, named, Progress.keep, Progress.visit]
    imports := by
      rintro importer imported play ⟨file, ruleset, other, found, -⟩ member
      rcases List.mem_cons.mp member with here | earlier
      · rw [tells.same play playing here, nowhere] at found
        cases found
      · exact .inl earlier
    reached := by
      intro other play member
      rcases List.mem_cons.mp member with here | earlier
      · exact .inr ⟨resolved, by simp [Task.names, named], tells.same play playing here ▸ .refl⟩
      · exact .inl earlier
    keyed := fun _ => Mode.keyed_unknown _
    attributes := fun _ start => nomatch start
    nothing := fun _ _ => none
    tries := by
      intro c spec
      refine iff_of_false (none c spec) ?_
      rintro (⟨_, start, -⟩ | ⟨origin, new, -⟩)
      · cases start
      · have source := ((isNew_cons tells playing fresh).mp new).2
        rw [nowhere] at source
        cases source }

/-- A name with a ruleset gains its rules and those of all that it imports. -/
theorem Gains.withImports (tells : TellsApart library inPlay) (origin : Origin) {name : String}
    (named : ModeName.ofText library name = origin.name) (playing : inPlay origin.name)
    (fresh : origin.name.id ∉ before.visited)
    (found : source? library origin.name = some (origin.file, origin.ruleset))
    (highlightUrls : Bool)
    (gains : Gains library inPlay (.importAll origin.ruleset.imports origin.mode)
      (before.visit origin.name.id) (mode, after)) :
    Gains library inPlay (.load name) before (mode.installDirectives highlightUrls,
      after.keep origin.name.id (mode.installDirectives highlightUrls)) := by
  have known : (mode.installDirectives highlightUrls).isUnknown = false :=
    (Mode.isUnknown_eq_of_attributes (Mode.installDirectives_attributes ..)).trans
      (Mode.isUnknown_eq_of_attributes (gains.attributes origin.mode rfl))
  have here : origin.name.id ∈ after.visited := gains.visited List.mem_cons_self
  have imported : ∀ {first : ModeName},
      first ∈ origin.ruleset.imports.map (ModeName.ofText library) →
        Imports library origin.name first := by
    intro first member
    obtain ⟨other, among, rfl⟩ := List.mem_map.mp member
    exact ⟨_, _, other, found, among, rfl⟩
  exact {
    visited := fun _ member => gains.visited (List.mem_cons_of_mem _ member)
    keepsVisited := gains.keepsVisited.keep here _
    named := by
      intro other member
      rwa [List.mem_singleton.mp member, named]
    imports := by
      intro importer imported play imports member
      rcases gains.imports play imports member with earlier | there
      · rcases List.mem_cons.mp earlier with same | earlier
        · obtain ⟨file, ruleset, other, source, among, rfl⟩ := imports
          rw [tells.same play playing same, found] at source
          cases source
          exact .inr (gains.named _ (List.mem_map_of_mem among))
        · exact .inl earlier
      · exact .inr there
    reached := by
      intro other play member
      have self : origin.name ∈ (Task.load name).names library := by simp [Task.names, named]
      rcases gains.reached play member with earlier | ⟨first, among, path⟩
      · rcases List.mem_cons.mp earlier with same | earlier
        · exact .inr ⟨origin.name, self, tells.same play playing same ▸ .refl⟩
        · exact .inl earlier
      · exact .inr ⟨origin.name, self, .head (imported among) path⟩
    keyed := by
      intro _
      apply Mode.Keyed.installDirectives
      apply gains.keyed
      rintro _ ⟨⟩
      exact Mode.keyed_compile ..
    attributes := fun _ start => nomatch start
    nothing := by
      intro _ unknown
      rw [known] at unknown
      cases unknown
    tries := by
      intro c spec
      have visit : ∀ other, IsNew library inPlay before.visited after.visited other ↔
          other = origin ∨
            IsNew library inPlay (before.visit origin.name.id).visited after.visited other := by
        intro other
        refine (isNew_trans (List.subset_cons_self _ _) gains.visited).trans
          (or_congr_left ((isNew_cons tells playing fresh).trans ?_))
        constructor
        · rintro ⟨same, source⟩
          obtain ⟨_, _, _⟩ := other
          cases same
          cases found.symm.trans source
          rfl
        · rintro rfl
          exact ⟨rfl, found⟩
      have importsTry := gains.tries c spec
      simp only [Task.mode?, Option.mem_def, Option.some.injEq, exists_eq_left',
        Mode.tries_compile_iff] at importsTry
      rw [Mode.tries_installDirectives_iff, importsTry]
      simp only [Progress.keep, visit, Task.mode?, Option.mem_def, reduceCtorEq, false_and,
        exists_false, false_or, or_and_right, exists_or, exists_eq_left] }

/-- What is visited already is taken to be there. -/
theorem Gains.passedOver {name : String} {names : List String}
    (visited : (ModeName.ofText library name).id ∈ before.visited)
    (gains : Gains library inPlay (.importAll names mode) before outcome) :
    Gains library inPlay (.importAll (name :: names) mode) before outcome where
  visited := gains.visited
  keepsVisited := gains.keepsVisited
  named := List.forall_mem_cons.mpr ⟨gains.visited visited, gains.named⟩
  imports := gains.imports
  reached := by
    intro other play member
    apply (gains.reached play member).imp_right
    rintro ⟨first, among, path⟩
    exact ⟨first, List.mem_cons_of_mem _ among, path⟩
  keyed := gains.keyed
  attributes := gains.attributes
  nothing := fun start => nomatch start
  tries := gains.tries

/-- The rules of an import are added to those that are there. -/
theorem Gains.imported {name : String} {names : List String} {other : Mode}
    (one : Gains library inPlay (.load name) before (other, after))
    (two : Gains library inPlay
      (.importAll names (if other.isUnknown then mode else mode.importRules other)) after outcome) :
    Gains library inPlay (.importAll (name :: names) mode) before outcome where
  visited := fun _ member => two.visited (one.visited member)
  keepsVisited := two.keepsVisited
  named := List.forall_mem_cons.mpr
    ⟨two.visited (one.named _ List.mem_cons_self), two.named⟩
  imports := by
    intro importer imported play imports member
    rcases two.imports play imports member with earlier | there
    · exact (one.imports play imports earlier).imp_right fun there => two.visited there
    · exact .inr there
  reached := by
    intro third play member
    rcases two.reached play member with earlier | ⟨first, among, path⟩
    · apply (one.reached play earlier).imp_right
      rintro ⟨first, among, path⟩
      exact ⟨first, List.mem_cons.mpr (.inl (List.mem_singleton.mp among)), path⟩
    · exact .inr ⟨first, List.mem_cons_of_mem _ among, path⟩
  keyed := by
    intro keyed
    apply two.keyed
    rintro _ ⟨⟩
    split
    · exact keyed mode rfl
    · exact (keyed mode rfl).importRules other
  attributes := by
    rintro _ ⟨⟩
    refine (two.attributes _ rfl).trans ?_
    split <;> rfl
  nothing := fun start => nomatch start
  tries := by
    intro c spec
    have keyed : other.Keyed := one.keyed fun _ start => nomatch start
    have added : (if other.isUnknown then mode else mode.importRules other).Tries c spec ↔
        mode.Tries c spec ∨ other.Tries c spec := by
      split
      · rename_i unknown
        exact (or_iff_left (one.nothing rfl unknown c spec)).symm
      · exact Mode.tries_importRules_iff keyed
    have otherTries := one.tries c spec
    have restTries := two.tries c spec
    simp only [Task.mode?, Option.mem_def, Option.some.injEq, exists_eq_left', reduceCtorEq,
      false_and, exists_false, false_or] at otherTries restTries ⊢
    rw [restTries, added, otherTries, or_assoc]
    simp only [isNew_trans one.visited two.visited, or_and_right, exists_or]

/-! ## The whole course -/

theorem Course.gains (tells : TellsApart library inPlay) (undelegated : Undelegated library)
    (course : Course library task before compiled outcome) (due : task.IsDue library before)
    (alone : task.IsUndelegated) (keeps : before.KeepsVisited)
    (playing : ∀ name ∈ task.names library, inPlay name) :
    Gains library inPlay task before outcome := by
  induction course with
  | kept present => exact absurd (keeps _ (by rw [present]; rfl)) due
  | missing absent nowhere =>
    exact gains_missing tells keeps rfl (playing _ List.mem_cons_self) due nowhere
  | @compiled name resolved before after file ruleset mode _ _ outcome named absent found imports
      follows importsGain =>
    rw [undelegated.file found] at follows
    cases follows
    have play : inPlay resolved := named ▸ playing _ List.mem_cons_self
    have fresh : resolved.id ∉ before.visited := named ▸ due
    refine Gains.withImports tells ⟨resolved, file, ruleset⟩ named play fresh found _
      (importsGain trivial trivial (keeps.visit resolved.id) fun first member => ?_)
    obtain ⟨other, among, rfl⟩ := List.mem_map.mp member
    exact tells.imports play ⟨_, _, other, found, among, rfl⟩
  | importedAll => exact gains_nothing keeps rfl rfl
  | passedOver visited _ rest =>
    have others := rest trivial trivial keeps fun other member =>
      playing other (List.mem_cons_of_mem _ member)
    exact others.passedOver visited
  | imported fresh _ _ loads rest =>
    have one := loads fresh trivial keeps fun other member =>
      playing other (List.mem_cons.mpr (.inl (List.mem_singleton.mp member)))
    exact one.imported (rest trivial trivial one.keepsVisited fun _ member =>
      playing _ (List.mem_cons_of_mem _ member))
  | undelegated => exact gains_nothing keeps rfl rfl
  | stays => cases alone
  | delegated => cases alone

/-- All that imports reach is visited, however they go round in circles. -/
theorem Gains.visited_of_reached (tells : TellsApart library inPlay)
    (gains : Gains library inPlay task before outcome) (nothing : before.visited = [])
    {first name : ModeName} (playing : inPlay first) (member : first.id ∈ outcome.2.visited)
    (path : Relation.ReflTransGen (Imports library) first name) :
    inPlay name ∧ name.id ∈ outcome.2.visited := by
  induction path with
  | refl => exact ⟨playing, member⟩
  | tail _ imports ih =>
    have there := (gains.imports ih.1 imports ih.2).resolve_left
      (by rw [nothing]; exact List.not_mem_nil)
    exact ⟨tells.imports ih.1 imports, there⟩

theorem ofAssembled_keyed (library : Library) (highlightUrls : Bool) :
    OfAssembled library highlightUrls Mode.Keyed where
  unknown := Mode.keyed_unknown
  assembled := fun _ _ => ((Mode.keyed_compile ..).foldl_importRules _).installDirectives _

/-- A name is resolved to its own ruleset with what was collected for it. -/
theorem exists_resolve_eq_assembled (undelegated : Undelegated library) (highlightUrls : Bool)
    {name : String} (named : ModeName.ofText library name = origin.name)
    (found : source? library origin.name = some (origin.file, origin.ruleset)) :
    ∃ others : List Mode, (∀ other ∈ others, other.Keyed) ∧
      ((⟨library, highlightUrls, .empty⟩ : Registry).resolve name).1 =
        assembled highlightUrls origin.name origin.file origin.ruleset others := by
  let start : Progress := ⟨⟨library, highlightUrls, .empty⟩, []⟩
  change ∃ others : List Mode, _ ∧ (load (library.mentions.length + 2) name start).1 = _
  have loads := load_keeping (ofAssembled_keyed library highlightUrls) (library.mentions.length + 1)
  rw [load_succ]
  generalize load (library.mentions.length + 1) = loader at loads ⊢
  obtain ⟨keyed, after⟩ := collect_keeping loads origin.ruleset.imports
    (start.visit origin.name.id) (keeping_empty library highlightUrls Mode.Keyed)
  have same : start.registry.library = library := rfl
  have absent : start.registry.get? origin.name.id = none := rfl
  refine ⟨_, keyed, ?_⟩
  simp only [loadStep, same, named, absent, found, importAll_eq_collect, undelegated.file found,
    followDelegate, after.sameUrls, assembled]

/-- The first resolution collects every import.  Let no file have an initial delegate and
identifiers tell rulesets apart, those that are missing among them; imports may go round in circles.
Then a name with a ruleset is resolved to a mode that lists the rules of this ruleset first, in the
order of the file.  A rule is tried at a character exactly if one of the rulesets that imports reach
has it tried there. -/
theorem resolve_collects_imports (library : Library) (highlightUrls : Bool) (name : String)
    (own : Origin) (named : ModeName.ofText library name = own.name)
    (found : source? library own.name = some (own.file, own.ruleset))
    (undelegated : Undelegated library)
    (distinct : ∀ first ∈ name :: library.mentions, ∀ second ∈ name :: library.mentions,
      (ModeName.ofText library first).id = (ModeName.ofText library second).id →
        ModeName.ofText library first = ModeName.ofText library second) :
    ∃ mode, ((⟨library, highlightUrls, .empty⟩ : Registry).resolve? name).1 = some mode ∧
      ∀ c, (∃ imported, mode.rulesAt c = own.listed c ++ imported) ∧
        ∀ spec, mode.Tries c spec ↔ ∃ origin : Origin,
          Relation.ReflTransGen (Imports library) own.name origin.name ∧
          source? library origin.name = some (origin.file, origin.ruleset) ∧
          origin.Tries c spec := by
  let fresh : Registry := ⟨library, highlightUrls, .empty⟩
  obtain ⟨others, keyed, same⟩ := exists_resolve_eq_assembled undelegated highlightUrls named found
  have known : (fresh.resolve name).1.isUnknown = false := by
    rw [same, assembled_isUnknown]
  refine ⟨(fresh.resolve name).1, ?_, fun c => ⟨?_, fun spec => ?_⟩⟩
  · rw [resolve?]
    exact if_neg (by rw [known]; exact Bool.false_ne_true)
  · rw [same]
    exact exists_rulesAt_assembled own highlightUrls keyed c
  have tells := tellsApart_of_names (List.subset_cons_self name _) distinct
  generalize inPlayIs : (fun resolved => ∃ other ∈ name :: library.mentions,
    resolved = ModeName.ofText library other) = inPlay at tells
  have playing : inPlay (ModeName.ofText library name) := by
    rw [← inPlayIs]
    exact ⟨name, List.mem_cons_self, rfl⟩
  obtain ⟨compiled, outcome, course, resolved⟩ := resolve_takesCourse fresh name
  have gains := course.gains tells undelegated List.not_mem_nil trivial
    (fun _ present => nomatch present) fun other member => by
      rwa [List.mem_singleton.mp member]
  have there := gains.named _ List.mem_cons_self
  rw [resolved, gains.tries]
  rw [named] at playing there
  constructor
  · rintro (⟨_, start, -⟩ | ⟨origin, new, tried⟩)
    · cases start
    · obtain ⟨first, among, path⟩ := (gains.reached new.playing new.visited).resolve_left
        List.not_mem_nil
      rw [List.mem_singleton.mp among, named] at path
      exact ⟨origin, path, new.found, tried⟩
  · rintro ⟨origin, path, source, tried⟩
    obtain ⟨play, visited⟩ := gains.visited_of_reached tells rfl playing there path
    exact .inr ⟨origin, ⟨play, source, List.not_mem_nil, visited⟩, tried⟩

/-- A language with two rulesets that import each other and one more, which imports them in turn,
and with an import of a ruleset that is missing. -/
def circularFile : ModeFile where
  rulesets := [
    ("main", {
      imports := ["circle", "circle::left", "circle::right"]
      rules := [{ spec := .seq "+" "operator" none {} }] }),
    ("left", { imports := ["circle::right", "circle::below", "circle::nowhere"] }),
    ("right", { imports := ["circle::below", "circle::left"] }),
    ("below", {
      imports := ["circle"]
      rules := [{ spec := .seq "+=" "operator" none {} }] })]

/-- The library of this language alone. -/
def circular : Library where
  files := .ofList [("circle", circularFile)]

/-- The ruleset of the language that is resolved, which imports itself as well. -/
def circularOrigin : Origin where
  name := ⟨"circle", "main", ⟨"circle_main"⟩⟩
  file := circularFile
  ruleset := {
    imports := ["circle", "circle::left", "circle::right"]
    rules := [{ spec := .seq "+" "operator" none {} }] }

/-- What both others import comes along, behind what is there. -/
theorem resolve_collects_imports_circular : Undelegated circular ∧
    ∃ mode, ((⟨circular, true, .empty⟩ : Registry).resolve? "circle").1 = some mode ∧
      (∃ imported, mode.rulesAt '+' = circularOrigin.listed '+' ++ imported) ∧
      mode.Tries '+' (.seq "+=" "operator" none {}) := by
  have undelegated : Undelegated circular := by
    intro entry member
    cases List.mem_singleton.mp member
    rfl
  obtain ⟨mode, resolved, collects⟩ := resolve_collects_imports circular true "circle"
    circularOrigin (by decide +kernel) (by decide +kernel) undelegated (by decide +kernel)
  refine ⟨undelegated, mode, resolved, (collects '+').1, ((collects '+').2 _).mpr ?_⟩
  let left : ModeName := ⟨"circle", "left", ⟨"circle_left"⟩⟩
  let below : ModeName := ⟨"circle", "below", ⟨"circle_below"⟩⟩
  have first : Imports circular circularOrigin.name left :=
    ⟨circularFile, circularOrigin.ruleset, "circle::left", by decide +kernel, by decide,
      by decide +kernel⟩
  have second : Imports circular left below :=
    ⟨circularFile, _, "circle::below", rfl, by decide, by decide +kernel⟩
  exact ⟨⟨below, circularFile, _⟩, .tail (.tail .refl first) second, rfl,
    _, List.mem_cons_self, rfl, by decide +kernel⟩

end Registry

end Highlighter
