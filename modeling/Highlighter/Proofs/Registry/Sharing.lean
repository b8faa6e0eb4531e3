import Highlighter.Proofs.Registry.Depth
import Highlighter.Proofs.Registry.Whole

/-!
# Imports that are shared

Within a resolution a name that is visited is passed over, be it that it is being put together or
that this is done already.  The latter is a loss for a mode whose imports were visited before on
behalf of another: it is kept without their rules.  For the mode that is being put together at the
time it is none, since the rules have come into it, or will come, by the other way.

`Comes` says how much of a whole mode comes of loading a name: modulo the rules of what was visited
before and is imported below the name, the mode is whole; so it is whole if nothing such was
visited.
-/

namespace Highlighter

namespace Registry

open Mode (Covers mergeMatchers)

/-! ## What is imported -/

/-- The modes of some names that are to be imported. -/
def collect (loader : Loader) (library : Library) :
    (names : List String) → Progress → List Mode × Progress
  | [], progress => ([], progress)
  | name :: names, progress =>
    if progress.visited.contains (ModeName.ofText library name).id then
      collect loader library names progress
    else
      let (other, progress) := loader name progress
      let (others, progress) := collect loader library names progress
      (if other.isUnknown then others else other :: others, progress)

/-- Importing is to collect modes and then to merge their rules. -/
theorem importAll_eq_collect (loader : Loader) (library : Library) (names : List String) :
    ∀ mode progress, importAll loader library names mode progress =
      ((collect loader library names progress).1.foldl Mode.importRules mode,
        (collect loader library names progress).2) := by
  induction names with
  | nil => exact fun _ _ => rfl
  | cons name names ih =>
    intro mode progress
    rw [importAll, collect]
    split
    · exact ih mode progress
    · dsimp only
      rw [ih]
      split <;> rfl

/-! ## What is put together -/

/-- One name is reached from another by imports of names that are not kept. -/
def Reaches (start : Registry) : (name other : ModeName) → Prop :=
  Relation.ReflTransGen fun importer imported =>
    start.get? importer.id = none ∧ Imports start.library importer imported

/-- Two names reach no name in common that is not kept. -/
def Apart (start : Registry) (first second : ModeName) : Prop :=
  ∀ name, start.get? name.id = none → start.Reaches first name → ¬start.Reaches second name

/-- Wherever a name that is not kept is reached, its imports are apart. -/
def Spreads (start : Registry) (name : ModeName) : Prop :=
  ∀ importer file ruleset, start.Reaches name importer → start.get? importer.id = none →
    source? start.library importer = some (file, ruleset) →
    (ruleset.imports.map (ModeName.ofText start.library)).Pairwise start.Apart

/-- A name that is kept reaches no others, so it is apart from all. -/
theorem apart_of_kept {start : Registry} {first second : ModeName}
    (kept : (start.get? first.id).isSome) : start.Apart first second := by
  intro name absent reaches
  rcases Relation.ReflTransGen.cases_head reaches with rfl | ⟨_, ⟨firstAbsent, -⟩, -⟩
  · rw [absent] at kept
    cases kept
  · rw [firstAbsent] at kept
    cases kept

/-- Identifiers tell the names in play from each other, and what these import is in play as well. -/
structure TellsApart (library : Library) (inPlay : ModeName → Prop) : Prop where
  imports : ∀ {importer imported : ModeName},
    inPlay importer → Imports library importer imported → inPlay imported
  same : ∀ {first second : ModeName}, inPlay first → inPlay second → first.id = second.id →
    first = second

/-- A mode has all attributes of the whole mode of a name. -/
structure Sketches {library : Library} (acyclic : Acyclic library) (highlightUrls : Bool)
    (mode : Mode) (name : ModeName) : Prop where
  attributes : mode.attributes = (whole acyclic highlightUrls name).attributes
  keyed : mode.Keyed

/-- A mode has all matchers of the whole mode of a name. -/
def Completes {library : Library} (acyclic : Acyclic library) (highlightUrls : Bool)
    (mode : Mode) (name : ModeName) : Prop :=
  ∀ c, mode.matchersAt c = (whole acyclic highlightUrls name).matchersAt c

variable {start : Registry} {acyclic : Acyclic start.library} {inPlay : ModeName → Prop}

/-- What holds of every mode in play that a registry keeps, and of its name. -/
def Keeps (inPlay : ModeName → Prop) (holds : Mode → ModeName → Prop) (registry : Registry) :
    Prop :=
  ∀ name mode, inPlay name → registry.get? name.id = some mode → holds mode name

/-- What holds of every mode in play that a registry keeps and another did not. -/
def KeepsNew (inPlay : ModeName → Prop) (holds : Mode → ModeName → Prop)
    (before after : Registry) : Prop :=
  ∀ name mode, inPlay name → after.get? name.id = some mode →
    before.get? name.id = some mode ∨ holds mode name

theorem KeepsNew.trans {holds : Mode → ModeName → Prop} {first second third : Registry}
    (one : KeepsNew inPlay holds first second) (two : KeepsNew inPlay holds second third) :
    KeepsNew inPlay holds first third := by
  intro name mode playing kept
  rcases two name mode playing kept with before | right
  · exact one name mode playing before
  · exact .inr right

theorem KeepsNew.keeps {holds : Mode → ModeName → Prop} {before after : Registry}
    (new : KeepsNew inPlay holds before after) (keeps : Keeps inPlay holds before) :
    Keeps inPlay holds after :=
  fun name mode playing kept =>
    (new name mode playing kept).elim (keeps name mode playing) id

/-- A mode that is kept under the identifier of a name in play is the only new one. -/
theorem KeepsNew.keep {holds : Mode → ModeName → Prop} {registry : Registry} {name : ModeName}
    {mode : Mode} (tells : TellsApart start.library inPlay) (playing : inPlay name)
    (right : holds mode name) : KeepsNew inPlay holds registry (registry.keep name.id mode) := by
  intro other third playingToo kept
  rw [get?_keep] at kept
  split at kept
  · rename_i same
    cases kept
    exact .inr (tells.same playing playingToo same ▸ right)
  · exact .inl kept

/-- The progress of a resolution that started with a registry: the names visited were not kept then,
and all others are kept as they were. -/
structure Along (inPlay : ModeName → Prop) (start : Registry) (progress : Progress) : Prop where
  library : progress.registry.library = start.library
  highlightUrls : progress.registry.highlightUrls = start.highlightUrls
  fresh : ∀ name, inPlay name → name.id ∈ progress.visited → start.get? name.id = none
  outside : ∀ name, inPlay name → name.id ∉ progress.visited →
    progress.registry.get? name.id = start.get? name.id

/-- A name in play is reached from another, and is visited already. -/
def Shared (inPlay : ModeName → Prop) (start : Registry) (progress : Progress)
    (resolved name : ModeName) : Prop :=
  inPlay name ∧ name.id ∈ progress.visited ∧ start.Reaches resolved name

/-- What comes of loading a name. -/
structure Comes (acyclic : Acyclic start.library) (inPlay : ModeName → Prop) (resolved : ModeName)
    (before : Progress) (outcome : Mode × Progress) : Prop where
  along : Along inPlay start outcome.2
  visited : before.visited ⊆ outcome.2.visited
  reached : ∀ name, inPlay name → name.id ∈ outcome.2.visited →
    name.id ∈ before.visited ∨ start.Reaches resolved name
  sketches : Sketches acyclic start.highlightUrls outcome.1 resolved
  keepsSketches : KeepsNew inPlay (Sketches acyclic start.highlightUrls) before.registry
    outcome.2.registry
  /-- Where the rules of all that was visited are there, those of the whole mode come. -/
  merges : Keeps inPlay (Completes acyclic start.highlightUrls) start → ∀ c list,
    (∀ name, Shared inPlay start before resolved name →
      Covers list ((whole acyclic start.highlightUrls name).matchersAt c)) →
    mergeMatchers list (outcome.1.matchersAt c) =
      mergeMatchers list ((whole acyclic start.highlightUrls resolved).matchersAt c)
  completes : Keeps inPlay (Completes acyclic start.highlightUrls) start →
    (∀ name, ¬Shared inPlay start before resolved name) →
    Completes acyclic start.highlightUrls outcome.1 resolved
  keepsCompletes : Keeps inPlay (Completes acyclic start.highlightUrls) start →
    (∀ name, ¬Shared inPlay start before resolved name) → start.Spreads resolved →
    KeepsNew inPlay (Completes acyclic start.highlightUrls) before.registry outcome.2.registry

/-- What comes of collecting the modes of names. -/
structure Collects (acyclic : Acyclic start.library) (inPlay : ModeName → Prop)
    (names : List String) (before : Progress) (outcome : List Mode × Progress) : Prop where
  along : Along inPlay start outcome.2
  visited : before.visited ⊆ outcome.2.visited
  reached : ∀ name, inPlay name → name.id ∈ outcome.2.visited → name.id ∈ before.visited ∨
    ∃ imported ∈ names, start.Reaches (ModeName.ofText start.library imported) name
  keyed : ∀ mode ∈ outcome.1, mode.Keyed
  keepsSketches : KeepsNew inPlay (Sketches acyclic start.highlightUrls) before.registry
    outcome.2.registry
  merges : Keeps inPlay (Completes acyclic start.highlightUrls) start → ∀ c list,
    (∀ imported ∈ names, ∀ name,
      Shared inPlay start before (ModeName.ofText start.library imported) name →
      Covers list ((whole acyclic start.highlightUrls name).matchersAt c)) →
    mergeMatchers list (outcome.1.flatMap fun other => other.matchersAt c) =
      mergeMatchers list (importedAt acyclic start.highlightUrls names c)
  keepsCompletes : Keeps inPlay (Completes acyclic start.highlightUrls) start →
    (∀ imported ∈ names, ∀ name,
      ¬Shared inPlay start before (ModeName.ofText start.library imported) name) →
    (∀ imported ∈ names, start.Spreads (ModeName.ofText start.library imported)) →
    (names.map (ModeName.ofText start.library)).Pairwise start.Apart →
    KeepsNew inPlay (Completes acyclic start.highlightUrls) before.registry outcome.2.registry

/-- A loader from which this comes for every name mentioned, once all of `base` is visited. -/
def ComesOfMentions (acyclic : Acyclic start.library) (inPlay : ModeName → Prop)
    (base : List RulesetId) (loader : Loader) : Prop :=
  ∀ name ∈ start.library.mentions, inPlay (ModeName.ofText start.library name) →
    ∀ progress : Progress, Along inPlay start progress → base ⊆ progress.visited →
    (ModeName.ofText start.library name).id ∉ progress.visited →
    Comes acyclic inPlay (ModeName.ofText start.library name) progress (loader name progress)

/-- A name without a ruleset has no rules. -/
theorem whole_matchersAt_of_unknown {library : Library} {acyclic : Acyclic library}
    {highlightUrls : Bool} {name : ModeName}
    (unknown : (whole acyclic highlightUrls name).isUnknown = true) (c : Char) :
    (whole acyclic highlightUrls name).matchersAt c = [] := by
  cases found : source? library name with
  | none =>
    rw [whole_of_none found]
    rfl
  | some source =>
    have known := Mode.isUnknown_eq_of_attributes (whole_attributes acyclic highlightUrls found)
    rw [known] at unknown
    cases unknown

theorem Reaches.imports {name other : ModeName} (reaches : start.Reaches name other) :
    Relation.ReflTransGen (Imports start.library) name other :=
  Relation.ReflTransGen.mono (fun _ _ => And.right) name other reaches

/-- What a mode that is imported adds. -/
theorem Comes.merges_one {resolved : ModeName} {before : Progress} {outcome : Mode × Progress}
    (comes : Comes acyclic inPlay resolved before outcome)
    (complete : Keeps inPlay (Completes acyclic start.highlightUrls) start) (c : Char)
    {list : List Matcher} (covers : ∀ name, Shared inPlay start before resolved name →
      Covers list ((whole acyclic start.highlightUrls name).matchersAt c)) (others : List Mode) :
    mergeMatchers list ((if outcome.1.isUnknown then others
        else outcome.1 :: others).flatMap fun other => other.matchersAt c) =
      mergeMatchers (mergeMatchers list
          ((whole acyclic start.highlightUrls resolved).matchersAt c))
        (others.flatMap fun other => other.matchersAt c) := by
  have known : outcome.1.isUnknown = (whole acyclic start.highlightUrls resolved).isUnknown :=
    Mode.isUnknown_eq_of_attributes comes.sketches.attributes
  split
  · rename_i unknown
    rw [whole_matchersAt_of_unknown (known ▸ unknown)]
    rfl
  · rw [List.flatMap_cons, Mode.mergeMatchers_append, comes.merges complete c list covers]

theorem collects_nil {progress : Progress} (along : Along inPlay start progress) :
    Collects acyclic inPlay [] progress ([], progress) where
  along := along
  visited := fun _ member => member
  reached := fun _ _ member => .inl member
  keyed := fun _ member => absurd member List.not_mem_nil
  keepsSketches := fun _ _ _ => .inl
  merges := fun _ _ _ _ => rfl
  keepsCompletes := fun _ _ _ _ _ _ _ => .inl

/-- A name that is visited adds nothing: its rules are there already. -/
theorem Collects.cons_visited {name : String} {names : List String} {before : Progress}
    {outcome : List Mode × Progress} (rest : Collects acyclic inPlay names before outcome)
    (shared : Shared inPlay start before (ModeName.ofText start.library name)
      (ModeName.ofText start.library name)) :
    Collects acyclic inPlay (name :: names) before outcome where
  along := rest.along
  visited := rest.visited
  reached := by
    intro other playing there
    apply (rest.reached other playing there).imp_right
    rintro ⟨imported, among, reaches⟩
    exact ⟨imported, List.mem_cons_of_mem _ among, reaches⟩
  keyed := rest.keyed
  keepsSketches := rest.keepsSketches
  merges := by
    intro complete c list covers
    have here : mergeMatchers list _ = list := covers name List.mem_cons_self _ shared
    rw [importedAt, List.flatMap_cons, Mode.mergeMatchers_append, here]
    apply rest.merges complete c list
    exact fun imported among => covers imported (List.mem_cons_of_mem _ among)
  keepsCompletes := fun _ none => absurd shared (none name List.mem_cons_self _)

/-- A name that is loaded adds the rules of its mode, and what it reaches is visited from then on.
-/
theorem Collects.cons_loaded {name : String} {names : List String} {before : Progress}
    {loaded : Mode × Progress} {outcome : List Mode × Progress}
    (step : Comes acyclic inPlay (ModeName.ofText start.library name) before loaded)
    (rest : Collects acyclic inPlay names loaded.2 outcome) :
    Collects acyclic inPlay (name :: names) before
      (if loaded.1.isUnknown then outcome.1 else loaded.1 :: outcome.1, outcome.2) where
  along := rest.along
  visited := fun _ member => rest.visited (step.visited member)
  reached := by
    intro other playing there
    rcases rest.reached other playing there with earlier | ⟨imported, among, reaches⟩
    · apply (step.reached other playing earlier).imp_right
      exact fun reaches => ⟨name, List.mem_cons_self, reaches⟩
    · exact .inr ⟨imported, List.mem_cons_of_mem _ among, reaches⟩
  keyed := by
    intro mode among
    dsimp only at among
    split at among
    · exact rest.keyed mode among
    · rcases List.mem_cons.mp among with rfl | later
      · exact step.sketches.keyed
      · exact rest.keyed mode later
  keepsSketches := step.keepsSketches.trans rest.keepsSketches
  merges := by
    intro complete c list covers
    rw [step.merges_one complete c (covers name List.mem_cons_self), importedAt,
      List.flatMap_cons, Mode.mergeMatchers_append]
    apply rest.merges complete c
    intro imported among other shared
    -- what is visited by now was visited before, or came with this name
    rcases step.reached other shared.1 shared.2.1 with earlier | reaches
    · apply Covers.mergeMatchers
      exact covers imported (List.mem_cons_of_mem _ among) other ⟨shared.1, earlier, shared.2.2⟩
    · exact covers_of_reaches reaches.imports (Mode.covers_mergeMatchers ..)
  keepsCompletes := by
    intro complete none spreads apart
    rw [List.map_cons, List.pairwise_cons] at apart
    have first := step.keepsCompletes complete (none name List.mem_cons_self)
      (spreads name List.mem_cons_self)
    apply first.trans
    apply rest.keepsCompletes complete _
      (fun imported among => spreads imported (List.mem_cons_of_mem _ among)) apart.2
    intro imported among other shared
    rcases step.reached other shared.1 shared.2.1 with earlier | reaches
    · exact none imported (List.mem_cons_of_mem _ among) other ⟨shared.1, earlier, shared.2.2⟩
    · exact apart.1 _ (List.mem_map_of_mem among) other
        (step.along.fresh other shared.1 shared.2.1) reaches shared.2.2

theorem collect_collects {base : List RulesetId} {loader : Loader}
    (loads : ComesOfMentions acyclic inPlay base loader) (names : List String) :
    ∀ progress : Progress, names ⊆ start.library.mentions →
      (∀ name ∈ names, inPlay (ModeName.ofText start.library name)) →
      Along inPlay start progress → base ⊆ progress.visited →
      Collects acyclic inPlay names progress (collect loader start.library names progress) := by
  induction names with
  | nil => exact fun _ _ _ along _ => collects_nil along
  | cons name names ih =>
    intro progress mentioned playing along visited
    have restMentioned : names ⊆ start.library.mentions :=
      fun _ member => mentioned (List.mem_cons_of_mem _ member)
    have restPlaying : ∀ other ∈ names, inPlay (ModeName.ofText start.library other) :=
      fun other member => playing other (List.mem_cons_of_mem _ member)
    have play := playing name List.mem_cons_self
    simp only [collect, List.contains_eq_mem, decide_eq_true_eq]
    split
    · rename_i member
      exact (ih progress restMentioned restPlaying along visited).cons_visited
        ⟨play, member, .refl⟩
    · rename_i fresh
      have step := loads name (mentioned List.mem_cons_self) play progress along visited fresh
      apply Collects.cons_loaded step
      apply ih _ restMentioned restPlaying step.along
      exact fun _ member => step.visited (visited member)

/-! ## Loading -/

/-- No file of a library has an initial delegate. -/
def Undelegated (library : Library) : Prop :=
  ∀ entry ∈ library.files.entries, entry.2.initialDelegate = none

theorem Undelegated.file {library : Library} (undelegated : Undelegated library) {name : ModeName}
    {file : ModeFile} {ruleset : Ruleset} (found : source? library name = some (file, ruleset)) :
    file.initialDelegate = none := by
  obtain ⟨key, member⟩ := file?_mem (source?_eq_some found).1
  exact undelegated (key, file) member

theorem Along.visit {progress : Progress} (along : Along inPlay start progress) {id : RulesetId}
    (absent : start.get? id = none) : Along inPlay start (progress.visit id) where
  library := along.library
  highlightUrls := along.highlightUrls
  fresh := by
    intro name playing member
    rcases List.mem_cons.mp member with same | earlier
    · rw [same, absent]
    · exact along.fresh name playing earlier
  outside := fun name playing absent =>
    along.outside name playing fun earlier => absent (List.mem_cons_of_mem _ earlier)

theorem Along.keep {progress : Progress} (along : Along inPlay start progress) {id : RulesetId}
    (visited : id ∈ progress.visited) (mode : Mode) :
    Along inPlay start (progress.keep id mode) where
  library := along.library
  highlightUrls := along.highlightUrls
  fresh := along.fresh
  outside := by
    intro name playing absent
    have other : id ≠ name.id := fun same => absent (same ▸ visited)
    exact ((get?_keep ..).trans (if_neg other)).trans (along.outside name playing absent)

/-- Nothing that a ruleset imports reaches the ruleset. -/
theorem not_reaches_of_imports (acyclic : Acyclic start.library) {importer imported : ModeName}
    (imports : Imports start.library importer imported) : ¬start.Reaches imported importer :=
  fun reaches => acyclic importer (.head' imports reaches.imports)

theorem comes_of_kept (sketched : Keeps inPlay (Sketches acyclic start.highlightUrls) start)
    {resolved : ModeName} {progress : Progress} {mode : Mode} (playing : inPlay resolved)
    (along : Along inPlay start progress) (fresh : resolved.id ∉ progress.visited)
    (kept : progress.registry.get? resolved.id = some mode) :
    Comes acyclic inPlay resolved progress (mode, progress) := by
  have before := (along.outside resolved playing fresh).symm.trans kept
  exact {
    along
    visited := fun _ member => member
    reached := fun _ _ => .inl
    sketches := sketched resolved mode playing before
    keepsSketches := fun _ _ _ => .inl
    merges := fun complete c list _ =>
      congrArg (mergeMatchers list) (complete resolved mode playing before c)
    completes := fun complete _ => complete resolved mode playing before
    keepsCompletes := fun _ _ _ _ _ _ => .inl }

theorem comes_of_none (tells : TellsApart start.library inPlay) {resolved : ModeName}
    {progress : Progress} (playing : inPlay resolved) (along : Along inPlay start progress)
    (absent : start.get? resolved.id = none) (missing : source? start.library resolved = none) :
    Comes acyclic inPlay resolved progress (.unknown resolved.id,
      (progress.visit resolved.id).keep resolved.id (.unknown resolved.id)) := by
  have isWhole : Mode.unknown resolved.id = whole acyclic start.highlightUrls resolved :=
    (whole_of_none missing).symm
  have completes : Completes acyclic start.highlightUrls (.unknown resolved.id) resolved :=
    fun c => by rw [isWhole]
  have sketches : Sketches acyclic start.highlightUrls (.unknown resolved.id) resolved :=
    ⟨by rw [isWhole], Mode.keyed_unknown _⟩
  exact {
    along := (along.visit absent).keep List.mem_cons_self _
    visited := List.subset_cons_self _ _
    reached := by
      intro name nameInPlay member
      rcases List.mem_cons.mp member with same | earlier
      · exact .inr (tells.same nameInPlay playing same ▸ .refl)
      · exact .inl earlier
    sketches
    keepsSketches := .keep tells playing sketches
    merges := fun _ c list _ => congrArg (mergeMatchers list) (completes c)
    completes := fun _ _ => completes
    keepsCompletes := fun _ _ _ => .keep tells playing completes }

/-- What the imports of a ruleset share with what was visited, the ruleset shares, since it is not
itself below its imports. -/
theorem Shared.of_imported (acyclic : Acyclic start.library)
    (tells : TellsApart start.library inPlay) {resolved imported name : ModeName}
    {progress : Progress} (playing : inPlay resolved) (absent : start.get? resolved.id = none)
    (imports : Imports start.library resolved imported)
    (shared : Shared inPlay start (progress.visit resolved.id) imported name) :
    Shared inPlay start progress resolved name := by
  obtain ⟨nameInPlay, visited, reaches⟩ := shared
  rcases List.mem_cons.mp visited with same | earlier
  · rw [tells.same nameInPlay playing same] at reaches
    exact absurd reaches (not_reaches_of_imports acyclic imports)
  · exact ⟨nameInPlay, earlier, .head ⟨absent, imports⟩ reaches⟩

/-- The mode of a ruleset with the rules of some modes that were collected for it. -/
def assembled (highlightUrls : Bool) (resolved : ModeName) (file : ModeFile) (ruleset : Ruleset)
    (others : List Mode) : Mode :=
  (others.foldl Mode.importRules
    (Mode.compile resolved.language resolved.id file.delims ruleset)).installDirectives
      highlightUrls

theorem sketches_assembled {resolved : ModeName} {file : ModeFile} {ruleset : Ruleset}
    (found : source? start.library resolved = some (file, ruleset)) (others : List Mode) :
    Sketches acyclic start.highlightUrls
      (assembled start.highlightUrls resolved file ruleset others) resolved where
  attributes := by
    rw [assembled, whole_attributes acyclic _ found, Mode.installDirectives_attributes,
      Mode.foldl_importRules_attributes]
  keyed := ((Mode.keyed_compile ..).foldl_importRules _).installDirectives _

/-- What is imported from an assembled mode are its own rules, and behind them those of the others.
-/
theorem mergeMatchers_assembled (highlightUrls : Bool) (resolved : ModeName) (file : ModeFile)
    (ruleset : Ruleset) {others : List Mode} (keyed : ∀ other ∈ others, other.Keyed) (c : Char)
    (list : List Matcher) :
    mergeMatchers list ((assembled highlightUrls resolved file ruleset others).matchersAt c) =
      mergeMatchers (mergeMatchers list
          ((Mode.compile resolved.language resolved.id file.delims ruleset).matchersAt c))
        (others.flatMap fun other => other.matchersAt c) := by
  rw [assembled, Mode.mergeMatchers_installDirectives,
    Mode.foldl_importRules_matchersAt _ keyed, Mode.mergeMatchers_mergeMatchers]

/-- A mode is whole if the rules of the others come to those of all imports. -/
theorem completes_assembled {resolved : ModeName} {file : ModeFile} {ruleset : Ruleset}
    (found : source? start.library resolved = some (file, ruleset)) {others : List Mode}
    (keyed : ∀ other ∈ others, other.Keyed)
    (all : ∀ c list, mergeMatchers list (others.flatMap fun other => other.matchersAt c) =
      mergeMatchers list (importedAt acyclic start.highlightUrls ruleset.imports c)) :
    Completes acyclic start.highlightUrls
      (assembled start.highlightUrls resolved file ruleset others) resolved := by
  have alike : Mode.Alike (assembled start.highlightUrls resolved file ruleset others)
      (whole acyclic start.highlightUrls resolved) := by
    rw [whole_of_some found]
    apply Mode.Alike.installDirectives
    rw [Mode.alike_iff, Mode.foldl_importRules_attributes, Mode.foldl_importRules_attributes]
    refine ⟨fun c => ?_, rfl⟩
    rw [Mode.foldl_importRules_matchersAt _ keyed, foldl_whole_matchersAt]
    exact all c _
  exact alike.matchersAt

/-- A ruleset comes into a mode with the modes that are collected for it. -/
theorem comes_of_some (tells : TellsApart start.library inPlay) {resolved : ModeName}
    {progress : Progress} (playing : inPlay resolved) (absent : start.get? resolved.id = none)
    {file : ModeFile} {ruleset : Ruleset}
    (found : source? start.library resolved = some (file, ruleset))
    {outcome : List Mode × Progress}
    (collects : Collects acyclic inPlay ruleset.imports (progress.visit resolved.id) outcome) :
    let mode := assembled start.highlightUrls resolved file ruleset outcome.1
    Comes acyclic inPlay resolved progress (mode, outcome.2.keep resolved.id mode) := by
  intro mode
  have imports : ∀ name ∈ ruleset.imports,
      Imports start.library resolved (ModeName.ofText start.library name) :=
    fun name member => ⟨file, ruleset, name, found, member, rfl⟩
  have shared : ∀ imported ∈ ruleset.imports, ∀ name,
      Shared inPlay start (progress.visit resolved.id)
        (ModeName.ofText start.library imported) name →
      Shared inPlay start progress resolved name :=
    fun imported member _ => .of_imported acyclic tells playing absent (imports imported member)
  have sketches : Sketches acyclic start.highlightUrls mode resolved :=
    sketches_assembled found outcome.1
  have completes : Keeps inPlay (Completes acyclic start.highlightUrls) start →
      (∀ name, ¬Shared inPlay start progress resolved name) →
      Completes acyclic start.highlightUrls mode resolved := by
    intro complete none
    apply completes_assembled found collects.keyed
    intro c list
    apply collects.merges complete c list
    exact fun imported member name both => absurd (shared imported member name both) (none name)
  exact {
    along := collects.along.keep (collects.visited List.mem_cons_self) _
    visited := fun _ member => collects.visited (List.mem_cons_of_mem _ member)
    reached := by
      intro name nameInPlay there
      rcases collects.reached name nameInPlay there with earlier | ⟨imported, member, reaches⟩
      · rcases List.mem_cons.mp earlier with same | earlier
        · exact .inr (tells.same nameInPlay playing same ▸ .refl)
        · exact .inl earlier
      · exact .inr (.head ⟨absent, imports imported member⟩ reaches)
    sketches
    keepsSketches := collects.keepsSketches.trans (.keep tells playing sketches)
    merges := by
      intro complete c list covers
      rw [mergeMatchers_assembled _ _ _ _ collects.keyed, whole_of_some found,
        Mode.mergeMatchers_installDirectives, foldl_whole_matchersAt,
        Mode.mergeMatchers_mergeMatchers]
      apply collects.merges complete c
      intro imported member name both
      exact (covers name (shared imported member name both)).mergeMatchers _
    completes
    keepsCompletes := by
      intro complete none spreads
      have others := collects.keepsCompletes complete
        (fun imported member name both => none name (shared imported member name both))
        (fun imported member importer file ruleset reaches => spreads importer file ruleset
          (.head ⟨absent, imports imported member⟩ reaches))
        (spreads resolved file ruleset .refl absent found)
      exact others.trans (.keep tells playing (completes complete none)) }

theorem load_comes (tells : TellsApart start.library inPlay)
    (undelegated : Undelegated start.library)
    (sketched : Keeps inPlay (Sketches acyclic start.highlightUrls) start) (fuel : Nat) :
    ∀ (name : String) (progress : Progress), inPlay (ModeName.ofText start.library name) →
      Along inPlay start progress →
      (ModeName.ofText start.library name).id ∉ progress.visited →
      leftToVisit name progress < fuel →
      Comes acyclic inPlay (ModeName.ofText start.library name) progress
        (load fuel name progress) := by
  induction fuel with
  | zero => exact fun _ _ _ _ _ enough => absurd enough (Nat.not_lt_zero _)
  | succ fuel ih =>
    intro name progress playing along fresh enough
    rw [leftToVisit, along.library] at enough
    generalize resolvedName : ModeName.ofText start.library name = resolved at *
    have loads : ComesOfMentions acyclic inPlay (resolved.id :: progress.visited)
        (load fuel) := by
      intro inner mentioned innerInPlay later laterAlong visited innerFresh
      refine ih inner later innerInPlay laterAlong innerFresh ?_
      have := unvisited_length_lt mentioned visited innerFresh
      rw [leftToVisit, laterAlong.library]
      omega
    rw [load_succ, loadStep, along.library, resolvedName]
    dsimp only
    split
    · rename_i kept
      exact comes_of_kept sketched playing along fresh kept
    · rename_i notKept
      have absent : start.get? resolved.id = none :=
        (along.outside resolved playing fresh).symm.trans notKept
      split
      · rename_i missing
        exact comes_of_none tells playing along absent missing
      · rename_i file ruleset found
        have collects := collect_collects loads ruleset.imports (progress.visit resolved.id)
          (imports_subset_mentions found)
          (fun other member => tells.imports playing ⟨file, ruleset, other, found, member, rfl⟩)
          (along.visit absent) (List.Subset.refl _)
        rw [importAll_eq_collect, undelegated.file found, followDelegate,
          collects.along.highlightUrls]
        exact comes_of_some tells playing absent found collects

end Registry

end Highlighter
