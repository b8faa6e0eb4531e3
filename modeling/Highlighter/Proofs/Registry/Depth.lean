import Highlighter.Proofs.Registry.Names

/-!
# How deep a resolution goes

To put a mode together, the modes that it imports have to be put together first, and the one that it
delegates to.  A name that is being put together is passed over inside itself, so this comes to an
end however rulesets import each other: no deeper than there are names for the library to mention.
`resolvesWithin_mentions` says so by handing the names at any depth from there on to a loader of any
kind, which makes no difference, since it is never asked.
-/

namespace Highlighter

namespace Registry

/-- A way to load a name. -/
abbrev Loader := (name : String) → Progress → Mode × Progress

/-- Puts the mode of a name together, unless it is kept, from those that a loader gives. -/
def loadStep (loader : Loader) (name : String) (progress : Progress) : Mode × Progress :=
  let library := progress.registry.library
  let resolved := ModeName.ofText library name
  match progress.registry.get? resolved.id with
  | some mode => (mode, progress)
  | none =>
    match source? library resolved with
    | none =>
      let mode := Mode.unknown resolved.id
      (mode, (progress.visit resolved.id).keep resolved.id mode)
    | some (file, ruleset) =>
      let (mode, progress) := importAll loader library ruleset.imports
        (Mode.compile resolved.language resolved.id file.delims ruleset)
        (progress.visit resolved.id)
      let mode := mode.installDirectives progress.registry.highlightUrls
      followDelegate loader library resolved.id mode file.initialDelegate
        (progress.keep resolved.id mode)

theorem load_succ (fuel : Nat) : load (fuel + 1) = loadStep (load fuel) := rfl

/-- Puts modes together to a given depth; below it stands another loader. -/
def loadFrom (bottom : Loader) : (depth : Nat) → Loader
  | 0 => bottom
  | depth + 1 => loadStep (loadFrom bottom depth)

/-- What was visited stays visited, for the same library. -/
structure Progress.Onward (before after : Progress) : Prop where
  library : after.registry.library = before.registry.library
  visited : before.visited ⊆ after.visited

namespace Progress.Onward

variable {first second third : Progress}

theorem refl (progress : Progress) : progress.Onward progress :=
  ⟨rfl, fun _ member => member⟩

theorem trans (one : first.Onward second) (two : second.Onward third) : first.Onward third :=
  ⟨two.library.trans one.library, fun _ member => two.visited (one.visited member)⟩

theorem visit (progress : Progress) (id : RulesetId) : progress.Onward (progress.visit id) :=
  ⟨rfl, List.subset_cons_self _ _⟩

theorem keep (progress : Progress) (id : RulesetId) (mode : Mode) :
    progress.Onward (progress.keep id mode) :=
  ⟨rfl, fun _ member => member⟩

end Progress.Onward

variable {library : Library} {base : List RulesetId} {loader other : Loader}

theorem importAll_onward (each : ∀ name progress, Progress.Onward progress (loader name progress).2)
    (names : List String) : ∀ mode progress,
    Progress.Onward progress (importAll loader library names mode progress).2 := by
  induction names with
  | nil => exact fun _ progress => .refl progress
  | cons name names ih =>
    intro mode progress
    rw [importAll]
    split
    · exact ih mode progress
    · exact (each name progress).trans (ih _ _)

theorem followDelegate_onward
    (each : ∀ name progress, Progress.Onward progress (loader name progress).2) (id : RulesetId)
    (mode : Mode) (delegate : Option String) (progress : Progress) :
    Progress.Onward progress (followDelegate loader library id mode delegate progress).2 := by
  cases delegate with
  | none => exact .refl progress
  | some name =>
    rw [followDelegate]
    split
    · exact .refl progress
    · dsimp only
      split
      · exact each name progress
      · exact (each name progress).trans (.keep ..)

theorem load_onward (fuel : Nat) : ∀ name progress,
    Progress.Onward progress (load fuel name progress).2 := by
  induction fuel with
  | zero => exact fun _ progress => .refl progress
  | succ fuel ih =>
    intro name progress
    rw [load]
    dsimp only
    split
    · exact .refl progress
    · split
      · exact (Progress.Onward.visit ..).trans (.keep ..)
      · exact ((Progress.Onward.visit ..).trans (importAll_onward ih _ _ _)).trans
          ((Progress.Onward.keep ..).trans (followDelegate_onward ih ..))

/-- Resolving a name leaves the library as it is. -/
theorem resolve_library (registry : Registry) (name : String) :
    (registry.resolve name).2.library = registry.library :=
  (load_onward (registry.library.mentions.length + 2) name ⟨registry, []⟩).library

/-- Two loaders agree on the names that the library mentions, once all of `base` is visited. -/
def AgreeOnMentions (library : Library) (base : List RulesetId) (first second : Loader) : Prop :=
  ∀ name ∈ library.mentions, ∀ progress : Progress, progress.registry.library = library →
    base ⊆ progress.visited → (ModeName.ofText library name).id ∉ progress.visited →
    first name progress = second name progress

theorem importAll_congr (agree : AgreeOnMentions library base other loader)
    (each : ∀ name progress, Progress.Onward progress (loader name progress).2)
    (names : List String) : ∀ mode progress, names ⊆ library.mentions →
    progress.registry.library = library → base ⊆ progress.visited →
    importAll other library names mode progress = importAll loader library names mode progress := by
  induction names with
  | nil => exact fun _ _ _ _ _ => rfl
  | cons name names ih =>
    intro mode progress mentioned same visited
    have rest : names ⊆ library.mentions :=
      fun _ member => mentioned (List.mem_cons_of_mem _ member)
    rw [importAll, importAll]
    split
    · exact ih mode progress rest same visited
    · rename_i contains
      have fresh : (ModeName.ofText library name).id ∉ progress.visited := by
        simpa using contains
      have onward := each name progress
      rw [agree name (mentioned List.mem_cons_self) progress same visited fresh]
      exact ih _ _ rest (onward.library.trans same) fun _ member => onward.visited (visited member)

theorem followDelegate_congr (agree : AgreeOnMentions library base other loader) (id : RulesetId)
    (mode : Mode) {delegate : Option String} {progress : Progress}
    (mentioned : ∀ name, delegate = some name → name ∈ library.mentions)
    (same : progress.registry.library = library) (visited : base ⊆ progress.visited) :
    followDelegate other library id mode delegate progress =
      followDelegate loader library id mode delegate progress := by
  cases delegate with
  | none => rfl
  | some name =>
    rw [followDelegate, followDelegate]
    split
    · rfl
    · rename_i contains
      rw [agree name (mentioned name rfl) progress same visited (by simpa using contains)]

/-- The names left to visit once one of them is being put together. -/
abbrev leftToVisit (name : String) (progress : Progress) : Nat :=
  (unvisited progress.registry.library
    ((ModeName.ofText progress.registry.library name).id :: progress.visited)).length

/-- What stands at the bottom is not asked if there are more levels above it than names left to
visit. -/
theorem loadFrom_eq_load (bottom : Loader) (fuel : Nat) : ∀ (depth : Nat) (name : String)
    (progress : Progress), leftToVisit name progress < depth → leftToVisit name progress < fuel →
    loadFrom bottom depth name progress = load fuel name progress := by
  induction fuel with
  | zero => exact fun _ _ _ _ enough => absurd enough (Nat.not_lt_zero _)
  | succ fuel ih =>
    intro depth name progress deep enough
    obtain ⟨depth, rfl⟩ := Nat.exists_eq_succ_of_ne_zero (Nat.ne_zero_of_lt deep)
    unfold leftToVisit at deep enough
    generalize resolvedName : ModeName.ofText progress.registry.library name = resolved
      at deep enough
    -- each name loaded below is one of those left to visit
    have agree : AgreeOnMentions progress.registry.library (resolved.id :: progress.visited)
        (loadFrom bottom depth) (load fuel) := by
      intro inner mentioned later same visited fresh
      have fewer := unvisited_length_lt mentioned visited fresh
      refine ih depth inner later ?_ ?_ <;> rw [leftToVisit, same] <;> omega
    rw [loadFrom, load_succ]
    simp only [loadStep, resolvedName]
    split
    · rfl
    · split
      · rfl
      · rename_i file ruleset found
        have importing : importAll (loadFrom bottom depth) progress.registry.library ruleset.imports
            (Mode.compile resolved.language resolved.id file.delims ruleset)
            (progress.visit resolved.id) =
          importAll (load fuel) progress.registry.library ruleset.imports
            (Mode.compile resolved.language resolved.id file.delims ruleset)
            (progress.visit resolved.id) :=
          importAll_congr agree (load_onward fuel) _ _ _ (imports_subset_mentions found) rfl
            (List.Subset.refl _)
        have onward := @importAll_onward progress.registry.library _ (load_onward fuel)
          ruleset.imports (Mode.compile resolved.language resolved.id file.delims ruleset)
          (progress.visit resolved.id)
        rw [importing]
        exact followDelegate_congr agree _ _
          (fun _ declared => initialDelegate_mem_mentions found declared) onward.library
          onward.visited

/-- No name is resolved through more levels than this: whatever stands below them, it is not
asked. -/
def ResolvesWithin (registry : Registry) (depth : Nat) : Prop :=
  ∀ (name : String) (bottom : Loader), registry.resolve name =
    ((loadFrom bottom depth name ⟨registry, []⟩).1,
      (loadFrom bottom depth name ⟨registry, []⟩).2.registry)

/-- A resolution goes through one level for its name, and no more below it than there are names for
the library to mention. -/
theorem resolvesWithin_mentions (registry : Registry) :
    registry.ResolvesWithin (registry.library.mentions.length + 1) := by
  intro name bottom
  have left : leftToVisit name ⟨registry, []⟩ ≤ registry.library.mentions.length :=
    List.length_filter_le ..
  rw [loadFrom_eq_load bottom (registry.library.mentions.length + 2) _ name ⟨registry, []⟩
    (by omega) (by omega)]
  rfl

end Registry

end Highlighter
