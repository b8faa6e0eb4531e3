import Highlighter.Proofs.Registry.Settled

/-!
# Resolutions only add

A mode is kept under an identifier only if none was kept there when its name was asked for.  So a
resolution leaves every mode alone that was kept before, in whatever state the registry is.
-/

namespace Highlighter

namespace Registry

variable {library : Library} {loader : String → Progress → Mode × Progress}

/-- What was free at the start may be taken later on. -/
theorem GrowsTo.keep {before after : Registry} (grows : before.GrowsTo after) {id : RulesetId}
    (absent : before.get? id = none) (mode : Mode) : before.GrowsTo (after.keep id mode) where
  library := grows.library
  highlightUrls := grows.highlightUrls
  modes := by
    intro other kept present
    have different : id ≠ other := by
      rintro rfl
      rw [absent] at present
      contradiction
    rw [get?_keep, if_neg different]
    exact grows.modes present

/-- A loader that only adds modes. -/
def LoadsGrow (loader : String → Progress → Mode × Progress) : Prop :=
  ∀ (name : String) (progress : Progress),
    progress.registry.GrowsTo (loader name progress).2.registry

theorem importAll_growsTo (loads : LoadsGrow loader) (library : Library) (names : List String) :
    ∀ (mode : Mode) (progress : Progress),
    progress.registry.GrowsTo (importAll loader library names mode progress).2.registry := by
  induction names with
  | nil => exact fun _ progress => .refl progress.registry
  | cons name names ih =>
    intro mode progress
    rw [importAll]
    split
    · exact ih mode progress
    · exact (loads name progress).trans (ih _ _)

/-- An initial delegate takes a place that was free at the start. -/
theorem followDelegate_growsTo (loads : LoadsGrow loader) {start : Registry} {id : RulesetId}
    (absent : start.get? id = none) (mode : Mode) (delegate : Option String) {progress : Progress}
    (grows : start.GrowsTo progress.registry) :
    start.GrowsTo (followDelegate loader library id mode delegate progress).2.registry := by
  cases delegate with
  | none => exact grows
  | some name =>
    have later := grows.trans (loads name progress)
    rw [followDelegate]
    split
    · exact grows
    · dsimp only
      split
      · exact later
      · exact later.keep absent _

theorem load_growsTo (fuel : Nat) : LoadsGrow (load fuel) := by
  induction fuel with
  | zero => exact fun _ progress => .refl progress.registry
  | succ fuel ih =>
    intro name progress
    rw [load]
    generalize progress.registry.library = library
    generalize ModeName.ofText library name = resolved
    dsimp only
    cases absent : progress.registry.get? resolved.id with
    | some mode => exact .refl progress.registry
    | none =>
      cases source? library resolved with
      | none => exact growsTo_keep absent _
      | some source =>
        have imported := importAll_growsTo ih library source.2.imports
          (Mode.compile resolved.language resolved.id source.1.delims source.2)
          (progress.visit resolved.id)
        exact followDelegate_growsTo ih absent _ _ (imported.keep absent _)

/-- Every mode that is kept before a resolution is kept after it. -/
theorem growsTo_resolve (registry : Registry) (name : String) :
    registry.GrowsTo (registry.resolve name).2 :=
  load_growsTo (registry.library.mentions.length + 2) name ⟨registry, []⟩

end Registry

end Highlighter
