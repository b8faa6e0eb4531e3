import Highlighter.Proofs.Registry.Requests
import Highlighter.Proofs.Registry.Sharing

/-!
# Where modes come from

A mode that is kept was put there for a name that was asked for or that the library mentions, and
the name has the identifier that the mode is kept under.  The mode stands for no ruleset exactly if
the name has none.  Otherwise it was assembled from a ruleset of the library, of which more than the
name need not be known: it may be that of an initial delegate.
-/

namespace Highlighter

/-- A mode with rules of its own and of others has a ruleset. -/
theorem Registry.assembled_isUnknown (highlightUrls : Bool) (resolved : ModeName) (file : ModeFile)
    (ruleset : Ruleset) (others : List Mode) :
    (assembled highlightUrls resolved file ruleset others).isUnknown = false := by
  have same : (assembled highlightUrls resolved file ruleset others).attributes =
      (Mode.compile resolved.language resolved.id file.delims ruleset).attributes := by
    simp only [assembled, Mode.installDirectives_attributes, Mode.foldl_importRules_attributes]
  exact Mode.isUnknown_eq_of_attributes same

namespace Registry

variable {library : Library} {highlightUrls : Bool} {names : String → Prop} {registry : Registry}
  {id : RulesetId} {mode : Mode}

/-- The modes that a ruleset of a library can be made into: with the rules of other modes, or alone
if it imports nothing. -/
inductive MadeOf (library : Library) (highlightUrls : Bool) (ruleset : Ruleset) : Mode → Prop
  | assembled {resolved : ModeName} {file : ModeFile}
      (found : source? library resolved = some (file, ruleset)) {others : List Mode}
      (alone : ruleset.imports = [] → others = []) :
      MadeOf library highlightUrls ruleset (assembled highlightUrls resolved file ruleset others)

/-- In a library of one ruleset all modes are made of that. -/
theorem MadeOf.eq_only {language key : String} {file : ModeFile} {ruleset only : Ruleset}
    (files : library.files.entries = [(language, file)]) (rulesets : file.rulesets = [(key, only)])
    (made : MadeOf library highlightUrls ruleset mode) : ruleset = only := by
  cases made with
  | assembled found alone =>
    obtain ⟨fileFound, rulesetFound⟩ := source?_eq_some found
    obtain ⟨_, member⟩ := file?_mem fileFound
    rw [files] at member
    cases List.mem_singleton.mp member
    obtain ⟨before, rest, same, -⟩ := List.lookup_eq_some_iff.mp rulesetFound
    have among := same ▸ List.mem_append_right before List.mem_cons_self
    rw [rulesets] at among
    exact (Prod.mk.inj (List.mem_singleton.mp among)).2

/-- The modes that a registry can come to keep. -/
inductive Made (library : Library) (highlightUrls : Bool) : Mode → Prop
  | unknown (id : RulesetId) : Made library highlightUrls (.unknown id)
  | ofRuleset {ruleset : Ruleset} {mode : Mode}
      (made : MadeOf library highlightUrls ruleset mode) : Made library highlightUrls mode

theorem Made.ruleset_of_known (made : Made library highlightUrls mode)
    (known : mode.isUnknown = false) : ∃ ruleset, MadeOf library highlightUrls ruleset mode := by
  cases made with
  | unknown id => cases known
  | ofRuleset made => exact ⟨_, made⟩

/-- A mode is one that can come to be kept under an identifier, for one of some names. -/
structure Stems (library : Library) (highlightUrls : Bool) (names : String → Prop)
    (id : RulesetId) (mode : Mode) : Prop where
  made : Made library highlightUrls mode
  named : ∃ name, names name ∧ (ModeName.ofText library name).id = id ∧
    (mode.isUnknown = true ↔ source? library (ModeName.ofText library name) = none)

/-- All modes of a registry stem from some names. -/
structure AllStem (library : Library) (highlightUrls : Bool) (names : String → Prop)
    (registry : Registry) : Prop where
  sameLibrary : registry.library = library
  sameUrls : registry.highlightUrls = highlightUrls
  stems : ∀ id mode, registry.get? id = some mode → Stems library highlightUrls names id mode

theorem allStem_empty (library : Library) (highlightUrls : Bool) (names : String → Prop) :
    AllStem library highlightUrls names ⟨library, highlightUrls, .empty⟩ :=
  ⟨rfl, rfl, fun _ _ kept => nomatch kept⟩

theorem AllStem.keep (all : AllStem library highlightUrls names registry)
    (stems : Stems library highlightUrls names id mode) :
    AllStem library highlightUrls names (registry.keep id mode) where
  sameLibrary := all.sameLibrary
  sameUrls := all.sameUrls
  stems := by
    intro other found kept
    rw [get?_keep] at kept
    by_cases same : id = other
    · rw [if_pos same] at kept
      cases kept
      exact same ▸ stems
    · rw [if_neg same] at kept
      exact all.stems other found kept

/-! ## Loading -/

/-- A loader that gives and keeps modes that stem from some names, if it is asked for one of
these. -/
def LoadsStemming (library : Library) (highlightUrls : Bool) (names : String → Prop)
    (loader : Loader) : Prop :=
  ∀ name, names name → ∀ progress, AllStem library highlightUrls names progress.registry →
    Made library highlightUrls (loader name progress).1 ∧
      AllStem library highlightUrls names (loader name progress).2.registry

variable {loader : Loader}

theorem collect_stems (loads : LoadsStemming library highlightUrls names loader)
    (imports : List String) (each : ∀ name ∈ imports, names name) : ∀ progress,
    AllStem library highlightUrls names progress.registry →
    AllStem library highlightUrls names
      (collect loader library imports progress).2.registry := by
  induction imports with
  | nil => exact fun _ all => all
  | cons name imports ih =>
    intro progress all
    have rest := ih fun other member => each other (List.mem_cons_of_mem _ member)
    rw [collect]
    split
    · exact rest progress all
    · exact rest _ (loads name (each name List.mem_cons_self) progress all).2

/-- A mode may give way to that of an initial delegate under a name that has a ruleset. -/
theorem followDelegate_stems (loads : LoadsStemming library highlightUrls names loader)
    {name : String} {source : ModeFile × Ruleset} (naming : names name)
    (found : source? library (ModeName.ofText library name) = some source)
    {delegate : Option String} (each : ∀ other, delegate = some other → names other)
    (made : Made library highlightUrls mode) {progress : Progress}
    (all : AllStem library highlightUrls names progress.registry) :
    let outcome :=
      followDelegate loader library (ModeName.ofText library name).id mode delegate progress
    Made library highlightUrls outcome.1 ∧
      AllStem library highlightUrls names outcome.2.registry := by
  cases delegate with
  | none => exact ⟨made, all⟩
  | some other =>
    obtain ⟨live, after⟩ := loads other (each other rfl) progress all
    simp only [followDelegate]
    split
    · exact ⟨made, all⟩
    · cases unknown : (loader other progress).1.isUnknown with
      | true => exact ⟨made, after⟩
      | false =>
        refine ⟨live, after.keep ⟨live, name, naming, rfl, ?_⟩⟩
        simp [unknown, found]

/-- Loading a name gives and keeps modes that stem from it and from what is mentioned. -/
theorem load_stems (mentioned : ∀ name ∈ library.mentions, names name) (fuel : Nat) :
    LoadsStemming library highlightUrls names (load fuel) := by
  induction fuel with
  | zero => exact fun name _ progress all => ⟨.unknown _, all⟩
  | succ fuel ih =>
    intro name naming progress all
    rw [load_succ, loadStep, all.sameLibrary]
    generalize resolvedName : ModeName.ofText library name = resolved
    dsimp only
    cases kept : progress.registry.get? resolved.id with
    | some mode => exact ⟨(all.stems _ _ kept).made, all⟩
    | none =>
      cases found : source? library resolved with
      | none =>
        refine ⟨.unknown _, all.keep ⟨.unknown _, name, naming, ?_, ?_⟩⟩
        · rw [resolvedName]
        · simp [resolvedName, found]
      | some source =>
        obtain ⟨file, ruleset⟩ := source
        have imported := collect_stems ih ruleset.imports
          (fun other member => mentioned other (imports_subset_mentions found member))
          (progress.visit resolved.id) all
        have alone : ruleset.imports = [] → (collect (load fuel) library ruleset.imports
            (progress.visit resolved.id)).1 = [] := by
          intro none
          rw [none, collect]
        simp only [importAll_eq_collect]
        generalize collect (load fuel) library ruleset.imports (progress.visit resolved.id) =
          collected at imported alone ⊢
        have made : Made library highlightUrls
            (assembled highlightUrls resolved file ruleset collected.1) :=
          .ofRuleset (.assembled found alone)
        have stems : Stems library highlightUrls names resolved.id
            (assembled highlightUrls resolved file ruleset collected.1) := by
          refine ⟨made, name, naming, by rw [resolvedName], ?_⟩
          simp [resolvedName, found, assembled_isUnknown]
        rw [imported.sameUrls]
        subst resolvedName
        exact followDelegate_stems ih naming found
          (fun other declared => mentioned other (initialDelegate_mem_mentions found declared))
          made (imported.keep stems)

/-! ## Requests -/

theorem resolve_stems (all : AllStem library highlightUrls names registry)
    (mentioned : ∀ name ∈ library.mentions, names name) {name : String} (naming : names name) :
    AllStem library highlightUrls names (registry.resolve name).2 :=
  (load_stems mentioned (registry.library.mentions.length + 2) name naming ⟨registry, []⟩ all).2

/-- All that is kept after some requests stems from their names and from what the library
mentions. -/
theorem serveAll_stems (mentioned : ∀ name ∈ library.mentions, names name)
    (requests : List Request) (each : ∀ request ∈ requests, names request.name)
    (all : AllStem library highlightUrls names registry) :
    AllStem library highlightUrls names (registry.serveAll requests) :=
  serveAll_keeps (AllStem library highlightUrls names)
    (fun _ request asked kept => resolve_stems kept mentioned (each request asked)) all

end Registry

end Highlighter
