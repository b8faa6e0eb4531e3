import Highlighter.Proofs.Registry.Merging
import Highlighter.Proofs.Registry.Names
import Mathlib.Data.Set.Finite.List
import Mathlib.Logic.Relation
import Mathlib.Order.WellFoundedSet

/-!
# Whole modes

The mode that a ruleset of a library comes to if every import counts in full, whatever was resolved
before.  This makes sense if no ruleset imports itself by way of others: then there is an end to
imports, since a library mentions finitely many names.
-/

namespace Highlighter

namespace Registry

/-- A ruleset imports another. -/
def Imports (library : Library) (importer imported : ModeName) : Prop :=
  ∃ file ruleset name, source? library importer = some (file, ruleset) ∧
    name ∈ ruleset.imports ∧ imported = ModeName.ofText library name

/-- No ruleset imports itself, directly or by way of others. -/
def Acyclic (library : Library) : Prop :=
  ∀ name, ¬Relation.TransGen (Imports library) name name

variable {library : Library} {resolved : ModeName} {file : ModeFile} {ruleset : Ruleset}

theorem Imports.mentioned {importer imported : ModeName}
    (imports : Imports library importer imported) :
    imported ∈ library.mentions.map (ModeName.ofText library) := by
  obtain ⟨file, ruleset, name, found, member, rfl⟩ := imports
  exact List.mem_map.mpr ⟨name, imports_subset_mentions found member, rfl⟩

/-- There is an end to imports. -/
theorem Acyclic.wellFounded (acyclic : Acyclic library) :
    WellFounded (Function.swap (Imports library)) := by
  have order : IsStrictOrder ModeName (Relation.TransGen (Function.swap (Imports library))) :=
    { irrefl := fun name cycle => acyclic name (Relation.transGen_swap.mp cycle)
      trans := fun _ _ _ => Relation.TransGen.trans }
  refine ⟨fun name => ?_⟩
  -- all that is imported below a name is mentioned, so there is only finitely much of it
  have finite :
      {other | Relation.TransGen (Function.swap (Imports library)) other name}.Finite := by
    refine (List.finite_toSet (library.mentions.map (ModeName.ofText library))).subset ?_
    intro other below
    obtain ⟨importer, imports, -⟩ := Relation.TransGen.head'_iff.mp below
    exact imports.mentioned
  exact (Set.WellFoundedOn.acc_iff_wellFoundedOn.out 0 2).mpr
    (finite.wellFoundedOn.mono (fun _ _ => Relation.TransGen.single) subset_rfl)

/-- A library is acyclic if imports descend in some order of rulesets. -/
theorem acyclic_of_rank (rank : ModeName → Nat) (descends : ∀ {importer imported : ModeName},
    Imports library importer imported → rank imported < rank importer) : Acyclic library := by
  have below : ∀ {first second : ModeName}, Relation.TransGen (Imports library) first second →
      rank second < rank first := by
    intro first second reaches
    induction reaches with
    | single imports => exact descends imports
    | tail _ imports ih => exact (descends imports).trans ih
  exact fun name cycle => Nat.lt_irrefl _ (below cycle)

/-! ## The mode of all imports -/

/-- The mode of a ruleset with the rules of all that it imports. -/
def whole (acyclic : Acyclic library) (highlightUrls : Bool) (resolved : ModeName) : Mode :=
  match _found : source? library resolved with
  | none => .unknown resolved.id
  | some (file, ruleset) =>
    let others := ruleset.imports.attach.map fun name =>
      whole acyclic highlightUrls (ModeName.ofText library name.1)
    (others.foldl Mode.importRules
      (Mode.compile resolved.language resolved.id file.delims ruleset)).installDirectives
        highlightUrls
termination_by acyclic.wellFounded.wrap resolved
decreasing_by exact ⟨file, ruleset, name.1, _found, name.2, rfl⟩

variable {acyclic : Acyclic library} {highlightUrls : Bool}

theorem whole_of_none (missing : source? library resolved = none) :
    whole acyclic highlightUrls resolved = .unknown resolved.id := by
  rw [whole]
  split
  · rfl
  · rename_i found
    rw [missing] at found
    cases found

theorem whole_of_some (found : source? library resolved = some (file, ruleset)) :
    whole acyclic highlightUrls resolved =
      ((ruleset.imports.map fun name =>
          whole acyclic highlightUrls (ModeName.ofText library name)).foldl Mode.importRules
        (Mode.compile resolved.language resolved.id file.delims ruleset)).installDirectives
          highlightUrls := by
  rw [whole]
  split
  · rename_i missing
    rw [found] at missing
    cases missing
  · rename_i same
    rw [found] at same
    cases same
    simp only [List.map_attach_eq_pmap, List.pmap_eq_map]

theorem whole_keyed (acyclic : Acyclic library) (highlightUrls : Bool) (resolved : ModeName) :
    (whole acyclic highlightUrls resolved).Keyed := by
  cases found : source? library resolved with
  | none =>
    rw [whole_of_none found]
    exact Mode.keyed_unknown _
  | some source =>
    rw [whole_of_some found]
    exact ((Mode.keyed_compile ..).foldl_importRules _).installDirectives _

/-- Imports add nothing but matchers. -/
theorem whole_attributes (acyclic : Acyclic library) (highlightUrls : Bool)
    (found : source? library resolved = some (file, ruleset)) :
    (whole acyclic highlightUrls resolved).attributes =
      (Mode.compile resolved.language resolved.id file.delims ruleset).attributes := by
  rw [whole_of_some found, Mode.installDirectives_attributes, Mode.foldl_importRules_attributes]

/-- What the imports of a ruleset have for a character, one after the other. -/
def importedAt (acyclic : Acyclic library) (highlightUrls : Bool) (names : List String) (c : Char) :
    List Matcher :=
  names.flatMap fun name =>
    (whole acyclic highlightUrls (ModeName.ofText library name)).matchersAt c

/-- Before directives are installed, the matchers of the imports are behind the rules of the
ruleset. -/
theorem foldl_whole_matchersAt (names : List String) (mode : Mode) (c : Char) :
    ((names.map fun name =>
      whole acyclic highlightUrls (ModeName.ofText library name)).foldl Mode.importRules
        mode).matchersAt c =
      Mode.mergeMatchers (mode.matchersAt c) (importedAt acyclic highlightUrls names c) := by
  rw [Mode.foldl_importRules_matchersAt _ (by simp [whole_keyed]), List.flatMap_map]
  rfl

/-- What covers all of a ruleset covers all that it imports. -/
theorem covers_of_imports {importer imported : ModeName} {list : List Matcher} {c : Char}
    (imports : Imports library importer imported)
    (covers : Mode.Covers list ((whole acyclic highlightUrls importer).matchersAt c)) :
    Mode.Covers list ((whole acyclic highlightUrls imported).matchersAt c) := by
  obtain ⟨file, ruleset, name, found, member, rfl⟩ := imports
  rw [whole_of_some found, Mode.Covers, Mode.mergeMatchers_installDirectives,
    foldl_whole_matchersAt] at covers
  exact (Mode.Covers.of_mergeMatchers covers).subset fun matcher there =>
    List.mem_flatMap.mpr ⟨name, member, there⟩

theorem covers_of_reaches {importer imported : ModeName} {list : List Matcher} {c : Char}
    (reaches : Relation.ReflTransGen (Imports library) importer imported)
    (covers : Mode.Covers list ((whole acyclic highlightUrls importer).matchersAt c)) :
    Mode.Covers list ((whole acyclic highlightUrls imported).matchersAt c) := by
  induction reaches with
  | refl => exact covers
  | tail _ imports ih => exact covers_of_imports imports ih

end Registry

end Highlighter
