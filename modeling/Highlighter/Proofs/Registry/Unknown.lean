import Highlighter.Proofs.Registry.Origins

/-!
# Names without a ruleset

A name is answered with a mode if it has a ruleset, and with nothing if not, whatever was asked for
before.  But modes are kept under identifiers, and two names may share one: outside `main`, capitals
count as small letters in it, and other characters as underscores.  Such namesakes share their
answer too, which is that of the one that came first.  So the answer is right if no namesake was
asked for or is mentioned that has a ruleset where the name has none, or the other way round.
-/

namespace Highlighter

/-- A language with a ruleset in small letters, and a further name for it. -/
def Library.lowercase : Library where
  files := .ofList [("small", { rulesets := [("cpp", {})] })]
  aliases := .ofList [("tiny", "small")]

namespace Registry

/-- There is a file for the language of a name, further names for it included, and the ruleset is in
it. -/
def HasRuleset (library : Library) (name : String) : Prop :=
  ∃ file ruleset, library.file? (ModeName.ofText library name).language = some file ∧
    file.ruleset? (ModeName.ofText library name).ruleset = some ruleset

/-- Two names with the same identifier. -/
def Namesakes (library : Library) (first second : String) : Prop :=
  (ModeName.ofText library first).id = (ModeName.ofText library second).id

variable {library : Library} {name : String}

theorem hasRuleset_iff :
    HasRuleset library name ↔ (source? library (ModeName.ofText library name)).isSome := by
  constructor
  · rintro ⟨file, ruleset, fileFound, rulesetFound⟩
    simp [source?, fileFound, rulesetFound]
  · intro found
    obtain ⟨⟨file, ruleset⟩, found⟩ := Option.isSome_iff_exists.mp found
    exact ⟨file, ruleset, source?_eq_some found⟩

instance : Decidable (HasRuleset library name) :=
  decidable_of_iff _ hasRuleset_iff.symm

instance (first second : String) : Decidable (Namesakes library first second) :=
  inferInstanceAs (Decidable (_ = _))

theorem resolve?_isSome_eq (registry : Registry) (name : String) :
    (registry.resolve? name).1.isSome = !(registry.resolve name).1.isUnknown := by
  cases unknown : (registry.resolve name).1.isUnknown <;> simp [resolve?, unknown]

/-- A name is answered as one of its namesakes has it: itself, or one that was asked for or is
mentioned. -/
theorem resolve?_isSome_as_namesake (library : Library) (highlightUrls : Bool)
    (earlier : List Request) (name : String) :
    let registry := (⟨library, highlightUrls, .empty⟩ : Registry).serveAll earlier
    ∃ other ∈ name :: earlier.map Request.name ++ library.mentions,
      Namesakes library other name ∧
      ((registry.resolve? name).1.isSome ↔ HasRuleset library other) := by
  intro registry
  let names : String → Prop := (· ∈ name :: earlier.map Request.name ++ library.mentions)
  have mentioned : ∀ other ∈ library.mentions, names other :=
    fun other member => List.mem_append_right _ member
  have asked : ∀ request ∈ earlier, names request.name := fun request member =>
    List.mem_append_left _ (List.mem_cons_of_mem _ (List.mem_map_of_mem member))
  have all : AllStem library highlightUrls names registry :=
    serveAll_stems mentioned earlier asked (allStem_empty library highlightUrls names)
  have after : AllStem library highlightUrls names (registry.resolve name).2 :=
    resolve_stems all mentioned (List.mem_append_left _ List.mem_cons_self)
  have kept := get?_resolve (serveAll_settled (settled_empty library highlightUrls) earlier) name
  rw [show registry.library = library from all.sameLibrary] at kept
  obtain ⟨other, member, namesake, unknown⟩ := (after.stems _ _ kept).named
  refine ⟨other, member, namesake, ?_⟩
  rw [resolve?_isSome_eq, hasRuleset_iff, Option.isSome_iff_ne_none, Ne, ← unknown]
  simp [registry]

/-- Whatever the library and whatever was asked for before, a name is answered with a mode exactly
if there is a file for its language that has its ruleset, provided that the same goes for its
namesakes: each that was asked for or is mentioned has a ruleset exactly if the name has one. -/
theorem resolve?_isSome_iff (library : Library) (highlightUrls : Bool) (earlier : List Request)
    (name : String)
    (alike : ∀ other ∈ earlier.map Request.name ++ library.mentions,
      Namesakes library other name → (HasRuleset library other ↔ HasRuleset library name)) :
    (((⟨library, highlightUrls, .empty⟩ : Registry).serveAll earlier).resolve? name).1.isSome ↔
      HasRuleset library name := by
  obtain ⟨other, member, namesake, answer⟩ :=
    resolve?_isSome_as_namesake library highlightUrls earlier name
  rw [answer]
  rcases List.mem_cons.mp member with rfl | member
  · rfl
  · exact alike other member namesake

/-- A ruleset is found by the further name of its language, and one that is not there is not. -/
theorem resolve?_isSome_iff_lowercase :
    let registry := (⟨.lowercase, true, .empty⟩ : Registry).serveAll
      [.resolve? "small::ada", .resolve "small"]
    (registry.resolve? "tiny::cpp").1.isSome ∧ ¬(registry.resolve? "tiny::ada").1.isSome := by
  have found := resolve?_isSome_iff .lowercase true [.resolve? "small::ada", .resolve "small"]
    "tiny::cpp" (by decide +kernel)
  have missing := resolve?_isSome_iff .lowercase true [.resolve? "small::ada", .resolve "small"]
    "tiny::ada" (by decide +kernel)
  have there : HasRuleset .lowercase "tiny::cpp" := by decide +kernel
  have notThere : ¬HasRuleset .lowercase "tiny::ada" := by decide +kernel
  exact ⟨found.mpr there, fun answered => notThere (missing.mp answered)⟩

/-- A name may be answered with nothing although it has a ruleset: once a namesake was asked for
that has none. -/
theorem not_resolve?_isSome_iff :
    ¬∀ (library : Library) (highlightUrls : Bool) (earlier : List Request) (name : String),
      (((⟨library, highlightUrls, .empty⟩ : Registry).serveAll earlier).resolve? name).1.isSome ↔
        HasRuleset library name := by
  intro always
  have there : HasRuleset .lowercase "small::cpp" := by decide +kernel
  have answered := (always .lowercase true [.resolve? "small::CPP"] "small::cpp").mpr there
  exact absurd answered (by decide +kernel)

end Registry

end Highlighter
