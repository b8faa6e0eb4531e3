import Highlighter.Proofs.Registry.Sharing

/-!
# Names that were resolved before

What a name is resolved to could depend on which names were resolved before.  In all but its
matchers a mode does not.  In its matchers it does not either, as long as each earlier resolution
came upon imports that were apart: then all that is kept is whole.  Otherwise a mode may be kept
without the rules of an import that it shares with another, and be the answer from then on.
-/

namespace Highlighter

/-- A ruleset that imports two others, the second of which imports the first. -/
def Library.sharing : Library where
  files := .ofList [("sharing", {
    rulesets := [
      ("main", { imports := ["sharing::minus", "sharing::plus"] }),
      ("plus", {
        imports := ["sharing::minus"]
        rules := [{ spec := .seq "+" "operator" none {} }] }),
      ("minus", { rules := [{ spec := .seq "-" "operator" none {} }] })] })]

namespace Registry

variable {library : Library} {highlightUrls : Bool} {inPlay : ModeName → Prop}

/-- The registry after resolving names in order. -/
def resolveAll (registry : Registry) (names : List String) : Registry :=
  names.foldl (fun registry name => (registry.resolve name).2) registry

/-- Each time that one of some names is resolved, in order, the imports that are come upon are
apart. -/
def SpreadsAll : (registry : Registry) → (names : List String) → Prop
  | _, [] => True
  | registry, name :: names =>
    registry.Spreads (ModeName.ofText registry.library name) ∧
      SpreadsAll (registry.resolve name).2 names

/-- A registry whose modes in play have all attributes of whole modes. -/
structure KeepsSketches (acyclic : Acyclic library) (highlightUrls : Bool)
    (inPlay : ModeName → Prop) (registry : Registry) : Prop where
  sameLibrary : registry.library = library
  sameUrls : registry.highlightUrls = highlightUrls
  sketches : Keeps inPlay (Sketches acyclic highlightUrls) registry

variable {acyclic : Acyclic library} {registry : Registry} {name : String}

/-- What comes of resolving a name: nothing was visited before. -/
theorem resolve_comes {start : Registry} {acyclic : Acyclic start.library}
    (tells : TellsApart start.library inPlay) (undelegated : Undelegated start.library)
    (sketched : Keeps inPlay (Sketches acyclic start.highlightUrls) start)
    (playing : inPlay (ModeName.ofText start.library name)) :
    ∃ outcome, Comes acyclic inPlay (ModeName.ofText start.library name) ⟨start, []⟩ outcome ∧
      start.resolve name = (outcome.1, outcome.2.registry) := by
  refine ⟨load (start.library.mentions.length + 2) name ⟨start, []⟩, ?_, rfl⟩
  have along : Along inPlay start ⟨start, []⟩ :=
    ⟨rfl, rfl, fun _ _ member => absurd member List.not_mem_nil, fun _ _ _ => rfl⟩
  have left : leftToVisit name ⟨start, []⟩ ≤ start.library.mentions.length :=
    List.length_filter_le ..
  exact load_comes tells undelegated sketched _ name ⟨start, []⟩ playing along List.not_mem_nil
    (by omega)

theorem KeepsSketches.resolve (keeps : registry.KeepsSketches acyclic highlightUrls inPlay)
    (tells : TellsApart library inPlay) (undelegated : Undelegated library)
    (playing : inPlay (ModeName.ofText library name)) :
    Sketches acyclic highlightUrls (registry.resolve name).1 (ModeName.ofText library name) ∧
      (registry.resolve name).2.KeepsSketches acyclic highlightUrls inPlay := by
  obtain ⟨rfl, rfl, sketched⟩ := keeps
  obtain ⟨outcome, comes, same⟩ := resolve_comes tells undelegated sketched playing
  rw [same]
  exact ⟨comes.sketches, comes.along.library, comes.along.highlightUrls,
    comes.keepsSketches.keeps sketched⟩

/-- If all that is kept is whole, so is what a name is resolved to, and if imports are apart, so is
all that is kept then. -/
theorem KeepsSketches.resolve_completes
    (keeps : registry.KeepsSketches acyclic highlightUrls inPlay)
    (tells : TellsApart library inPlay) (undelegated : Undelegated library)
    (playing : inPlay (ModeName.ofText library name))
    (complete : Keeps inPlay (Completes acyclic highlightUrls) registry) :
    Completes acyclic highlightUrls (registry.resolve name).1 (ModeName.ofText library name) ∧
      (registry.Spreads (ModeName.ofText library name) →
        Keeps inPlay (Completes acyclic highlightUrls) (registry.resolve name).2) := by
  obtain ⟨rfl, rfl, sketched⟩ := keeps
  obtain ⟨outcome, comes, same⟩ := resolve_comes tells undelegated sketched playing
  have nothing : ∀ other, ¬Shared inPlay registry ⟨registry, []⟩
      (ModeName.ofText registry.library name) other :=
    fun _ shared => List.not_mem_nil shared.2.1
  rw [same]
  exact ⟨comes.completes complete nothing,
    fun spreads => (comes.keepsCompletes complete nothing spreads).keeps complete⟩

theorem KeepsSketches.resolveAll (tells : TellsApart library inPlay)
    (undelegated : Undelegated library) (names : List String) :
    ∀ {registry : Registry}, registry.KeepsSketches acyclic highlightUrls inPlay →
      (∀ name ∈ names, inPlay (ModeName.ofText library name)) →
      (registry.resolveAll names).KeepsSketches acyclic highlightUrls inPlay := by
  induction names with
  | nil => exact fun keeps _ => keeps
  | cons name names ih =>
    intro registry keeps playing
    exact ih (keeps.resolve tells undelegated (playing name List.mem_cons_self)).2
      fun other member => playing other (List.mem_cons_of_mem _ member)

theorem KeepsSketches.resolveAll_completes (tells : TellsApart library inPlay)
    (undelegated : Undelegated library) (names : List String) :
    ∀ {registry : Registry}, registry.KeepsSketches acyclic highlightUrls inPlay →
      (∀ name ∈ names, inPlay (ModeName.ofText library name)) →
      Keeps inPlay (Completes acyclic highlightUrls) registry → registry.SpreadsAll names →
      Keeps inPlay (Completes acyclic highlightUrls) (registry.resolveAll names) := by
  induction names with
  | nil => exact fun _ _ complete _ => complete
  | cons name names ih =>
    intro registry keeps playing complete spreads
    have play := playing name List.mem_cons_self
    rw [SpreadsAll, keeps.sameLibrary] at spreads
    exact ih (keeps.resolve tells undelegated play).2
      (fun other member => playing other (List.mem_cons_of_mem _ member))
      ((keeps.resolve_completes tells undelegated play complete).2 spreads.1) spreads.2

/-- Names in play that the library mentions or that are among some others. -/
theorem tellsApart_of_names {names : List String} (mentions : library.mentions ⊆ names)
    (distinct : ∀ first ∈ names, ∀ second ∈ names,
      (ModeName.ofText library first).id = (ModeName.ofText library second).id →
        ModeName.ofText library first = ModeName.ofText library second) :
    TellsApart library fun resolved => ∃ name ∈ names, resolved = ModeName.ofText library name where
  imports := by
    rintro importer imported - ⟨file, ruleset, name, found, member, rfl⟩
    exact ⟨name, mentions (imports_subset_mentions found member), rfl⟩
  same := by
    rintro _ _ ⟨first, firstNamed, rfl⟩ ⟨second, secondNamed, rfl⟩ same
    exact distinct first firstNamed second secondNamed same

/-- If no ruleset imports itself, no file has an initial delegate and identifiers tell rulesets
apart: whatever names were resolved before, a name is resolved to a mode that has the attributes,
the keywords and the characters of words of the one that it is resolved to first of all.  It has the
same matchers for every character as well, if each earlier resolution came upon imports that were
apart. -/
theorem resolve_alike_fresh (library : Library) (highlightUrls : Bool) (earlier : List String)
    (name : String) (acyclic : Acyclic library) (undelegated : Undelegated library)
    (distinct : ∀ first ∈ name :: earlier ++ library.mentions,
      ∀ second ∈ name :: earlier ++ library.mentions,
      (ModeName.ofText library first).id = (ModeName.ofText library second).id →
        ModeName.ofText library first = ModeName.ofText library second) :
    let fresh : Registry := ⟨library, highlightUrls, .empty⟩
    ((fresh.resolveAll earlier).resolve name).1.attributes = (fresh.resolve name).1.attributes ∧
      (fresh.SpreadsAll earlier →
        Mode.Alike ((fresh.resolveAll earlier).resolve name).1 (fresh.resolve name).1) := by
  intro fresh
  have tells := tellsApart_of_names (List.subset_append_right (name :: earlier) _) distinct
  generalize inPlayIs : (fun resolved => ∃ other ∈ name :: earlier ++ library.mentions,
    resolved = ModeName.ofText library other) = inPlay at tells
  have playing : ∀ other ∈ name :: earlier, inPlay (ModeName.ofText library other) := by
    intro other member
    rw [← inPlayIs]
    exact ⟨other, List.mem_append_left _ member, rfl⟩
  have nothing : ∀ holds, Keeps inPlay holds fresh := fun _ _ _ _ kept => nomatch kept
  have keepsFresh : fresh.KeepsSketches acyclic highlightUrls inPlay := ⟨rfl, rfl, nothing _⟩
  have play := playing name List.mem_cons_self
  have earlierPlaying := fun other member => playing other (List.mem_cons_of_mem name member)
  have keeps := KeepsSketches.resolveAll tells undelegated earlier keepsFresh earlierPlaying
  have same : ((fresh.resolveAll earlier).resolve name).1.attributes =
      (fresh.resolve name).1.attributes :=
    (keeps.resolve tells undelegated play).1.attributes.trans
      (keepsFresh.resolve tells undelegated play).1.attributes.symm
  refine ⟨same, fun spreads => Mode.alike_iff.mpr ⟨fun c => ?_, same⟩⟩
  have complete := KeepsSketches.resolveAll_completes tells undelegated earlier keepsFresh
    earlierPlaying (nothing _) spreads
  exact ((keeps.resolve_completes tells undelegated play complete).1 c).trans
    ((keepsFresh.resolve_completes tells undelegated play (nothing _)).1 c).symm

/-! ## A shared import -/

/-- How far down the imports of `Library.sharing` a name is. -/
def sharingRank (name : ModeName) : Nat :=
  if name.ruleset = "main" then 2 else if name.ruleset = "plus" then 1 else 0

theorem sharing_sources {name : ModeName} {file : ModeFile} {ruleset : Ruleset}
    (found : source? .sharing name = some (file, ruleset)) :
    (name.ruleset = "main" ∧ ruleset.imports = ["sharing::minus", "sharing::plus"]) ∨
      (name.ruleset = "plus" ∧ ruleset.imports = ["sharing::minus"]) ∨
      (name.ruleset = "minus" ∧ ruleset.imports = []) := by
  obtain ⟨fileFound, rulesetFound⟩ := source?_eq_some found
  obtain ⟨key, member⟩ := file?_mem fileFound
  cases List.mem_singleton.mp member
  obtain ⟨before, rest, same, -⟩ := List.lookup_eq_some_iff.mp rulesetFound
  have among := same ▸ List.mem_append_right before List.mem_cons_self
  simp only [List.mem_cons, Prod.mk.injEq, List.not_mem_nil, or_false] at among
  rcases among with ⟨isMain, rfl⟩ | ⟨isPlus, rfl⟩ | ⟨isMinus, rfl⟩
  · exact .inl ⟨isMain, rfl⟩
  · exact .inr (.inl ⟨isPlus, rfl⟩)
  · exact .inr (.inr ⟨isMinus, rfl⟩)

/-- Nothing imports the ruleset that imports both others. -/
theorem sharing_imported_ne_main {importer imported : ModeName}
    (imports : Imports .sharing importer imported) : imported.ruleset ≠ "main" := by
  obtain ⟨file, ruleset, name, found, member, rfl⟩ := imports
  have minus : (ModeName.ofText .sharing "sharing::minus").ruleset ≠ "main" := by decide +kernel
  have plus : (ModeName.ofText .sharing "sharing::plus").ruleset ≠ "main" := by decide +kernel
  rcases sharing_sources found with ⟨-, imports⟩ | ⟨-, imports⟩ | ⟨-, imports⟩
  · rw [imports] at member
    rcases List.mem_cons.mp member with rfl | member
    · exact minus
    · rwa [List.mem_singleton.mp member]
  · rw [imports, List.mem_singleton] at member
    rwa [member]
  · rw [imports] at member
    exact absurd member List.not_mem_nil

theorem sharing_acyclic : Acyclic .sharing := by
  refine acyclic_of_rank sharingRank ?_
  rintro importer imported ⟨file, ruleset, name, found, member, rfl⟩
  have minus : sharingRank (ModeName.ofText .sharing "sharing::minus") = 0 := by decide +kernel
  have plus : sharingRank (ModeName.ofText .sharing "sharing::plus") = 1 := by decide +kernel
  rcases sharing_sources found with ⟨isMain, imports⟩ | ⟨isPlus, imports⟩ | ⟨-, imports⟩
  · have rank : sharingRank importer = 2 := by simp [sharingRank, isMain]
    rw [imports] at member
    rcases List.mem_cons.mp member with rfl | member
    · omega
    · rw [List.mem_singleton.mp member]
      omega
  · have rank : sharingRank importer = 1 := by simp [sharingRank, isPlus]
    rw [imports, List.mem_singleton] at member
    subst member
    omega
  · rw [imports] at member
    exact absurd member List.not_mem_nil

theorem sharing_undelegated : Undelegated .sharing := by
  intro entry member
  cases List.mem_singleton.mp member
  rfl

/-- The shared import is come upon once only if it is kept, or if it is asked for by way of one of
the two that import it. -/
theorem sharing_spreads {start : Registry} (same : start.library = .sharing) {name : ModeName}
    (apart : name.ruleset ≠ "main" ∨ (start.get? ⟨"sharing_minus"⟩).isSome) :
    start.Spreads name := by
  intro importer file ruleset reaches absent found
  rw [same] at found ⊢
  rcases sharing_sources found with ⟨isMain, imports⟩ | ⟨-, imports⟩ | ⟨-, imports⟩
  · rcases apart with notMain | kept
    · rcases Relation.ReflTransGen.cases_tail reaches with isName | ⟨_, -, -, imported⟩
      · exact absurd (isName ▸ isMain) notMain
      · exact absurd isMain (sharing_imported_ne_main (same ▸ imported))
    · have minus : ModeName.ofText .sharing "sharing::minus" =
          ⟨"sharing", "minus", ⟨"sharing_minus"⟩⟩ := by decide +kernel
      rw [imports, List.map_cons, minus]
      refine List.pairwise_cons.mpr ⟨fun _ _ => apart_of_kept kept, List.pairwise_singleton ..⟩
  · rw [imports]
    exact List.pairwise_singleton ..
  · rw [imports]
    exact List.Pairwise.nil

/-- Once both others were put together one after the other, nothing is shared any more. -/
theorem resolve_alike_fresh_sharing :
    let fresh : Registry := ⟨.sharing, true, .empty⟩
    let after := ((fresh.resolveAll ["sharing::plus", "sharing"]).resolve "sharing::plus").1
    Acyclic .sharing ∧ Undelegated .sharing ∧
      fresh.SpreadsAll ["sharing::plus", "sharing"] ∧ (after.matchersAt '-').length = 1 ∧
      after.attributes = (fresh.resolve "sharing::plus").1.attributes ∧
      Mode.Alike after (fresh.resolve "sharing::plus").1 := by
  intro fresh after
  have spreads : fresh.SpreadsAll ["sharing::plus", "sharing"] :=
    ⟨sharing_spreads rfl (.inl (by decide +kernel)),
      sharing_spreads (resolve_library ..) (.inr (by decide +kernel)), trivial⟩
  obtain ⟨same, alike⟩ := resolve_alike_fresh .sharing true ["sharing::plus", "sharing"]
    "sharing::plus" sharing_acyclic sharing_undelegated (by decide +kernel)
  exact ⟨sharing_acyclic, sharing_undelegated, spreads, by decide +kernel, same, alike spreads⟩

/-- A mode may lack the rules of an import that was put together before it in the same resolution,
on behalf of another: what a name is resolved to does depend on the names before. -/
theorem not_resolve_alike_fresh :
    ¬∀ (library : Library) (highlightUrls : Bool) (earlier : List String) (name : String),
      Acyclic library → Undelegated library →
      (∀ first ∈ name :: earlier ++ library.mentions,
        ∀ second ∈ name :: earlier ++ library.mentions,
        (ModeName.ofText library first).id = (ModeName.ofText library second).id →
          ModeName.ofText library first = ModeName.ofText library second) →
      let fresh : Registry := ⟨library, highlightUrls, .empty⟩
      Mode.Alike ((fresh.resolveAll earlier).resolve name).1 (fresh.resolve name).1 := by
  intro always
  have alike := always .sharing true ["sharing"] "sharing::plus" sharing_acyclic
    sharing_undelegated (by decide +kernel)
  have without : ((((⟨.sharing, true, .empty⟩ : Registry).resolveAll ["sharing"]).resolve
      "sharing::plus").1.matchersAt '-').length = 0 := by decide +kernel
  have withRule : (((⟨.sharing, true, .empty⟩ : Registry).resolve
      "sharing::plus").1.matchersAt '-').length = 1 := by decide +kernel
  rw [alike.matchersAt '-', withRule] at without
  exact absurd without (by decide)

end Registry

end Highlighter
