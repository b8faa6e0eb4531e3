import Highlighter.Registry

/-!
# Names and identifiers

What the identifiers of rulesets look like, and which names a resolution can come across.  No name
has the identifier that is in force before a language is set.  The names that a ruleset imports and
the one that its file delegates to are among the names that the library mentions, so those of them
that are not visited yet get fewer with every name that is loaded.
-/

namespace Highlighter

namespace ModeName

theorem plainChar_ne_hyphen (c : Char) : plainChar c ≠ '-' := by
  intro same
  unfold plainChar Unicode.asciiLower at same
  split at same
  · rename_i alphanumeric
    split at same
    · rename_i capital
      have letters : ∀ code < 123, 97 ≤ code → Char.ofNat code ≠ '-' := by decide
      have low : 65 ≤ c.toNat := capital.1
      have high : c.toNat ≤ 90 := capital.2
      exact letters (c.toNat + 32) (by omega) (by omega) same
    · rw [same] at alphanumeric
      exact absurd alphanumeric (by decide)
  · exact absurd same (by decide)

/-- No name has the identifier that stands for no language. -/
theorem rulesetId_ne_noLanguage (language ruleset : String) :
    rulesetId language ruleset ≠ .noLanguage := by
  intro same
  have text := congrArg (fun id : RulesetId => id.text.toList) same
  unfold rulesetId RulesetId.noLanguage at text
  split at text
  · simp only [String.toList_append] at text
    have last := congrArg List.getLast? text
    simp at last
  · simp only [String.toList_ofList] at text
    have hyphen : '-' ∈ "no-language".toList := by decide
    rw [← text, List.mem_map] at hyphen
    obtain ⟨c, -, plain⟩ := hyphen
    exact plainChar_ne_hyphen c plain

end ModeName

namespace Registry

/-- The names that a library mentions and that are not visited yet. -/
def unvisited (library : Library) (visited : List RulesetId) : List String :=
  library.mentions.filter fun name => !visited.contains (ModeName.ofText library name).id

theorem mem_unvisited {library : Library} {visited : List RulesetId} {name : String} :
    name ∈ unvisited library visited ↔
      name ∈ library.mentions ∧ (ModeName.ofText library name).id ∉ visited := by
  simp [unvisited]

theorem unvisited_length_le (library : Library) {visited more : List RulesetId}
    (sub : visited ⊆ more) :
    (unvisited library more).length ≤ (unvisited library visited).length := by
  unfold unvisited
  rw [← List.countP_eq_length_filter, ← List.countP_eq_length_filter]
  apply List.countP_mono_left
  intro name _
  simp only [Bool.not_eq_true', List.contains_eq_mem, decide_eq_false_iff_not]
  exact fun absent member => absent (sub member)

/-- Loading a mentioned name leaves fewer names to visit. -/
theorem unvisited_length_lt {library : Library} {visited more : List RulesetId} {name : String}
    (mentioned : name ∈ library.mentions) (sub : visited ⊆ more)
    (fresh : (ModeName.ofText library name).id ∉ more) :
    (unvisited library ((ModeName.ofText library name).id :: more)).length
      < (unvisited library visited).length := by
  have before : name ∈ unvisited library more := mem_unvisited.mpr ⟨mentioned, fresh⟩
  have split : unvisited library ((ModeName.ofText library name).id :: more) =
      (unvisited library more).filter fun other =>
        !decide ((ModeName.ofText library other).id = (ModeName.ofText library name).id) := by
    unfold unvisited
    rw [List.filter_filter]
    congr 1
    funext other
    simp [List.contains_eq_mem]
  refine Nat.lt_of_lt_of_le ?_ (unvisited_length_le library sub)
  rw [split, List.length_filter_lt_length_iff_exists]
  exact ⟨name, before, by simp⟩

theorem source?_eq_some {library : Library} {name : ModeName} {file : ModeFile}
    {ruleset : Ruleset} (found : source? library name = some (file, ruleset)) :
    library.file? name.language = some file ∧ file.ruleset? name.ruleset = some ruleset := by
  simp only [source?, Option.bind_eq_bind, Option.bind_eq_some_iff, Option.some.injEq,
    Prod.mk.injEq] at found
  obtain ⟨_, fileFound, _, rulesetFound, rfl, rfl⟩ := found
  exact ⟨fileFound, rulesetFound⟩

theorem file?_mem {library : Library} {language : String} {file : ModeFile}
    (found : library.file? language = some file) : ∃ key, (key, file) ∈ library.files.entries := by
  simp only [Library.file?, Table.get?, Option.map_eq_some_iff] at found
  obtain ⟨entry, entryFound, rfl⟩ := found
  exact ⟨entry.1, List.mem_of_find?_eq_some entryFound⟩

/-- What a ruleset imports is mentioned by the library. -/
theorem imports_subset_mentions {library : Library} {name : ModeName} {file : ModeFile}
    {ruleset : Ruleset} (found : source? library name = some (file, ruleset)) :
    ruleset.imports ⊆ library.mentions := by
  obtain ⟨fileFound, rulesetFound⟩ := source?_eq_some found
  obtain ⟨key, member⟩ := file?_mem fileFound
  obtain ⟨before, rest, same, -⟩ := List.lookup_eq_some_iff.mp rulesetFound
  intro imported isImport
  refine List.mem_flatMap.mpr ⟨(key, file), member, List.mem_append_right _ ?_⟩
  refine List.mem_flatMap.mpr ⟨(name.ruleset, ruleset), ?_, isImport⟩
  simp [same]

/-- What a file delegates to is mentioned by the library. -/
theorem initialDelegate_mem_mentions {library : Library} {name : ModeName} {file : ModeFile}
    {ruleset : Ruleset} {delegate : String} (found : source? library name = some (file, ruleset))
    (declared : file.initialDelegate = some delegate) : delegate ∈ library.mentions := by
  obtain ⟨key, member⟩ := file?_mem (source?_eq_some found).1
  refine List.mem_flatMap.mpr ⟨(key, file), member, List.mem_append_left _ ?_⟩
  simp [declared]

end Registry

end Highlighter
