import Highlighter.Proofs.Registry.Gathering

/-!
# The lists of a ruleset

At each character a ruleset lists its rules that are tried there, each of them once and in the order
of the file.  The characters at which a rule is tried are all different, be they named by the file
or the forms of a letter or those of an alphabet.  Directives come in between and leave the order as
it is.
-/

namespace Highlighter

/-- Each item is left once. -/
theorem nodup_eraseDups {α : Type} [DecidableEq α] : ∀ list : List α, list.eraseDups.Nodup
  | [] => List.nodup_nil
  | first :: rest => by
    rw [List.eraseDups_cons]
    refine List.nodup_cons.mpr ⟨fun again => ?_, nodup_eraseDups _⟩
    simp at again
  termination_by list => list.length
  decreasing_by exact Nat.lt_succ_of_le (List.length_filter_le ..)

/-! ## Alphabets -/

namespace Alphabet

/-- The further characters are all different, and none is an ASCII letter or a digit. -/
structure Distinct (alphabet : Alphabet) : Prop where
  nodup : alphabet.extra.Nodup
  further : ∀ c ∈ alphabet.extra, c.isAlphanum = false

theorem distinct_empty : ({} : Alphabet).Distinct where
  nodup := List.nodup_nil
  further := fun _ member => absurd member List.not_mem_nil

theorem Distinct.insert {alphabet : Alphabet} (distinct : alphabet.Distinct) (c : Char) :
    (alphabet.insert c).Distinct := by
  unfold Alphabet.insert
  split
  · exact distinct
  · rename_i visible
    obtain ⟨alphanum, new⟩ : c.isAlphanum = false ∧ c ∉ alphabet.extra := by
      simpa [Alphabet.contains] using (not_or.mp (not_or.mp visible).2).2
    constructor
    · exact List.nodup_append.mpr ⟨distinct.nodup, List.nodup_singleton c, by
        rintro other member _ here rfl
        exact new (List.mem_singleton.mp here ▸ member)⟩
    · intro other member
      rcases List.mem_append.mp member with old | here
      · exact distinct.further other old
      · rwa [List.mem_singleton.mp here]

theorem Distinct.insertAll {alphabet : Alphabet} (distinct : alphabet.Distinct)
    (chars : List Char) : (alphabet.insertAll chars).Distinct := by
  unfold Alphabet.insertAll
  induction chars generalizing alphabet with
  | nil => exact distinct
  | cons c chars ih => exact ih (distinct.insert c)

theorem insertAscending_perm (c : Char) (list : List Char) :
    (insertAscending c list).Perm (c :: list) := by
  induction list with
  | nil => exact .refl _
  | cons d rest ih =>
    rw [insertAscending]
    split
    · exact .refl _
    · exact (ih.cons d).trans (.swap c d rest)

theorem toList_perm (alphabet : Alphabet) :
    alphabet.toList.Perm (alphabet.extra ++ alphanumeric) := by
  obtain ⟨extra⟩ := alphabet
  rw [toList]
  induction extra with
  | nil => exact .refl _
  | cons c extra ih => exact (insertAscending_perm c _).trans (ih.cons c)

theorem Distinct.nodup_toList {alphabet : Alphabet} (distinct : alphabet.Distinct) :
    alphabet.toList.Nodup := by
  have nodup : alphanumeric.Nodup := by decide +kernel
  have all : alphanumeric.all Char.isAlphanum = true := by decide +kernel
  refine alphabet.toList_perm.nodup_iff.mpr (List.nodup_append.mpr ⟨distinct.nodup, nodup, ?_⟩)
  rintro c member _ letter rfl
  have alphanum := List.all_eq_true.mp all c letter
  rw [distinct.further c member] at alphanum
  cases alphanum

end Alphabet

/-! ## Rules in the order of the file -/

/-- The characters at which a rule is tried are all different. -/
theorem RuleSpec.nodup_leadingChars {keywordChars : Alphabet} (distinct : keywordChars.Distinct)
    (spec : RuleSpec) (named : Option String) (ignoreCase : Bool) :
    (spec.leadingChars named keywordChars ignoreCase).Nodup := by
  have forms : ∀ first, (leadingForms ignoreCase first).Nodup := by
    intro first
    unfold leadingForms
    split
    · exact nodup_eraseDups _
    · exact List.nodup_singleton first
  unfold leadingChars
  split
  · exact nodup_eraseDups _
  · exact distinct.nodup_toList
  · split
    · exact forms _
    · exact List.nodup_nil

theorem Origin.distinct_keywordChars (origin : Origin) : origin.mode.keywordChars.Distinct := by
  have words : origin.mode.wordChars.Distinct :=
    (Alphabet.distinct_empty.insertAll _).insertAll _
  rw [Origin.mode, Mode.compile] at words ⊢
  dsimp only at words ⊢
  split
  · exact words.insert '\''
  · exact words

/-- The rules of a ruleset that are tried at a character, in the order of the file. -/
def Origin.listed (origin : Origin) (c : Char) : List Matcher :=
  (origin.ruleset.rules.filter fun entry => c ∈ entry.spec.leadingChars entry.chars
    origin.mode.keywordChars origin.ruleset.attributes.ignoreCase).map
    fun entry => .rule (.compile origin.ruleset.attributes.ignoreCase entry.spec)

/-- On its own a ruleset lists each of its rules once. -/
theorem Origin.mode_matchersAt (origin : Origin) (c : Char) :
    origin.mode.matchersAt c = origin.listed c := by
  have copies : ∀ entry : RuleEntry,
      Mode.entryMatchers origin.ruleset.attributes.ignoreCase origin.mode.keywordChars c entry =
        if c ∈ entry.spec.leadingChars entry.chars origin.mode.keywordChars
          origin.ruleset.attributes.ignoreCase
        then [.rule (.compile origin.ruleset.attributes.ignoreCase entry.spec)] else [] := by
    intro entry
    have nodup := entry.spec.nodup_leadingChars origin.distinct_keywordChars entry.chars
      origin.ruleset.attributes.ignoreCase
    rw [Mode.entryMatchers, List.filter_eq, nodup.count, List.map_replicate]
    split <;> rfl
  have table := Mode.ruleTable_listAt origin.ruleset.attributes.ignoreCase
    origin.mode.keywordChars origin.ruleset.rules c
  refine Eq.trans table ?_
  rw [Origin.listed]
  induction origin.ruleset.rules with
  | nil => rfl
  | cons entry rules ih =>
    rw [List.flatMap_cons, ih, copies, List.filter_cons]
    split <;> simp_all

theorem Mode.RulesOnly.rulesAt_eq {mode : Mode} (only : mode.RulesOnly) (c : Char) :
    mode.rulesAt c = mode.matchersAt c := by
  rw [Mode.rulesAt, List.filter_eq_self]
  intro matcher member
  rw [only.matchersAt matcher member]
  rfl

/-- The rules of its own ruleset are listed before all that a mode imports. -/
theorem Registry.exists_rulesAt_assembled (origin : Origin) (highlightUrls : Bool)
    {others : List Mode} (keyed : ∀ other ∈ others, other.Keyed) (c : Char) :
    ∃ imported, (assembled highlightUrls origin.name origin.file origin.ruleset others).rulesAt c =
      origin.listed c ++ imported := by
  have only : (others.foldl Mode.importRules origin.mode).RulesOnly :=
    (Mode.rulesOnly_compile _ _ _ _).foldl_importRules others
  have own : origin.listed c <+: (others.foldl Mode.importRules origin.mode).matchersAt c := by
    rw [Mode.foldl_importRules_matchersAt others keyed, origin.mode_matchersAt]
    exact Mode.prefix_mergeMatchers _ _
  obtain ⟨imported, same⟩ := own
  refine ⟨imported, ?_⟩
  rw [assembled, Mode.rulesAt_installDirectives]
  exact (only.rulesAt_eq c).trans same.symm

/-- Without imports, and if addresses are not looked for, nothing else is listed away from the
characters of directives. -/
theorem Registry.assembled_alone_matchersAt (origin : Origin) {c : Char} (noAt : c ≠ '@')
    (noLess : c ≠ '<') :
    (assembled false origin.name origin.file origin.ruleset []).matchersAt c = origin.listed c := by
  have only : origin.mode.RulesOnly := Mode.rulesOnly_compile _ _ _ _
  have elsewhere := only.installDirectives_elsewhere noAt
  rw [if_neg noLess, origin.mode_matchersAt] at elsewhere
  exact elsewhere

end Highlighter
