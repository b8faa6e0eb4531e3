import Highlighter.Mode.Basic
import Mathlib.Data.List.Nodup

/-!
# Merging matchers

Imported matchers go behind those that are there, except for directives and for rules that are there
already.  So a list of matchers may be merged as a whole or in parts, and to merge a list that
others were merged into is to merge it and the others one after the other.  What a merged list
covers, which is to say holds the like of already, makes no difference to it.

Importing does to the list of each character just that, and directives, which are installed last,
count for nothing in it.
-/

namespace Highlighter

namespace Matcher

theorem same_self (matcher : Matcher) : matcher.same matcher = true := by
  cases matcher <;> simp [same]

theorem same_trans {first second third : Matcher} (one : first.same second = true)
    (two : second.same third = true) : first.same third = true := by
  cases first <;> cases second <;> cases third <;> simp_all [same]

theorem isDirective_of_same {first second : Matcher} (same : first.same second = true) :
    first.isDirective = second.isDirective := by
  cases first <;> cases second <;> simp_all [Matcher.same, isDirective]

end Matcher

namespace Mode

/-- Adds a matcher behind others, unless it is a directive or a rule that is there. -/
def mergeMatcher (list : List Matcher) (matcher : Matcher) : List Matcher :=
  if matcher.isDirective || list.any matcher.same then list else list ++ [matcher]

@[simp] theorem mergeMatchers_nil (list : List Matcher) : mergeMatchers list [] = list := rfl

@[simp] theorem mergeMatchers_cons (list imported : List Matcher) (matcher : Matcher) :
    mergeMatchers list (matcher :: imported) = mergeMatchers (mergeMatcher list matcher) imported :=
  rfl

theorem mergeMatchers_append (list first second : List Matcher) :
    mergeMatchers list (first ++ second) = mergeMatchers (mergeMatchers list first) second :=
  List.foldl_append

/-- Nothing comes of merging a matcher. -/
def HasLike (list : List Matcher) (matcher : Matcher) : Prop :=
  (matcher.isDirective || list.any matcher.same) = true

theorem mergeMatcher_of_hasLike {list : List Matcher} {matcher : Matcher}
    (has : HasLike list matcher) : mergeMatcher list matcher = list :=
  if_pos has

theorem mergeMatcher_directive (list : List Matcher) (directive : Directive) :
    mergeMatcher list (.directive directive) = list := rfl

theorem prefix_mergeMatcher (list : List Matcher) (matcher : Matcher) :
    list <+: mergeMatcher list matcher := by
  unfold mergeMatcher
  split
  · exact List.prefix_refl _
  · exact List.prefix_append _ _

theorem prefix_mergeMatchers (list imported : List Matcher) :
    list <+: mergeMatchers list imported := by
  induction imported generalizing list with
  | nil => exact List.prefix_refl _
  | cons matcher imported ih => exact (prefix_mergeMatcher list matcher).trans (ih _)

theorem HasLike.mono {list more : List Matcher} {matcher : Matcher} (has : HasLike list matcher)
    (before : list <+: more) : HasLike more matcher := by
  simp only [HasLike, Bool.or_eq_true, List.any_eq_true] at has ⊢
  exact has.imp_right fun ⟨other, member, same⟩ => ⟨other, before.subset member, same⟩

/-- What is the like of something that a list has the like of, the list has the like of. -/
theorem HasLike.trans {list own : List Matcher} {matcher : Matcher} (has : HasLike own matcher)
    (each : ∀ other ∈ own, HasLike list other) : HasLike list matcher := by
  simp only [HasLike, Bool.or_eq_true, List.any_eq_true] at has each ⊢
  rcases has with directive | ⟨other, member, same⟩
  · exact .inl directive
  · rcases each other member with directive | ⟨third, there, alike⟩
    · exact .inl ((Matcher.isDirective_of_same same).trans directive)
    · exact .inr ⟨third, there, Matcher.same_trans same alike⟩

theorem hasLike_mergeMatcher (list : List Matcher) (matcher : Matcher) :
    HasLike (mergeMatcher list matcher) matcher := by
  unfold mergeMatcher
  split
  · assumption
  · simp [HasLike, Matcher.same_self]

theorem hasLike_mergeMatchers {list imported : List Matcher} :
    ∀ matcher ∈ imported, HasLike (mergeMatchers list imported) matcher := by
  induction imported generalizing list with
  | nil => exact fun _ member => absurd member List.not_mem_nil
  | cons first imported ih =>
    intro matcher member
    rcases List.mem_cons.mp member with rfl | later
    · exact (hasLike_mergeMatcher list matcher).mono (prefix_mergeMatchers _ _)
    · exact ih matcher later

/-- To merge a list that others were merged into is to merge it, and then the others. -/
theorem mergeMatchers_mergeMatchers (list own imported : List Matcher) :
    mergeMatchers list (mergeMatchers own imported) =
      mergeMatchers (mergeMatchers list own) imported := by
  induction imported generalizing own with
  | nil => rfl
  | cons matcher imported ih =>
    rw [mergeMatchers_cons, mergeMatchers_cons, ih]
    congr 1
    by_cases has : HasLike own matcher
    · rw [mergeMatcher_of_hasLike has,
        mergeMatcher_of_hasLike (has.trans fun other member => hasLike_mergeMatchers other member)]
    · have put : mergeMatcher own matcher = own ++ [matcher] := if_neg has
      rw [put, mergeMatchers_append]
      rfl

/-- Nothing comes of merging a list. -/
def Covers (list imported : List Matcher) : Prop :=
  mergeMatchers list imported = list

theorem covers_iff {list imported : List Matcher} :
    Covers list imported ↔ ∀ matcher ∈ imported, HasLike list matcher := by
  constructor
  · intro covers matcher member
    have has : HasLike (mergeMatchers list imported) matcher := hasLike_mergeMatchers matcher member
    rwa [covers] at has
  · intro each
    induction imported with
    | nil => rfl
    | cons matcher imported ih =>
      rw [Covers, mergeMatchers_cons, mergeMatcher_of_hasLike (each matcher List.mem_cons_self)]
      exact ih fun other member => each other (List.mem_cons_of_mem _ member)

theorem covers_mergeMatchers (list imported : List Matcher) :
    Covers (mergeMatchers list imported) imported :=
  covers_iff.mpr hasLike_mergeMatchers

/-- What is covered stays covered. -/
theorem Covers.mergeMatchers {list imported : List Matcher} (covers : Covers list imported)
    (more : List Matcher) : Covers (mergeMatchers list more) imported :=
  covers_iff.mpr fun matcher member =>
    (covers_iff.mp covers matcher member).mono (prefix_mergeMatchers _ _)

theorem Covers.subset {list imported fewer : List Matcher} (covers : Covers list imported)
    (sub : fewer ⊆ imported) : Covers list fewer :=
  covers_iff.mpr fun matcher member => covers_iff.mp covers matcher (sub member)

theorem Covers.of_mergeMatchers {list own imported : List Matcher}
    (covers : Covers list (Mode.mergeMatchers own imported)) : Covers list imported := by
  rw [covers_iff] at covers ⊢
  exact fun matcher member => (hasLike_mergeMatchers matcher member).trans covers

end Mode

/-! ## The lists of a table -/

namespace Table

variable {κ υ α : Type} [DecidableEq κ]

theorem listAt_insert (table : Table κ (List α)) (key other : κ) (list : List α) :
    (table.insert key list).listAt other = if key = other then list else table.listAt other := by
  unfold listAt
  rw [get?_insert]
  split <;> rfl

/-- A key that is inserted stands where it stood, or else behind the others. -/
theorem keys_insert (table : Table κ υ) (key : κ) (value : υ) :
    (table.insert key value).keys =
      if key ∈ table.keys then table.keys else table.keys ++ [key] := by
  obtain ⟨entries⟩ := table
  simp only [keys, insert]
  induction entries with
  | nil => rfl
  | cons entry rest ih =>
    rw [insertEntry]
    by_cases same : entry.1 = key
    · simp [same]
    · rw [if_neg same, List.map_cons, ih]
      by_cases later : key ∈ rest.map (·.1)
      · simp [later]
      · simp [later, Ne.symm same]

theorem nodup_keys_insert {table : Table κ υ} (distinct : table.keys.Nodup) (key : κ) (value : υ) :
    (table.insert key value).keys.Nodup := by
  rw [keys_insert]
  split
  · exact distinct
  · rename_i new
    exact List.nodup_append.mpr ⟨distinct, List.nodup_singleton _,
      fun other member one is => by
        rw [List.mem_singleton.mp is]
        exact fun same => new (same ▸ member)⟩

end Table

namespace Mode

/-- Each character has one list of matchers. -/
def Keyed (mode : Mode) : Prop :=
  mode.matchers.keys.Nodup

theorem keyed_foldl {α : Type} {work : Table Char (List Matcher) → α → Table Char (List Matcher)}
    (items : List α) (each : ∀ item table, table.keys.Nodup → (work table item).keys.Nodup) :
    ∀ {table : Table Char (List Matcher)}, table.keys.Nodup →
      (items.foldl work table).keys.Nodup := by
  induction items with
  | nil => exact fun distinct => distinct
  | cons item items ih => exact fun distinct => ih (each item _ distinct)

theorem keyed_unknown (id : RulesetId) : (unknown id).Keyed :=
  List.nodup_nil

theorem keyed_compile (language : String) (id : RulesetId) (delims : CommentDelims)
    (ruleset : Ruleset) : (compile language id delims ruleset).Keyed := by
  refine keyed_foldl ruleset.rules (fun entry table distinct => ?_) List.nodup_nil
  exact keyed_foldl _ (fun c table distinct => Table.nodup_keys_insert distinct _ _) distinct

theorem Keyed.importRules {mode : Mode} (keyed : mode.Keyed) (other : Mode) :
    (mode.importRules other).Keyed :=
  keyed_foldl other.matchers.entries
    (fun _ _ distinct => Table.nodup_keys_insert distinct _ _) keyed

theorem foldl_insert_listAt (entries : List (Char × List Matcher))
    (distinct : (entries.map (·.1)).Nodup) : ∀ (table : Table Char (List Matcher)) (c : Char),
    (entries.foldl (fun table (key, imported) =>
      table.insert key (mergeMatchers (table.listAt key) imported)) table).listAt c =
      mergeMatchers (table.listAt c) ((⟨entries⟩ : Table Char (List Matcher)).listAt c) := by
  induction entries with
  | nil => exact fun _ _ => rfl
  | cons entry rest ih =>
    obtain ⟨key, imported⟩ := entry
    intro table c
    rw [List.map_cons, List.nodup_cons] at distinct
    rw [List.foldl_cons, ih distinct.2, Table.listAt_insert]
    by_cases here : key = c
    · subst here
      have elsewhere : (⟨rest⟩ : Table Char (List Matcher)).listAt key = [] := by
        have none : rest.find? (fun entry => entry.1 = key) = none :=
          List.find?_eq_none.mpr fun entry member same =>
            distinct.1 (List.mem_map.mpr ⟨entry, member, of_decide_eq_true same⟩)
        simp [Table.listAt, Table.get?, none]
      rw [elsewhere]
      simp [Table.listAt, Table.get?]
    · simp [Table.listAt, Table.get?, here]

/-- Importing merges the lists for each character. -/
theorem importRules_matchersAt (mode : Mode) {other : Mode} (keyed : other.Keyed) (c : Char) :
    (mode.importRules other).matchersAt c =
      mergeMatchers (mode.matchersAt c) (other.matchersAt c) :=
  foldl_insert_listAt other.matchers.entries keyed mode.matchers c

theorem foldl_importRules_matchersAt (others : List Mode) (keyed : ∀ other ∈ others, other.Keyed)
    (mode : Mode) (c : Char) : (others.foldl importRules mode).matchersAt c =
      mergeMatchers (mode.matchersAt c) (others.flatMap fun other => other.matchersAt c) := by
  induction others generalizing mode with
  | nil => rfl
  | cons other others ih =>
    rw [List.foldl_cons, ih (fun third member => keyed third (List.mem_cons_of_mem _ member)),
      importRules_matchersAt _ (keyed other List.mem_cons_self), List.flatMap_cons,
      mergeMatchers_append]

theorem Keyed.foldl_importRules {mode : Mode} (keyed : mode.Keyed) (others : List Mode) :
    (others.foldl Mode.importRules mode).Keyed := by
  induction others generalizing mode with
  | nil => exact keyed
  | cons other others ih => exact ih (keyed.importRules other)

/-! ## Modes that differ in nothing but how their tables are laid out -/

/-- Two modes with the same matchers at every character, and the same in all other respects. -/
structure Alike (first second : Mode) : Prop where
  matchersAt : ∀ c, first.matchersAt c = second.matchersAt c
  rest : { first with matchers := second.matchers } = second

/-- A mode without its matchers. -/
def attributes (mode : Mode) : Mode :=
  { mode with matchers := .empty }

theorem isUnknown_eq_of_attributes {first second : Mode}
    (same : first.attributes = second.attributes) : first.isUnknown = second.isUnknown := by
  have unknown := congrArg isUnknown same
  exact unknown

theorem alike_iff {first second : Mode} : Alike first second ↔
    (∀ c, first.matchersAt c = second.matchersAt c) ∧ first.attributes = second.attributes := by
  constructor
  · rintro ⟨same, rest⟩
    exact ⟨same, congrArg (fun mode : Mode => { mode with matchers := .empty }) rest⟩
  · rintro ⟨same, rest⟩
    exact ⟨same, congrArg (fun mode : Mode => { mode with matchers := second.matchers }) rest⟩

theorem foldl_importRules_attributes (others : List Mode) (mode : Mode) :
    (others.foldl importRules mode).attributes = mode.attributes := by
  induction others generalizing mode with
  | nil => rfl
  | cons other others ih => exact ih (mode.importRules other)

/-! ## Directives -/

theorem prependDirective_matchersAt (mode : Mode) (c other : Char) (directive : Directive) :
    (mode.prependDirective c directive).matchersAt other =
      if c = other ∧ (mode.matchersAt c).any (Matcher.directive directive).same = false then
        .directive directive :: mode.matchersAt c
      else mode.matchersAt other := by
  unfold prependDirective
  dsimp only
  cases there : (mode.matchersAt c).any (Matcher.directive directive).same with
  | true => simp
  | false =>
    simp only [Bool.false_eq_true, if_false, and_true]
    exact Table.listAt_insert mode.matchers c other _

theorem appendDirective_matchersAt (mode : Mode) (c other : Char) (directive : Directive) :
    (mode.appendDirective c directive).matchersAt other =
      if c = other ∧ (mode.matchersAt c).any (Matcher.directive directive).same = false then
        (mode.matchersAt c).takeWhile (fun matcher => !matcher.isKeywords) ++
          .directive directive ::
            (mode.matchersAt c).dropWhile (fun matcher => !matcher.isKeywords)
      else mode.matchersAt other := by
  unfold appendDirective
  dsimp only
  cases there : (mode.matchersAt c).any (Matcher.directive directive).same with
  | true => simp
  | false =>
    simp only [Bool.false_eq_true, if_false, and_true]
    exact Table.listAt_insert mode.matchers c other _

/-- What goes on holding of two modes as directives are put before and behind their matchers holds
when all are installed. -/
theorem installDirectives_rel (holds : Mode → Mode → Prop)
    (prepend : ∀ (first second : Mode) (c : Char) (directive : Directive), holds first second →
      holds (first.prependDirective c directive) (second.prependDirective c directive))
    (append : ∀ (first second : Mode) (c : Char) (directive : Directive), holds first second →
      holds (first.appendDirective c directive) (second.appendDirective c directive))
    (first second : Mode) (both : holds first second) (highlightUrls : Bool) :
    holds (first.installDirectives highlightUrls) (second.installDirectives highlightUrls) := by
  have atSign : ∀ directives : List Directive, holds
      (directives.foldr (fun directive mode => mode.prependDirective '@' directive) first)
      (directives.foldr (fun directive mode => mode.prependDirective '@' directive) second) := by
    intro directives
    induction directives with
    | nil => exact both
    | cons directive directives ih => exact prepend _ _ '@' directive ih
  have urls : ∀ (initials : List Char) (first second : Mode), holds first second → holds
      (initials.foldl (fun mode c => mode.appendDirective c .url) first)
      (initials.foldl (fun mode c => mode.appendDirective c .url) second) := by
    intro initials
    induction initials with
    | nil => exact fun _ _ both => both
    | cons c initials ih => exact fun _ _ both => ih _ _ (append _ _ c .url both)
  have sections := prepend _ _ '<' .sectionRef (atSign Directive.atDirectives)
  unfold installDirectives
  dsimp only
  split
  · exact urls Directive.protocolInitials _ _ sections
  · exact sections

theorem installDirectives_keeps (holds : Mode → Prop)
    (prepend : ∀ (mode : Mode) (c : Char) (directive : Directive), holds mode →
      holds (mode.prependDirective c directive))
    (append : ∀ (mode : Mode) (c : Char) (directive : Directive), holds mode →
      holds (mode.appendDirective c directive))
    {mode : Mode} (before : holds mode) (highlightUrls : Bool) :
    holds (mode.installDirectives highlightUrls) := by
  exact installDirectives_rel (fun first _ => holds first) (fun first _ => prepend first)
    (fun first _ => append first) mode mode before highlightUrls

theorem prependDirective_attributes (mode : Mode) (c : Char) (directive : Directive) :
    (mode.prependDirective c directive).attributes = mode.attributes := by
  unfold prependDirective
  dsimp only
  split <;> rfl

theorem appendDirective_attributes (mode : Mode) (c : Char) (directive : Directive) :
    (mode.appendDirective c directive).attributes = mode.attributes := by
  unfold appendDirective
  dsimp only
  split <;> rfl

@[simp] theorem installDirectives_attributes (mode : Mode) (highlightUrls : Bool) :
    (mode.installDirectives highlightUrls).attributes = mode.attributes := by
  have keeps : ∀ first : Mode, first.attributes = mode.attributes →
      (first.installDirectives highlightUrls).attributes = mode.attributes := fun first same =>
    installDirectives_keeps (fun first => first.attributes = mode.attributes)
      (fun _ _ _ same => (prependDirective_attributes ..).trans same)
      (fun _ _ _ same => (appendDirective_attributes ..).trans same) same highlightUrls
  exact keeps mode rfl

theorem Keyed.installDirectives {mode : Mode} (keyed : mode.Keyed) (highlightUrls : Bool) :
    (mode.installDirectives highlightUrls).Keyed := by
  refine installDirectives_keeps Keyed ?_ ?_ keyed highlightUrls
  · intro mode c directive keyed
    unfold prependDirective
    dsimp only
    split
    · exact keyed
    · exact Table.nodup_keys_insert keyed _ _
  · intro mode c directive keyed
    unfold appendDirective
    dsimp only
    split
    · exact keyed
    · exact Table.nodup_keys_insert keyed _ _

/-- Directives are installed alike in modes that are alike. -/
theorem Alike.installDirectives {first second : Mode} (alike : Alike first second)
    (highlightUrls : Bool) :
    Alike (first.installDirectives highlightUrls) (second.installDirectives highlightUrls) := by
  refine installDirectives_rel Alike ?_ ?_ first second alike highlightUrls
  · intro first second c directive alike
    rw [alike_iff] at alike ⊢
    refine ⟨fun other => ?_, ?_⟩
    · rw [prependDirective_matchersAt, prependDirective_matchersAt, alike.1 c, alike.1 other]
    · rw [prependDirective_attributes, prependDirective_attributes, alike.2]
  · intro first second c directive alike
    rw [alike_iff] at alike ⊢
    refine ⟨fun other => ?_, ?_⟩
    · rw [appendDirective_matchersAt, appendDirective_matchersAt, alike.1 c, alike.1 other]
    · rw [appendDirective_attributes, appendDirective_attributes, alike.2]

theorem mergeMatchers_prependDirective (list : List Matcher) (mode : Mode) (key : Char)
    (directive : Directive) (c : Char) :
    mergeMatchers list ((mode.prependDirective key directive).matchersAt c) =
      mergeMatchers list (mode.matchersAt c) := by
  rw [prependDirective_matchersAt]
  split
  · rename_i here
    rw [mergeMatchers_cons, mergeMatcher_directive, here.1]
  · rfl

theorem mergeMatchers_appendDirective (list : List Matcher) (mode : Mode) (key : Char)
    (directive : Directive) (c : Char) :
    mergeMatchers list ((mode.appendDirective key directive).matchersAt c) =
      mergeMatchers list (mode.matchersAt c) := by
  rw [appendDirective_matchersAt]
  split
  · rename_i here
    rw [mergeMatchers_append, mergeMatchers_cons, mergeMatcher_directive, ← mergeMatchers_append,
      List.takeWhile_append_dropWhile, here.1]
  · rfl

/-- Directives count for nothing when a mode is imported. -/
theorem mergeMatchers_installDirectives (list : List Matcher) (mode : Mode) (highlightUrls : Bool)
    (c : Char) : mergeMatchers list ((mode.installDirectives highlightUrls).matchersAt c) =
      mergeMatchers list (mode.matchersAt c) := by
  have keeps : ∀ first : Mode,
      mergeMatchers list (first.matchersAt c) = mergeMatchers list (mode.matchersAt c) →
      mergeMatchers list ((first.installDirectives highlightUrls).matchersAt c) =
        mergeMatchers list (mode.matchersAt c) := fun first same =>
    installDirectives_keeps
      (fun first =>
        mergeMatchers list (first.matchersAt c) = mergeMatchers list (mode.matchersAt c))
      (fun _ _ _ same => (mergeMatchers_prependDirective ..).trans same)
      (fun _ _ _ same => (mergeMatchers_appendDirective ..).trans same) same highlightUrls
  exact keeps mode rfl

end Mode

end Highlighter
