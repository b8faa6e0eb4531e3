import Highlighter.Registry

/-!
# What modes are made of

The matchers of a mode are compiled rules and the directives, the latter at the characters where
they are installed.  So what holds of all these, each at the characters where it may stand, holds of
every matcher of every mode that a registry ever keeps.
-/

namespace Highlighter

/-- What holds of compiled rules at every character, and of directives where they are installed. -/
structure OfMatchers (holds : Char → Matcher → Prop) : Prop where
  rule : ∀ (c : Char) (ignoreCase : Bool) (spec : RuleSpec),
    holds c (.rule (.compile ignoreCase spec))
  atSign : ∀ directive ∈ Directive.atDirectives, holds '@' (.directive directive)
  sectionRef : holds '<' (.directive .sectionRef)
  url : ∀ c ∈ Directive.protocolInitials, holds c (.directive .url)

theorem Rule.literal?_eq_some {text : String} {letters : List Char}
    (found : Rule.literal? text = some letters) : text.toList = letters ∧ letters ≠ [] := by
  unfold Rule.literal? at found
  split at found
  · cases found
  · rename_i notEmpty
    cases found
    exact ⟨rfl, by simpa using notEmpty⟩

variable {holds : Char → Matcher → Prop}

namespace Table

theorem mem_insert {κ υ : Type} [DecidableEq κ] {table : Table κ υ} {key : κ} {value : υ}
    {entry : κ × υ} (member : entry ∈ (table.insert key value).entries) :
    entry = (key, value) ∨ entry ∈ table.entries := by
  obtain ⟨entries⟩ := table
  change entry ∈ insertEntry key value entries at member
  induction entries with
  | nil => exact .inl (List.mem_singleton.mp member)
  | cons first rest ih =>
    rw [insertEntry] at member
    split at member
    · exact (List.mem_cons.mp member).imp id (List.mem_cons_of_mem _)
    · rcases List.mem_cons.mp member with rfl | later
      · exact .inr List.mem_cons_self
      · exact (ih later).imp id (List.mem_cons_of_mem _)

theorem mem_listAt {κ α : Type} [DecidableEq κ] {table : Table κ (List α)} {key : κ} {item : α}
    (member : item ∈ table.listAt key) : ∃ items, (key, items) ∈ table.entries ∧ item ∈ items := by
  unfold listAt get? at member
  cases found : table.entries.find? fun entry => entry.1 = key with
  | none =>
    rw [found] at member
    exact absurd member List.not_mem_nil
  | some entry =>
    rw [found] at member
    have same : entry.1 = key := by simpa using List.find?_some found
    exact ⟨entry.2, same ▸ List.mem_of_find?_eq_some found, member⟩

end Table

namespace Mode

/-- Every matcher in a table is as it should be at its character. -/
def Lists (holds : Char → Matcher → Prop) (table : Table Char (List Matcher)) : Prop :=
  ∀ entry ∈ table.entries, ∀ matcher ∈ entry.2, holds entry.1 matcher

/-- Every matcher of a mode is as it should be at its character. -/
def Consists (holds : Char → Matcher → Prop) (mode : Mode) : Prop :=
  Lists holds mode.matchers

namespace Lists

variable {table : Table Char (List Matcher)} {c : Char} {list : List Matcher}

theorem empty : Lists holds .empty :=
  fun _ member => absurd member List.not_mem_nil

theorem listAt (lists : Lists holds table) : ∀ matcher ∈ table.listAt c, holds c matcher := by
  intro matcher member
  obtain ⟨items, entry, there⟩ := Table.mem_listAt member
  exact lists (c, items) entry matcher there

theorem insert (lists : Lists holds table) (all : ∀ matcher ∈ list, holds c matcher) :
    Lists holds (table.insert c list) := by
  intro entry member
  rcases Table.mem_insert member with rfl | old
  · exact all
  · exact lists entry old

/-- Work that keeps a table right at each step does so in the end. -/
theorem foldl {α : Type} {work : Table Char (List Matcher) → α → Table Char (List Matcher)}
    (items : List α)
    (each : ∀ item ∈ items, ∀ table, Lists holds table → Lists holds (work table item)) :
    ∀ {table : Table Char (List Matcher)}, Lists holds table →
      Lists holds (items.foldl work table) := by
  induction items with
  | nil => exact fun lists => lists
  | cons item items ih =>
    intro table lists
    exact ih (fun other member => each other (List.mem_cons_of_mem _ member))
      (each item List.mem_cons_self table lists)

end Lists

theorem lists_ruleTable
    (each : ∀ (c : Char) (ignoreCase : Bool) (spec : RuleSpec),
      holds c (.rule (.compile ignoreCase spec)))
    (ignoreCase : Bool) (keywordChars : Alphabet) (rules : List RuleEntry) :
    Lists holds (ruleTable ignoreCase keywordChars rules) := by
  refine .foldl rules (fun rule _ table lists => ?_) .empty
  refine .foldl _ (fun c _ table lists => ?_) lists
  refine lists.insert fun matcher member => ?_
  rcases List.mem_append.mp member with old | new
  · exact lists.listAt matcher old
  · rw [List.mem_singleton.mp new]
    exact each c ignoreCase rule.spec

theorem mem_mergeMatchers {own imported : List Matcher} {matcher : Matcher}
    (member : matcher ∈ mergeMatchers own imported) : matcher ∈ own ∨ matcher ∈ imported := by
  unfold mergeMatchers at member
  induction imported generalizing own with
  | nil => exact .inl member
  | cons first imported ih =>
    rw [List.foldl_cons] at member
    rcases ih member with here | later
    · split at here
      · exact .inl here
      · rcases List.mem_append.mp here with old | new
        · exact .inl old
        · exact .inr (List.mem_singleton.mp new ▸ List.mem_cons_self)
    · exact .inr (List.mem_cons_of_mem _ later)

namespace Consists

variable {mode other : Mode}

theorem matchersAt (consists : mode.Consists holds) {c : Char} :
    ∀ matcher ∈ mode.matchersAt c, holds c matcher :=
  Lists.listAt consists

theorem unknown (id : RulesetId) : (Mode.unknown id).Consists holds :=
  Lists.empty

theorem compile (of : OfMatchers holds) (language : String) (id : RulesetId)
    (delims : CommentDelims) (ruleset : Ruleset) :
    (Mode.compile language id delims ruleset).Consists holds :=
  lists_ruleTable of.rule _ _ _

theorem importRules (consists : mode.Consists holds) (others : other.Consists holds) :
    (mode.importRules other).Consists holds := by
  refine Lists.foldl _ (fun entry member table lists => ?_) consists
  refine lists.insert fun matcher merged => ?_
  rcases mem_mergeMatchers merged with own | imported
  · exact lists.listAt matcher own
  · exact others entry member matcher imported

theorem prependDirective (consists : mode.Consists holds) {c : Char} {directive : Directive}
    (here : holds c (.directive directive)) :
    (mode.prependDirective c directive).Consists holds := by
  unfold Mode.prependDirective
  dsimp only
  split
  · exact consists
  · refine Lists.insert consists fun matcher member => ?_
    rcases List.mem_cons.mp member with rfl | old
    · exact here
    · exact consists.matchersAt matcher old

theorem appendDirective (consists : mode.Consists holds) {c : Char} {directive : Directive}
    (here : holds c (.directive directive)) :
    (mode.appendDirective c directive).Consists holds := by
  unfold Mode.appendDirective
  dsimp only
  split
  · exact consists
  · refine Lists.insert consists fun matcher member => ?_
    rcases List.mem_append.mp member with before | behind
    · exact consists.matchersAt matcher (List.takeWhile_sublist _ |>.mem before)
    · rcases List.mem_cons.mp behind with rfl | after
      · exact here
      · exact consists.matchersAt matcher (List.dropWhile_sublist _ |>.mem after)

theorem installDirectives (of : OfMatchers holds) (consists : mode.Consists holds)
    (highlightUrls : Bool) : (mode.installDirectives highlightUrls).Consists holds := by
  have atSign : ∀ directives ⊆ Directive.atDirectives,
      (directives.foldr (fun directive mode => mode.prependDirective '@' directive)
        mode).Consists holds := by
    intro directives
    induction directives with
    | nil => exact fun _ => consists
    | cons directive directives ih =>
      intro sub
      exact (ih fun _ member => sub (List.mem_cons_of_mem _ member)).prependDirective
        (of.atSign directive (sub List.mem_cons_self))
  have urls : ∀ initials ⊆ Directive.protocolInitials, ∀ {mode : Mode}, mode.Consists holds →
      (initials.foldl (fun mode c => mode.appendDirective c .url) mode).Consists holds := by
    intro initials
    induction initials with
    | nil => exact fun _ _ consists => consists
    | cons c initials ih =>
      intro sub mode consists
      exact ih (fun _ member => sub (List.mem_cons_of_mem _ member))
        (consists.appendDirective (of.url c (sub List.mem_cons_self)))
  have sections := (atSign _ (List.Subset.refl _)).prependDirective of.sectionRef
  unfold Mode.installDirectives
  dsimp only
  split
  · exact urls _ (List.Subset.refl _) sections
  · exact sections

end Consists

end Mode

namespace Registry

/-- Every matcher of the modes that a registry keeps is as it should be at its character. -/
def Consists (holds : Char → Matcher → Prop) (registry : Registry) : Prop :=
  ∀ (id : RulesetId) (mode : Mode), registry.get? id = some mode → mode.Consists holds

theorem consists_empty (library : Library) (highlightUrls : Bool) :
    (Registry.mk library highlightUrls .empty).Consists holds :=
  fun _ _ kept => nomatch kept

variable {registry : Registry} {library : Library}

theorem Consists.keep (consists : registry.Consists holds) {mode : Mode}
    (right : mode.Consists holds) (id : RulesetId) : (registry.keep id mode).Consists holds := by
  intro other kept found
  rw [get?_keep] at found
  split at found
  · cases found
    exact right
  · exact consists other kept found

/-- A loader that gives and keeps modes that are as they should be. -/
def LoadsConsistent (holds : Char → Matcher → Prop)
    (loader : String → Progress → Mode × Progress) : Prop :=
  ∀ name progress, progress.registry.Consists holds →
    (loader name progress).1.Consists holds ∧ (loader name progress).2.registry.Consists holds

theorem importAll_consists {loader : String → Progress → Mode × Progress}
    (loads : LoadsConsistent holds loader) (library : Library) (names : List String) :
    ∀ (mode : Mode) (progress : Progress), mode.Consists holds →
      progress.registry.Consists holds →
      (importAll loader library names mode progress).1.Consists holds ∧
        (importAll loader library names mode progress).2.registry.Consists holds := by
  induction names with
  | nil => exact fun _ _ right consists => ⟨right, consists⟩
  | cons name names ih =>
    intro mode progress right consists
    rw [importAll]
    split
    · exact ih mode progress right consists
    · obtain ⟨other, after⟩ := loads name progress consists
      refine ih _ _ ?_ after
      split
      · exact right
      · exact right.importRules other

theorem followDelegate_consists {loader : String → Progress → Mode × Progress}
    (loads : LoadsConsistent holds loader) (id : RulesetId) {mode : Mode}
    (delegate : Option String) {progress : Progress} (right : mode.Consists holds)
    (consists : progress.registry.Consists holds) :
    (followDelegate loader library id mode delegate progress).1.Consists holds ∧
      (followDelegate loader library id mode delegate progress).2.registry.Consists holds := by
  cases delegate with
  | none => exact ⟨right, consists⟩
  | some name =>
    rw [followDelegate]
    split
    · exact ⟨right, consists⟩
    · obtain ⟨live, after⟩ := loads name progress consists
      dsimp only
      split
      · exact ⟨right, after⟩
      · exact ⟨live, after.keep live id⟩

/-- Loading a name keeps everything as it should be. -/
theorem load_consists (of : OfMatchers holds) (fuel : Nat) : LoadsConsistent holds (load fuel) := by
  induction fuel with
  | zero => exact fun _ _ consists => ⟨.unknown _, consists⟩
  | succ fuel ih =>
    intro name progress consists
    rw [load]
    generalize progress.registry.library = library
    generalize ModeName.ofText library name = resolved
    dsimp only
    split
    · rename_i kept
      exact ⟨consists _ _ kept, consists⟩
    · split
      · exact ⟨.unknown _, consists.keep (.unknown _) _⟩
      · rename_i file ruleset _
        have importing := importAll_consists ih library ruleset.imports
          (Mode.compile resolved.language resolved.id file.delims ruleset)
          (progress.visit resolved.id) (.compile of _ _ _ _) consists
        generalize importAll (load fuel) library ruleset.imports _ _ = outcome at importing ⊢
        obtain ⟨mode, after⟩ := outcome
        obtain ⟨right, registryRight⟩ := importing
        have complete := Mode.Consists.installDirectives of right after.registry.highlightUrls
        exact followDelegate_consists ih _ file.initialDelegate complete
          (registryRight.keep complete _)

/-- The matchers of a mode that is resolved are as they should be, and so are those of all modes
that are kept then. -/
theorem resolve_consists (of : OfMatchers holds) (consists : registry.Consists holds)
    (name : String) : (registry.resolve name).1.Consists holds ∧
      (registry.resolve name).2.Consists holds :=
  load_consists of (registry.library.mentions.length + 2) name ⟨registry, []⟩ consists

end Registry

end Highlighter
