import Highlighter.Proofs.Registry.Names

/-!
# What a resolution keeps

A resolution only adds to what a registry keeps, and every mode that is kept is also kept under its
own identifier.  While a mode waits for its initial delegate the second fact rests on a third: a
mode that will be replaced is kept under no other identifier, because names that are being put
together are not loaded again.  `load_loads` carries the three through the recursion;
`resolve_settled`, `resolve_growsTo` and `get?_resolve` are what the rest of the library needs.
-/

namespace Highlighter

namespace Registry

/-- A registry keeps what it kept before, for the same library. -/
structure GrowsTo (before after : Registry) : Prop where
  library : after.library = before.library
  highlightUrls : after.highlightUrls = before.highlightUrls
  modes : ∀ {id : RulesetId} {mode : Mode},
    before.get? id = some mode → after.get? id = some mode

theorem GrowsTo.refl (registry : Registry) : registry.GrowsTo registry :=
  ⟨rfl, rfl, fun kept => kept⟩

theorem GrowsTo.trans {first second third : Registry} (one : first.GrowsTo second)
    (two : second.GrowsTo third) : first.GrowsTo third :=
  ⟨two.library.trans one.library, two.highlightUrls.trans one.highlightUrls,
    fun kept => two.modes (one.modes kept)⟩

theorem growsTo_keep {registry : Registry} {id : RulesetId} (absent : registry.get? id = none)
    (mode : Mode) : registry.GrowsTo (registry.keep id mode) where
  library := rfl
  highlightUrls := rfl
  modes := by
    intro other kept present
    rw [get?_keep]
    split
    · rename_i same
      rw [← same, absent] at present
      contradiction
    · exact present

/-- The modes of a registry are kept under their own identifiers, those of `pending` under no
other, and all identifiers are those of names. -/
structure Settled (registry : Registry) (pending : List RulesetId) : Prop where
  own : ∀ {id : RulesetId} {mode : Mode},
    registry.get? id = some mode → registry.get? mode.ruleset = some mode
  replaceable : ∀ {id : RulesetId} {mode : Mode},
    registry.get? id = some mode → mode.ruleset ∈ pending → id = mode.ruleset
  named : ∀ {id : RulesetId} {mode : Mode},
    registry.get? id = some mode → ∃ language ruleset, id = ModeName.rulesetId language ruleset

namespace Settled

variable {registry : Registry} {pending : List RulesetId} {id : RulesetId} {mode : Mode}

theorem mono {fewer : List RulesetId} (settled : registry.Settled pending)
    (sub : fewer ⊆ pending) : registry.Settled fewer :=
  ⟨settled.own, fun kept member => settled.replaceable kept (sub member), settled.named⟩

/-- No mode is kept for the start of a session. -/
theorem get?_noLanguage (settled : registry.Settled pending) :
    registry.get? .noLanguage = none := by
  cases kept : registry.get? .noLanguage with
  | none => rfl
  | some mode =>
    obtain ⟨language, ruleset, same⟩ := settled.named kept
    exact absurd same.symm (ModeName.rulesetId_ne_noLanguage language ruleset)

/-- A new mode may be kept under its own identifier, to be replaced later. -/
theorem keep_own (settled : registry.Settled pending) (absent : registry.get? id = none)
    (named : ∃ language ruleset, id = ModeName.rulesetId language ruleset)
    (own : mode.ruleset = id) : (registry.keep id mode).Settled (id :: pending) where
  own := by
    intro other kept present
    rw [get?_keep] at present ⊢
    split at present
    · cases present
      rw [if_pos own.symm]
    · have elsewhere := settled.own present
      split
      · rename_i same
        rw [← same, absent] at elsewhere
        contradiction
      · exact elsewhere
  replaceable := by
    intro other kept present waiting
    rw [get?_keep] at present
    split at present
    · rename_i same
      cases present
      rw [← same, own]
    · rcases List.mem_cons.mp waiting with same | waiting
      · have elsewhere := settled.own present
        rw [same, absent] at elsewhere
        contradiction
      · exact settled.replaceable present waiting
  named := by
    intro other kept present
    rw [get?_keep] at present
    split at present
    · rename_i same
      exact same ▸ named
    · exact settled.named present

/-- A mode that waits may be replaced by one that is kept and does not wait itself. -/
theorem replace {live : Mode} {other : RulesetId} (settled : registry.Settled (id :: pending))
    (waiting : registry.get? id = some mode) (kept : registry.get? other = some live)
    (done : live.ruleset ∉ id :: pending) : (registry.keep id live).Settled pending where
  own := by
    intro third found present
    rw [get?_keep] at present ⊢
    split at present
    · cases present
      have different : id ≠ live.ruleset := fun same => done (same ▸ List.mem_cons_self)
      rw [if_neg different]
      exact settled.own kept
    · rename_i different
      rw [if_neg]
      · exact settled.own present
      · intro same
        have := settled.replaceable present (same ▸ List.mem_cons_self)
        exact different (same.trans this.symm)
  replaceable := by
    intro third found present member
    rw [get?_keep] at present
    split at present
    · cases present
      exact absurd (List.mem_cons_of_mem _ member) done
    · exact settled.replaceable present (List.mem_cons_of_mem _ member)
  named := by
    intro third found present
    rw [get?_keep] at present
    split at present
    · rename_i same
      exact same ▸ settled.named waiting
    · exact settled.named present

end Settled

/-! ## Loading -/

/-- What loading does to the progress of a resolution: it only adds, and leaves alone what is kept
under identifiers that were visited before. -/
structure Progress.Advances (pending : List RulesetId) (before after : Progress) : Prop where
  grows : before.registry.GrowsTo after.registry
  visited : before.visited ⊆ after.visited
  frame : ∀ id ∈ before.visited, after.registry.get? id = before.registry.get? id
  settled : after.registry.Settled pending

/-- What comes of loading a name: a mode that is kept under its identifier and not waiting. -/
structure Progress.Loads (pending : List RulesetId) (id : RulesetId) (before : Progress)
    (outcome : Mode × Progress) : Prop extends before.Advances pending outcome.2 where
  kept : outcome.2.registry.get? id = some outcome.1
  done : outcome.1.ruleset ∉ pending

/-- A loader that does so for every name mentioned, once all of `base` is visited. -/
def LoadsMentions (library : Library) (pending base : List RulesetId)
    (loader : String → Progress → Mode × Progress) : Prop :=
  ∀ name ∈ library.mentions, ∀ progress : Progress,
    progress.registry.library = library → progress.registry.Settled pending →
    base ⊆ progress.visited → (ModeName.ofText library name).id ∉ progress.visited →
    progress.Loads pending (ModeName.ofText library name).id (loader name progress)

theorem Progress.Advances.refl {pending : List RulesetId} {progress : Progress}
    (settled : progress.registry.Settled pending) : progress.Advances pending progress :=
  ⟨.refl _, fun _ member => member, fun _ _ => rfl, settled⟩

theorem Progress.Advances.trans {pending : List RulesetId} {first second third : Progress}
    (one : first.Advances pending second) (two : second.Advances pending third) :
    first.Advances pending third where
  grows := one.grows.trans two.grows
  visited := fun _ member => two.visited (one.visited member)
  frame := fun id member => (two.frame id (one.visited member)).trans (one.frame id member)
  settled := two.settled

/-- Importing advances, and leaves the mode under its identifier. -/
theorem importAll_advances {loader : String → Progress → Mode × Progress} {library : Library}
    {pending base : List RulesetId} (loads : LoadsMentions library pending base loader) :
    ∀ (names : List String) (mode : Mode) (progress : Progress), names ⊆ library.mentions →
      progress.registry.library = library → progress.registry.Settled pending →
      base ⊆ progress.visited →
      progress.Advances pending (importAll loader library names mode progress).2 ∧
        (importAll loader library names mode progress).1.ruleset = mode.ruleset := by
  intro names
  induction names with
  | nil => exact fun mode progress _ _ settled _ => ⟨.refl settled, rfl⟩
  | cons name names ih =>
    intro mode progress mentioned same settled visited
    have nameMentioned : name ∈ library.mentions := mentioned List.mem_cons_self
    have restMentioned : names ⊆ library.mentions :=
      fun _ member => mentioned (List.mem_cons_of_mem _ member)
    simp only [importAll, List.contains_eq_mem, decide_eq_true_eq]
    split
    · exact ih mode progress restMentioned same settled visited
    · rename_i fresh
      have step := loads name nameMentioned progress same settled visited fresh
      obtain ⟨advances, ruleset⟩ := ih
        (if (loader name progress).1.isUnknown then mode
          else mode.importRules (loader name progress).1)
        (loader name progress).2 restMentioned (step.grows.library.trans same) step.settled
        (fun _ member => step.visited (visited member))
      refine ⟨step.toAdvances.trans advances, ruleset.trans ?_⟩
      split <;> rfl

/-- A mode that has just been put together and then gives way to an initial delegate, if there is
one, has been loaded.  `progress` is the one before the mode is kept. -/
theorem followDelegate_loads {loader : String → Progress → Mode × Progress} {library : Library}
    {pending base : List RulesetId} {id : RulesetId}
    (loads : LoadsMentions library (id :: pending) base loader) (mode : Mode)
    (delegate : Option String) (progress : Progress)
    (mentioned : ∀ name, delegate = some name → name ∈ library.mentions)
    (same : progress.registry.library = library) (settled : progress.registry.Settled pending)
    (visited : base ⊆ progress.visited) (absent : progress.registry.get? id = none)
    (named : ∃ language ruleset, id = ModeName.rulesetId language ruleset)
    (own : mode.ruleset = id) (idVisited : id ∈ progress.visited) (new : id ∉ pending) :
    let outcome := followDelegate loader library id mode delegate (progress.keep id mode)
    progress.registry.GrowsTo outcome.2.registry ∧ progress.visited ⊆ outcome.2.visited ∧
      (∀ other ∈ progress.visited, other ≠ id →
        outcome.2.registry.get? other = progress.registry.get? other) ∧
      outcome.2.registry.Settled pending ∧ outcome.2.registry.get? id = some outcome.1 ∧
      outcome.1.ruleset ∉ pending := by
  have keptSettled : (progress.keep id mode).registry.Settled (id :: pending) :=
    settled.keep_own absent named own
  have keptGrows : progress.registry.GrowsTo (progress.keep id mode).registry :=
    growsTo_keep absent mode
  have keptFrame : ∀ other, other ≠ id →
      (progress.keep id mode).registry.get? other = progress.registry.get? other := by
    intro other different
    exact (get?_keep ..).trans (if_neg different.symm)
  have kept : (progress.keep id mode).registry.get? id = some mode :=
    (get?_keep ..).trans (if_pos rfl)
  have stays : progress.registry.GrowsTo (progress.keep id mode).registry ∧
      progress.visited ⊆ (progress.keep id mode).visited ∧
      (∀ other ∈ progress.visited, other ≠ id →
        (progress.keep id mode).registry.get? other = progress.registry.get? other) ∧
      (progress.keep id mode).registry.Settled pending ∧
      (progress.keep id mode).registry.get? id = some mode ∧ mode.ruleset ∉ pending :=
    ⟨keptGrows, fun _ member => member, fun other _ => keptFrame other,
      keptSettled.mono (List.subset_cons_self _ _), kept, own ▸ new⟩
  cases delegate with
  | none => exact stays
  | some name =>
    simp only [followDelegate, List.contains_eq_mem, decide_eq_true_eq]
    split
    · exact stays
    · rename_i fresh
      have step := loads name (mentioned name rfl) (progress.keep id mode) same keptSettled
        visited fresh
      have waiting : (loader name (progress.keep id mode)).2.registry.get? id = some mode :=
        (step.frame id idVisited).trans kept
      split
      · refine ⟨keptGrows.trans step.grows, step.visited, ?_,
          step.settled.mono (List.subset_cons_self _ _), waiting, own ▸ new⟩
        intro other member different
        exact (step.frame other member).trans (keptFrame other different)
      · refine ⟨⟨step.grows.library, step.grows.highlightUrls, ?_⟩, step.visited, ?_,
          step.settled.replace waiting step.kept step.done, (get?_keep ..).trans (if_pos rfl),
          fun member => step.done (List.mem_cons_of_mem _ member)⟩
        · intro other found present
          have different : id ≠ other := by
            rintro rfl
            rw [absent] at present
            contradiction
          exact (get?_keep ..).trans ((if_neg different).trans
            ((keptGrows.trans step.grows).modes present))
        · intro other member different
          exact (get?_keep ..).trans ((if_neg different.symm).trans
            ((step.frame other member).trans (keptFrame other different)))

theorem load_loads (fuel : Nat) : ∀ (name : String) (progress : Progress)
    (pending : List RulesetId), progress.registry.Settled pending →
    pending ⊆ progress.visited →
    (ModeName.ofText progress.registry.library name).id ∉ progress.visited →
    (unvisited progress.registry.library
      ((ModeName.ofText progress.registry.library name).id :: progress.visited)).length < fuel →
    progress.Loads pending (ModeName.ofText progress.registry.library name).id
      (load fuel name progress) := by
  induction fuel with
  | zero => intro name progress pending _ _ _ enough; exact absurd enough (Nat.not_lt_zero _)
  | succ fuel ih =>
    intro name progress pending settled sub fresh enough
    generalize sameLibrary : progress.registry.library = library at fresh enough
    generalize resolvedName : ModeName.ofText library name = resolved at fresh enough
    have new : resolved.id ∉ pending := fun member => fresh (sub member)
    have named : ∃ language ruleset, resolved.id = ModeName.rulesetId language ruleset :=
      ⟨resolved.language, resolved.ruleset, by rw [← resolvedName]; rfl⟩
    -- what is left to visit bounds the recursion: each name loaded below is one of it
    have loads : ∀ waiting, waiting ⊆ resolved.id :: progress.visited →
        LoadsMentions library waiting (resolved.id :: progress.visited) (load fuel) := by
      rintro waiting waitingVisited other mentioned later rfl laterSettled visited otherFresh
      refine ih other later waiting laterSettled
        (fun _ member => visited (waitingVisited member)) otherFresh ?_
      have := unvisited_length_lt mentioned visited otherFresh
      omega
    simp only [load, sameLibrary, resolvedName]
    cases cached : progress.registry.get? resolved.id with
    | some mode =>
      refine { Progress.Advances.refl settled with kept := cached, done := ?_ }
      intro waiting
      exact new (settled.replaceable cached waiting ▸ waiting)
    | none =>
      have fewer : pending ⊆ resolved.id :: progress.visited :=
        fun _ member => List.mem_cons_of_mem _ (sub member)
      cases found : source? library resolved with
      | none =>
        exact {
          grows := growsTo_keep cached _
          visited := List.subset_cons_self _ _
          frame := by
            intro other member
            have different : resolved.id ≠ other := fun same => fresh (same ▸ member)
            exact (get?_keep ..).trans (if_neg different)
          settled := (settled.keep_own cached named rfl).mono (List.subset_cons_self _ _)
          kept := (get?_keep ..).trans (if_pos rfl)
          done := new }
      | some source =>
        obtain ⟨file, ruleset⟩ := source
        simp only
        generalize imported : importAll (load fuel) library ruleset.imports _ _ = outcome
        have importing := importAll_advances (loads pending fewer) ruleset.imports
          (Mode.compile resolved.language resolved.id file.delims ruleset)
          (progress.visit resolved.id) (imports_subset_mentions found) sameLibrary settled
          (fun _ member => member)
        rw [imported] at importing
        obtain ⟨advances, ruleset_eq⟩ := importing
        have idVisited : resolved.id ∈ outcome.2.visited := advances.visited List.mem_cons_self
        have absent : outcome.2.registry.get? resolved.id = none :=
          (advances.frame _ List.mem_cons_self).trans cached
        obtain ⟨grows, visited, frame, settledAfter, kept, done⟩ := followDelegate_loads
          (loads (resolved.id :: pending) (List.cons_subset_cons _ sub))
          (outcome.1.installDirectives outcome.2.registry.highlightUrls) file.initialDelegate
          outcome.2 (fun _ declared => initialDelegate_mem_mentions found declared)
          (advances.grows.library.trans sameLibrary) advances.settled advances.visited absent named
          ((Mode.installDirectives_ruleset ..).trans ruleset_eq) idVisited new
        exact {
          grows := advances.grows.trans grows
          visited := fun _ member => visited (advances.visited (List.mem_cons_of_mem _ member))
          frame := fun other member =>
            (frame other (advances.visited (List.mem_cons_of_mem _ member))
              fun same => fresh (same ▸ member)).trans
              (advances.frame other (List.mem_cons_of_mem _ member))
          settled := settledAfter
          kept := kept
          done := done }

/-! ## Resolving -/

theorem resolve_loads {registry : Registry} (settled : registry.Settled []) (name : String) :
    Progress.Loads [] (ModeName.ofText registry.library name).id ⟨registry, []⟩
      (load (registry.library.mentions.length + 2) name ⟨registry, []⟩) := by
  refine load_loads _ name ⟨registry, []⟩ [] settled (List.Subset.refl _) List.not_mem_nil ?_
  have := List.length_filter_le (fun other => !List.contains
    [(ModeName.ofText registry.library name).id] (ModeName.ofText registry.library other).id)
    registry.library.mentions
  exact Nat.lt_of_le_of_lt this (by omega)

/-- A resolution only adds modes. -/
theorem resolve_growsTo {registry : Registry} (settled : registry.Settled []) (name : String) :
    registry.GrowsTo (registry.resolve name).2 :=
  (resolve_loads settled name).grows

/-- After a resolution every mode is still kept under its own identifier. -/
theorem resolve_settled {registry : Registry} (settled : registry.Settled []) (name : String) :
    (registry.resolve name).2.Settled [] :=
  (resolve_loads settled name).settled

/-- The mode of a name is kept under the identifier of the name. -/
theorem get?_resolve {registry : Registry} (settled : registry.Settled []) (name : String) :
    (registry.resolve name).2.get? (ModeName.ofText registry.library name).id
      = some (registry.resolve name).1 :=
  (resolve_loads settled name).kept

/-- A name whose mode is kept has that mode, and resolving it changes nothing. -/
theorem resolve_of_kept {registry : Registry} {name : String} {mode : Mode}
    (kept : registry.get? (ModeName.ofText registry.library name).id = some mode) :
    registry.resolve name = (mode, registry) := by
  simp only [resolve, load, kept]

/-- A registry without modes is settled. -/
theorem settled_empty (library : Library) (highlightUrls : Bool) :
    (Registry.mk library highlightUrls .empty).Settled [] where
  own := fun kept => nomatch kept
  replaceable := fun kept => nomatch kept
  named := fun kept => nomatch kept

end Registry

end Highlighter
