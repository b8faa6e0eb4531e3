import Highlighter.Proofs.Registry.Depth

/-!
# The course of a resolution

To load a name, its ruleset is compiled, then what it imports is loaded, one after the other, and
last the initial delegate of its file.  `Course` says so without a bound on the depth, and keeps a
list of the rulesets that are compiled.  However imports and delegates go round in circles, and
whatever is kept before, a resolution takes one course and comes to its end: no ruleset is compiled
twice, none that is kept is compiled, and all that is visited is kept.
-/

namespace Highlighter

namespace Registry

/-- What there is to be done in the course of a resolution. -/
inductive Task where
  /-- A name is loaded. -/
  | load (name : String)
  /-- A mode gets the rules of the modes of some names. -/
  | importAll (names : List String) (mode : Mode)
  /-- A mode gives way to that of an initial delegate. -/
  | follow (id : RulesetId) (mode : Mode) (delegate : Option String)

/-- From some progress on a task is done, with some rulesets compiled in this order, and comes to a
mode and further progress. -/
inductive Course (library : Library) :
    Task → Progress → List RulesetId → Mode × Progress → Prop where
  /-- The mode of the name is kept already. -/
  | kept {name : String} {progress : Progress} {mode : Mode}
      (present : progress.registry.get? (ModeName.ofText library name).id = some mode) :
      Course library (.load name) progress [] (mode, progress)
  /-- The name has no ruleset, which is kept in mind. -/
  | missing {name : String} {progress : Progress}
      (absent : progress.registry.get? (ModeName.ofText library name).id = none)
      (nowhere : source? library (ModeName.ofText library name) = none) :
      Course library (.load name) progress [] (.unknown (ModeName.ofText library name).id,
        (progress.visit (ModeName.ofText library name).id).keep (ModeName.ofText library name).id
          (.unknown (ModeName.ofText library name).id))
  /-- The ruleset of the name is compiled.  Its mode is kept once it has all imports and the
  directives, and before the delegate is loaded. -/
  | compiled {name : String} {resolved : ModeName} {progress after : Progress} {file : ModeFile}
      {ruleset : Ruleset} {mode : Mode} {imported followed : List RulesetId}
      {outcome : Mode × Progress} (named : ModeName.ofText library name = resolved)
      (absent : progress.registry.get? resolved.id = none)
      (found : source? library resolved = some (file, ruleset))
      (imports : Course library (.importAll ruleset.imports
          (.compile resolved.language resolved.id file.delims ruleset))
        (progress.visit resolved.id) imported (mode, after))
      (follows : Course library (.follow resolved.id
          (mode.installDirectives after.registry.highlightUrls) file.initialDelegate)
        (after.keep resolved.id (mode.installDirectives after.registry.highlightUrls))
        followed outcome) :
      Course library (.load name) progress (resolved.id :: (imported ++ followed)) outcome
  /-- There are no more imports. -/
  | importedAll {mode : Mode} {progress : Progress} :
      Course library (.importAll [] mode) progress [] (mode, progress)
  /-- An import that is visited is passed over. -/
  | passedOver {name : String} {names : List String} {mode : Mode} {progress : Progress}
      {rest : List RulesetId} {outcome : Mode × Progress}
      (visited : (ModeName.ofText library name).id ∈ progress.visited)
      (others : Course library (.importAll names mode) progress rest outcome) :
      Course library (.importAll (name :: names) mode) progress rest outcome
  /-- An import is loaded, and its rules are added if it has a ruleset. -/
  | imported {name : String} {names : List String} {mode other : Mode} {progress after : Progress}
      {first rest : List RulesetId} {outcome : Mode × Progress}
      (fresh : (ModeName.ofText library name).id ∉ progress.visited)
      (loads : Course library (.load name) progress first (other, after))
      (others : Course library
        (.importAll names (if other.isUnknown then mode else mode.importRules other)) after rest
        outcome) :
      Course library (.importAll (name :: names) mode) progress (first ++ rest) outcome
  /-- There is no delegate. -/
  | undelegated {id : RulesetId} {mode : Mode} {progress : Progress} :
      Course library (.follow id mode none) progress [] (mode, progress)
  /-- A delegate that is visited is not followed. -/
  | stays {id : RulesetId} {mode : Mode} {name : String} {progress : Progress}
      (visited : (ModeName.ofText library name).id ∈ progress.visited) :
      Course library (.follow id mode (some name)) progress [] (mode, progress)
  /-- A delegate is loaded, and takes the place of the mode if it has a ruleset. -/
  | delegated {id : RulesetId} {mode live : Mode} {name : String} {progress after : Progress}
      {rest : List RulesetId} (fresh : (ModeName.ofText library name).id ∉ progress.visited)
      (loads : Course library (.load name) progress rest (live, after)) :
      Course library (.follow id mode (some name)) progress rest
        (if live.isUnknown then (mode, after) else (live, after.keep id live))

variable {library : Library} {task : Task} {before after last : Progress}
  {compiled followed : List RulesetId} {outcome : Mode × Progress} {id : RulesetId} {mode : Mode}

/-! ## There is a course -/

/-- A loader that takes a course for every name that the library mentions, once all of `base` is
visited. -/
def TakesCourse (library : Library) (base : List RulesetId) (loader : Loader) : Prop :=
  ∀ name ∈ library.mentions, ∀ progress : Progress, progress.registry.library = library →
    base ⊆ progress.visited → (ModeName.ofText library name).id ∉ progress.visited →
    ∃ compiled, Course library (.load name) progress compiled (loader name progress)

variable {base : List RulesetId} {loader : Loader}

theorem importAll_course (takes : TakesCourse library base loader)
    (each : ∀ name progress, Progress.Onward progress (loader name progress).2)
    (names : List String) : ∀ (mode : Mode) (progress : Progress), names ⊆ library.mentions →
    progress.registry.library = library → base ⊆ progress.visited →
    ∃ compiled, Course library (.importAll names mode) progress compiled
      (importAll loader library names mode progress) := by
  induction names with
  | nil => exact fun mode progress _ _ _ => ⟨[], .importedAll⟩
  | cons name names ih =>
    intro mode progress mentioned same visited
    have rest : names ⊆ library.mentions :=
      fun _ member => mentioned (List.mem_cons_of_mem _ member)
    simp only [importAll, List.contains_eq_mem, decide_eq_true_eq]
    split
    · rename_i here
      obtain ⟨compiled, others⟩ := ih mode progress rest same visited
      exact ⟨compiled, .passedOver here others⟩
    · rename_i fresh
      have onward := each name progress
      obtain ⟨first, loads⟩ := takes name (mentioned List.mem_cons_self) progress same visited fresh
      obtain ⟨compiled, others⟩ := ih
        (if (loader name progress).1.isUnknown then mode
          else mode.importRules (loader name progress).1)
        (loader name progress).2 rest (onward.library.trans same)
        fun _ member => onward.visited (visited member)
      exact ⟨first ++ compiled, .imported fresh loads others⟩

theorem followDelegate_course (takes : TakesCourse library base loader) (id : RulesetId)
    (mode : Mode) {delegate : Option String} {progress : Progress}
    (mentioned : ∀ name, delegate = some name → name ∈ library.mentions)
    (same : progress.registry.library = library) (visited : base ⊆ progress.visited) :
    ∃ compiled, Course library (.follow id mode delegate) progress compiled
      (followDelegate loader library id mode delegate progress) := by
  cases delegate with
  | none => exact ⟨[], .undelegated⟩
  | some name =>
    simp only [followDelegate, List.contains_eq_mem, decide_eq_true_eq]
    split
    · rename_i here
      exact ⟨[], .stays here⟩
    · rename_i fresh
      obtain ⟨compiled, loads⟩ := takes name (mentioned name rfl) progress same visited fresh
      exact ⟨compiled, .delegated fresh loads⟩

/-- A name is loaded in a course if there are more levels than names left to visit. -/
theorem load_course (fuel : Nat) : ∀ (name : String) (progress : Progress),
    progress.registry.library = library → leftToVisit name progress < fuel →
    ∃ compiled, Course library (.load name) progress compiled (load fuel name progress) := by
  induction fuel with
  | zero => exact fun _ _ _ enough => absurd enough (Nat.not_lt_zero _)
  | succ fuel ih =>
    intro name progress same enough
    rw [leftToVisit, same] at enough
    generalize named : ModeName.ofText library name = resolved at enough
    -- each name that is loaded below is one of those left to visit
    have takes : TakesCourse library (resolved.id :: progress.visited) (load fuel) := by
      intro inner mentioned later sameLater visited fresh
      have fewer := unvisited_length_lt mentioned visited fresh
      refine ih inner later sameLater ?_
      rw [leftToVisit, sameLater]
      omega
    simp only [load_succ, loadStep, same, named]
    cases present : progress.registry.get? resolved.id with
    | some mode => exact ⟨[], .kept (named ▸ present)⟩
    | none =>
      cases found : source? library resolved with
      | none =>
        subst named
        exact ⟨[], .missing present found⟩
      | some source =>
        obtain ⟨file, ruleset⟩ := source
        have onward := @importAll_onward library _ (load_onward fuel) ruleset.imports
          (Mode.compile resolved.language resolved.id file.delims ruleset)
          (progress.visit resolved.id)
        obtain ⟨imported, imports⟩ := importAll_course takes (load_onward fuel) ruleset.imports
          (Mode.compile resolved.language resolved.id file.delims ruleset)
          (progress.visit resolved.id) (imports_subset_mentions found) same (List.Subset.refl _)
        dsimp only
        generalize importAll (load fuel) library ruleset.imports _ _ = gained at onward imports ⊢
        obtain ⟨mode, after⟩ := gained
        obtain ⟨followed, follows⟩ := followDelegate_course takes resolved.id
          (mode.installDirectives after.registry.highlightUrls)
          (fun _ declared => initialDelegate_mem_mentions found declared)
          (show (after.keep resolved.id (mode.installDirectives
            after.registry.highlightUrls)).registry.library = library from
              onward.library.trans same) onward.visited
        exact ⟨_, .compiled named present found imports follows⟩

theorem resolve_takesCourse (registry : Registry) (name : String) :
    ∃ compiled outcome, Course registry.library (.load name) ⟨registry, []⟩ compiled outcome ∧
      registry.resolve name = (outcome.1, outcome.2.registry) := by
  have left : leftToVisit name ⟨registry, []⟩ ≤ registry.library.mentions.length :=
    List.length_filter_le ..
  obtain ⟨compiled, course⟩ := load_course (registry.library.mentions.length + 2) name
    ⟨registry, []⟩ rfl (by omega)
  exact ⟨compiled, _, course, rfl⟩

/-! ## There is no other course -/

/-- A task is done in one way only. -/
theorem Course.unique (one : Course library task before compiled outcome) :
    ∀ {others : List RulesetId} {last : Mode × Progress},
      Course library task before others last → others = compiled ∧ last = outcome := by
  induction one with
  | kept present =>
    intro others last another
    cases another with
    | kept presentToo =>
      cases present.symm.trans presentToo
      exact ⟨rfl, rfl⟩
    | missing absent => cases present.symm.trans absent
    | compiled named absent =>
      subst named
      cases present.symm.trans absent
  | missing absent nowhere =>
    intro others last another
    cases another with
    | kept present => cases absent.symm.trans present
    | missing => exact ⟨rfl, rfl⟩
    | compiled named absent found =>
      subst named
      cases nowhere.symm.trans found
  | compiled named absent found imports follows importsOnly followsOnly =>
    subst named
    intro others last another
    cases another with
    | kept present => cases absent.symm.trans present
    | missing absent nowhere => cases found.symm.trans nowhere
    | compiled named absent foundToo importsToo followsToo =>
      subst named
      cases found.symm.trans foundToo
      obtain ⟨rfl, same⟩ := importsOnly importsToo
      cases same
      obtain ⟨rfl, rfl⟩ := followsOnly followsToo
      exact ⟨rfl, rfl⟩
  | importedAll =>
    intro others last another
    cases another
    exact ⟨rfl, rfl⟩
  | passedOver visited rest restOnly =>
    intro others last another
    cases another with
    | passedOver _ restToo => exact restOnly restToo
    | imported fresh => exact absurd visited fresh
  | imported fresh loads rest loadsOnly restOnly =>
    intro others last another
    cases another with
    | passedOver visited => exact absurd visited fresh
    | imported _ loadsToo restToo =>
      obtain ⟨rfl, same⟩ := loadsOnly loadsToo
      cases same
      obtain ⟨rfl, rfl⟩ := restOnly restToo
      exact ⟨rfl, rfl⟩
  | undelegated =>
    intro others last another
    cases another
    exact ⟨rfl, rfl⟩
  | stays visited =>
    intro others last another
    cases another with
    | stays => exact ⟨rfl, rfl⟩
    | delegated fresh => exact absurd visited fresh
  | delegated fresh loads loadsOnly =>
    intro others last another
    cases another with
    | stays visited => exact absurd visited fresh
    | delegated _ loadsToo =>
      obtain ⟨rfl, same⟩ := loadsOnly loadsToo
      cases same
      exact ⟨rfl, rfl⟩

/-! ## What is compiled -/

/-- What is compiled between one progress and another: each ruleset once, and only such as were
neither visited nor kept before.  All that is visited in between is kept. -/
structure Progress.Compiles (before : Progress) (compiled : List RulesetId) (after : Progress) :
    Prop where
  visited : before.visited ⊆ after.visited
  keeps : ∀ id, (before.registry.get? id).isSome → (after.registry.get? id).isSome
  settled : ∀ id ∈ after.visited, id ∈ before.visited ∨ (after.registry.get? id).isSome
  among : compiled ⊆ after.visited
  fresh : ∀ id ∈ compiled, id ∉ before.visited
  absent : ∀ id ∈ compiled, before.registry.get? id = none
  distinct : compiled.Nodup

namespace Progress.Compiles

theorem nothing (progress : Progress) : progress.Compiles [] progress where
  visited := List.Subset.refl _
  keeps := fun _ => id
  settled := fun _ => .inl
  among := List.nil_subset _
  fresh := fun _ member => absurd member List.not_mem_nil
  absent := fun _ member => absurd member List.not_mem_nil
  distinct := List.nodup_nil

theorem absent_before (one : before.Compiles compiled after)
    (absent : after.registry.get? id = none) : before.registry.get? id = none := by
  have notKept : ¬(before.registry.get? id).isSome := fun present => by
    have stays := one.keeps id present
    rw [absent] at stays
    cases stays
  exact Option.not_isSome_iff_eq_none.mp notKept

theorem trans (one : before.Compiles compiled after) (two : after.Compiles followed last) :
    before.Compiles (compiled ++ followed) last where
  visited := fun _ member => two.visited (one.visited member)
  keeps := fun id present => two.keeps id (one.keeps id present)
  settled := by
    intro id member
    rcases two.settled id member with earlier | present
    · exact (one.settled id earlier).imp_right (two.keeps id)
    · exact .inr present
  among := List.append_subset.mpr ⟨fun _ member => two.visited (one.among member), two.among⟩
  fresh := by
    intro id member
    rcases List.mem_append.mp member with earlier | later
    · exact one.fresh id earlier
    · exact fun visited => two.fresh id later (one.visited visited)
  absent := by
    intro id member
    rcases List.mem_append.mp member with earlier | later
    · exact one.absent id earlier
    · exact one.absent_before (two.absent id later)
  distinct := by
    refine List.nodup_append.mpr ⟨one.distinct, two.distinct, ?_⟩
    rintro id earlier _ later rfl
    exact two.fresh id later (one.among earlier)

/-- A mode that is kept at the end takes none away. -/
theorem keep (one : before.Compiles compiled after) (id : RulesetId) (mode : Mode) :
    before.Compiles compiled (after.keep id mode) := by
  have stays : ∀ other, (after.registry.get? other).isSome →
      ((after.keep id mode).registry.get? other).isSome := by
    intro other present
    rw [Progress.keep, get?_keep]
    split
    · rfl
    · exact present
  exact {
    visited := one.visited
    keeps := fun other present => stays other (one.keeps other present)
    settled := fun other member => (one.settled other member).imp_right (stays other)
    among := one.among
    fresh := one.fresh
    absent := one.absent
    distinct := one.distinct }

/-- What is visited at the start is settled once a mode is kept for it. -/
theorem keep_visited (one : (before.visit id).Compiles compiled after) (mode : Mode) :
    before.Compiles compiled (after.keep id mode) := by
  have kept := one.keep id mode
  exact {
    visited := fun _ member => kept.visited (List.mem_cons_of_mem _ member)
    keeps := kept.keeps
    settled := by
      intro other member
      rcases kept.settled other member with earlier | present
      · rcases List.mem_cons.mp earlier with rfl | earlier
        · right
          rw [Progress.keep, get?_keep, if_pos rfl]
          rfl
        · exact .inl earlier
      · exact .inr present
    among := kept.among
    fresh := fun other member earlier =>
      kept.fresh other member (List.mem_cons_of_mem _ earlier)
    absent := kept.absent
    distinct := kept.distinct }

/-- A ruleset is compiled before all that comes of it. -/
theorem cons (fresh : id ∉ before.visited) (absent : before.registry.get? id = none)
    (imports : (before.visit id).Compiles compiled after)
    (follows : (after.keep id mode).Compiles followed last) :
    before.Compiles (id :: (compiled ++ followed)) last := by
  have both := (imports.keep_visited mode).trans follows
  have here : id ∈ after.visited := imports.visited List.mem_cons_self
  refine { both with among := ?_, fresh := ?_, absent := ?_, distinct := ?_ }
  · exact List.cons_subset.mpr ⟨follows.visited here, both.among⟩
  · exact List.forall_mem_cons.mpr ⟨fresh, both.fresh⟩
  · exact List.forall_mem_cons.mpr ⟨absent, both.absent⟩
  · refine List.nodup_cons.mpr ⟨fun member => ?_, both.distinct⟩
    rcases List.mem_append.mp member with imported | later
    · exact imports.fresh id imported List.mem_cons_self
    · exact follows.fresh id later here

end Progress.Compiles

/-- A name may be loaded if it is not visited. -/
def Task.IsDue (library : Library) (progress : Progress) : Task → Prop
  | load name => (ModeName.ofText library name).id ∉ progress.visited
  | importAll _ _ => True
  | follow _ _ _ => True

theorem Course.compiles (course : Course library task before compiled outcome)
    (due : task.IsDue library before) : before.Compiles compiled outcome.2 := by
  induction course with
  | kept => exact .nothing _
  | missing => exact (Progress.Compiles.nothing _).keep_visited _
  | compiled named absent _ _ _ imports follows =>
    exact .cons (named ▸ due) absent (imports trivial) (follows trivial)
  | importedAll => exact .nothing _
  | passedOver _ _ others => exact others trivial
  | imported fresh _ _ loads others => exact (loads fresh).trans (others trivial)
  | undelegated => exact .nothing _
  | stays => exact .nothing _
  | delegated fresh _ loads =>
    split
    · exact loads fresh
    · exact (loads fresh).keep _ _

/-- Whatever a library imports and delegates, and whatever is kept, a resolution takes a course and
only this one.  In it no ruleset is compiled twice and none that was kept before, and all that is
visited is kept in the end. -/
theorem resolve_course_iff (registry : Registry) (name : String) :
    ∃ (compiled : List RulesetId) (after : Progress),
      (∀ others outcome, Course registry.library (.load name) ⟨registry, []⟩ others outcome ↔
        others = compiled ∧ outcome = ((registry.resolve name).1, after)) ∧
      after.registry = (registry.resolve name).2 ∧ compiled.Nodup ∧ compiled ⊆ after.visited ∧
      (∀ id ∈ compiled, registry.get? id = none) ∧
      ∀ id ∈ after.visited, ((registry.resolve name).2.get? id).isSome := by
  obtain ⟨compiled, ⟨mode, after⟩, course, same⟩ := resolve_takesCourse registry name
  have compiles := course.compiles List.not_mem_nil
  rw [same]
  refine ⟨compiled, after, fun others outcome => ⟨course.unique, ?_⟩, rfl, compiles.distinct,
    compiles.among, compiles.absent, fun id member => ?_⟩
  · rintro ⟨rfl, rfl⟩
    exact course
  · exact (compiles.settled id member).resolve_left List.not_mem_nil

end Registry

end Highlighter
