import Highlighter.Library
import Highlighter.Mode.Basic
import Highlighter.Text.Basic

/-!
# Registries

A registry resolves the names of modes.  A name is that of a language, which means its ruleset
`main`, or of a language and a ruleset with `::` between them; aliases apply to the language.  A
mode is put together when its name is first resolved, with the rules of all that it imports, and
kept under the identifier of its ruleset.  So is the answer that there is no such ruleset.
-/

namespace Highlighter

/-- A resolved name: the language and its ruleset, and the identifier that they share. -/
structure ModeName where
  language : String
  ruleset : String
  id : RulesetId
  deriving DecidableEq, Repr

namespace ModeName

/-- ASCII letters in lower case and digits; everything else becomes an underscore. -/
def plainChar (c : Char) : Char :=
  if c.isAlphanum then Unicode.asciiLower c else '_'

/-- The identifier of a ruleset of a language (`munge`). -/
def rulesetId (language ruleset : String) : RulesetId :=
  if ruleset = "main" then ⟨language ++ "_main"⟩
  else ⟨String.ofList ((language ++ "_" ++ ruleset).toList.map plainChar)⟩

/-- The language and the ruleset that a name is made of. -/
def split (name : String) : String × String :=
  match Text.splitFirst? [':', ':'] name.toList with
  | some (language, ruleset) => (String.ofList language, String.ofList ruleset)
  | none => (name, "main")

/-- What a name means in a library (`name_to_ruleset`). -/
def ofText (library : Library) (name : String) : ModeName :=
  let (base, ruleset) := split name
  let language := library.canonicalLanguage base
  ⟨language, ruleset, rulesetId language ruleset⟩

end ModeName

/-- The names that the files of a library mention: every import and every initial delegate. -/
def Library.mentions (library : Library) : List String :=
  library.files.entries.flatMap fun (_, file) =>
    file.initialDelegate.toList ++ file.rulesets.flatMap fun (_, ruleset) => ruleset.imports

/-- The modes of a library that have been asked for (`ModeRegistry`). -/
structure Registry where
  library : Library
  highlightUrls : Bool
  modes : Table RulesetId Mode := .empty

namespace Registry

/-- A mode that has been put together before (`ModeRegistry.get`). -/
def get? (registry : Registry) (id : RulesetId) : Option Mode :=
  registry.modes.get? id

/-- Forgets every mode (`ModeRegistry.clear`). -/
def clear (registry : Registry) : Registry :=
  { registry with modes := .empty }

/-- Keeps a mode under an identifier. -/
def keep (registry : Registry) (id : RulesetId) (mode : Mode) : Registry :=
  { registry with modes := registry.modes.insert id mode }

@[simp] theorem keep_library (registry : Registry) (id : RulesetId) (mode : Mode) :
    (registry.keep id mode).library = registry.library := rfl

@[simp] theorem keep_highlightUrls (registry : Registry) (id : RulesetId) (mode : Mode) :
    (registry.keep id mode).highlightUrls = registry.highlightUrls := rfl

theorem get?_keep (registry : Registry) (id other : RulesetId) (mode : Mode) :
    (registry.keep id mode).get? other = if id = other then some mode else registry.get? other :=
  Table.get?_insert registry.modes id other mode

/-- The mode file and the ruleset that a resolved name stands for. -/
def source? (library : Library) (name : ModeName) : Option (ModeFile × Ruleset) := do
  let file ← library.file? name.language
  let ruleset ← file.ruleset? name.ruleset
  some (file, ruleset)

/-- The progress of a resolution: the registry so far, and the identifiers that are being put
together or have been in this resolution. -/
structure Progress where
  registry : Registry
  visited : List RulesetId

/-- Keeps a mode under an identifier. -/
def Progress.keep (progress : Progress) (id : RulesetId) (mode : Mode) : Progress :=
  { progress with registry := progress.registry.keep id mode }

/-- Notes that an identifier is being put together. -/
def Progress.visit (progress : Progress) (id : RulesetId) : Progress :=
  { progress with visited := id :: progress.visited }

/-- Adds the rules of the modes of some names to a mode, in order (the imports in
`ModeRegistry.load`).  A name that is visited already is passed over, and so is one without a
ruleset. -/
def importAll (loader : String → Progress → Mode × Progress) (library : Library) :
    (names : List String) → Mode → Progress → Mode × Progress
  | [], mode, progress => (mode, progress)
  | name :: names, mode, progress =>
    if progress.visited.contains (ModeName.ofText library name).id then
      importAll loader library names mode progress
    else
      let (other, progress) := loader name progress
      importAll loader library names (if other.isUnknown then mode else mode.importRules other)
        progress

/-- Lets the mode of an initial delegate take the place of a mode under its identifier, unless the
delegate is visited already or has no ruleset (the initial delegate in `ModeRegistry.load`). -/
def followDelegate (loader : String → Progress → Mode × Progress) (library : Library)
    (id : RulesetId) (mode : Mode) : (delegate : Option String) → Progress → Mode × Progress
  | none, progress => (mode, progress)
  | some delegate, progress =>
    if progress.visited.contains (ModeName.ofText library delegate).id then (mode, progress)
    else
      let (live, progress) := loader delegate progress
      if live.isUnknown then (mode, progress) else (live, progress.keep id live)

/-- Puts the mode of a name together, unless it is kept (`ModeRegistry.load`).  A ruleset that is
being put together is not imported again, so the identifiers visited grow with the depth of the
recursion; they are the one at the start and those of names that the library mentions, which bounds
`fuel`. -/
def load : (fuel : Nat) → (name : String) → Progress → Mode × Progress
  | 0, name, progress =>
    (.unknown (ModeName.ofText progress.registry.library name).id, progress)
  | fuel + 1, name, progress =>
    let library := progress.registry.library
    let resolved := ModeName.ofText library name
    match progress.registry.get? resolved.id with
    | some mode => (mode, progress)
    | none =>
      match source? library resolved with
      | none =>
        let mode := Mode.unknown resolved.id
        (mode, (progress.visit resolved.id).keep resolved.id mode)
      | some (file, ruleset) =>
        let (mode, progress) := importAll (load fuel) library ruleset.imports
          (Mode.compile resolved.language resolved.id file.delims ruleset)
          (progress.visit resolved.id)
        let mode := mode.installDirectives progress.registry.highlightUrls
        followDelegate (load fuel) library resolved.id mode file.initialDelegate
          (progress.keep resolved.id mode)

/-- The mode of a name, with the registry that keeps it (`ModeRegistry.resolve`).  A name without a
ruleset gives the mode that stands for none. -/
def resolve (registry : Registry) (name : String) : Mode × Registry :=
  let (mode, progress) := load (registry.library.mentions.length + 2) name ⟨registry, []⟩
  (mode, progress.registry)

/-- The mode of a name, if there is a ruleset for it (`ModeRegistry.try_resolve`). -/
def resolve? (registry : Registry) (name : String) : Option Mode × Registry :=
  let (mode, registry) := registry.resolve name
  (if mode.isUnknown then none else some mode, registry)

end Registry

end Highlighter
