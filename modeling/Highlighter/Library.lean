import Highlighter.Builtin
import Highlighter.Files.Access
import Highlighter.Mode.Decoding

/-!
# Libraries

A library holds mode files by language, and further names for languages.  A file that is added takes
the place of one with the same language, so a directory of mode files can replace the bundled ones.
-/

namespace Highlighter

/-- Mode files by language, and the languages that aliases stand for (`ModeLibrary`). -/
structure Library where
  files : Table String ModeFile := .empty
  aliases : Table String String := .empty

namespace Library

/-- The language that a name stands for (`ModeLibrary.canonical_language`). -/
def canonicalLanguage (library : Library) (name : String) : String :=
  (library.aliases.get? name).getD name

/-- The mode file of a language (`ModeLibrary.get`). -/
def file? (library : Library) (language : String) : Option ModeFile :=
  library.files.get? language

/-- Whether there is a mode file for the language that a name stands for
(`ModeLibrary.contains`). -/
def contains (library : Library) (name : String) : Bool :=
  library.files.contains (library.canonicalLanguage name)

/-- The languages of all mode files, in order (`ModeLibrary.languages`). -/
def languages (library : Library) : List String :=
  (sortByKey (library.files.entries.map fun entry => (entry.1, ()))).map (·.1)

/-- Adds a mode file, under the language that it names or else under the given one
(`ModeLibrary.insert`). -/
def insert (library : Library) (language : String) (file : ModeFile) : Library :=
  let name := file.language.getD language
  { library with files := library.files.insert name { file with language := some name } }

/-- Adds the mode file that a text describes, if the text is readable (`ModeLibrary.add_toml`). -/
def addSource? (library : Library) (language source : String) : Option Library :=
  (ModeFile.read? source).map (library.insert language)

/-- Makes a name stand for a language (`ModeLibrary.add_alias`). -/
def addAlias (library : Library) (name language : String) : Library :=
  { library with aliases := library.aliases.insert name language }

/-- The bundled mode files (`ModeLibrary.builtin`). -/
def builtin : Library where
  files := .ofList [("c", Builtin.c), ("markdown", Builtin.markdown), ("python", Builtin.python),
    ("rust", Builtin.rust), ("toml", Builtin.toml)]

/-- What came of adding the mode files of a directory: the library, and the number of files added or
the failure that broke it off. -/
structure Loading where
  library : Library
  outcome : Except FileError Nat

/-- Adds mode files from a directory, one after the other (the loop of `ModeLibrary.load_dir`).  A
file that is no mode file is passed over; one that cannot be read at all ends the loading. -/
def loadFiles {m : Type → Type} [Monad m] (files : FileAccess m) (directory : String) :
    List String → Library → Nat → m Loading
  | [], library, count => return ⟨library, .ok count⟩
  | name :: names, library, count => do
    match ← files.readText (FileName.inDirectory directory name) with
    | .error error => return ⟨library, .error error⟩
    | .ok source =>
      match library.addSource? (FileName.splitExtension name).1 source with
      | some library => loadFiles files directory names library (count + 1)
      | none => loadFiles files directory names library count

/-- Adds the mode files of a directory, which are those with the extension `toml`, in the order of
their names (`ModeLibrary.load_dir`). -/
def loadDirectory {m : Type → Type} [Monad m] (library : Library) (files : FileAccess m)
    (directory : String) : m Loading := do
  match ← files.list directory with
  | .error error => return ⟨library, .error error⟩
  | .ok names =>
    let chosen := names.filter fun name => (FileName.splitExtension name).2 = some "toml"
    let sorted := (sortByKey (chosen.map fun name => (name, ()))).map (·.1)
    loadFiles files directory sorted library 0

end Library

end Highlighter
