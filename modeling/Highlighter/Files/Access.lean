/-!
# Access to files

What the library asks of the place where files are: the contents of a file and the names in a
directory.  Where the files really are, and in which monad the answers come, is up to the caller.
-/

namespace Highlighter

/-- Why a file or directory could not be read. -/
inductive FileError where
  | notFound
  | isDirectory
  | notDirectory
  | nameTooLong
  /-- The path holds a NUL character. -/
  | nameWithNul
  /-- The contents are no UTF-8 text. -/
  | notText
  /-- Anything else, in the words of the system. -/
  | other (text : String)
  deriving DecidableEq, Repr

/-- The words for a failed access. -/
def FileError.message : FileError → String
  | notFound => "No such file or directory (os error 2)"
  | isDirectory => "Is a directory (os error 21)"
  | notDirectory => "Not a directory (os error 20)"
  | nameTooLong => "File name too long (os error 36)"
  | nameWithNul => "file name contained an unexpected NUL byte"
  | notText => "stream did not contain valid UTF-8"
  | other text => text

/-- Ways to read files and directories by path. -/
structure FileAccess (m : Type → Type) where
  /-- The contents of a file. -/
  read : String → m (Except FileError ByteArray)
  /-- The names in a directory, in any order. -/
  list : String → m (Except FileError (List String))

/-- The text of a file. -/
def FileAccess.readText {m : Type → Type} [Monad m] (files : FileAccess m) (path : String) :
    m (Except FileError String) := do
  match ← files.read path with
  | .error error => return .error error
  | .ok contents =>
    match String.fromUTF8? contents with
    | some text => return .ok text
    | none => return .error .notText

namespace FileName

/-- A file name without its extension, and the extension: what follows the last dot, unless the dot
comes first or there is none. -/
def splitExtension (name : String) : String × Option String :=
  let reversed := name.toList.reverse
  let suffix := (reversed.takeWhile (· ≠ '.')).reverse
  match reversed.dropWhile (· ≠ '.') with
  | '.' :: stem =>
    if stem.isEmpty ∨ name = ".." then (name, none)
    else (String.ofList stem.reverse, some (String.ofList suffix))
  | _ => (name, none)

/-- The last part of a path. -/
def ofPath (path : String) : String :=
  let parts := (path.splitOn "/").filter fun part => part ≠ "" ∧ part ≠ "."
  parts.getLast?.getD ""

/-- The path of a name in a directory. -/
def inDirectory (directory name : String) : String :=
  if directory.endsWith "/" then directory ++ name else directory ++ "/" ++ name

end FileName

end Highlighter
