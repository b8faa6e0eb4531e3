import Highlighter.Files.Access

/-!
# File trees

Files that are held as a value: places, each with the contents of a file or marked as a directory.
Directories on the way to an entry are there too.  A tree gives file access without effects.
Relative paths start at its root; of the directories above the root, and of the place where absolute
paths start, it knows that they are directories and no more.
-/

namespace Highlighter

/-- The parts of a path, from the root of a tree.  Places above the root are written with `..`, and
the place where absolute paths start is the part `/`. -/
abbrev Place := List String

namespace Place

/-- Where absolute paths start. -/
def top : Place := ["/"]

/-- Whether a place lies at or above the root of every tree. -/
def isAbove (place : Place) : Bool :=
  place = top || place.all (· = "..")

/-- The directory that a place is in. -/
def parent (place : Place) : Place :=
  if place = top then top
  else if place.isAbove then place ++ [".."]
  else place.dropLast

/-- The parts of a path that name something. -/
def ofPath (path : String) : Place :=
  (path.splitOn "/").filter fun part => part ≠ "" ∧ part ≠ "."

end Place

/-- Files and directories by place; a directory has no contents. -/
structure FileTree where
  entries : List (Place × Option ByteArray) := []

namespace FileTree

/-- What is found at a place. -/
inductive Found where
  | file (contents : ByteArray)
  | directory

/-- Adds a file, or a directory if there are no contents. -/
def insert (tree : FileTree) (path : String) (contents : Option ByteArray) : FileTree :=
  let place := Place.ofPath path
  ⟨tree.entries.filter (fun entry => entry.1 ≠ place) ++ [(place, contents)]⟩

/-- What is at a place. -/
def find? (tree : FileTree) (place : Place) : Option Found :=
  match tree.entries.find? fun entry => entry.1 = place with
  | some (_, some contents) => some (.file contents)
  | some (_, none) => some .directory
  | none =>
    if place.isAbove || tree.entries.any fun entry => place.isPrefixOf entry.1 then some .directory
    else none

/-- The most bytes that a part of a path may have. -/
def longestName : Nat := 255

/-- The most bytes that a path may have. -/
def longestPath : Nat := 4095

/-- Follows the parts of a path from a place, to the place they lead to and what is there.  Every
part is looked up in a directory. -/
def walk (tree : FileTree) (place : Place) : List String → Except FileError (Place × Found)
  | [] =>
    match tree.find? place with
    | some found => .ok (place, found)
    | none => .error .notFound
  | part :: rest =>
    match tree.find? place with
    | none => .error .notFound
    | some (.file _) => .error .notDirectory
    | some .directory =>
      if part = "" ∨ part = "." then walk tree place rest
      else if part = ".." then walk tree place.parent rest
      else if part.utf8ByteSize > longestName then .error .nameTooLong
      else walk tree (place ++ [part]) rest

/-- What a path leads to. -/
def resolve (tree : FileTree) (path : String) : Except FileError (Place × Found) :=
  if path.toList.contains (Char.ofNat 0) then .error .nameWithNul
  else if path = "" then .error .notFound
  else if path.utf8ByteSize > longestPath then .error .nameTooLong
  else tree.walk (if path.startsWith "/" then Place.top else []) (path.splitOn "/")

/-- The names directly inside a place, each once. -/
def names (tree : FileTree) (place : Place) : List String :=
  (tree.entries.filterMap fun (parts, _) =>
    if place.isPrefixOf parts then (parts.drop place.length).head? else none).eraseDups

/-- The contents of a file. -/
def read (tree : FileTree) (path : String) : Except FileError ByteArray :=
  match tree.resolve path with
  | .ok (_, .file contents) => .ok contents
  | .ok (_, .directory) => .error .isDirectory
  | .error error => .error error

/-- The names in a directory. -/
def list (tree : FileTree) (path : String) : Except FileError (List String) :=
  match tree.resolve path with
  | .ok (place, .directory) => .ok (tree.names place)
  | .ok (_, .file _) => .error .notDirectory
  | .error error => .error error

/-- Access to the files of a tree, without effects. -/
def access (tree : FileTree) : FileAccess Id where
  read path := tree.read path
  list path := tree.list path

end FileTree

end Highlighter
