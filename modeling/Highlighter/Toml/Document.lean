import Highlighter.Toml.Scalar
import Highlighter.Toml.Tree

/-!
# Reading documents

A document is a sequence of lines: key and value, header of a table, header of the next table of an
array, or nothing.  `Document.read?` gives the entries of the whole document.
-/

namespace Highlighter.Toml

/-- The deepest nesting of arrays and inline tables, and the most parts of a dotted key. -/
def nestingLimit : Nat := 79

/-- What bare keys are made of. -/
def isBareKeyChar (c : Char) : Bool :=
  c.isAlphanum || c == '_' || c == '-'

/-- One part of a key. -/
def readKeyPart : Reader String := fun text =>
  match text with
  | '"' :: rest => do
    let (name, rest) ← readBasic (rest.length + 1) rest
    some (String.ofList name, rest)
  | '\'' :: rest => do
    let (name, rest) ← readLiteral rest
    some (String.ofList name, rest)
  | _ =>
    match text.takeWhile isBareKeyChar with
    | [] => none
    | name => some (String.ofList name, text.dropWhile isBareKeyChar)

/-- The parts of a dotted key, with the blanks around them, at most `limit` of them. -/
def readKeyParts : (limit : Nat) → Reader (List String)
  | 0, _ => none
  | limit + 1, text => do
    let (part, rest) ← readKeyPart (skipBlanks text)
    match skipBlanks rest with
    | '.' :: rest =>
      let (parts, rest) ← readKeyParts limit rest
      some (part :: parts, rest)
    | rest => some ([part], rest)

/-- A dotted key: the path to the table and the last part. -/
def readKey : Reader (List String × String) := fun text => do
  let (parts, rest) ← readKeyParts nestingLimit text
  let last ← parts.getLast?
  some ((parts.dropLast, last), rest)

/-- A key, an equals sign and a value. -/
def readKeyValue (readValue : Reader Value) : Reader ((List String × String) × Value) :=
  fun text => do
    let (key, rest) ← readKey text
    match rest with
    | '=' :: rest =>
      let (value, rest) ← readValue (skipBlanks rest)
      some ((key, value), rest)
    | _ => none

/-- The items of an array behind its `[`, and the `]`.  Every item takes a character, so the length
of the text suffices as `fuel`. -/
def readItems (readValue : Reader Value) : (fuel : Nat) → Reader (List Value)
  | 0, _ => none
  | fuel + 1, text =>
    match skipTrivia false text with
    | ']' :: rest => some ([], rest)
    | text => do
      let (value, rest) ← readValue text
      match skipTrivia false rest with
      | ',' :: rest =>
        let (values, rest) ← readItems readValue fuel rest
        some (value :: values, rest)
      | ']' :: rest => some ([value], rest)
      | _ => none

/-- The entries of an inline table behind its `{`, and the `}`, added to those that are there.
Every entry takes a character, so the length of the text suffices as `fuel`. -/
def readInlineEntries (readValue : Reader Value) : (fuel : Nat) → Entries → Reader Entries
  | 0, _, _ => none
  | fuel + 1, entries, text => do
    let (((path, key), value), rest) ← readKeyValue readValue text
    let entries ← Entries.addValue path key value .header entries
    match skipBlanks rest with
    | ',' :: rest => readInlineEntries readValue fuel entries rest
    | '}' :: rest => some (entries, rest)
    | _ => none

/-- A value, with arrays and inline tables at most `nesting` deep. -/
def readValue : (nesting : Nat) → Reader Value
  | nesting, '[' :: rest =>
    match nesting with
    | 0 => none
    | nesting + 1 => do
      let (items, rest) ← readItems (readValue nesting) (rest.length + 1) rest
      some (.array items, rest)
  | nesting, '{' :: rest =>
    match nesting with
    | 0 => none
    | nesting + 1 =>
      match skipBlanks rest with
      | '}' :: rest => some (.table [], rest)
      | rest => do
        let (entries, rest) ← readInlineEntries (readValue nesting) (rest.length + 1) [] rest
        some (.table (entriesToValues entries), rest)
  | _, text =>
    if text.head? = some '"' ∨ text.head? = some '\'' then do
      let (value, rest) ← readString text
      some (.string value, rest)
    else readScalar text

/-- What has been read of a document, and the path to the table that the lines now add to. -/
structure Document where
  entries : Entries := []
  current : List String := []

namespace Document

/-- Adds a key and its value to the current table. -/
def addValue (document : Document) (path : List String) (key : String) (value : Value) :
    Option Document := do
  let entries ← Entries.editAt false (Entries.addValue path key value) document.current .header
    document.entries
  some { document with entries }

/-- Reads one line that is not empty, from its first character that is not a blank. -/
def readLine (document : Document) : Reader Document
  | '[' :: '[' :: rest => do
    let ((path, key), rest) ← readKey rest
    match rest with
    | ']' :: ']' :: rest =>
      let entries ← Entries.openNextTable path key document.entries
      some (⟨entries, path ++ [key]⟩, ← skipLineEnd? rest)
    | _ => none
  | '[' :: rest => do
    let ((path, key), rest) ← readKey rest
    match rest with
    | ']' :: rest =>
      let entries ← Entries.openTable path key document.entries
      some (⟨entries, path ++ [key]⟩, ← skipLineEnd? rest)
    | _ => none
  | text => do
    let (((path, key), value), rest) ← readKeyValue (readValue nestingLimit) text
    some (← document.addValue path key value, ← skipLineEnd? rest)

/-- Reads lines up to the end of the text.  Every line takes a character, so the length of the text
suffices as `fuel`. -/
def readLines : (fuel : Nat) → Document → List Char → Option Document
  | 0, _, _ => none
  | fuel + 1, document, text =>
    match skipTrivia false text with
    | [] => some document
    | text => do
      let (document, rest) ← document.readLine text
      readLines fuel document rest

/-- The entries of a document.  A byte order mark in front is no part of it. -/
def read? (text : String) : Option (List (String × Value)) := do
  let text :=
    match text.toList with
    | '\ufeff' :: rest => rest
    | rest => rest
  let document ← readLines (text.length + 1) {} text
  some (entriesToValues document.entries)

end Document

end Highlighter.Toml
