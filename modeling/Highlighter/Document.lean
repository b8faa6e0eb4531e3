import Highlighter.Session

/-!
# Documents

A document keeps what came of each of its lines.  After an edit, lines are tagged again from the
first one that was edited or is new, up to the first one behind all edits that leaves the state that
it left before; what is kept of the lines behind that one still holds.
-/

namespace Highlighter

/-- The language of a document, and whether colouring is on at its start. -/
structure ActiveLanguage where
  name : String
  enabled : Bool
  deriving DecidableEq, Repr

/-- What is kept of a line. -/
structure CachedLine where
  state : StateId
  events : List Event
  deriving DecidableEq, Repr

/-- A document that is tagged line by line (`DocumentColorizer`). -/
structure Document where
  session : Session
  active : Option ActiveLanguage := none
  firstState : StateId := .none
  lines : List CachedLine := []
  /-- The first and the last line edited since the document was last tagged. -/
  edited : Option (Nat × Nat) := none

namespace Document

/-- A document without lines and without a language (`DocumentColorizer.new`). -/
def new (library : Library) (options : Options) : Document where
  session := .new library options

/-- Forgets all lines, and all edits with them (`DocumentColorizer.invalidate_all`). -/
def invalidateAll (document : Document) : Document :=
  { document with lines := [], edited := none }

/-- Forgets the lines from a given one on (`DocumentColorizer.invalidate_from`). -/
def invalidateFrom (document : Document) (line : Nat) : Document :=
  { document with lines := document.lines.take line }

/-- Notes that the text of a line changed (`DocumentColorizer.edit_line`). -/
def editLine (document : Document) (line : Nat) : Document :=
  { document with
    edited :=
      match document.edited with
      | some (first, last) => some (min first line, max last line)
      | none => some (line, line) }

/-- Sets the language (`DocumentColorizer.refresh`).  If it is another one than before, or if
colouring is now on where it was off or the other way round, everything starts anew.  The answer
says whether it does. -/
def refresh (document : Document) (wanted : ActiveLanguage) : Bool × Document :=
  if document.active = some wanted then (false, document)
  else
    let (_, session) := document.session.setLanguage wanted.name
    let (firstState, session) := session.initialState wanted.enabled
    (true, invalidateAll { document with session, firstState, active := some wanted })

/-- The state in which a line starts (`DocumentColorizer.state_before`). -/
def stateBefore (document : Document) (line : Nat) : StateId :=
  match line with
  | 0 => document.firstState
  | line + 1 => (document.lines[line]?.map (·.state)).getD document.firstState

/-- Keeps what came of a line, in the place of what was kept of it or behind all lines. -/
def keepLine (document : Document) (line : Nat) (entry : CachedLine) : Document :=
  if line < document.lines.length then { document with lines := document.lines.set line entry }
  else { document with lines := document.lines ++ [entry] }

/-- Where tagging goes on behind a line: the document, the first line that is tagged again, and the
state that it starts in. -/
structure Pass where
  document : Document
  resumeAt : Nat
  state : StateId

/-- Keeps what came of line `index`, and says where tagging goes on (the body of the loop of
`DocumentColorizer.highlight`).  Behind a change of language nothing that was kept holds.  If the
line is behind all edits and leaves the state that it left before, all that is kept of the lines
behind it holds. -/
def takeResult (editedThrough : Nat) (document : Document) (index resumeAt : Nat)
    (result : LineResult) : Pass :=
  let previous := document.lines[index]?.map (·.state)
  let document := document.keepLine index ⟨result.state, result.events⟩
  if result.switched.isSome then ⟨document.invalidateFrom (index + 1), resumeAt, result.state⟩
  else if editedThrough ≤ index ∧ previous = some result.state
      ∧ index + 1 < document.lines.length then
    ⟨document, document.lines.length, document.stateBefore document.lines.length⟩
  else ⟨document, resumeAt, result.state⟩

/-- Tags the lines of `texts`, the first of which is line `index` (the loop of
`DocumentColorizer.highlight`).  Lines before `resumeAt` are left as they are.  `editedThrough` is
the last line edited, and `count` the number of lines tagged so far. -/
def tagFrom (editedThrough : Nat) (document : Document) (index resumeAt : Nat) (state : StateId)
    (count : Nat) : (texts : List (List Char)) → Except StateError Nat × Document
  | [] => (.ok count, document)
  | text :: texts =>
    if index < resumeAt then tagFrom editedThrough document (index + 1) resumeAt state count texts
    else
      let (answer, session) := document.session.tagLine state text
      let document := { document with session }
      match answer with
      | .error error => (.error error, document)
      | .ok result =>
        let pass := takeResult editedThrough document index resumeAt result
        tagFrom editedThrough pass.document (index + 1) pass.resumeAt pass.state (count + 1) texts

/-- The first line to tag, and the last line edited (the head of `DocumentColorizer.highlight`). -/
def window (document : Document) : Nat × Nat :=
  match document.edited with
  | some (first, last) => (min first document.lines.length, last)
  | none => (document.lines.length, 0)

/-- Brings the document up to date with the texts of its lines (`DocumentColorizer.highlight`).  The
answer is the number of lines that were tagged. -/
def highlight (document : Document) (texts : List (List Char)) :
    Except StateError Nat × Document :=
  let document := document.invalidateFrom texts.length
  let (start, editedThrough) := document.window
  let document := { document with edited := none }
  tagFrom editedThrough document 0 start (document.stateBefore start) 0 texts

end Document

end Highlighter
