import Highlighter.Toml.Value

/-!
# Tables under construction

A document spells its tables out piece by piece, under headers and by dotted keys.  A tree remembers
how each table came about, because that decides whether a later piece may add to it: a table is
opened by at most one header, dotted keys add only to tables that dotted keys made, and values are
final.
-/

namespace Highlighter.Toml

/-- How a table came about. -/
inductive Origin where
  /-- By a header of its own, or as the whole document. -/
  | header
  /-- By the header of a table inside it. -/
  | implied
  /-- By a dotted key. -/
  | dotted
  deriving DecidableEq, Repr

/-- A value, a table that may still grow, or tables under one name of which the last may grow. -/
inductive Node where
  | value (value : Value)
  | table (origin : Origin) (entries : List (String × Node))
  | tables (items : List (List (String × Node)))

/-- The entries of a table under construction. -/
abbrev Entries := List (String × Node)

namespace Entries

/-- Puts a node in the place of the one under this key, or behind all others. -/
def set (key : String) (node : Node) : Entries → Entries
  | [] => [(key, node)]
  | (other, old) :: rest =>
    if other = key then (key, node) :: rest else (other, old) :: set key node rest

/-- Goes down a path of keys and edits the table at its end.  Tables that are missing on the way are
made; `dotted` says whether a dotted key or a header leads there. -/
def editAt (dotted : Bool) (edit : Origin → Entries → Option Entries) :
    (path : List String) → Origin → Entries → Option Entries
  | [], origin, entries => edit origin entries
  | key :: path, _, entries =>
    match entries.lookup key with
    | none => do
      let origin := if dotted then Origin.dotted else .implied
      let inner ← editAt dotted edit path origin []
      some (entries.set key (.table origin inner))
    | some (.value _) => none
    | some (.table origin inner) => do
      if dotted && origin = .header then none
      else
        let inner ← editAt dotted edit path origin inner
        some (entries.set key (.table origin inner))
    | some (.tables items) => do
      let last ← items.getLast?
      let last ← editAt dotted edit path .header last
      some (entries.set key (.tables (items.dropLast ++ [last])))

/-- Adds a value under a dotted key, of which `path` is all but the last part. -/
def addValue (path : List String) (key : String) (value : Value) :
    Origin → Entries → Option Entries :=
  editAt true
    (fun origin entries =>
      if (origin = .dotted) = path.isEmpty ∨ (entries.lookup key).isSome then none
      else some (entries.set key (.value value)))
    path

/-- Opens the table of a header. -/
def openTable (path : List String) (key : String) : Entries → Option Entries :=
  editAt false
    (fun _ entries =>
      match entries.lookup key with
      | none => some (entries.set key (.table .header []))
      | some (.table .implied inner) => some (entries.set key (.table .header inner))
      | some _ => none)
    path .header

/-- Opens the next table of an array of tables. -/
def openNextTable (path : List String) (key : String) : Entries → Option Entries :=
  editAt false
    (fun _ entries =>
      match entries.lookup key with
      | none => some (entries.set key (.tables [[]]))
      | some (.tables items) => some (entries.set key (.tables (items ++ [[]])))
      | some _ => none)
    path .header

end Entries

mutual

/-- The value that a finished node stands for. -/
def Node.toValue : Node → Value
  | .value value => value
  | .table _ entries => .table (entriesToValues entries)
  | .tables items => .array (itemsToValues items)

/-- The entries of a finished table. -/
def entriesToValues : List (String × Node) → List (String × Value)
  | [] => []
  | (key, node) :: rest => (key, node.toValue) :: entriesToValues rest

/-- The tables of a finished array of tables. -/
def itemsToValues : List (List (String × Node)) → List Value
  | [] => []
  | entries :: rest => .table (entriesToValues entries) :: itemsToValues rest

end

end Highlighter.Toml
