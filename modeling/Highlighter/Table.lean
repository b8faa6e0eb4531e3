/-!
# Tables

A finite map is kept as the list of its bindings.  A new key goes behind the others and a known key
keeps its place, so the order of a table is the order in which its keys first came.
-/

namespace Highlighter

/-- A finite map from keys to values. -/
structure Table (κ υ : Type) where
  entries : List (κ × υ) := []

namespace Table

variable {κ υ : Type} [DecidableEq κ]

/-- The table without bindings. -/
def empty : Table κ υ := ⟨[]⟩

/-- The value bound to a key. -/
def get? (table : Table κ υ) (key : κ) : Option υ :=
  (table.entries.find? fun entry => entry.1 = key).map (·.2)

/-- Whether a key is bound. -/
def contains (table : Table κ υ) (key : κ) : Bool :=
  (table.get? key).isSome

/-- The keys in the order in which they first came. -/
def keys (table : Table κ υ) : List κ :=
  table.entries.map (·.1)

/-- The number of bindings. -/
def size (table : Table κ υ) : Nat :=
  table.entries.length

/-- Binds a key in a list of bindings. -/
def insertEntry (key : κ) (value : υ) : List (κ × υ) → List (κ × υ)
  | [] => [(key, value)]
  | entry :: rest =>
    if entry.1 = key then (key, value) :: rest else entry :: insertEntry key value rest

/-- Binds a key to a value, in the place of the value that it had. -/
def insert (table : Table κ υ) (key : κ) (value : υ) : Table κ υ :=
  ⟨insertEntry key value table.entries⟩

/-- The list bound to a key, empty if there is none. -/
def listAt {α : Type} (table : Table κ (List α)) (key : κ) : List α :=
  (table.get? key).getD []

/-- The table of a list of bindings, the later ones replacing the earlier. -/
def ofList (bindings : List (κ × υ)) : Table κ υ :=
  bindings.foldl (fun table binding => table.insert binding.1 binding.2) empty

/-- Nothing is bound in the table without bindings. -/
@[simp]
theorem get?_empty (key : κ) : (empty : Table κ υ).get? key = none := rfl

/-- A key is bound to what was inserted last under it. -/
theorem get?_insert (table : Table κ υ) (key other : κ) (value : υ) :
    (table.insert key value).get? other = if key = other then some value else table.get? other := by
  obtain ⟨entries⟩ := table
  simp only [get?, insert]
  induction entries with
  | nil => by_cases h : key = other <;> simp [insertEntry, h]
  | cons entry rest ih =>
    by_cases same : entry.1 = key
    · by_cases h : key = other <;> simp [insertEntry, same, h]
    · by_cases h : entry.1 = other
      · have ne : key ≠ other := fun e => same (h.trans e.symm)
        simp [insertEntry, h, ne, ne.symm]
      · simp only [insertEntry, same, if_false, List.find?_cons, h, decide_false]
        exact ih

/-- Inserting takes no key away. -/
theorem contains_insert (table : Table κ υ) (key other : κ) (value : υ) :
    (table.insert key value).contains other = (decide (key = other) || table.contains other) := by
  by_cases h : key = other <;> simp [contains, get?_insert, h]

end Table

/-- Puts a binding into a list of bindings before the first one with a greater key. -/
def insertByKey {υ : Type} (binding : String × υ) : List (String × υ) → List (String × υ)
  | [] => [binding]
  | other :: rest =>
    if binding.1 < other.1 then binding :: other :: rest else other :: insertByKey binding rest

/-- Bindings in the order of their keys, by code points. -/
def sortByKey {υ : Type} (bindings : List (String × υ)) : List (String × υ) :=
  bindings.foldr insertByKey []

end Highlighter
