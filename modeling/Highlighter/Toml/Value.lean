/-!
# Values of configuration text

The data that a document holds.  Mode files read texts, truth values, arrays and tables; numbers and
moments only have to be well formed and keep their spelling.
-/

namespace Highlighter.Toml

/-- A value of a document. -/
inductive Value where
  | string (text : String)
  | boolean (value : Bool)
  | number (literal : String)
  /-- A date, a time or both. -/
  | moment (literal : String)
  | array (items : List Value)
  | table (entries : List (String × Value))

namespace Value

/-- The text of a string. -/
def string? : Value → Option String
  | string text => some text
  | _ => none

/-- The truth value of a boolean. -/
def boolean? : Value → Option Bool
  | boolean value => some value
  | _ => none

/-- The items of an array. -/
def array? : Value → Option (List Value)
  | array items => some items
  | _ => none

/-- The entries of a table. -/
def table? : Value → Option (List (String × Value))
  | table entries => some entries
  | _ => none

/-- The entries of a value read as a record with the given fields: a table names them, an array
lists them in order, and a moment has none of them. -/
def record? (fields : List String) : Value → Option (List (String × Value))
  | table entries => some entries
  | array items => some (fields.zip items)
  | moment _ => some []
  | _ => none

end Value

end Highlighter.Toml
