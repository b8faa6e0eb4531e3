import Highlighter.Library
import Highlighter.Line.Run
import Highlighter.Text.Basic
import Highlighter.Unicode.Case

/-!
# Settings

Settings are read from lines `key = value`.  Blank lines and lines that start with `#` mean nothing,
a key that is set twice takes the later value, and a value that makes no sense leaves its setting as
it is without it.
-/

namespace Highlighter

/-- What the command line goes by unless it is told otherwise (`Config`). -/
structure Settings where
  /-- A directory of further mode files. -/
  modesDirectory : Option String := none
  /-- The language of files whose own language is not known. -/
  defaultLanguage : Option String := none
  highlightUrls : Bool := true
  maxDelegationDepth : Nat := 16
  trace : Bool := false
  colorOutput : Bool := true
  /-- Further names for languages. -/
  aliases : List (String × String) := []
  deriving DecidableEq, Repr

namespace Settings

/-- The key and the value that a line sets, if it sets any. -/
def assignment? (line : List Char) : Option (List Char × List Char) :=
  let line := Text.trim line
  if line.isEmpty ∨ line.head? = some '#' then none
  else
    (Text.splitFirst? ['='] line).map fun (key, value) =>
      (Unicode.lowercaseAfter [] (Text.trim key), Text.trim value)

/-- The values of all keys that the lines of a text set (`Config.parse`). -/
def assignments (text : List Char) : Table (List Char) (List Char) :=
  .ofList ((Text.lines text).filterMap assignment?)

/-- The value of a key, if it is set to anything. -/
def nonEmpty? (values : Table (List Char) (List Char)) (key : String) : Option (List Char) :=
  (values.get? key.toList).filter (!·.isEmpty)

/-- Whether a value says yes (`parse_bool`).  Everything else says no. -/
def isYes (value : List Char) : Bool :=
  ["true", "yes", "on", "1"].contains (String.ofList (Unicode.lowercaseAfter [] value))

/-- A number of 64 bits in decimal digits, with or without a plus sign. -/
def number? (value : List Char) : Option Nat :=
  let digits :=
    match value with
    | '+' :: digits => digits
    | digits => digits
  if digits.isEmpty ∨ !digits.all Char.isDigit then none
  else
    let number := digits.foldl (fun number c => 10 * number + (c.toNat - '0'.toNat)) 0
    if number < Nat.pow 2 64 then some number else none

/-- One `alias=language` pair, with both sides in lower case and neither of them blank (the loop of
`parse_aliases`). -/
def aliasPair? (pair : List Char) : Option (String × String) := do
  let (name, language) ← Text.splitFirst? ['='] pair
  let name := Text.trim name
  let language := Text.trim language
  if name.isEmpty ∨ language.isEmpty then none
  else
    some (String.ofList (Unicode.lowercaseAfter [] name),
      String.ofList (Unicode.lowercaseAfter [] language))

/-- Pairs with commas between them (`parse_aliases`).  Empty pairs mean nothing; one bad pair spoils
them all. -/
def aliases? (value : List Char) : Option (List (String × String)) :=
  (((Text.splitAll ',' value).map Text.trim).filter (!·.isEmpty)).mapM aliasPair?

/-- The deepest delegation that may be asked for. -/
def deepest : Nat := 64

/-- The settings that a text makes (`Config.apply`). -/
def ofText (text : String) : Settings :=
  let values := assignments text.toList
  let value? (key : String) := values.get? key.toList
  let defaults : Settings := {}
  { modesDirectory := (nonEmpty? values "modes-dir").map String.ofList
    defaultLanguage :=
      (nonEmpty? values "default-language").map fun name =>
        String.ofList (Unicode.lowercaseAfter [] name)
    highlightUrls := ((value? "highlight-urls").map isYes).getD defaults.highlightUrls
    maxDelegationDepth :=
      (((value? "max-delegation-depth").bind number?).map fun depth =>
        min (max depth 1) deepest).getD defaults.maxDelegationDepth
    trace := ((value? "trace").map isYes).getD defaults.trace
    colorOutput := ((value? "color-output").map isYes).getD defaults.colorOutput
    aliases := ((value? "language-alias").bind aliases?).getD defaults.aliases }

/-- The settings of a file of settings (`Config.load_from`). -/
def load {m : Type → Type} [Monad m] (files : FileAccess m) (path : String) :
    m (Except FileError Settings) := do
  match ← files.readText path with
  | .ok text => return .ok (ofText text)
  | .error error => return .error error

/-- The options of a session (`Config.colorizer_options`). -/
def options (settings : Settings) : Options where
  highlightUrls := settings.highlightUrls
  maxDelegationDepth := settings.maxDelegationDepth

/-- The bundled mode files, those of the directory of mode files, and the aliases
(`Config.mode_library`). -/
def library {m : Type → Type} [Monad m] (settings : Settings) (files : FileAccess m) :
    m (Except FileError Library) := do
  let loading ←
    match settings.modesDirectory with
    | none => pure ⟨.builtin, .ok 0⟩
    | some directory => Library.builtin.loadDirectory files directory
  match loading.outcome with
  | .error error => return .error error
  | .ok _ =>
    return .ok <| settings.aliases.foldl
      (fun library (name, language) => library.addAlias name language) loading.library

end Settings

end Highlighter
