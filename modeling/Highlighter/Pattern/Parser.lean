import Highlighter.Pattern.Brackets

/-!
# Reading patterns

From the characters of a written pattern to its expression.  Alternatives are separated by `|`, a
group in parentheses may name itself or set flags, and repetitions apply to the item before them.
Look-around and references to groups do not exist; a pattern that uses them is refused, as is one
with a group or class left open.
-/

namespace Highlighter.Pattern

/-- One item of a sequence.  A group that only sets flags leaves an item that cannot be repeated. -/
structure Item where
  expr : Expr
  repeatable : Bool := true

/-- What has been read of a group: the alternatives that are complete and the items of the current
one, both latest first, with the flags that hold now. -/
structure OpenGroup where
  branches : List Expr := []
  items : List Item := []
  flags : Flags

namespace OpenGroup

/-- Adds an item to the current alternative. -/
def push (group : OpenGroup) (expr : Expr) : OpenGroup :=
  { group with items := ⟨expr, true⟩ :: group.items }

/-- The current alternative. -/
def branch (group : OpenGroup) : Expr :=
  .concat (group.items.reverse.map (·.expr))

/-- Starts the next alternative. -/
def nextBranch (group : OpenGroup) : OpenGroup :=
  { group with branches := group.branch :: group.branches, items := [] }

/-- The expression of the whole group. -/
def expr (group : OpenGroup) : Expr :=
  .choice (group.branch :: group.branches).reverse

/-- Repeats the last item, if there is one that can be repeated. -/
def repeatLast? (group : OpenGroup) (least : Nat) (most : Option Nat) (greedy : Bool) :
    Option OpenGroup :=
  match group.items with
  | ⟨expr, true⟩ :: items =>
    some { group with items := ⟨.many expr least most greedy, true⟩ :: items }
  | _ => none

end OpenGroup

/-- Decimal digits, with what the flags make mean nothing between and behind them.  Every digit
takes a character, so the length of the text suffices as `fuel`. -/
def readDigits (flags : Flags) : (fuel : Nat) → List Char → List Char × List Char
  | fuel + 1, c :: rest =>
    if c.isDigit then
      let (digits, rest) := readDigits flags fuel (flags.skip rest)
      (c :: digits, rest)
    else ([], c :: rest)
  | _, rest => ([], rest)

/-- A decimal number of at most 32 bits, with white space around it. -/
def readCount (flags : Flags) (text : List Char) : Option (Nat × List Char) :=
  let text := text.dropWhile Unicode.isWhitespace
  let (digits, rest) := readDigits flags text.length text
  let value := digits.foldl (fun value c => 10 * value + (c.toNat - '0'.toNat)) 0
  if digits.isEmpty ∨ value ≥ Nat.pow 2 32 then none
  else some (value, rest.dropWhile Unicode.isWhitespace)

/-- The bounds of a counted repetition, behind its opening brace. -/
def readBounds (flags : Flags) (text : List Char) : Option (Nat × Option Nat × List Char) := do
  let (least, rest) ← readCount flags (flags.skip text)
  match rest with
  | '}' :: rest => some (least, some least, rest)
  | ',' :: rest =>
    match flags.skip rest with
    | '}' :: rest => some (least, none, rest)
    | rest =>
      let (most, rest) ← readCount flags rest
      match rest with
      | '}' :: rest => if least ≤ most then some (least, some most, rest) else none
      | _ => none
  | _ => none

/-- Whether a `?` stands next, and what is behind it. -/
def readQuestion : List Char → Bool × List Char
  | '?' :: rest => (true, rest)
  | rest => (false, rest)

/-- Whether a group name starts with this character. -/
def startsGroupName (c : Char) : Bool :=
  c == '_' || Unicode.isAlphabetic c

/-- Whether a group name may go on with this character. -/
def continuesGroupName (c : Char) : Bool :=
  c == '_' || c == '.' || c == '[' || c == ']' || Unicode.isAlphanumeric c

/-- A group name up to and including the `>` behind it.  Names may not repeat. -/
def readGroupName (names : List (List Char)) (text : List Char) :
    Option (List (List Char) × List Char) :=
  let name := text.takeWhile (· ≠ '>')
  match name, text.dropWhile (· ≠ '>') with
  | c :: others, _ :: rest =>
    if startsGroupName c && others.all continuesGroupName && !names.contains name then
      some (name :: names, rest)
    else none
  | _, _ => none

/-- How a parenthesis opens. -/
inductive Opening where
  /-- A group with its own flags. -/
  | group (flags : Flags)
  /-- Flags for the rest of the group around it. -/
  | flags (flags : Flags)

/-- What follows an opening parenthesis before the contents of the group. -/
def readOpening (flags : Flags) (names : List (List Char)) (text : List Char) :
    Option (Opening × List (List Char) × List Char) :=
  match flags.skip text with
  | '?' :: 'P' :: '<' :: rest
  | '?' :: '<' :: rest => do
    let (names, rest) ← readGroupName names rest
    some (.group flags, names, rest)
  | '?' :: rest => do
    let (inner, used, rest) ← flags.read true [] rest
    match rest with
    | ':' :: rest => some (.group inner, names, rest)
    | ')' :: rest => if used.isEmpty then none else some (.flags inner, names, rest)
    | _ => none
  | rest => some (.group flags, names, rest)

/-- Reads the contents of a group.  The answer holds its expression, the group names so far and what
is left, which is empty or starts with the `)` of the group.  Every step takes at least one
character, so the length of the text suffices as `fuel`. -/
def readGroup : (fuel : Nat) → (names : List (List Char)) → OpenGroup → List Char →
    Option (Expr × List (List Char) × List Char)
  | 0, _, _, _ => none
  | fuel + 1, names, group, text =>
    let flags := group.flags
    match flags.skip text with
    | [] => some (group.expr, names, [])
    | ')' :: rest => some (group.expr, names, ')' :: rest)
    | '|' :: rest => readGroup fuel names group.nextBranch rest
    | '(' :: rest =>
      match readOpening flags names rest with
      | none => none
      | some (.flags inner, names, rest) =>
        let item : Item := ⟨.empty, false⟩
        readGroup fuel names { group with flags := inner, items := item :: group.items } rest
      | some (.group inner, names, rest) =>
        match readGroup fuel names { flags := inner } rest with
        | some (expr, names, ')' :: rest) => readGroup fuel names (group.push expr) rest
        | _ => none
    | '[' :: rest =>
      match readClass flags rest with
      | none => none
      | some (set, rest) => readGroup fuel names (group.push (.one set)) rest
    | '*' :: rest =>
      let (questioned, rest) := readQuestion rest
      match group.repeatLast? 0 none (flags.greedy questioned) with
      | none => none
      | some group => readGroup fuel names group rest
    | '+' :: rest =>
      let (questioned, rest) := readQuestion rest
      match group.repeatLast? 1 none (flags.greedy questioned) with
      | none => none
      | some group => readGroup fuel names group rest
    | '?' :: rest =>
      let (questioned, rest) := readQuestion rest
      match group.repeatLast? 0 (some 1) (flags.greedy questioned) with
      | none => none
      | some group => readGroup fuel names group rest
    | '{' :: rest =>
      match readBounds flags rest with
      | none => none
      | some (least, most, rest) =>
        let (questioned, rest) := readQuestion (flags.skip rest)
        match group.repeatLast? least most (flags.greedy questioned) with
        | none => none
        | some group => readGroup fuel names group rest
    | '.' :: rest => readGroup fuel names (group.push (.one flags.dot)) rest
    | '^' :: rest => readGroup fuel names (group.push (.assert flags.caret)) rest
    | '$' :: rest => readGroup fuel names (group.push (.assert flags.dollar)) rest
    | '\\' :: rest =>
      match readEscape rest with
      | none => none
      | some (.literal c, rest) => readGroup fuel names (group.push (.one (flags.literal c))) rest
      | some (.chars set, rest) => readGroup fuel names (group.push (.one set)) rest
      | some (.assert condition, rest) =>
        readGroup fuel names (group.push (.assert condition)) rest
    | c :: rest => readGroup fuel names (group.push (.one (flags.literal c))) rest

/-- The expression of a written pattern, if it is one. -/
def Expr.ofSource? (ignoreCase : Bool) (source : List Char) : Option Expr :=
  match readGroup (source.length + 1) [] { flags := { ignoreCase } } source with
  | some (expr, _, []) => some expr
  | _ => none

end Highlighter.Pattern
