import Highlighter.Pattern.Escape

/-!
# Bracketed classes of written patterns

A class in brackets is a union of characters, ranges, escapes, named ASCII classes and further
classes in brackets.  `&&`, `--` and `~~` combine the unions on their two sides, from left to right.
-/

namespace Highlighter.Pattern

/-- The operations between two unions. -/
inductive ClassOperation where
  | inter
  | difference
  | symmetricDifference
  deriving DecidableEq, Repr

/-- Applies an operation to two unions, widened by case folding first if case is ignored. -/
def ClassOperation.apply (operation : ClassOperation) (ignoreCase : Bool)
    (left right : CharClass) : CharClass :=
  let left := CharClass.bracketed ignoreCase false left
  let right := CharClass.bracketed ignoreCase false right
  match operation with
  | inter => .inter left right
  | difference => .difference left right
  | symmetricDifference => .symmetricDifference left right

/-- What has been read of a class in brackets: the operand and operation that wait for the union
that is being read, and that union. -/
structure OpenClass where
  waiting : Option (CharClass × ClassOperation) := none
  union : CharClass := .none

namespace OpenClass

/-- Adds an item to the union. -/
def add (opened : OpenClass) (item : CharClass) : OpenClass :=
  { opened with union := .union opened.union item }

/-- The class so far, with the waiting operation applied. -/
def value (opened : OpenClass) (ignoreCase : Bool) : CharClass :=
  match opened.waiting with
  | none => opened.union
  | some (left, operation) => operation.apply ignoreCase left opened.union

/-- Starts the next union behind an operation. -/
def combine (opened : OpenClass) (ignoreCase : Bool) (operation : ClassOperation) : OpenClass :=
  ⟨some (opened.value ignoreCase, operation), .none⟩

end OpenClass

/-- A named ASCII class such as `[:alpha:]` or `[:^alpha:]`, if one stands here. -/
def readNamedClass? (ignoreCase : Bool) : List Char → Option (CharClass × List Char)
  | '[' :: ':' :: rest => do
    let (negated, rest) :=
      match rest with
      | '^' :: rest => (true, rest)
      | _ => (false, rest)
    match rest.dropWhile (· ≠ ':') with
    | ':' :: ']' :: behind =>
      let set ← CharClass.named? (String.ofList (rest.takeWhile (· ≠ ':')))
      some (.bracketed ignoreCase negated set, behind)
    | _ => none
  | _ => none

/-- One end of a range or a single item: a character or an escape. -/
def readClassItem : List Char → Option (Primitive × List Char)
  | [] => none
  | '\\' :: rest => readEscape rest
  | c :: rest => some (.literal c, rest)

/-- A single item or a range.  A minus sign before `]` or before another minus sign makes no
range. -/
def readClassRange (flags : Flags) (text : List Char) : Option (CharClass × List Char) := do
  let (first, rest) ← readClassItem text
  let rest := flags.skip rest
  let single : Option (CharClass × List Char) :=
    match first with
    | .literal c => some (.single c, rest)
    | .chars set => some (set, rest)
    | .assert _ => none
  match rest with
  | [] => none
  | '-' :: behind =>
    match flags.skip behind with
    | [] => none
    | c :: others =>
      if c = ']' ∨ c = '-' then single
      else
        let (last, rest) ← readClassItem (c :: others)
        match first, last with
        | .literal low, .literal high => if low ≤ high then some (.range low high, rest) else none
        | _, _ => none
  | _ => single

/-- The minus signs at the start of a class, which stand for themselves. -/
def readLeadingMinuses (flags : Flags) (fuel : Nat) (opened : OpenClass) (text : List Char) :
    OpenClass × List Char :=
  match fuel, text with
  | fuel + 1, '-' :: rest =>
    readLeadingMinuses flags fuel (opened.add (.single '-')) (flags.skip rest)
  | _, _ => (opened, text)

/-- The start of a class behind its `[`: whether it is negated, and the minus signs or the closing
bracket that stand for themselves there. -/
def openBracket (flags : Flags) (text : List Char) : Bool × OpenClass × List Char :=
  let (negated, text) :=
    match flags.skip text with
    | '^' :: rest => (true, flags.skip rest)
    | text => (false, text)
  match text with
  | '-' :: _ => (negated, readLeadingMinuses flags text.length {} text)
  | ']' :: rest => (negated, ({} : OpenClass).add (.single ']'), flags.skip rest)
  | _ => (negated, {}, text)

/-- Reads a class behind its `[` up to and including its `]`.  Every item takes at least one
character, so the length of the text suffices as `fuel`. -/
def readBrackets (flags : Flags) :
    (fuel : Nat) → (negated : Bool) → OpenClass → List Char → Option (CharClass × List Char)
  | 0, _, _, _ => none
  | fuel + 1, negated, opened, text =>
    match flags.skip text with
    | [] => none
    | ']' :: rest =>
      some (.bracketed flags.ignoreCase negated (opened.value flags.ignoreCase), rest)
    | '&' :: '&' :: rest =>
      readBrackets flags fuel negated (opened.combine flags.ignoreCase .inter) rest
    | '-' :: '-' :: rest =>
      readBrackets flags fuel negated (opened.combine flags.ignoreCase .difference) rest
    | '~' :: '~' :: rest =>
      readBrackets flags fuel negated (opened.combine flags.ignoreCase .symmetricDifference) rest
    | '[' :: rest =>
      match readNamedClass? flags.ignoreCase ('[' :: rest) with
      | some (set, rest) => readBrackets flags fuel negated (opened.add set) rest
      | none =>
        let (innerNegated, inner, rest) := openBracket flags rest
        match readBrackets flags fuel innerNegated inner rest with
        | none => none
        | some (set, rest) => readBrackets flags fuel negated (opened.add set) rest
    | c :: rest =>
      match readClassRange flags (c :: rest) with
      | none => none
      | some (set, rest) => readBrackets flags fuel negated (opened.add set) rest

/-- Reads a class behind its `[` up to and including its `]`. -/
def readClass (flags : Flags) (text : List Char) : Option (CharClass × List Char) :=
  let (negated, opened, rest) := openBracket flags text
  readBrackets flags (text.length + 1) negated opened rest

end Highlighter.Pattern
