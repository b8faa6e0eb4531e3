import Highlighter.Pattern.Parser
import Highlighter.Pattern.Program
import Highlighter.Text.Basic

/-!
# Running a pattern

All ways to match are followed side by side, one character of the line at a time, as a list of
addresses in the order of preference.  An address that is reached a second time at one position adds
nothing and is dropped; once a way accepts, the less preferred ways are dropped too.  So the answer
is the extent of the match that trying the ways one after the other would find first, in time linear
in the line.

A pattern is read once, when the rule that uses it is compiled, and then asked for the extent of its
match at one position of a line.  The surroundings of the position count: a boundary or a line start
in the pattern looks at the whole line.
-/

namespace Highlighter

namespace Pattern

/-- The instruction at an address of a program, if the program is that long. -/
def instructionAt (program : Array Instruction) (address : Nat) : Option Instruction :=
  program[address]?

/-- The addresses that wait for a character, most preferred first, and whether the program accepts
behind them. -/
structure Threads where
  waiting : List Nat
  accepted : Bool

namespace Threads

/-- Follows the addresses of `pending` in order to the instructions that wait for a character.  Each
address is followed once, as `seen` records.  Every step takes one address from `pending`, and an
address that is followed adds at most two, so `fuel` suffices if it is the number of pending
addresses and twice the number of instructions. -/
def follow (program : Array Instruction) (here : Surroundings) :
    (fuel : Nat) → (pending : List Nat) → (seen : Array Bool) → (waiting : List Nat) → Threads
  | 0, _, _, waiting => ⟨waiting.reverse, false⟩
  | _ + 1, [], _, waiting => ⟨waiting.reverse, false⟩
  | fuel + 1, address :: pending, seen, waiting =>
    if seen.getD address true then follow program here fuel pending seen waiting
    else
      let seen := seen.setIfInBounds address true
      match instructionAt program address with
      | none => follow program here fuel pending seen waiting
      | some (.consume _) => follow program here fuel pending seen (address :: waiting)
      | some (.assert condition) =>
        if condition.holds here then
          follow program here fuel ((address + 1) :: pending) seen waiting
        else follow program here fuel pending seen waiting
      | some (.fork first second) =>
        follow program here fuel (first :: second :: pending) seen waiting
      | some (.jump target) => follow program here fuel (target :: pending) seen waiting
      | some .accept => ⟨waiting.reverse, true⟩

/-- The threads that run on from the given addresses. -/
def start (program : Array Instruction) (here : Surroundings) (pending : List Nat) : Threads :=
  follow program here (pending.length + 2 * program.size) pending
    (Array.replicate program.size false) []

/-- The addresses behind the instructions that take the character. -/
def step (program : Array Instruction) (threads : Threads) (c : Char) : List Nat :=
  threads.waiting.filterMap fun address =>
    match instructionAt program address with
    | some (.consume chars) => if chars.contains c then some (address + 1) else none
    | _ => none

end Threads

/-- Runs a program over the rest of a line.  `taken` characters are consumed so far, and `found` is
the extent of the best match so far. -/
def run (program : Array Instruction) (pending : List Nat) (before : Option Char) (taken : Nat)
    (found : Option Nat) (rest : List Char) : Option Nat :=
  let threads := Threads.start program ⟨before, rest.head?⟩ pending
  let found := if threads.accepted then some taken else found
  match rest with
  | [] => found
  | c :: rest =>
    match threads.step program c with
    | [] => found
    | pending => run program pending (some c) (taken + 1) found rest

end Pattern

/-- A regular expression that is ready to run. -/
structure Pattern where
  program : Array Pattern.Instruction

namespace Pattern

/-- The longest program that is still run. -/
def sizeLimit : Nat :=
  Nat.pow 2 18

/-- The pattern of a source text, if it is well formed and not too long (`compile_regex`). -/
def ofSource? (ignoreCase : Bool) (source : String) : Option Pattern := do
  let expr ← Expr.ofSource? ignoreCase source.toList
  if expr.size ≤ sizeLimit then some ⟨expr.program⟩ else none

/-- The length of the preferred match that starts at a column of the line, and 0 if there is none
(`regex_len_at`). -/
def lengthAt (pattern : Pattern) (line : List Char) (column : Nat) : Nat :=
  (run pattern.program [0] (Text.charBefore? line column) 0 none (line.drop column)).getD 0

end Pattern

end Highlighter
