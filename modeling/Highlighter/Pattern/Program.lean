import Highlighter.Pattern.Expr

/-!
# Pattern programs

A pattern is run as a program of small instructions.  The code of an expression is laid out from a
given address on and is left at its end.  A repetition without a bound is a loop behind the first
round, so that a body that matches nothing cannot go round for ever and an empty round counts.
-/

namespace Highlighter.Pattern

/-- One step of a running pattern.  `consume` and `assert` go on at the next address. -/
inductive Instruction where
  | consume (chars : CharClass)
  | assert (condition : Assertion)
  /-- Goes on at both addresses, the first one preferred. -/
  | fork (first second : Nat)
  | jump (target : Nat)
  | accept

namespace Instruction

/-- A fork between entering a body and leaving it, in the order that greed asks for. -/
def enterOrLeave (greedy : Bool) (enter leave : Nat) : Instruction :=
  if greedy then fork enter leave else fork leave enter

end Instruction

/-- Code that can be laid out at any address. -/
abbrev Layout := Nat → List Instruction

namespace Layout

/-- One code after the other. -/
def append (first second : Layout) : Layout := fun address =>
  let head := first address
  head ++ second (address + head.length)

/-- Code repeated a number of times. -/
def copies (body : Layout) : Nat → Layout
  | 0 => fun _ => []
  | n + 1 => append body (copies body n)

/-- Up to `n` rounds of a body, each of which may be left out with all that follow. -/
def optionalCopies (greedy : Bool) (body : Layout) : Nat → Layout
  | 0 => fun _ => []
  | n + 1 => fun address =>
    let rounds := append body (optionalCopies greedy body n) (address + 1)
    .enterOrLeave greedy (address + 1) (address + 1 + rounds.length) :: rounds

/-- One round of a body, and then as many more as wanted. -/
def loop (greedy : Bool) (body : Layout) : Layout := fun address =>
  let round := body address
  let leave := address + round.length + 1
  round ++ [.enterOrLeave greedy address leave]

end Layout

namespace Expr

/-- The code of an expression. -/
def layout : Expr → Layout
  | empty => fun _ => []
  | one chars => fun _ => [.consume chars]
  | assert condition => fun _ => [.assert condition]
  | sequence first second => .append first.layout second.layout
  | either first second => fun address =>
    let preferred := first.layout (address + 1)
    let behind := address + 1 + preferred.length + 1
    let other := second.layout behind
    .fork (address + 1) behind :: preferred ++ .jump (behind + other.length) :: other
  | many body least none greedy =>
    let forever := Layout.loop greedy body.layout
    match least with
    | 0 => fun address =>
      let rounds := forever (address + 1)
      .enterOrLeave greedy (address + 1) (address + 1 + rounds.length) :: rounds
    | n + 1 => .append (.copies body.layout n) forever
  | many body least (some most) greedy =>
    .append (.copies body.layout least) (.optionalCopies greedy body.layout (most - least))

/-- A bound on the number of instructions of an expression, found without laying it out. -/
def size : Expr → Nat
  | empty => 0
  | one _ => 1
  | assert _ => 1
  | sequence first second => first.size + second.size
  | either first second => first.size + second.size + 2
  | many body least most _ => (body.size + 1) * (max least (most.getD (least + 1)) + 1)

/-- The instructions that run an expression from address 0 and then accept. -/
def program (expr : Expr) : Array Instruction :=
  (expr.layout 0 ++ [Instruction.accept]).toArray

end Expr

end Highlighter.Pattern
