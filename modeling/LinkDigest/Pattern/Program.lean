import LinkDigest.Pattern.Basic

/-!
# Programs of patterns

A pattern as nodes that lead to one another. Where two ways are open, the one
to be preferred comes first.
-/

namespace LinkDigest.Pattern

/-- One step of matching. -/
inductive Node where
  /-- A character of a set. -/
  | consume (chars : CharSet) (next : Nat)
  | check (condition : Assertion) (next : Nat)
  /-- Either way, the first one rather than the second. -/
  | fork (first second : Nat)
  /-- The place is kept in a slot. -/
  | keep (slot : Nat) (next : Nat)
  | accept
deriving Repr

/-- The nodes of a pattern and the one to start from. -/
structure Program where
  nodes : Array Node
  start : Nat
deriving Repr

namespace Program

/-- Nodes being written. -/
abbrev Writer := StateM (Array Node)

/-- One node more; its number. -/
def emit (node : Node) : Writer Nat := fun nodes => (nodes.size, nodes.push node)

/-- Two ways, the one into a body and the one past it; the first is preferred
if the repetition is greedy. -/
def forkNode (greedy : Bool) (body past : Nat) : Node :=
  if greedy then .fork body past else .fork past body

/-- A body so many times, and then `next`. The number where it begins. -/
def writeTimes (body : Nat → Writer Nat) : Nat → Nat → Writer Nat
  | 0, next => pure next
  | count + 1, next => do writeTimes body count (← body next)

/-- A body up to so many times, each time only if the one before it matched. -/
def writeUpTo (body : Nat → Writer Nat) (greedy : Bool) (past : Nat) : Nat → Nat → Writer Nat
  | 0, next => pure next
  | count + 1, next => do
    let entry ← body next
    writeUpTo body greedy past count (← emit (forkNode greedy entry past))

/-- A body once or more often: where it begins, and where it is decided whether
it comes again. -/
def writeLoop (body : Nat → Writer Nat) (greedy : Bool) (next : Nat) : Writer (Nat × Nat) := do
  let decision ← emit .accept
  let entry ← body decision
  modify fun nodes => nodes.setIfInBounds decision (forkNode greedy entry next)
  return (entry, decision)

/-- The nodes of a pattern, before those from `next` on. The number where they
begin. A loop whose body may match nothing is entered through a decision of its
own, so that the ways through it keep their order. -/
def write : Pattern → Nat → Writer Nat
  | .empty, next => pure next
  | .set chars, next => emit (.consume chars next)
  | .assertion condition, next => emit (.check condition next)
  | .group index inner, next => do
    let close ← emit (.keep (2 * index + 1) next)
    emit (.keep (2 * index) (← write inner close))
  | .sequence a b, next => do write a (← write b next)
  | .choice a b, next => do
    let first ← write a next
    let second ← write b next
    emit (.fork first second)
  | .repetition inner least most greedy, next =>
    match most with
    | some most => do
      let optional ← writeUpTo (write inner) greedy next (most - least) next
      writeTimes (write inner) least optional
    | none => do
      let (entry, decision) ← writeLoop (write inner) greedy next
      if least = 0 then
        if inner.isNullable then emit (forkNode greedy entry next) else pure decision
      else writeTimes (write inner) (least - 1) entry

/-- The program of a pattern. -/
def ofPattern (p : Pattern) : Program :=
  let (start, nodes) := (write p 0).run #[.accept]
  ⟨nodes, start⟩

end Program

end LinkDigest.Pattern
