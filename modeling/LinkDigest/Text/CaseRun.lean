/-!
# Runs of case pairs

Case maps of Unicode as runs: every `stride`-th code point of a range is moved
by the same distance.
-/

namespace LinkDigest.Text

/-- The code points `first`, `first + stride`, … up to `last`, each moved by `shift`. -/
structure CaseRun where
  first : Nat
  last : Nat
  stride : Nat
  shift : Int
deriving DecidableEq, Repr

namespace CaseRun

/-- Whether the run moves the code point. -/
def moves (run : CaseRun) (code : Nat) : Bool :=
  run.first ≤ code && code ≤ run.last && (code - run.first) % run.stride == 0

/-- The code point moved by the first run that has it; itself if none does. -/
def apply (runs : List CaseRun) (code : Nat) : Nat :=
  match runs.find? (·.moves code) with
  | some run => (code + run.shift).toNat
  | none => code

/-- The code points of the run, each with the one it is moved to. -/
def pairs (run : CaseRun) : List (Nat × Nat) :=
  (List.range ((run.last - run.first) / run.stride + 1)).map fun i =>
    let code := run.first + i * run.stride
    (code, (code + run.shift).toNat)

/-! ## Runs apart from each other -/

/-- Whether the runs come in order, each with a code point of its own. -/
def areOrdered : List CaseRun → Bool
  | [] => true
  | [run] => run.first ≤ run.last
  | run :: next :: rest =>
    run.first ≤ run.last && run.last < next.first && areOrdered (next :: rest)

/-- Whether what a run makes of its code points is not moved on by another one. -/
def misses (run other : CaseRun) : Bool :=
  let first := (run.first + run.shift).toNat
  let last := (run.last + run.shift).toNat
  last < other.first || other.last < first ||
    (run.stride == 2 && other.stride == 2 && (first + other.first) % 2 == 1) ||
    (run.first == run.last && !other.moves first)

/-- Whether no run has a code point of another, or one that another makes. -/
def areApart (runs : List CaseRun) : Bool :=
  areOrdered runs && runs.all fun run => 0 ≤ run.first + run.shift && runs.all run.misses

end CaseRun

end LinkDigest.Text
