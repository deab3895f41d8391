import LinkDigest.Pool.Settle

/-!
# Errands

The plainest jobs: they note that they start, may wait once at a gate of their
own name, and note that they end.
-/

namespace LinkDigest

/-- A job that only notes its start and its end. -/
structure Errand where
  name : String
  /-- Whether it waits at the gate of its name. -/
  isGated : Bool
deriving DecidableEq, Repr

/-- What an errand notes. -/
inductive ErrandNote where
  | started (name : String)
  | ended (name : String)
deriving DecidableEq, Repr

def ErrandNote.line : ErrandNote → String
  | .started name => "start " ++ name
  | .ended name => "end " ++ name

namespace Errand

/-- An errand, worked on as far as it comes. -/
def perform : Task Errand → List ErrandNote → List ErrandNote × Progress
  | .start errand, notes =>
    if errand.isGated then (notes ++ [.started errand.name], .waits (some errand.name))
    else (notes ++ [.started errand.name, .ended errand.name], .finished)
  | .resume errand, notes => (notes ++ [.ended errand.name], .finished)

/-- The pool when nothing can go on, and what was noted until then. -/
def settle (pool : Pool Errand) : Pool Errand × List ErrandNote := pool.settle perform []

end Errand

end LinkDigest
