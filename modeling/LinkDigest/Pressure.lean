/-!
# Memory pressure

Whether memory runs short, told from samples of how much of it is in use. The
state is entered above one threshold and left below a lower one, so that a
value between the two changes nothing.
-/

namespace LinkDigest.Pressure

/-- The percentage above which memory runs short. -/
def highPercent : Float := 90

/-- The percentage below which it does no longer. -/
def lowPercent : Float := 85

/-- Whether memory runs short after a sample. -/
def next (isShort : Bool) (percent : Float) : Bool :=
  if isShort then !(percent < lowPercent) else highPercent < percent

/-- Whether a sample is the one with which memory begins to run short. -/
def enters (isShort : Bool) (percent : Float) : Bool := !isShort && next isShort percent

end LinkDigest.Pressure
