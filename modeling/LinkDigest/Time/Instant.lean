import LinkDigest.Time.Calendar

/-!
# Instants

A point in time by the second, with a fraction. A second that was inserted to
keep clocks in step has no number of its own: it counts as the end of the
second before it, with a fraction of one and more.
-/

namespace LinkDigest

/-- A point in time, counted from the beginning of 1970. -/
structure Instant where
  seconds : Int
  /-- Billionths of a second; from one billion on, within an inserted second. -/
  nanos : Nat
deriving DecidableEq, Repr

namespace Instant

/-- The beginning of 1970. -/
def epoch : Instant := ⟨0, 0⟩

/-- Earlier than. -/
def Before (a b : Instant) : Prop :=
  a.seconds < b.seconds ∨ (a.seconds = b.seconds ∧ a.nanos < b.nanos)

instance (a b : Instant) : Decidable (a.Before b) := by unfold Before; infer_instance

theorem Before.trans {a b c : Instant} (h : a.Before b) (h' : b.Before c) : a.Before c := by
  unfold Before at *
  omega

theorem not_before_self (a : Instant) : ¬ a.Before a := by
  unfold Before
  omega

/-- The first second that has a date. -/
def firstSecond : Int := (Calendar.Date.mk (-262143) 1 1).toDays * 86400

/-- The last second that has a date. -/
def lastSecond : Int := (Calendar.Date.mk 262142 12 31).toDays * 86400 + 86399

/-- Whether the instant has a date. -/
def hasDate (t : Instant) : Bool := firstSecond ≤ t.seconds && t.seconds ≤ lastSecond

/-- The instant some seconds later, or earlier if there are less than none.
From within an inserted second the way leads through its beginning or end. -/
def shift (t : Instant) (seconds : Int) : Instant :=
  if t.nanos < 1000000000 ∨ seconds = 0 then ⟨t.seconds + seconds, t.nanos⟩
  else if 0 < seconds then ⟨t.seconds + seconds, t.nanos - 1000000000⟩
  else ⟨t.seconds + 1 + seconds, t.nanos - 1000000000⟩

/-- The instant some seconds later, if it has a date. -/
def shift? (t : Instant) (seconds : Int) : Option Instant :=
  if (t.shift seconds).hasDate then some (t.shift seconds) else none

end Instant

/-- The longest span of time there is, in whole seconds. -/
def longestSpan : Int := 9223372036854775

/-- The seconds of a number of days, if they are a span of time. -/
def secondsOfDays? (days : Int) : Option Int :=
  let seconds := days * 86400
  if -longestSpan ≤ seconds ∧ seconds ≤ longestSpan then some seconds else none

end LinkDigest
