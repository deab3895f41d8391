/-!
# Decimals of quotients

A quotient of integers as the nearest double, and the double with a fixed
number of places behind the point. Both times a half goes to the even
neighbour. A whole number that is a double is also written with the fewest
digits that tell it from all other doubles.
-/

namespace LinkDigest.Decimal

/-- The integer nearest to `a / b`; of two, the even one. -/
def roundDiv (a b : Nat) : Nat :=
  let quotient := a / b
  let remainder := a % b
  if b < 2 * remainder ∨ (2 * remainder = b ∧ quotient % 2 = 1) then quotient + 1 else quotient

/-- The rounded quotient is no further off than half a unit. -/
theorem roundDiv_near (a b : Nat) (hb : 0 < b) :
    2 * a ≤ 2 * b * roundDiv a b + b ∧ 2 * b * roundDiv a b ≤ 2 * a + b := by
  have hdiv := Nat.div_add_mod a b
  have hmod := Nat.mod_lt a hb
  unfold roundDiv
  simp only
  have hmul : 2 * b * (a / b) = 2 * (b * (a / b)) := by rw [Nat.mul_assoc]
  have hsucc : 2 * b * (a / b + 1) = 2 * (b * (a / b)) + 2 * b := by
    rw [Nat.mul_add, Nat.mul_assoc, Nat.mul_one]
  split
  · rw [hsucc]
    omega
  · rw [hmul]
    omega

/-- A power of two: `2 ^ e`, or one part of `2 ^ -e`, as numerator and denominator. -/
def power (e : Int) : Nat × Nat := (Nat.pow 2 e.toNat, Nat.pow 2 (-e).toNat)

/-- The exponent that gives `a / b` a significand of 53 bits. -/
def exponent (a b : Nat) : Int :=
  let guess : Int := (a.log2 : Int) - b.log2 - 52
  let p := power guess
  if a * p.2 < b * p.1 * Nat.pow 2 52 then guess - 1 else guess

/-- The double nearest to `a / b` as a fraction. -/
def nearestDouble (a b : Nat) : Nat × Nat :=
  if a = 0 then (0, 1)
  else
    let p := power (exponent a b)
    (roundDiv (a * p.2) (b * p.1) * p.1, p.2)

/-- A number of units of the last of `places` places. -/
def withPoint (places : Nat) (units : Nat) : List Char :=
  let figures := (toString units).toList
  let padded := List.replicate (places + 1 - figures.length) '0' ++ figures
  padded.take (padded.length - places) ++ '.' :: padded.drop (padded.length - places)

/-- The double nearest to `a / b` with so many places. A negative number keeps
its sign even if all places are zeros. -/
def fixed (places : Nat) (a : Int) (b : Nat) : List Char :=
  let double := nearestDouble a.natAbs b
  let written := withPoint places (roundDiv (double.1 * Nat.pow 10 places) double.2)
  if a < 0 then '-' :: written else written

/-- The distance to the next double above a whole number of more than 53 bits. -/
def gap (n : Nat) : Nat := Nat.pow 2 (n.log2 - 52)

/-- The double nearest to `n`, which is a whole number. Below `2 ^ 53` it is `n`. -/
def nearestWhole (n : Nat) : Nat := if n < Nat.pow 2 53 then n else roundDiv n (gap n) * gap n

/-- Whether `m` is read as the double `n`. Half the gap belongs to it on either
side; below a power of two the gap is half as wide, and the ends count if the
significand is even. -/
def readsAs (n m : Nat) : Bool :=
  let above := gap n
  let below := if n = Nat.pow 2 n.log2 then above / 2 else above
  if n / above % 2 = 0 then
    decide (2 * m ≤ 2 * n + above) && decide (2 * n ≤ 2 * m + below)
  else decide (2 * m < 2 * n + above) && decide (2 * n < 2 * m + below)

/-- The multiple of a power of ten that is read as `n` and has the fewest
figures before its zeros, of several the nearest to `n`; powers below the
`k`-th. -/
def fewestFigures (n : Nat) : Nat → Nat
  | 0 => n
  | k + 1 =>
    let unit := Nat.pow 10 k
    let low := n / unit * unit
    let nearest := if 2 * (n - low) ≤ unit then low else low + unit
    if readsAs n nearest then nearest
    else if readsAs n low then low
    else if readsAs n (low + unit) then low + unit
    else fewestFigures n k

/-- A whole number that is a double. Below `2 ^ 53` every figure counts. -/
def whole (n : Nat) : List Char :=
  if n < Nat.pow 2 53 then (toString n).toList
  else (toString (fewestFigures n (toString n).length)).toList

example : nearestWhole (2 ^ 53 + 1) = 2 ^ 53 ∧ nearestWhole (2 ^ 53 + 3) = 2 ^ 53 + 4 := by
  decide +kernel

example : whole (nearestWhole 9007199254740993) = "9007199254740992".toList ∧
    whole (nearestWhole (2 ^ 64 - 1)) = "18446744073709552000".toList := by decide +kernel

example : fixed 6 10 3 = "3.333333".toList ∧ fixed 1 1 20 = "0.1".toList ∧
    fixed 1 (-1) 4 = "-0.2".toList := by decide

end LinkDigest.Decimal
