/-!
# Hexadecimal digits

The sixteen digits, read in either letter case and written in one.
-/

namespace LinkDigest.Hex

/-- The value of a hexadecimal digit, in either letter case. -/
def value? (c : Char) : Option Nat :=
  if '0' ≤ c ∧ c ≤ '9' then some (c.toNat - 48)
  else if 'a' ≤ c ∧ c ≤ 'f' then some (c.toNat - 87)
  else if 'A' ≤ c ∧ c ≤ 'F' then some (c.toNat - 55)
  else none

/-- The lower-case digit of a value below sixteen. -/
def digit (n : Nat) : Char :=
  if n < 10 then Char.ofNat (48 + n) else Char.ofNat (87 + n)

/-- The upper-case digit of a value below sixteen. -/
def upperDigit (n : Nat) : Char :=
  if n < 10 then Char.ofNat (48 + n) else Char.ofNat (55 + n)

/-- The number a run of hexadecimal digits writes; none if one is no digit.
The empty run writes zero. -/
def number? (digits : List Char) : Option Nat :=
  digits.foldl (fun acc c => do return (← acc) * 16 + (← value? c)) (some 0)

/-- The digits of `n` without leading zeros, in lower case; zero is `0`. -/
def digits (n : Nat) : List Char :=
  if n < 16 then [digit n] else digits (n / 16) ++ [digit (n % 16)]
termination_by n

theorem value?_digit : ∀ n < 16, value? (digit n) = some n := by decide

theorem value?_upperDigit : ∀ n < 16, value? (upperDigit n) = some n := by decide

end LinkDigest.Hex
