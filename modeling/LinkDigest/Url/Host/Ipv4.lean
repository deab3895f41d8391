import LinkDigest.Text.Fields
import LinkDigest.Text.Hex

/-!
# IPv4 addresses

A host whose last label is a number is an address: up to four numbers, decimal,
octal or hexadecimal, of which the last fills the bytes that are left.
-/

namespace LinkDigest.Url.Ipv4

/-- The number that digits of a radix write; none if one is no digit of it. -/
def digitsValue? (radix : Nat) (digits : List Char) : Option Nat :=
  digits.foldl
    (fun acc c => do
      let d ← Hex.value? c
      if d < radix then return (← acc) * radix + d else none)
    (some 0)

/-- The value of one label as a number. `0x` begins a hexadecimal one, a
further leading zero an octal one; both may have no digits. -/
def number? : List Char → Option Nat
  | [] => none
  | '0' :: 'x' :: digits => digitsValue? 16 digits
  | '0' :: 'X' :: digits => digitsValue? 16 digits
  | '0' :: d :: digits => digitsValue? 8 (d :: digits)
  | digits => digitsValue? 10 digits

/-- The labels of a host, without the empty one after a final dot. -/
def labels (host : List Char) : List (List Char) :=
  let parts := Text.fields (· == '.') host
  if parts.getLast? = some [] then parts.dropLast else parts

/-- Whether the last label is a number, or all figures. -/
def endsInNumber (host : List Char) : Bool :=
  match (labels host).getLast? with
  | none => false
  | some [] => false
  | some last => last.all Char.isDigit || (number? last).isSome

/-- The value of numbers that come before the last one and are a byte each. -/
def leadingBytes : Nat → List Nat → Nat
  | _, [] => 0
  | place, n :: ns => n * Nat.pow 256 place + leadingBytes (place - 1) ns

/-- The address of a host in one to four numbers. -/
def parse? (host : List Char) : Option Nat := do
  let parts := labels host
  if parts.length > 4 then none
  let numbers ← parts.mapM number?
  let last ← numbers.getLast?
  let firsts := numbers.dropLast
  if last < Nat.pow 256 (4 - firsts.length) ∧ firsts.all (· < 256) then
    return last + leadingBytes 3 firsts
  else none

/-- A number in decimal. -/
def decimal (n : Nat) : List Char := (toString n).toList

/-- The address as four bytes in decimal. -/
def render (address : Nat) : List Char :=
  decimal (address / 16777216 % 256) ++ '.' :: decimal (address / 65536 % 256) ++
  '.' :: decimal (address / 256 % 256) ++ '.' :: decimal (address % 256)

example : parse? ['0', 'x', '7', 'f', '.', '1'] = some 0x7F000001 := by decide

end LinkDigest.Url.Ipv4
