import LinkDigest.Json.Number

/-!
# Records in JSON

A record with known fields is written as an object, its fields in any order
among others, or as an array of its fields in their order. A field must not be
written twice; what other keys hold does not matter.
-/

namespace LinkDigest.Json

/-- The members of an object with their keys as texts. -/
def namedMembers? (members : List (List Char × Json)) : Option (List (List Char × Json)) :=
  members.mapM fun member => do return (← unescape? member.1, member.2)

/-- The value of a field: the inner one is none if the field is absent; none
if it is written twice. -/
def member? (members : List (List Char × Json)) (field : String) : Option (Option Json) :=
  match members.filter (fun member => member.1 == field.toList) with
  | [] => some none
  | [member] => some (some member.2)
  | _ => none

/-- The values of the fields of a record, each none where it is absent. -/
def fields? (names : List String) : Json → Option (List (Option Json))
  | .object members => do
    let named ← namedMembers? members
    names.mapM (member? named)
  | .array items =>
    if items.length ≤ names.length then
      some (items.map some ++ List.replicate (names.length - items.length) none)
    else none
  | _ => none

/-- A field that may be absent. -/
def orDefault {α : Type} (default : α) (read : Json → Option α) : Option Json → Option α
  | none => some default
  | some value => read value

/-- A field that must be there. -/
def required {α : Type} (read : Json → Option α) : Option Json → Option α
  | none => none
  | some value => read value

/-- A value that may be `null`. -/
def nullable {α : Type} (read : Json → Option α) : Json → Option (Option α)
  | .null => some none
  | value => (read value).map some

/-- A string. -/
def string? (value : Json) : Option String := (text? value).map String.ofList

/-- A truth value. -/
def bool? : Json → Option Bool
  | .bool value => some value
  | _ => none

/-- An array of like items. -/
def list? {α : Type} (read : Json → Option α) : Json → Option (List α)
  | .array items => items.mapM read
  | _ => none

/-- An integer of 32 bits. -/
def int32? (value : Json) : Option Int :=
  Number.integerIn? (-2147483648) 2147483647 value

/-- An integer of 64 bits. -/
def int64? (value : Json) : Option Int :=
  Number.integerIn? (-9223372036854775808) 9223372036854775807 value

/-- A count of 64 bits. -/
def count64? (value : Json) : Option Nat :=
  (Number.integerIn? 0 18446744073709551615 value).map Int.toNat

mutual

/-- Whether a value can be kept before it is known what for: its strings are
texts, its numbers are in range, and it is no deeper than `depth`. -/
def isStorable (depth : Nat) : Json → Bool
  | .null => true
  | .bool _ => true
  | .number literal => Number.isFinite literal
  | .string raw => (unescape? raw).isSome
  | .array items => 0 < depth && areStorable (depth - 1) items
  | .object members => 0 < depth && membersStorable (depth - 1) members

/-- Whether all items can be kept. -/
def areStorable (depth : Nat) : List Json → Bool
  | [] => true
  | item :: rest => isStorable depth item && areStorable depth rest

/-- Whether all members can be kept. -/
def membersStorable (depth : Nat) : List (List Char × Json) → Bool
  | [] => true
  | (key, value) :: rest =>
    (unescape? key).isSome && isStorable depth value && membersStorable depth rest

end

end LinkDigest.Json
