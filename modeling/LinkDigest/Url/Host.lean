import LinkDigest.Text.Utf8
import LinkDigest.Url.Host.Domain
import LinkDigest.Url.Host.Ipv4
import LinkDigest.Url.Host.Ipv6
import LinkDigest.Url.Percent

/-!
# Hosts

What a URL names before its path: a domain name, an address, or, under schemes
without rules of their own, an escaped text.
-/

namespace LinkDigest.Url

/-- A host. -/
inductive Host where
  /-- A domain name in ASCII form, or the escaped text of a scheme without rules. -/
  | name (text : List Char)
  /-- An address of 32 bits. -/
  | ipv4 (address : Nat)
  /-- An address of eight pieces. -/
  | ipv6 (pieces : List Nat)
deriving DecidableEq, Repr

namespace Host

/-- The written form. -/
def render : Host → List Char
  | .name text => text
  | .ipv4 address => Ipv4.render address
  | .ipv6 pieces => '[' :: Ipv6.render pieces ++ [']']

/-- The address in square brackets. -/
def bracketed? (text : List Char) : Option Host :=
  if text.getLast? = some ']' then (Ipv6.parse? text.dropLast).map Host.ipv6 else none

/-- The host of a special scheme. -/
def special? (text : List Char) : Option Host :=
  match text with
  | '[' :: rest => bracketed? rest
  | _ => do
    let name ← Text.Utf8.decode? (Percent.decode text)
    let ascii ← Domain.toAscii? name
    if Ipv4.endsInNumber ascii then (Ipv4.parse? ascii).map Host.ipv4
    else some (.name ascii)

/-- The host of a scheme without rules of its own. -/
def general? (text : List Char) : Option Host :=
  match text with
  | '[' :: rest => bracketed? rest
  | _ =>
    if text.any (fun c => Domain.isDelimiter c || c == '\x00') then none
    else some (.name (Percent.encode Percent.controls text))

/-- The host without anything in it. -/
def empty : Host := .name []

end Host

end LinkDigest.Url
