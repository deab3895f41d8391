import LinkDigest.Text.Compose
import LinkDigest.Text.Fields
import LinkDigest.Url.Host.Direction
import LinkDigest.Url.Host.Joiner
import LinkDigest.Url.Host.Mapping
import LinkDigest.Url.Punycode

/-!
# Domain names

The ASCII form of a domain name: its characters are mapped and composed, dots part it into
labels, each label has to be a valid one, and labels beyond ASCII are written in Punycode behind
`xn--`.
-/

namespace LinkDigest.Url.Domain

open LinkDigest.Text

/-- The name with every character mapped, in composed form. -/
def map? (name : List Char) : Option (List Char) := do
  return compose (← name.mapM mapChar?).flatten

/-- Whether the text has a character beyond ASCII. -/
def isExtended (text : List Char) : Bool := text.any (fun c => 0x80 ≤ c.toNat)

/-- Whether a label is marked as one that is written in Punycode. -/
def isMarked (label : List Char) : Bool := "xn--".toList.isPrefixOf label

/-- Marks that count as characters of a direction; the others have none. -/
private def spacingMarks : List CodeRange :=
  CodeRange.table
    "903 93B 93E-940 949-94C 94E-94F 982-983 9BE-9C0 9C7-9CC 9D7 A03 A3E-A40 A83 ABE-AC0 AC9-ACC
     B02-B03 B3E B40 B47-B4C B57 BBE-BBF BC1-BCC BD7 C01-C03 C41-C44 C82-C83 CBE-CCB CD5-CD6 CF3
     D02-D03 D3E-D40 D46-D4C D57 D82-D83 DCF-DD1 DD8-DDF DF2-DF3 F3E-F3F F7F 102B-102C 1031 1038
     103B-103C 1056-1057 1062-1064 1067-106D 1083-1084 1087-108C 108F 109A-109C 1715 1734 17B6
     17BE-17C5 17C7-17C8 1923-1926 1929-1931 1933-1938 1A19-1A1A 1A55 1A57 1A61 1A63-1A64
     1A6D-1A72 1B04 1B35 1B3B 1B3D-1B41 1B43-1B44 1B82 1BA1 1BA6-1BA7 1BAA 1BE7 1BEA-1BEC 1BEE
     1BF2-1BF3 1C24-1C2B 1C34-1C35 1CE1 1CF7 302E-302F A823-A824 A827 A880-A881 A8B4-A8C3
     A952-A953 A983 A9B4-A9B5 A9BA-A9BB A9BE-A9C0 AA2F-AA30 AA33-AA34 AA4D AA7B AA7D AAEB
     AAEE-AAEF AAF5 ABE3-ABE4 ABE6-ABE7 ABE9-ABEA ABEC 11000 11002 11082 110B0-110B2 110B7-110B8
     1112C 11145-11146 11182 111B3-111B5 111BF-111C0 111CE 1122C-1122E 11232-11233 11235
     112E0-112E2 11302-11303 1133E-1133F 11341-1134D 11357 11362-11363 113B8-113BA 113C2-113CD
     113CF 11435-11437 11440-11441 11445 114B0-114B2 114B9 114BB-114BE 114C1 115AF-115B1
     115B8-115BB 115BE 11630-11632 1163B-1163C 1163E 116AC 116AE-116AF 116B6 1171E 11720-11721
     11726 1182C-1182E 11838 11930-11938 1193D 11940 11942 119D1-119D3 119DC-119DF 119E4
     11A07-11A08 11A39 11A57-11A58 11A97 11B61 11B65 11B67 11C2F 11C3E-11C3F 11CA9 11CB1 11CB4
     11D8A-11D8E 11D93-11D94 11D96 11EF5-11EF6 11F03 11F34-11F35 11F3E-11F3F 11F41 1612A-1612C
     16F51-16F87 16FF0-16FF1 1D165-1D166 1D16D-1D172"

/-- Whether a character is a mark on the one before it. -/
def isMark (c : Char) : Bool :=
  0x300 ≤ c.toNat && (Direction.ofChar c == .mark || inRanges spacingMarks c)

/-- Whether a label, read out of Punycode, is a valid one: in mapped and composed form, not
marked, without a mark at its beginning, and with joiners only where they may stand. -/
def isValidLabel (label : List Char) : Bool :=
  label.all isMapped && compose label == label && !isMarked label &&
    !label.head?.any isMark && Joiner.allFit [] label

/-- A mapped label, read out of Punycode if it is marked. Then it has to be the written form
of a label beyond ASCII. -/
def readLabel? (label : List Char) : Option (List Char) :=
  match label with
  | 'x' :: 'n' :: '-' :: '-' :: written => do
    let decoded ← Punycode.decode? written
    if isExtended decoded ∧ isValidLabel decoded ∧ Punycode.encode decoded = written then
      some decoded
    else none
  | _ => if isValidLabel label then some label else none

/-- The ASCII form of a label. -/
def writeLabel (label : List Char) : List Char :=
  if isExtended label then "xn--".toList ++ Punycode.encode label else label

/-- Characters that end a host or stand around it, and the blank. -/
def isDelimiter (c : Char) : Bool :=
  c == ' ' || c == '#' || c == '/' || c == ':' || c == '<' || c == '>' || c == '?' ||
  c == '@' || c == '[' || c == '\\' || c == ']' || c == '^' || c == '|'

/-- Characters no domain name may have. -/
def isForbidden (c : Char) : Bool :=
  isDelimiter c || c.toNat < 0x20 || c.toNat == 0x7F || c == '%'

/-- Whether the labels of a name can stand side by side: each has one direction, if there are
characters of both. -/
def areSteady (labels : List (List Char)) : Bool :=
  labels.any (·.any Direction.turns) → labels.all Direction.isSteady

/-- The ASCII form of a domain name. -/
def toAscii? (name : List Char) : Option (List Char) := do
  let mapped ← map? name
  let labels ← (fields (· == '.') mapped).mapM readLabel?
  let ascii := ['.'].intercalate (labels.map writeLabel)
  if !areSteady labels ∨ ascii.isEmpty ∨ ascii.any isForbidden then none else some ascii

example : toAscii? "faß".toList = some "xn--fa-hia".toList := by decide +kernel

end LinkDigest.Url.Domain
