import LinkDigest.Text.Blank
import LinkDigest.Url.Basic

/-!
# Reading URLs

A text is first cut into scheme, body, query and fragment; what the body means
depends on the kind of the scheme, and, where the text leaves parts out, on the
URL it is read against.
-/

namespace LinkDigest.Url

open LinkDigest.Text

/-! ## Cutting -/

/-- The text without controls and blanks around it and without tabs and line
ends anywhere. -/
def clean (text : List Char) : List Char :=
  (strip (fun c => c.toNat ≤ 0x20) text).filter fun c => c != '\t' && c != '\n' && c != '\r'

/-- Characters a scheme may go on with. -/
def isSchemeChar (c : Char) : Bool :=
  c.isAlphanum || c == '+' || c == '-' || c == '.'

/-- The scheme, in lower case, and what follows its colon. -/
def splitScheme (text : List Char) : Option (List Char × List Char) :=
  if text.head?.any Char.isAlpha then
    match text.dropWhile isSchemeChar with
    | ':' :: rest => some ((text.takeWhile isSchemeChar).map Char.toLower, rest)
    | _ => none
  else none

/-- The text before the first `mark`, and what follows the mark. -/
def cutAt (mark : Char) (text : List Char) : List Char × Option (List Char) :=
  match text.dropWhile (· != mark) with
  | [] => (text, none)
  | _ :: rest => (text.takeWhile (· != mark), some rest)

/-- A text cut into its parts, none of them looked at yet. -/
structure Reference where
  scheme : Option (List Char)
  body : List Char
  query : Option (List Char)
  fragment : Option (List Char)
deriving DecidableEq, Repr

/-- The parts of what follows the scheme. -/
def Reference.ofRest (scheme : Option (List Char)) (rest : List Char) : Reference :=
  let outer := cutAt '#' rest
  let inner := cutAt '?' outer.1
  ⟨scheme, inner.1, inner.2, outer.2⟩

/-- The parts of a text. -/
def Reference.ofText (text : List Char) : Reference :=
  let cleaned := clean text
  match splitScheme cleaned with
  | some (scheme, rest) => ofRest (some scheme) rest
  | none => ofRest none cleaned

/-! ## Paths -/

/-- Slashes of a kind of scheme. -/
def isSlash (kind : SchemeKind) (c : Char) : Bool :=
  c == '/' || (kind != .general && c == '\\')

/-- Segments that stay at the same place. -/
def isSingleDot (segment : List Char) : Bool :=
  segment == ['.'] || segment == ['%', '2', 'e'] || segment == ['%', '2', 'E']

/-- Segments that lead one place up: two dots, each escaped or not. -/
def isDoubleDot (segment : List Char) : Bool :=
  match segment with
  | '.' :: rest => isSingleDot rest
  | '%' :: '2' :: 'e' :: rest => isSingleDot rest
  | '%' :: '2' :: 'E' :: rest => isSingleDot rest
  | _ => false

/-- The segments that `raw` ones lead to from the place `above`, whose last
segment comes first. A dot segment at the end leaves an empty one. -/
def walk (above : List (List Char)) : List (List Char) → List (List Char)
  | [] => above.reverse
  | [last] =>
    if isDoubleDot last then ([] :: above.drop 1).reverse
    else if isSingleDot last then ([] :: above).reverse
    else (Percent.encode Percent.pathSet last :: above).reverse
  | segment :: rest =>
    if isDoubleDot segment then walk (above.drop 1) rest
    else if isSingleDot segment then walk above rest
    else walk (Percent.encode Percent.pathSet segment :: above) rest

/-- The path a text leads to from the segments `above`, last first. -/
def pathFrom (kind : SchemeKind) (above : List (List Char)) (text : List Char) :
    List (List Char) :=
  walk above (fields (isSlash kind) text)

/-- The path of a text behind a host. Special schemes always have one. -/
def pathAfterHost (kind : SchemeKind) (text : List Char) : List (List Char) :=
  match kind, text with
  | .general, [] => []
  | _, _ => pathFrom kind [] (text.drop 1)

/-! ## Hosts and ports -/

/-- User name, password, and the text after the last `@`; none for the first
two if there is none. -/
def splitUserinfo (text : List Char) : Option (List Char) × List Char :=
  let after := (text.reverse.takeWhile (· != '@')).reverse
  if after.length < text.length then
    (some (text.take (text.length - after.length - 1)), after)
  else (none, text)

/-- The text before the first colon outside square brackets, and the rest. -/
def splitPort : Bool → List Char → List Char × List Char
  | _, [] => ([], [])
  | inBrackets, c :: rest =>
    if c == ':' && !inBrackets then ([], c :: rest)
    else
      let more := splitPort (if c == '[' then true else if c == ']' then false else inBrackets) rest
      (c :: more.1, more.2)

/-- The port that a text behind a host gives: empty, or a colon and figures up
to 65535. The default port counts as none. -/
def port? (scheme : List Char) : List Char → Option (Option Nat)
  | [] => some none
  | _ :: figures =>
    if figures.all Char.isDigit then
      let value := figures.foldl (fun n c => n * 10 + (c.toNat - 48)) 0
      if figures.isEmpty then some none
      else if value > 65535 then none
      else some (if defaultPort? scheme = some value then none else some value)
    else none

/-- User name and password, escaped. -/
def userinfo (text : List Char) : List Char × List Char :=
  let parts := cutAt ':' text
  (Percent.encode Percent.userinfoSet parts.1,
   Percent.encode Percent.userinfoSet (parts.2.getD []))

/-! ## Whole URLs -/

/-- The query of a kind of scheme, escaped. -/
def escapeQuery (kind : SchemeKind) (query : Option (List Char)) : Option (List Char) :=
  query.map (Percent.encode
    (if kind = .general then Percent.querySet else Percent.specialQuerySet))

/-- The fragment, escaped. -/
def escapeFragment (fragment : Option (List Char)) : Option (List Char) :=
  fragment.map (Percent.encode Percent.fragmentSet)

/-- A URL whose body, behind `//`, is a host and a path. -/
def withAuthority? (scheme : List Char) (kind : SchemeKind) (r : Reference) (text : List Char) :
    Option Url := do
  let authority := text.takeWhile fun c => !isSlash kind c
  let path := text.dropWhile fun c => !isSlash kind c
  let (info, server) := splitUserinfo authority
  let (hostText, portText) := splitPort false server
  if hostText.isEmpty ∧ (kind = .special ∨ ¬ portText.isEmpty ∨ info.isSome) then none
  let host ← if kind = .special then Host.special? hostText else Host.general? hostText
  let port ← port? scheme portText
  let (username, password) := userinfo (info.getD [])
  return {
    scheme, username, password, host, port
    path := .segments (pathAfterHost kind path)
    query := escapeQuery kind r.query
    fragment := escapeFragment r.fragment }

/-- A URL that keeps the parts of `base` the reference leaves out. -/
def relative? (base : Url) (kind : SchemeKind) (r : Reference) : Option Url :=
  match base.path with
  | .plain _ =>
    if r.body.isEmpty ∧ r.query.isNone ∧ r.fragment.isSome then
      some { base with fragment := escapeFragment r.fragment }
    else none
  | .segments above =>
    let slashes := r.body.takeWhile (isSlash kind)
    let with_ (path : List (List Char)) : Url :=
      { base with
        path := .segments path
        query := escapeQuery kind r.query
        fragment := escapeFragment r.fragment }
    if r.body.isEmpty then
      some { base with
        query := if r.query.isSome then escapeQuery kind r.query else base.query
        fragment := escapeFragment r.fragment }
    else if ['/', '/'].isPrefixOf r.body then
      withAuthority? base.scheme kind r (r.body.drop 2)
    else if slashes.length ≥ 2 then
      withAuthority? base.scheme kind r (r.body.dropWhile (isSlash kind))
    else if slashes.length = 1 then some (with_ (pathFrom kind [] (r.body.drop 1)))
    else some (with_ (pathFrom kind (above.reverse.drop 1) r.body))

/-! ## Files -/

/-- A drive: a letter and a colon or a bar. -/
def isDrive : List Char → Bool
  | [letter, mark] => letter.isAlpha && (mark == ':' || mark == '|')
  | _ => false

/-- The path of a file, without empty segments at its beginning. -/
def filePath (above : List (List Char)) (text : List Char) : List (List Char) :=
  match (pathFrom .file above text).dropWhile List.isEmpty with
  | [] => [[]]
  | first :: rest => (if isDrive first then [first.headD 'c', ':'] else first) :: rest

/-- The URL of a file. A host gives way to a drive, and the own machine is no
host. -/
def file? (base : Option Url) (r : Reference) : Option Url := do
  let make (host : Host) (path : List (List Char)) : Url :=
    { scheme := "file".toList
      username := [], password := []
      host := some host, port := none
      path := .segments path
      query := escapeQuery .file r.query
      fragment := escapeFragment r.fragment }
  let slashes := (r.body.takeWhile (isSlash .file)).length
  let rest := r.body.drop (min slashes 2)
  if slashes ≥ 2 then
    let hostText := rest.takeWhile fun c => !isSlash .file c
    if hostText.isEmpty ∨ isDrive hostText then
      return make .empty (filePath [] rest)
    let host ← Host.special? hostText
    let raw := (rest.drop hostText.length).drop 1
    let first := (fields (isSlash .file) raw).headD []
    let kept := if host = .name "localhost".toList ∨ isDrive first then .empty else host
    return make kept (filePath [] raw)
  else
    match base with
    | none => return make .empty (filePath [] rest)
    | some b =>
      let host := b.host.getD .empty
      match b.path, slashes with
      | .segments above, 0 =>
        if r.body.isEmpty then
          return { b with
            query := if r.query.isSome then escapeQuery .file r.query else b.query
            fragment := escapeFragment r.fragment }
        else return make host (filePath (above.reverse.drop 1) rest)
      | _, _ => return make host (filePath [] rest)

/-! ## Any reference -/

/-- The URL a reference means, read against `base` if there is one. -/
def resolve? (base : Option Url) (r : Reference) : Option Url :=
  match r.scheme with
  | none =>
    match base with
    | none => none
    | some b =>
      match SchemeKind.ofScheme b.scheme with
      | .file => file? (some b) r
      | kind => relative? b kind r
  | some scheme =>
    match SchemeKind.ofScheme scheme with
    | .file => file? (base.filter fun b => b.scheme == scheme) r
    | .special =>
      let slashes := (r.body.takeWhile (isSlash .special)).length
      let authority := withAuthority? scheme .special r (r.body.dropWhile (isSlash .special))
      match base with
      | some b => if slashes < 2 ∧ b.scheme = scheme then relative? b .special r else authority
      | none => authority
    | .general =>
      match r.body with
      | '/' :: '/' :: rest => withAuthority? scheme .general r rest
      | '/' :: rest =>
        some ⟨scheme, [], [], none, none, .segments (pathFrom .general [] rest),
          escapeQuery .general r.query, escapeFragment r.fragment⟩
      | body =>
        some ⟨scheme, [], [], none, none, .plain (Percent.encode Percent.controls body),
          escapeQuery .general r.query, escapeFragment r.fragment⟩

/-- The URL a text writes, read against `base` if there is one. -/
def parse? (base : Option Url) (text : List Char) : Option Url :=
  resolve? base (Reference.ofText text)

end LinkDigest.Url
