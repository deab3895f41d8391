import LinkDigest.Url.Host

/-!
# URLs

A URL as its parts, and its written form.
-/

namespace LinkDigest

namespace Url

/-- A path: segments, each behind a slash, or one text that is no place in a
tree of resources. -/
inductive Path where
  | segments (list : List (List Char))
  | plain (text : List Char)
deriving DecidableEq, Repr

/-- Segments, each behind a slash. -/
def Path.renderSegments (list : List (List Char)) : List Char :=
  list.flatMap fun segment => '/' :: segment

/-- The written form of a path. -/
def Path.render : Path → List Char
  | .segments list => renderSegments list
  | .plain text => text

end Url

/-- A URL. All parts are in written form, with what they escape escaped. -/
structure Url where
  scheme : List Char
  username : List Char
  password : List Char
  /-- None when the URL has no `//` part. -/
  host : Option Url.Host
  /-- None for the default port of the scheme too. -/
  port : Option Nat
  path : Url.Path
  query : Option (List Char)
  fragment : Option (List Char)
deriving DecidableEq, Repr

namespace Url

/-- Schemes fall into three kinds, with different rules for hosts and slashes. -/
inductive SchemeKind where
  /-- The web and its relatives: always a host, always a path, `\` counts as `/`. -/
  | special
  /-- Files: a host at most, and drive letters. -/
  | file
  /-- All others. -/
  | general
deriving DecidableEq, Repr

/-- The special schemes with their default ports. -/
def defaultPorts : List (String × Nat) :=
  [("http", 80), ("https", 443), ("ws", 80), ("wss", 443), ("ftp", 21)]

/-- The default port of a scheme. -/
def defaultPort? (scheme : List Char) : Option Nat :=
  (defaultPorts.find? fun entry => entry.1.toList == scheme).map (·.2)

/-- The kind of a scheme. -/
def SchemeKind.ofScheme (scheme : List Char) : SchemeKind :=
  if scheme == "file".toList then .file
  else if (defaultPort? scheme).isSome then .special
  else .general

/-- Whether the scheme is one of the web. -/
def isWeb (url : Url) : Bool :=
  url.scheme == "http".toList || url.scheme == "https".toList

/-- User name and password with the sign that ends them. -/
def renderUserinfo (url : Url) : List Char :=
  if url.username.isEmpty ∧ url.password.isEmpty then []
  else url.username ++ (if url.password.isEmpty then [] else ':' :: url.password) ++ ['@']

/-- The part between the scheme and the path. -/
def renderAuthority (url : Url) : List Char :=
  match url.host with
  | none => []
  | some host =>
    '/' :: '/' :: renderUserinfo url ++ host.render ++
      (match url.port with
       | none => []
       | some port => ':' :: Ipv4.decimal port)

/-- A part behind its mark, if there is one. -/
def renderPart (mark : Char) : Option (List Char) → List Char
  | none => []
  | some text => mark :: text

/-- The written form. -/
def render (url : Url) : List Char :=
  url.scheme ++ ':' :: renderAuthority url ++ url.path.render ++
    renderPart '?' url.query ++ renderPart '#' url.fragment

/-- The text of the host; none if there is no host or an empty one. -/
def hostText? (url : Url) : Option (List Char) :=
  match url.host with
  | none => none
  | some host => if host = .empty then none else some host.render

end Url

end LinkDigest
