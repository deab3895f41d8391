import LinkDigest.Corpus.Document
import LinkDigest.Options
import LinkDigest.Page.Client
import LinkDigest.Session

/-!
# The digest

All that the program does between reading its files and printing: a corpus is
scanned, titles are looked for, and the links shown are listed with them.
-/

namespace LinkDigest

/-- Why there is no digest. -/
inductive DigestError where
  /-- A file is not there or not text. -/
  | unreadable (path : String)
  | invalidConfig
  | invalidCorpus
  | filter (error : FilterError)
  | invalidUserAgent
  | session (error : SessionError)
  /-- The end of waiting is beyond all clocks. -/
  | endlessWait
deriving DecidableEq, Repr

namespace DigestError

/-- What went wrong, in words. -/
def message : DigestError → String
  | .unreadable path => "cannot read " ++ path
  | .invalidConfig => "invalid configuration"
  | .invalidCorpus => "invalid corpus"
  | .filter error => error.message
  | .invalidUserAgent => "invalid user agent"
  | .session error => error.message
  | .endlessWait => "overflow when adding duration to instant"

/-- The exit status of the program. -/
def exitStatus : DigestError → Nat
  | .endlessWait => 101
  | _ => 1

end DigestError

namespace Digest

/-- Clocks count less than so many seconds. -/
def clockLimit : Nat := Nat.pow 2 63 - 1

/-- A number, right-aligned in three places. -/
def rankText (rank : Nat) : String :=
  String.ofList (List.replicate (3 - (toString rank).length) ' ') ++ toString rank

/-- The lines of a group. -/
def groupLines (rank : Nat) (view : GroupView) : List String := [
  rankText rank ++ ". [" ++ toString view.shownReferences ++ "/" ++
    toString view.referenceCount ++ " refs, avg " ++ String.ofList (view.average.render 1) ++
    "] " ++ view.title,
  "     " ++ view.url]

/-- The lines of all groups, numbered from one. -/
def listing (views : List GroupView) : List String :=
  views.zipIdx.flatMap fun (view, index) => groupLines (index + 1) view

/-- The text of a file. -/
def textOf (files : String → Option (List Char)) (path : String) :
    Except DigestError (List Char) :=
  match files path with
  | some text => .ok text
  | none => .error (.unreadable path)

/-- The limits in a file, or those without a file. -/
def configOf (files : String → Option (List Char)) : Option String → Except DigestError Config
  | none => .ok .default
  | some path => do
    match Config.parse? (← textOf files path) with
    | some config => return config
    | none => .error .invalidConfig

/-- The corpus in a file. -/
def corpusOf (files : String → Option (List Char)) (path : String) :
    Except DigestError Corpus := do
  match Corpus.parse? (← textOf files path) with
  | some corpus => return corpus
  | none => .error .invalidCorpus

/-- The network that pages come from. -/
def networkOf (options : Options) (config : Config) : Except DigestError Network :=
  if options.isOffline then .ok .offline
  else
    match Network.ofClient? config.resolver.userAgent with
    | some network => .ok network
    | none => .error .invalidUserAgent

/-- The session after its scan and after all titles have been looked for. -/
def session (options : Options) (files : String → Option (List Char)) (now : Instant) :
    Except DigestError Session := do
  let config ← configOf files options.config
  let corpus ← corpusOf files options.corpus
  let filter ← options.filter.mapError .filter
  let network ← networkOf options config
  match (Session.new config .empty network .unused filter).scan corpus now with
  | (.error error, _) => .error (.session error)
  | (.ok _, scanned) =>
    if clockLimit ≤ options.waitSeconds then .error .endlessWait else return scanned.settle

/-- The digest of a corpus. -/
def lines (options : Options) (files : String → Option (List Char)) (now : Instant) :
    Except DigestError (List String) := do
  let ended ← session options files now
  let metrics := if options.showsMetrics then ended.resolver.desk.metrics.lines else []
  return listing ended.visible ++ metrics

end Digest

/-- What the program prints and how it ends. -/
structure Output where
  exitStatus : Nat
  lines : List String
  /-- What is printed as an error, if anything is. -/
  complaint : Option String
deriving DecidableEq, Repr

/-- The program with all files at hand. -/
def Output.ofArguments (arguments : List String) (files : String → Option (List Char))
    (now : Instant) : Output :=
  match Invocation.ofArguments arguments with
  | .help => ⟨0, helpLines, none⟩
  | .version => ⟨0, [versionLine], none⟩
  | .refuse error => ⟨2, [], some error.message⟩
  | .run options =>
    match Digest.lines options files now with
    | .ok lines => ⟨0, lines, none⟩
    | .error error => ⟨error.exitStatus, [], some error.message⟩

end LinkDigest
