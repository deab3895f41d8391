import LinkDigest.Filter.Pipeline
import LinkDigest.Scan
import LinkDigest.Title.Resolver

/-!
# Sessions

A session scans corpora, keeps the clusters of the last one and shows those
that pass its filter. With every review the list of groups begins anew: the
reader is told of each group and its articles, and only then are titles asked
for.
-/

namespace LinkDigest

/-- Why a session did not do what it was asked to. -/
inductive SessionError where
  | stopped
  /-- A time that was needed is no date. -/
  | dateOutOfRange
deriving DecidableEq, Repr

def SessionError.message : SessionError → String
  | .stopped => "Discovery session has been stopped"
  | .dateOutOfRange => "Background scan failed: a date is out of range"

/-- A session. -/
structure Session where
  config : Config
  pipeline : Pipeline
  filter : Filter
  /-- The clusters of the last scan, the hottest first. -/
  found : List LinkId
  resolver : Resolver

namespace Session

/-- A session that has not scanned anything. -/
def new (config : Config) (rules : Rules) (network : Network) (metrics : Metrics)
    (filter : Filter) (indexes : Text.Indexes := .empty) : Session where
  config := config
  pipeline := .new config.scan.minReferences
  filter := filter
  found := []
  resolver := .new config.resolver rules network metrics indexes

def board (session : Session) : Board := session.resolver.desk.board

def isStopped (session : Session) : Bool := session.resolver.isStopped

/-- The clusters of the last scan. -/
def clusters (session : Session) : List Cluster := session.board.clusters session.found

/-- The groups shown as they are now. -/
def visible (session : Session) : List GroupView := session.board.visibleViews

/-- With a rule of the caller's; it counts from the next review on. -/
def addExclusion (session : Session) (exclusion : Exclusion) : Session :=
  { session with pipeline := session.pipeline.addExclusion exclusion }

/-- Without the caller's rules. -/
def clearExclusions (session : Session) : Session :=
  { session with pipeline := session.pipeline.clearExclusions }

/-- A cluster that is to be shown: its place and its articles. -/
structure Entry where
  link : LinkId
  articles : List Article
deriving DecidableEq, Repr

/-- What the pipeline makes of the clusters of the last scan. -/
def entries (session : Session) (now : Instant) : List Entry :=
  session.found.filterMap fun link => do
    let cluster ← session.board.links[link]?
    let shown ← session.pipeline.evaluate session.filter now cluster
    return ⟨link, shown.articles⟩

/-- The group of an entry, shown with its articles. -/
def post (board : Board) (entry : Entry) : Option GroupId × Board :=
  match board.groupFor? entry.link with
  | some (id, next) => (some id, next.setItems id entry.articles)
  | none => (none, board)

/-- The groups of entries. -/
def postAll (board : Board) (entries : List Entry) : List GroupId × Board :=
  entries.foldl (fun (ids, board) entry =>
    let (id, next) := post board entry
    (ids ++ id.toList, next)) ([], board)

/-- What the reader is told of a group. -/
def announcement (board : Board) (id : GroupId) : List Event :=
  match board.view? id with
  | some view =>
    .groupAdded view :: (board.itemViews id).map fun item => .itemAdded view.seq item
  | none => []

/-- With these entries shown in place of those before. -/
def present (session : Session) (entries : List Entry) : Session :=
  let (ids, posted) := postAll session.board entries
  let board := posted.replaceVisible ids
  let desk := session.resolver.desk
  let next : Resolver := { session.resolver with
    desk := { desk with
      board := board
      metrics := desk.metrics.setVisible ids.length
      outbox := desk.outbox.sendAll (.cleared :: ids.flatMap (announcement board)) } }
  { session with resolver := next.resolveAll ids }

/-- With the clusters of the last scan filtered anew, and the number of groups shown. -/
def reviewRunning (session : Session) (now : Instant) : Except SessionError Nat × Session :=
  match session.pipeline.visible? session.filter now session.clusters with
  | none => (.error .dateOutOfRange, session)
  | some _ =>
    let entries := (session.entries now).take session.config.maxDisplayed
    let next := session.present entries
    (.ok next.board.visible.length, next)

/-- The clusters filtered anew. -/
def review (session : Session) (now : Instant) : Except SessionError Nat × Session :=
  if session.isStopped then (.error .stopped, session) else session.reviewRunning now

/-- Another filter, and the clusters filtered anew. -/
def setFilter (session : Session) (filter : Filter) (now : Instant) :
    Except SessionError Nat × Session :=
  if session.isStopped then (.error .stopped, session)
  else { session with filter := filter }.reviewRunning now

/-- With the outcome of a scan in place of that before. -/
def store (session : Session) (clusters : List Cluster) : Session :=
  let desk := session.resolver.desk
  let board := desk.board.retain (clusters.map Cluster.url)
  { session with
    found := (List.range clusters.length).map (board.nextLink + ·)
    resolver := { session.resolver with
      desk := { desk with
        board := board.addLinks clusters
        metrics := (desk.metrics.recordScan).setKnown clusters.length } } }

/-- A corpus scanned, and its clusters filtered. -/
def scan (session : Session) (corpus : Corpus) (now : Instant) :
    Except SessionError ScanStats × Session :=
  if session.isStopped then (.error .stopped, session)
  else
    match Scan.run? session.config.scan corpus now with
    | none => (.error .dateOutOfRange, session)
    | some result =>
      match (session.store result.clusters).reviewRunning now with
      | (.ok _, next) => (.ok result.stats, next)
      | (.error error, next) => (.error error, next)

/-- With a held answer released. -/
def release (session : Session) (url : String) : Session :=
  { session with resolver := session.resolver.release url }

/-- With all work done that can be, and the reader told. -/
def settle (session : Session) : Session := { session with resolver := session.resolver.settle }

/-- Stopped for good. -/
def stop (session : Session) : Session := { session with resolver := session.resolver.stop }

/-- Stopped, with all that was sent before delivered. -/
def shutdown (session : Session) : Session :=
  { session with resolver := session.stop.resolver.deliver }

/-- The events delivered so far. -/
def delivered (session : Session) : List Event := session.resolver.desk.outbox.delivered

end Session

end LinkDigest
