import LinkDigest.Config
import LinkDigest.Pool.Settle
import LinkDigest.Title.Desk

/-!
# The resolver

Titles for groups. A title in the cache is there at once; otherwise the pool is
asked to look for one, and until then the group is shown under its link. For a
group there is one search at a time, and none while it is out of sight.
-/

namespace LinkDigest

/-- The search for titles: what it works on and who does the work. -/
structure Resolver where
  desk : Desk
  pool : Pool GroupId

namespace Resolver

/-- A resolver with nothing to do. -/
def new (config : ResolverConfig) (rules : Rules) (network : Network) (metrics : Metrics)
    (indexes : Text.Indexes := .empty) : Resolver where
  desk := {
    rules := rules
    network := network
    indexes := indexes
    scanLimit := config.scanLimit
    board := .empty
    cache := .new config.cacheCapacity
    outbox := .empty
    metrics := metrics
    opened := [] }
  pool := .new config.workers config.queueCapacity

def isStopped (resolver : Resolver) : Bool := resolver.desk.isStopped

/-- With the board changed. -/
def modifyBoard (resolver : Resolver) (change : Board → Board) : Resolver :=
  { resolver with desk := { resolver.desk with board := change resolver.desk.board } }

/-- With the cache changed. -/
def modifyCache (resolver : Resolver) (change : TitleCache → TitleCache) : Resolver :=
  { resolver with desk := { resolver.desk with cache := change resolver.desk.cache } }

/-- A look for the title of a link in the cache. -/
def lookup (resolver : Resolver) (url : String) : Option String × Resolver :=
  let (title, desk) := resolver.desk.lookup url
  (title, { resolver with desk := desk })

/-- With a title from the cache. The reader is told if it is a new one. -/
def resolveFromCache (desk : Desk) (id : GroupId) (cluster : Cluster) (title : String) : Desk :=
  let next := { desk with board := (desk.board.setTitle id title).markResolved id }
  if cluster.title = some title then next else next.announce id

@[simp] theorem board_resolveFromCache (desk : Desk) (id : GroupId) (cluster : Cluster)
    (title : String) : (resolveFromCache desk id cluster title).board =
      (desk.board.setTitle id title).markResolved id := by
  simp only [resolveFromCache]
  split <;> simp

@[simp] theorem cache_resolveFromCache (desk : Desk) (id : GroupId) (cluster : Cluster)
    (title : String) : (resolveFromCache desk id cluster title).cache = desk.cache := by
  simp only [resolveFromCache]
  split <;> simp

@[simp] theorem opened_resolveFromCache (desk : Desk) (id : GroupId) (cluster : Cluster)
    (title : String) : (resolveFromCache desk id cluster title).opened = desk.opened := by
  simp only [resolveFromCache]
  split <;> simp

/-- With a search begun, unless the pool does not take it. -/
def submit (resolver : Resolver) (begun : Board) (id : GroupId) : Resolver :=
  match resolver.pool.attempt id with
  | (.ok (), pool) => { desk := { resolver.desk with board := begun }, pool := pool }
  | (.error _, pool) =>
    { desk := { resolver.desk with
        board := begun.giveUp id
        metrics := resolver.desk.metrics.recordRejection }
      pool := pool }

/-- With a search begun where one is wanted. -/
def request (resolver : Resolver) (id : GroupId) : Resolver :=
  if resolver.isStopped || !resolver.desk.board.isVisible id then resolver
  else
    match resolver.desk.board.begin? id with
    | none => resolver
    | some begun => resolver.submit begun id

/-- The name to show a group under now; a search may be begun for a better one. -/
def resolve (resolver : Resolver) (id : GroupId) : Option String × Resolver :=
  match resolver.desk.board.cluster? id with
  | none => (none, resolver)
  | some cluster =>
    match resolver.lookup cluster.url with
    | (some title, next) =>
      (some title, { next with desk := resolveFromCache next.desk id cluster title })
    | (none, next) => (some cluster.displayName, next.request id)

/-- With several groups asked for, one after the other. -/
def resolveAll (resolver : Resolver) (ids : List GroupId) : Resolver :=
  ids.foldl (fun resolver id => (resolver.resolve id).2) resolver

/-- With a held answer released. -/
def release (resolver : Resolver) (url : String) : Resolver :=
  { resolver with pool := resolver.pool.release url }

/-- Stopped for good: all waiting is over, and no search ends with a title. -/
def stop (resolver : Resolver) : Resolver where
  desk := { resolver.desk with outbox := resolver.desk.outbox.stop }
  pool := resolver.pool.shutdown.wakeAll

/-- With all searches as far as they come. -/
def work (resolver : Resolver) : Resolver :=
  let (pool, desk) := resolver.pool.settle Desk.perform resolver.desk
  { desk := desk, pool := pool }

/-- With all events delivered. -/
def deliver (resolver : Resolver) : Resolver :=
  { resolver with desk := { resolver.desk with outbox := resolver.desk.outbox.deliver } }

/-- With all work done that can be, and the reader told. -/
def settle (resolver : Resolver) : Resolver := resolver.work.deliver

end Resolver

end LinkDigest
