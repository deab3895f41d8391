import LinkDigest.Board.Basic
import LinkDigest.Metrics
import LinkDigest.Outbox
import LinkDigest.Page.Basic
import LinkDigest.Pool.Basic
import LinkDigest.Title.Cache
import LinkDigest.Title.Fallback
import LinkDigest.Title.Rules

/-!
# The desk

Where titles are found: all that the search for the title of one group reads
and writes. A title comes from the rules, from the page or, if neither has
one, from the link itself; it is stored, and the reader is told.
-/

namespace LinkDigest

/-- How a title came about. -/
inductive Outcome where
  /-- The rules knew it. -/
  | custom
  /-- The page has it. -/
  | fetched
  /-- The page has none. -/
  | fallback
  /-- The page could not be read. -/
  | failed
deriving DecidableEq, Repr

/-- The outcome in metrics. -/
def Outcome.label : Outcome → String
  | .custom => "custom"
  | .fetched => "fetched"
  | .fallback => "fallback"
  | .failed => "error"

/-- What the search for titles reads and writes. -/
structure Desk where
  rules : Rules
  network : Network
  /-- The characters of the character sets with indexes. -/
  indexes : Text.Indexes
  /-- How far titles are looked for where no rule says otherwise. -/
  scanLimit : Nat
  board : Board
  cache : TitleCache
  outbox : Outbox
  metrics : Metrics
  /-- The addresses opened so far. -/
  opened : List String

namespace Desk

/-- Whether no title is looked for any more. -/
def isStopped (desk : Desk) : Bool := desk.outbox.isStopped

/-- With the reader told of a group as it is now. -/
def announce (desk : Desk) (id : GroupId) : Desk :=
  match desk.board.view? id with
  | some view => { desk with outbox := desk.outbox.send (.groupUpdated view) }
  | none => desk

@[simp] theorem board_announce (desk : Desk) (id : GroupId) :
    (desk.announce id).board = desk.board := by
  unfold announce
  split <;> rfl

@[simp] theorem cache_announce (desk : Desk) (id : GroupId) :
    (desk.announce id).cache = desk.cache := by
  unfold announce
  split <;> rfl

@[simp] theorem opened_announce (desk : Desk) (id : GroupId) :
    (desk.announce id).opened = desk.opened := by
  unfold announce
  split <;> rfl

/-- With the search for a title given up. -/
def giveUp (desk : Desk) (id : GroupId) : Desk := { desk with board := desk.board.giveUp id }

@[simp] theorem opened_giveUp (desk : Desk) (id : GroupId) :
    (desk.giveUp id).opened = desk.opened := rfl

/-- With a title found for a group. -/
def resolved (desk : Desk) (id : GroupId) (url title : String) (outcome : Outcome) : Desk :=
  { desk with
    metrics := desk.metrics.recordTitle outcome.label
    cache := desk.cache.put url title
    board := (desk.board.setTitle id title).markResolved id }.announce id

@[simp] theorem board_resolved (desk : Desk) (id : GroupId) (url title : String)
    (outcome : Outcome) : (desk.resolved id url title outcome).board =
      (desk.board.setTitle id title).markResolved id := board_announce ..

@[simp] theorem opened_resolved (desk : Desk) (id : GroupId) (url title : String)
    (outcome : Outcome) : (desk.resolved id url title outcome).opened = desk.opened :=
  opened_announce ..

/-- With the title that a page has, or if it has none that of last resort. -/
def resolvedFromPage (desk : Desk) (id : GroupId) (url : String) (raw : Option (List Char)) :
    Desk :=
  match raw with
  | none => desk.resolved id url (fallbackTitle url) .fallback
  | some raw =>
    let title := desk.rules.postProcess raw
    if title.isEmpty then desk.resolved id url (fallbackTitle url) .fallback
    else desk.resolved id url (String.ofList title) .fetched

@[simp] theorem opened_resolvedFromPage (desk : Desk) (id : GroupId) (url : String)
    (raw : Option (List Char)) : (desk.resolvedFromPage id url raw).opened = desk.opened := by
  cases raw with
  | none => simp [resolvedFromPage]
  | some raw =>
    simp only [resolvedFromPage]
    split <;> simp

/-- After a page could not be read. Who cancels wants no title. -/
def afterFailure (desk : Desk) (id : GroupId) (url : String) (error : NetworkError) : Desk :=
  match error with
  | .cancelled => desk.giveUp id
  | _ => desk.resolved id url (fallbackTitle url) .failed

@[simp] theorem opened_afterFailure (desk : Desk) (id : GroupId) (url : String)
    (error : NetworkError) : (desk.afterFailure id url error).opened = desk.opened := by
  unfold afterFailure
  split <;> simp

/-- After a page has been read as far as it comes. -/
def afterReading (desk : Desk) (id : GroupId) (url : String) : Reading → Desk × Progress
  | .read title consumed =>
    ({ desk with metrics := desk.metrics.recordBytes consumed }.resolvedFromPage id url title,
      .finished)
  | .failed error => (desk.afterFailure id url error, .finished)
  | .stalled => (desk, .waits none)

@[simp] theorem opened_afterReading (desk : Desk) (id : GroupId) (url : String)
    (reading : Reading) : (desk.afterReading id url reading).1.opened = desk.opened := by
  cases reading <;> simp [afterReading]

/-- After the answer of a page has come. -/
def afterReply (desk : Desk) (id : GroupId) (url : String) : Desk × Progress :=
  match (desk.network url).answer with
  | .error error => (desk.afterFailure id url error, .finished)
  | .ok page =>
    if page.isHtml then
      desk.afterReading id url
        (page.read (desk.rules.scanLimitFor url.toList desk.scanLimit) desk.indexes)
    else (desk.resolvedFromPage id url none, .finished)

@[simp] theorem opened_afterReply (desk : Desk) (id : GroupId) (url : String) :
    (desk.afterReply id url).1.opened = desk.opened := by
  unfold afterReply
  split
  · simp
  · split <;> simp

/-- With a page opened. -/
def openPage (desk : Desk) (id : GroupId) (url : String) : Desk × Progress :=
  let next := { desk with opened := desk.opened ++ [url] }
  if (next.network url).isHeld then (next, .waits (some url)) else next.afterReply id url

@[simp] theorem opened_openPage (desk : Desk) (id : GroupId) (url : String) :
    (desk.openPage id url).1.opened = desk.opened ++ [url] := by
  simp only [openPage]
  split <;> simp

/-- The search for the title of a group, from its start as far as it comes. A
group that has gone out of sight is left for later. -/
def start (desk : Desk) (id : GroupId) : Desk × Progress :=
  if desk.isStopped then (desk, .finished)
  else if !desk.board.isVisible id then (desk.giveUp id, .finished)
  else
    match desk.board.cluster? id with
    | none => (desk, .finished)
    | some cluster =>
      match desk.rules.customTitle? cluster.url.toList with
      | some title =>
        (desk.resolved id cluster.url (String.ofList title) .custom, .finished)
      | none => desk.openPage id cluster.url

/-- The search for the title of a group after it has waited. -/
def resume (desk : Desk) (id : GroupId) : Desk × Progress :=
  if desk.isStopped then (desk.giveUp id, .finished)
  else
    match desk.board.cluster? id with
    | none => (desk, .finished)
    | some cluster => desk.afterReply id cluster.url

/-- What a worker does for a group. -/
def perform (task : Task GroupId) (desk : Desk) : Desk × Progress :=
  match task with
  | .start id => desk.start id
  | .resume id => desk.resume id

/-- A look for the title of a link in the cache. -/
def lookup (desk : Desk) (url : String) : Option String × Desk :=
  (desk.cache.find? url,
    { desk with
      cache := desk.cache.use url
      metrics := desk.metrics.recordLookup (desk.cache.contains url) })

end Desk

end LinkDigest
