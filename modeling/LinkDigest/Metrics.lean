import LinkDigest.Decimal

/-!
# Metrics

What was done, in numbers: counters that only grow and gauges that are set.
A counter may be split by a label. The values are doubles. A metric is shown
from its first use on.
-/

namespace LinkDigest

/-- How a metric may change. -/
inductive MetricKind where
  /-- It only grows. -/
  | counter
  /-- It is set. -/
  | gauge
deriving DecidableEq, Repr

def MetricKind.name : MetricKind → String
  | .counter => "counter"
  | .gauge => "gauge"

/-- What a metric is called and how it may change. -/
structure MetricHead where
  name : String
  help : String
  kind : MetricKind
deriving DecidableEq, Repr

/-- The lines before the samples of a metric. -/
def MetricHead.comments (head : MetricHead) : List String := [
  "# HELP " ++ head.name ++ " " ++ head.help,
  "# TYPE " ++ head.name ++ " " ++ head.kind.name]

/-- The counts of a metric by the value of its label, each from its first use on. -/
abbrev Tally := List (String × Nat)

namespace Tally

/-- The count of a value. -/
def count (tally : Tally) (value : String) : Nat := (tally.lookup value).getD 0

/-- With one more of a value. -/
def bump : Tally → String → Tally
  | [], value => [(value, 1)]
  | (known, n) :: rest, value =>
    if known = value then (known, Decimal.nearestWhole (n + 1)) :: rest
    else (known, n) :: bump rest value

end Tally

/-- What was done, in numbers. -/
structure Metrics where
  /-- The bytes in which titles were looked for. -/
  bytesScanned : Option Nat
  /-- The clusters of the last scan. -/
  knownClusters : Option Nat
  /-- The resolutions that the pool did not take. -/
  poolRejections : Option Nat
  /-- The looks into the title cache, by what they found. -/
  cacheLookups : Tally
  /-- The titles resolved, by how they came about. -/
  titlesResolved : Tally
  /-- The clusters shown. -/
  visibleClusters : Option Nat
  /-- How many scans were timed. -/
  scans : Nat
deriving DecidableEq, Repr

namespace Metrics

/-- No metric used yet. -/
def unused : Metrics := ⟨none, none, none, [], [], none, 0⟩

/-- All metrics without a label at zero. -/
def zero : Metrics := ⟨some 0, some 0, some 0, [], [], some 0, 0⟩

/-- A counter, grown by a number. -/
def grow (counter : Option Nat) (n : Nat) : Option Nat :=
  some (Decimal.nearestWhole (counter.getD 0 + Decimal.nearestWhole n))

def recordBytes (metrics : Metrics) (n : Nat) : Metrics :=
  { metrics with bytesScanned := grow metrics.bytesScanned n }

def recordRejection (metrics : Metrics) : Metrics :=
  { metrics with poolRejections := grow metrics.poolRejections 1 }

/-- A look into the title cache that found a title or none. -/
def recordLookup (metrics : Metrics) (isHit : Bool) : Metrics :=
  { metrics with cacheLookups := metrics.cacheLookups.bump (if isHit then "hit" else "miss") }

def recordTitle (metrics : Metrics) (outcome : String) : Metrics :=
  { metrics with titlesResolved := metrics.titlesResolved.bump outcome }

def recordScan (metrics : Metrics) : Metrics := { metrics with scans := metrics.scans + 1 }

def setKnown (metrics : Metrics) (n : Nat) : Metrics :=
  { metrics with knownClusters := some (Decimal.nearestWhole n) }

def setVisible (metrics : Metrics) (n : Nat) : Metrics :=
  { metrics with visibleClusters := some (Decimal.nearestWhole n) }

/-! ## In writing -/

/-- A label's value as it stands between quotes. -/
def escape : List Char → List Char
  | [] => []
  | '\\' :: rest => '\\' :: '\\' :: escape rest
  | '"' :: rest => '\\' :: '"' :: escape rest
  | '\n' :: rest => '\\' :: 'n' :: escape rest
  | c :: rest => c :: escape rest

def number (n : Nat) : String := String.ofList (Decimal.whole n)

/-- The lines of a metric without a label. -/
def plainLines (head : MetricHead) (value : Option Nat) : List String :=
  match value with
  | some n => head.comments ++ [head.name ++ " " ++ number n]
  | none => []

/-- The line of one value of a label. -/
def labelled (head : MetricHead) (label : String) (entry : String × Nat) : String :=
  head.name ++ "\x7b" ++ label ++ "=\"" ++ String.ofList (escape entry.1.toList) ++ "\"\x7d " ++
    number entry.2

/-- The lines of a metric with a label, in the order of its values. -/
def labelledLines (head : MetricHead) (label : String) (tally : Tally) : List String :=
  if tally.isEmpty then []
  else head.comments ++
    ((tally.mergeSort fun a b => decide (a.1 ≤ b.1)).map (labelled head label))

/-- All metrics in use, in the order of their names. -/
def lines (metrics : Metrics) : List String :=
  plainLines ⟨"hotlinks_bytes_scanned_total", "Total bytes examined by the title scanner",
    .counter⟩ metrics.bytesScanned ++
  plainLines ⟨"hotlinks_known_clusters", "Number of clusters produced by the last scan", .gauge⟩
    metrics.knownClusters ++
  plainLines ⟨"hotlinks_pool_rejections_total",
    "Resolution tasks dropped because the queue was full or shut down", .counter⟩
    metrics.poolRejections ++
  labelledLines ⟨"hotlinks_title_cache_lookups_total", "Title cache lookups by result", .counter⟩
    "result" metrics.cacheLookups ++
  labelledLines ⟨"hotlinks_titles_resolved_total", "Total titles resolved by outcome", .counter⟩
    "outcome" metrics.titlesResolved ++
  plainLines ⟨"hotlinks_visible_clusters", "Number of clusters in the visible set", .gauge⟩
    metrics.visibleClusters

/-- The lines that hold a value. -/
def samples (metrics : Metrics) : List String :=
  metrics.lines.filter fun line => line.toList.head? ≠ some '#'

end Metrics

end LinkDigest
