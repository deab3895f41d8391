import LinkDigest.Json.Parse
import LinkDigest.Json.Record

/-!
# Configuration

The limits of scanning and of resolving titles, with their defaults, and the
document that overrides them. A document writes as few of them as it likes.
-/

namespace LinkDigest

/-- What is scanned and what counts. -/
structure ScanConfig where
  /-- Articles older than so many days are not scanned. -/
  windowDays : Int
  /-- Links with fewer articles are dropped. -/
  minReferences : Nat
deriving DecidableEq, Repr

/-- How titles are found. -/
structure ResolverConfig where
  workers : Nat
  queueCapacity : Nat
  /-- How many bytes of a page are looked at for a title, unless a rule says otherwise. -/
  scanLimit : Nat
  cacheCapacity : Nat
  connectTimeoutMs : Nat
  fetchTimeoutMs : Nat
  userAgent : String
  purgeOnMemoryPressure : Bool
deriving DecidableEq, Repr

/-- All limits. -/
structure Config where
  scan : ScanConfig
  resolver : ResolverConfig
  /-- How many links a review shows at most. -/
  maxDisplayed : Nat
deriving DecidableEq, Repr

namespace ScanConfig

/-- A week, and two articles. -/
def default : ScanConfig := ⟨7, 2⟩

/-- The names of the fields in documents. -/
def names : List String := ["recency_window_days", "min_references"]

/-- The limits in JSON. -/
def ofJson? (value : Json) : Option ScanConfig := do
  match ← Json.fields? names value with
  | [windowDays, minReferences] =>
    return {
      windowDays := ← Json.orDefault default.windowDays Json.int64? windowDays
      minReferences := ← Json.orDefault default.minReferences Json.count64? minReferences }
  | _ => none

/-- The limits as JSON. -/
def toJson (c : ScanConfig) : Json :=
  Json.ofMembers [("recency_window_days", .ofInt c.windowDays),
    ("min_references", .ofNat c.minReferences)]

end ScanConfig

namespace ResolverConfig

/-- The limits without a document. -/
def default : ResolverConfig where
  workers := 5
  queueCapacity := 1000
  scanLimit := 2000
  cacheCapacity := 2048
  connectTimeoutMs := 10000
  fetchTimeoutMs := 30000
  userAgent := "Hotlinks/0.1 (+title resolver)"
  purgeOnMemoryPressure := false

/-- The names of the fields in documents. -/
def names : List String :=
  ["workers", "queue_capacity", "default_scan_limit", "cache_capacity", "connect_timeout_ms",
   "fetch_timeout_ms", "user_agent", "purge_on_memory_pressure"]

/-- The limits in JSON. -/
def ofJson? (value : Json) : Option ResolverConfig := do
  match ← Json.fields? names value with
  | [workers, queueCapacity, scanLimit, cacheCapacity, connectTimeoutMs, fetchTimeoutMs,
      userAgent, purge] =>
    return {
      workers := ← Json.orDefault default.workers Json.count64? workers
      queueCapacity := ← Json.orDefault default.queueCapacity Json.count64? queueCapacity
      scanLimit := ← Json.orDefault default.scanLimit Json.count64? scanLimit
      cacheCapacity := ← Json.orDefault default.cacheCapacity Json.count64? cacheCapacity
      connectTimeoutMs := ← Json.orDefault default.connectTimeoutMs Json.count64? connectTimeoutMs
      fetchTimeoutMs := ← Json.orDefault default.fetchTimeoutMs Json.count64? fetchTimeoutMs
      userAgent := ← Json.orDefault default.userAgent Json.string? userAgent
      purgeOnMemoryPressure := ← Json.orDefault default.purgeOnMemoryPressure Json.bool? purge }
  | _ => none

/-- The limits as JSON. -/
def toJson (c : ResolverConfig) : Json :=
  Json.ofMembers [("workers", .ofNat c.workers), ("queue_capacity", .ofNat c.queueCapacity),
    ("default_scan_limit", .ofNat c.scanLimit), ("cache_capacity", .ofNat c.cacheCapacity),
    ("connect_timeout_ms", .ofNat c.connectTimeoutMs),
    ("fetch_timeout_ms", .ofNat c.fetchTimeoutMs), ("user_agent", .ofText c.userAgent),
    ("purge_on_memory_pressure", .bool c.purgeOnMemoryPressure)]

end ResolverConfig

namespace Config

/-- The limits without a document. -/
def default : Config := ⟨ScanConfig.default, ResolverConfig.default, 20⟩

/-- The names of the fields in documents. -/
def names : List String := ["aggregation", "resolver", "max_displayed"]

/-- The limits in JSON. -/
def ofJson? (value : Json) : Option Config := do
  match ← Json.fields? names value with
  | [scan, resolver, maxDisplayed] =>
    return {
      scan := ← Json.orDefault default.scan ScanConfig.ofJson? scan
      resolver := ← Json.orDefault default.resolver ResolverConfig.ofJson? resolver
      maxDisplayed := ← Json.orDefault default.maxDisplayed Json.count64? maxDisplayed }
  | _ => none

/-- The limits as JSON. -/
def toJson (c : Config) : Json :=
  Json.ofMembers [("aggregation", c.scan.toJson), ("resolver", c.resolver.toJson),
    ("max_displayed", .ofNat c.maxDisplayed)]

/-- The limits a text writes. -/
def parse? (text : List Char) : Option Config := (Json.parse? text).bind ofJson?

/-- The text that writes the limits. -/
def render (c : Config) : List Char := c.toJson.render

end Config

end LinkDigest
