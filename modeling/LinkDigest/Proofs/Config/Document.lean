import LinkDigest.Config
import LinkDigest.Proofs.Json.Record

/-!
# Documents of limits

A document writes some of the limits, in objects within an object, and each of them by itself:
it replaces the limits it writes and leaves the others as they are without a document. The
document that writes all of them is read as the limits it was written for.
-/

namespace LinkDigest

open Json

/-! ## The limits of scanning -/

namespace ScanConfig

/-- The limits as fields of a document. -/
def fields (c : ScanConfig) : List Field :=
  [⟨"recency_window_days", (· = ofInt c.windowDays)⟩,
   ⟨"min_references", (· = ofNat c.minReferences)⟩]

/-- The chosen limits of `c`, and the others of `base`. -/
def override (chosen : String → Bool) (c base : ScanConfig) : ScanConfig where
  windowDays := if chosen "recency_window_days" then c.windowDays else base.windowDays
  minReferences := if chosen "min_references" then c.minReferences else base.minReferences

/-- Limits of 64 bits. -/
structure InRange (c : ScanConfig) : Prop where
  windowDays_ge : -9223372036854775808 ≤ c.windowDays
  windowDays_le : c.windowDays ≤ 9223372036854775807
  minReferences : c.minReferences ≤ 18446744073709551615

theorem map_name_fields (c : ScanConfig) : c.fields.map Field.name = names := rfl

theorem ofJson?_of_writesFields {c : ScanConfig} (hc : c.InRange) {chosen : String → Bool}
    {v : Json} (hv : WritesFields c.fields chosen v) :
    ofJson? v = some (override chosen c default) := by
  obtain ⟨values, hvalues, hread⟩ := exists_fields? hv c.map_name_fields (by decide)
  obtain - | ⟨hdays, - | ⟨hreferences, ⟨⟩⟩⟩ := hread
  unfold ofJson?
  simp only [hvalues, Option.bind_eq_bind, Option.bind_some,
    orDefault_of_eq hdays (int64?_ofInt hc.windowDays_ge hc.windowDays_le),
    orDefault_of_eq hreferences (count64?_ofNat hc.minReferences)]
  rfl

/-- The limits as they are written. -/
def members (c : ScanConfig) : List (String × Json) :=
  [("recency_window_days", ofInt c.windowDays), ("min_references", ofNat c.minReferences)]

theorem isNamed_members (c : ScanConfig) : List.Forall₂ Field.IsNamed c.fields c.members :=
  .cons ⟨rfl, rfl⟩ (.cons ⟨rfl, rfl⟩ .nil)

theorem isFormed_members (c : ScanConfig) : ∀ member ∈ c.members, member.2.IsFormed := by
  simp [members, ofNat_eq_ofInt, isFormed_ofInt]

end ScanConfig

/-! ## The limits of resolving titles -/

namespace ResolverConfig

/-- The limits as fields of a document; the text may have any spelling. -/
def fields (c : ResolverConfig) : List Field :=
  [⟨"workers", (· = ofNat c.workers)⟩,
   ⟨"queue_capacity", (· = ofNat c.queueCapacity)⟩,
   ⟨"default_scan_limit", (· = ofNat c.scanLimit)⟩,
   ⟨"cache_capacity", (· = ofNat c.cacheCapacity)⟩,
   ⟨"connect_timeout_ms", (· = ofNat c.connectTimeoutMs)⟩,
   ⟨"fetch_timeout_ms", (· = ofNat c.fetchTimeoutMs)⟩,
   ⟨"user_agent", fun held => ∃ raw, held = .string raw ∧ Spells raw c.userAgent.toList⟩,
   ⟨"purge_on_memory_pressure", (· = .bool c.purgeOnMemoryPressure)⟩]

/-- The chosen limits of `c`, and the others of `base`. -/
def override (chosen : String → Bool) (c base : ResolverConfig) : ResolverConfig where
  workers := if chosen "workers" then c.workers else base.workers
  queueCapacity := if chosen "queue_capacity" then c.queueCapacity else base.queueCapacity
  scanLimit := if chosen "default_scan_limit" then c.scanLimit else base.scanLimit
  cacheCapacity := if chosen "cache_capacity" then c.cacheCapacity else base.cacheCapacity
  connectTimeoutMs :=
    if chosen "connect_timeout_ms" then c.connectTimeoutMs else base.connectTimeoutMs
  fetchTimeoutMs := if chosen "fetch_timeout_ms" then c.fetchTimeoutMs else base.fetchTimeoutMs
  userAgent := if chosen "user_agent" then c.userAgent else base.userAgent
  purgeOnMemoryPressure :=
    if chosen "purge_on_memory_pressure" then c.purgeOnMemoryPressure
    else base.purgeOnMemoryPressure

/-- Limits of 64 bits. -/
structure InRange (c : ResolverConfig) : Prop where
  workers : c.workers ≤ 18446744073709551615
  queueCapacity : c.queueCapacity ≤ 18446744073709551615
  scanLimit : c.scanLimit ≤ 18446744073709551615
  cacheCapacity : c.cacheCapacity ≤ 18446744073709551615
  connectTimeoutMs : c.connectTimeoutMs ≤ 18446744073709551615
  fetchTimeoutMs : c.fetchTimeoutMs ≤ 18446744073709551615

theorem map_name_fields (c : ResolverConfig) : c.fields.map Field.name = names := rfl

theorem string?_of_spelled {held : Json} {text : String}
    (h : ∃ raw, held = .string raw ∧ Spells raw text.toList) : string? held = some text := by
  obtain ⟨raw, rfl, hraw⟩ := h
  exact string?_of_spells hraw

theorem ofJson?_of_writesFields {c : ResolverConfig} (hc : c.InRange) {chosen : String → Bool}
    {v : Json} (hv : WritesFields c.fields chosen v) :
    ofJson? v = some (override chosen c default) := by
  obtain ⟨values, hvalues, hread⟩ := exists_fields? hv c.map_name_fields (by decide)
  obtain - | ⟨hworkers, - | ⟨hqueue, - | ⟨hscan, - | ⟨hcache, - | ⟨hconnect, - | ⟨hfetch,
    - | ⟨hagent, - | ⟨hpurge, ⟨⟩⟩⟩⟩⟩⟩⟩⟩⟩ := hread
  unfold ofJson?
  simp only [hvalues, Option.bind_eq_bind, Option.bind_some,
    orDefault_of_eq hworkers (count64?_ofNat hc.workers),
    orDefault_of_eq hqueue (count64?_ofNat hc.queueCapacity),
    orDefault_of_eq hscan (count64?_ofNat hc.scanLimit),
    orDefault_of_eq hcache (count64?_ofNat hc.cacheCapacity),
    orDefault_of_eq hconnect (count64?_ofNat hc.connectTimeoutMs),
    orDefault_of_eq hfetch (count64?_ofNat hc.fetchTimeoutMs),
    orDefault_of_isRead hagent fun _ => string?_of_spelled,
    orDefault_of_eq hpurge (show bool? (.bool c.purgeOnMemoryPressure) = some _ from rfl)]
  rfl

/-- The limits as they are written. -/
def members (c : ResolverConfig) : List (String × Json) :=
  [("workers", ofNat c.workers), ("queue_capacity", ofNat c.queueCapacity),
   ("default_scan_limit", ofNat c.scanLimit), ("cache_capacity", ofNat c.cacheCapacity),
   ("connect_timeout_ms", ofNat c.connectTimeoutMs), ("fetch_timeout_ms", ofNat c.fetchTimeoutMs),
   ("user_agent", ofText c.userAgent), ("purge_on_memory_pressure", .bool c.purgeOnMemoryPressure)]

theorem isNamed_members (c : ResolverConfig) : List.Forall₂ Field.IsNamed c.fields c.members :=
  .cons ⟨rfl, rfl⟩ (.cons ⟨rfl, rfl⟩ (.cons ⟨rfl, rfl⟩ (.cons ⟨rfl, rfl⟩ (.cons ⟨rfl, rfl⟩
    (.cons ⟨rfl, rfl⟩ (.cons ⟨rfl, _, rfl, spells_escape _⟩ (.cons ⟨rfl, rfl⟩ .nil)))))))

theorem isFormed_members (c : ResolverConfig) : ∀ member ∈ c.members, member.2.IsFormed := by
  simp [members, ofNat_eq_ofInt, isFormed_ofInt, isFormed_ofText, isFormed_bool]

end ResolverConfig

/-! ## All limits -/

namespace Config

/-- The limits as fields of a document, of which a nested object writes the chosen ones too. -/
def fields (c : Config) (chosen : String → Bool) : List Field :=
  [⟨"aggregation", WritesFields c.scan.fields chosen⟩,
   ⟨"resolver", WritesFields c.resolver.fields chosen⟩,
   ⟨"max_displayed", (· = ofNat c.maxDisplayed)⟩]

/-- The chosen limits of `c`, and the others of `base`. -/
def override (chosen : String → Bool) (c base : Config) : Config where
  scan := if chosen "aggregation" then c.scan.override chosen base.scan else base.scan
  resolver := if chosen "resolver" then c.resolver.override chosen base.resolver else base.resolver
  maxDisplayed := if chosen "max_displayed" then c.maxDisplayed else base.maxDisplayed

/-- Limits of 64 bits. -/
structure InRange (c : Config) : Prop where
  scan : c.scan.InRange
  resolver : c.resolver.InRange
  maxDisplayed : c.maxDisplayed ≤ 18446744073709551615

/-- The text is a document that writes just the chosen limits of `c`. -/
def Writes (c : Config) (chosen : String → Bool) (text : List Char) : Prop :=
  ∃ v, WritesFields (c.fields chosen) chosen v ∧ Token.IsLayout v.tokens text

theorem map_name_fields (c : Config) (chosen : String → Bool) :
    (c.fields chosen).map Field.name = names := rfl

theorem ofJson?_of_writesFields {c : Config} (hc : c.InRange) {chosen : String → Bool}
    {v : Json} (hv : WritesFields (c.fields chosen) chosen v) :
    ofJson? v = some (override chosen c default) := by
  obtain ⟨values, hvalues, hread⟩ := exists_fields? hv (c.map_name_fields chosen) (by decide)
  obtain - | ⟨hscan, - | ⟨hresolver, - | ⟨hdisplayed, ⟨⟩⟩⟩⟩ := hread
  unfold ofJson?
  simp only [hvalues, Option.bind_eq_bind, Option.bind_some,
    orDefault_of_isRead hscan fun _ => ScanConfig.ofJson?_of_writesFields hc.scan,
    orDefault_of_isRead hresolver fun _ => ResolverConfig.ofJson?_of_writesFields hc.resolver,
    orDefault_of_eq hdisplayed (count64?_ofNat hc.maxDisplayed)]
  rfl

theorem parse?_of_writes {c : Config} (hc : c.InRange) {chosen : String → Bool}
    {text : List Char} (h : c.Writes chosen text) :
    parse? text = some (override chosen c default) := by
  obtain ⟨v, hv, htext⟩ := h
  rw [parse?, parse?_of_isLayout htext, Option.bind_some, ofJson?_of_writesFields hc hv]

/-- The limits as they are written, of the nested ones just the chosen. -/
def members (c : Config) (chosen : String → Bool) : List (String × Json) :=
  [("aggregation", partOf chosen c.scan.members),
   ("resolver", partOf chosen c.resolver.members), ("max_displayed", ofNat c.maxDisplayed)]

theorem writes_partOf (c : Config) (chosen : String → Bool) :
    c.Writes chosen (partOf chosen (c.members chosen)).render := by
  have hnamed : List.Forall₂ Field.IsNamed (c.fields chosen) (c.members chosen) :=
    .cons ⟨rfl, writesFields_partOf c.scan.isNamed_members chosen⟩
      (.cons ⟨rfl, writesFields_partOf c.resolver.isNamed_members chosen⟩ (.cons ⟨rfl, rfl⟩ .nil))
  have hformed : ∀ member ∈ c.members chosen, member.2.IsFormed := by
    simp [members, ofNat_eq_ofInt, isFormed_ofInt, isFormed_partOf c.scan.isFormed_members,
      isFormed_partOf c.resolver.isFormed_members]
  exact ⟨_, writesFields_partOf hnamed chosen, isLayout_render (isFormed_partOf hformed chosen)⟩

theorem writes_render (c : Config) : c.Writes (fun _ => true) c.render :=
  c.writes_partOf fun _ => true

/-- What is written for the limits is read as them again. Any choice of them can be written, and
a document that writes it replaces these limits and no others. -/
theorem parse?_eq_override {c : Config} (hc : c.InRange) :
    parse? c.render = some c ∧ ∀ chosen, (∃ text, c.Writes chosen text) ∧
      ∀ text, c.Writes chosen text → parse? text = some (override chosen c default) :=
  ⟨parse?_of_writes hc c.writes_render, fun chosen =>
    ⟨⟨_, c.writes_partOf chosen⟩, fun _ h => parse?_of_writes hc h⟩⟩

/-- Limits of which a document writes two. -/
def reader : Config where
  scan := ScanConfig.default
  resolver := { ResolverConfig.default with workers := 2, userAgent := "Reader" }
  maxDisplayed := 10

/-- The fields that the document writes, the object around one of them included. -/
def readerChosen (name : String) : Bool :=
  name == "resolver" || name == "user_agent" || name == "max_displayed"

/-- The document, with its fields out of order, a letter in an escape, and a field that is none
of the object it stands in. -/
def readerText : String :=
  " \x7b \"max_displayed\": 10, \"resolver\": \x7b \"user_agent\": \"Re\\u0061der\" \x7d," ++
    " \"workers\": -1 \x7d"

/-- The spelling of the text in the document. -/
def readerAgent : List Char := ['R', 'e', '\\', 'u', '0', '0', '6', '1', 'd', 'e', 'r']

theorem spells_readerAgent : Spells readerAgent "Reader".toList :=
  .plain (by decide) (.plain (by decide) (.unit (by decide) (.plain (by decide)
    (.plain (by decide) (.plain (by decide) .nil)))))

/-- What the document holds. -/
def readerValue : Json :=
  ofMembers [("max_displayed", ofNat 10),
    ("resolver", ofMembers [("user_agent", .string readerAgent)]), ("workers", ofInt (-1))]

theorem writesFields_readerValue :
    WritesFields (reader.fields readerChosen) readerChosen readerValue := by
  have hagent : (reader.resolver.fields.filter fun field => readerChosen field.name) =
      [⟨"user_agent", fun held => ∃ raw, held = .string raw ∧ Spells raw "Reader".toList⟩] := by
    simp [ResolverConfig.fields, readerChosen, reader]
  have hresolver : WritesFields reader.resolver.fields readerChosen
      (ofMembers [("user_agent", .string readerAgent)]) := by
    refine writesFields_ofMembers ?_ (List.forall_mem_nil _) (by rw [List.append_nil])
    rw [hagent]
    exact .cons ⟨rfl, _, rfl, spells_readerAgent⟩ .nil
  have hfields : ((reader.fields readerChosen).filter fun field => readerChosen field.name) =
      [⟨"resolver", WritesFields reader.resolver.fields readerChosen⟩,
        ⟨"max_displayed", (· = ofNat 10)⟩] := by
    simp [fields, readerChosen, reader]
  have hother : ∀ member ∈ [("workers", ofInt (-1))],
      member.1 ∉ (reader.fields readerChosen).map Field.name := by simp [fields]
  have hwritten : List.Forall₂ Field.IsNamed
      ((reader.fields readerChosen).filter fun field => readerChosen field.name)
      [("resolver", ofMembers [("user_agent", .string readerAgent)]),
        ("max_displayed", ofNat 10)] := by
    rw [hfields]
    exact .cons ⟨rfl, hresolver⟩ (.cons ⟨rfl, rfl⟩ .nil)
  exact writesFields_ofMembers hwritten hother (.swap _ _ _)

theorem isLayout_readerText : Token.IsLayout readerValue.tokens readerText.toList := by
  have hformed : readerValue.IsFormed := by
    have hagent : (Json.string readerAgent).IsFormed := isFormed_string spells_readerAgent.isRaw
    have hresolver : (ofMembers [("user_agent", .string readerAgent)]).IsFormed :=
      isFormed_ofMembers (List.forall_mem_singleton.mpr hagent)
    exact isFormed_ofMembers (by simp [hresolver, ofNat_eq_ofInt, isFormed_ofInt])
  have htext : readerText.toList = readerValue.tokens.flatMap fun token =>
      (if token = .comma ∨ token = .colon then [] else [' ']) ++ token.text := by
    decide
  rw [htext]
  refine Token.isLayout_flatMap (fun token => ?_) hformed
  split <;> simp [Token.isBlank]

theorem parse?_eq_override_reader : reader.InRange ∧ reader.Writes readerChosen readerText.toList ∧
    parse? readerText.toList = some { default with
      resolver := { ResolverConfig.default with userAgent := "Reader" }, maxDisplayed := 10 } := by
  have hrange : reader.InRange := by
    refine ⟨⟨?_, ?_, ?_⟩, ⟨?_, ?_, ?_, ?_, ?_, ?_⟩, ?_⟩ <;> decide
  have hwrites : reader.Writes readerChosen readerText.toList :=
    ⟨readerValue, writesFields_readerValue, isLayout_readerText⟩
  exact ⟨hrange, hwrites, ((parse?_eq_override hrange).2 readerChosen).2 _ hwrites⟩

end Config

end LinkDigest
