import LinkDigest.Anchor
import LinkDigest.Board.Basic
import LinkDigest.Board.Event
import LinkDigest.Cluster.Basic
import LinkDigest.Cluster.Ranking
import LinkDigest.Config
import LinkDigest.Corpus.Article
import LinkDigest.Corpus.Basic
import LinkDigest.Corpus.Document
import LinkDigest.Decimal
import LinkDigest.Digest
import LinkDigest.Filter.Expression
import LinkDigest.Filter.Keyword
import LinkDigest.Filter.Pipeline
import LinkDigest.Filter.Settings
import LinkDigest.Ident
import LinkDigest.Json.Basic
import LinkDigest.Json.Number
import LinkDigest.Json.Parse
import LinkDigest.Json.Record
import LinkDigest.Json.Token
import LinkDigest.Listing
import LinkDigest.Main
import LinkDigest.Metrics
import LinkDigest.Options
import LinkDigest.Outbox
import LinkDigest.Page.Basic
import LinkDigest.Page.Client
import LinkDigest.Page.ContentType
import LinkDigest.Page.Error
import LinkDigest.Page.TitleScanner
import LinkDigest.Pattern.Basic
import LinkDigest.Pattern.CharSet
import LinkDigest.Pattern.Lexeme
import LinkDigest.Pattern.Match
import LinkDigest.Pattern.Parse
import LinkDigest.Pattern.Program
import LinkDigest.Pattern.Template
import LinkDigest.Pool.Basic
import LinkDigest.Pool.Errand
import LinkDigest.Pool.Settle
import LinkDigest.Pressure
import LinkDigest.Proofs.Anchor.Links
import LinkDigest.Proofs.Anchor.Tag
import LinkDigest.Proofs.Board.Flags
import LinkDigest.Proofs.Board.Groups
import LinkDigest.Proofs.Board.History
import LinkDigest.Proofs.Board.Identity
import LinkDigest.Proofs.Board.Numbers
import LinkDigest.Proofs.Board.Searches
import LinkDigest.Proofs.Board.Tables
import LinkDigest.Proofs.Board.Views
import LinkDigest.Proofs.Cluster.Contributors
import LinkDigest.Proofs.Cluster.History
import LinkDigest.Proofs.Cluster.Hotness
import LinkDigest.Proofs.Cluster.Ledger
import LinkDigest.Proofs.Cluster.Ranking
import LinkDigest.Proofs.Config.Document
import LinkDigest.Proofs.Corpus.Listing
import LinkDigest.Proofs.Filter.Expression
import LinkDigest.Proofs.Filter.Glob
import LinkDigest.Proofs.Filter.Keywords
import LinkDigest.Proofs.Filter.SelfReference
import LinkDigest.Proofs.Filter.Strictness
import LinkDigest.Proofs.Json.Layout
import LinkDigest.Proofs.Json.Numeral
import LinkDigest.Proofs.Json.Record
import LinkDigest.Proofs.Json.Spelling
import LinkDigest.Proofs.Json.Value
import LinkDigest.Proofs.Lists
import LinkDigest.Proofs.Outbox
import LinkDigest.Proofs.Outbox.Delivery
import LinkDigest.Proofs.Page.Chunks
import LinkDigest.Proofs.Page.Completion
import LinkDigest.Proofs.Page.ContentType
import LinkDigest.Proofs.Page.Reading
import LinkDigest.Proofs.Page.TitleScanner
import LinkDigest.Proofs.Page.Utf8Title
import LinkDigest.Proofs.Pattern.CharSet
import LinkDigest.Proofs.Pattern.Reading
import LinkDigest.Proofs.Pattern.Search
import LinkDigest.Proofs.Pattern.Spans
import LinkDigest.Proofs.Pool.Jobs
import LinkDigest.Proofs.Pool.Shift
import LinkDigest.Proofs.Pool.Staffing
import LinkDigest.Proofs.Scan.Aggregation
import LinkDigest.Proofs.Scan.Order
import LinkDigest.Proofs.Scan.Progress
import LinkDigest.Proofs.Scan.Statistics
import LinkDigest.Proofs.Session.Announcement
import LinkDigest.Proofs.Session.CacheFirst
import LinkDigest.Proofs.Session.Flags
import LinkDigest.Proofs.Session.LastWord
import LinkDigest.Proofs.Session.Order
import LinkDigest.Proofs.Session.Provenance
import LinkDigest.Proofs.Session.Resolution
import LinkDigest.Proofs.Session.Review
import LinkDigest.Proofs.Session.Run
import LinkDigest.Proofs.Session.Silence
import LinkDigest.Proofs.Text.Blank
import LinkDigest.Proofs.Text.Charset
import LinkDigest.Proofs.Text.Decode
import LinkDigest.Proofs.Text.Figures
import LinkDigest.Proofs.Text.Fold
import LinkDigest.Proofs.Text.Lowercase
import LinkDigest.Proofs.Text.Pieces
import LinkDigest.Proofs.Text.Search
import LinkDigest.Proofs.Text.Utf8
import LinkDigest.Proofs.Title.CacheFirst
import LinkDigest.Proofs.Title.Desk
import LinkDigest.Proofs.Title.Exclusion
import LinkDigest.Proofs.Title.LastWord
import LinkDigest.Proofs.Title.Recency
import LinkDigest.Proofs.Title.Reference
import LinkDigest.Proofs.Title.Rejection
import LinkDigest.Proofs.Title.Reports
import LinkDigest.Proofs.Title.Resolver
import LinkDigest.Proofs.Title.Silence
import LinkDigest.Proofs.Title.Tending
import LinkDigest.Proofs.Title.Truth
import LinkDigest.Proofs.Url.Absolute
import LinkDigest.Proofs.Url.Address
import LinkDigest.Proofs.Url.Canonical
import LinkDigest.Proofs.Url.Escapes
import LinkDigest.Proofs.Url.Front
import LinkDigest.Proofs.Url.Host
import LinkDigest.Proofs.Url.Path
import LinkDigest.Proofs.Url.Percent
import LinkDigest.Proofs.Url.Punycode
import LinkDigest.Proofs.Url.Reading
import LinkDigest.Proofs.Url.Relative
import LinkDigest.Proofs.Url.Rooted
import LinkDigest.Proofs.Url.Shape
import LinkDigest.Proofs.Url.Spellings
import LinkDigest.Proofs.Url.Written
import LinkDigest.Scan
import LinkDigest.Session
import LinkDigest.Text.Blank
import LinkDigest.Text.CaseRun
import LinkDigest.Text.Category
import LinkDigest.Text.CharName
import LinkDigest.Text.CharRef
import LinkDigest.Text.Charset
import LinkDigest.Text.CodeMap
import LinkDigest.Text.CodeRange
import LinkDigest.Text.Compose
import LinkDigest.Text.Decode
import LinkDigest.Text.Fields
import LinkDigest.Text.Fold
import LinkDigest.Text.Hex
import LinkDigest.Text.Lowercase
import LinkDigest.Text.Search
import LinkDigest.Text.SingleByte
import LinkDigest.Text.Utf16
import LinkDigest.Text.Utf8
import LinkDigest.Time.Calendar
import LinkDigest.Time.Instant
import LinkDigest.Time.Timestamp
import LinkDigest.Title.Cache
import LinkDigest.Title.Desk
import LinkDigest.Title.Fallback
import LinkDigest.Title.Resolver
import LinkDigest.Title.Rules
import LinkDigest.Url.Basic
import LinkDigest.Url.Canonical
import LinkDigest.Url.Host
import LinkDigest.Url.Host.Direction
import LinkDigest.Url.Host.Domain
import LinkDigest.Url.Host.Ipv4
import LinkDigest.Url.Host.Ipv6
import LinkDigest.Url.Host.Joiner
import LinkDigest.Url.Host.Mapping
import LinkDigest.Url.Parse
import LinkDigest.Url.Percent
import LinkDigest.Url.Punycode
