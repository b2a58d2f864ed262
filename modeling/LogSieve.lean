import LogSieve.Buffer
import LogSieve.Command.Diagnostics
import LogSieve.Command.Directive
import LogSieve.Command.Error
import LogSieve.Command.Help
import LogSieve.Command.Line
import LogSieve.Command.Report
import LogSieve.Command.Run
import LogSieve.Command.Style
import LogSieve.Error
import LogSieve.Event
import LogSieve.Files
import LogSieve.Hash.XxHash64
import LogSieve.Json.Bytes
import LogSieve.Json.Decode
import LogSieve.Json.Printer
import LogSieve.Json.Token
import LogSieve.Json.Tree
import LogSieve.Json.Value
import LogSieve.Keyed
import LogSieve.Listing
import LogSieve.Loki.Query
import LogSieve.Loki.Response
import LogSieve.Main
import LogSieve.Metrics
import LogSieve.Number.Double
import LogSieve.Proofs.Action
import LogSieve.Proofs.BulkMatching
import LogSieve.Proofs.BulkUnits
import LogSieve.Proofs.Cooldown
import LogSieve.Proofs.Decimal
import LogSieve.Proofs.Durability
import LogSieve.Proofs.Entries
import LogSieve.Proofs.Files
import LogSieve.Proofs.IgnoredLabels
import LogSieve.Proofs.Json.Scanning
import LogSieve.Proofs.Json.Spelling
import LogSieve.Proofs.Json.Writing
import LogSieve.Proofs.Judgement
import LogSieve.Proofs.Loki.Answer
import LogSieve.Proofs.Loki.Decoding
import LogSieve.Proofs.Loki.Ingestion
import LogSieve.Proofs.Payload
import LogSieve.Proofs.Prepared
import LogSieve.Proofs.Record
import LogSieve.Proofs.Regex.Advance
import LogSieve.Proofs.Regex.Anchoring
import LogSieve.Proofs.Regex.Continuation.Basic
import LogSieve.Proofs.Regex.Continuation.Bounds
import LogSieve.Proofs.Regex.Continuation.CharClass
import LogSieve.Proofs.Regex.Continuation.Escape
import LogSieve.Proofs.Regex.Continuation.Reading
import LogSieve.Proofs.Regex.Continuation.Run
import LogSieve.Proofs.Regex.Enclosed
import LogSieve.Proofs.Regex.Spans
import LogSieve.Proofs.Replacement
import LogSieve.Proofs.Replay
import LogSieve.Proofs.ReplayedBuffer
import LogSieve.Proofs.Rewriting
import LogSieve.Proofs.RuleFormat
import LogSieve.Proofs.SettingsLoading
import LogSieve.Proofs.SharedRecords
import LogSieve.Proofs.SourceGroups
import LogSieve.Proofs.SplitField
import LogSieve.Proofs.Splitting
import LogSieve.Proofs.Store.Agreement
import LogSieve.Proofs.Store.Changes
import LogSieve.Proofs.Store.Classification
import LogSieve.Proofs.Store.Editing
import LogSieve.Proofs.Store.ExactHits
import LogSieve.Proofs.Store.Failure
import LogSieve.Proofs.Store.HitCounting
import LogSieve.Proofs.Store.Judging
import LogSieve.Proofs.Store.KeptTests
import LogSieve.Proofs.Store.Numbering
import LogSieve.Proofs.Store.Persistence
import LogSieve.Proofs.Store.Run
import LogSieve.Proofs.Store.Stability
import LogSieve.Proofs.Store.Survival
import LogSieve.Proofs.Store.Totals
import LogSieve.Proofs.Store.Updates
import LogSieve.Proofs.Summary
import LogSieve.Proofs.SummaryOrder
import LogSieve.Proofs.TemporaryFile
import LogSieve.Proofs.Traversal
import LogSieve.Proofs.Watermark
import LogSieve.Record
import LogSieve.Regex.CharClass
import LogSieve.Regex.Encoding
import LogSieve.Regex.Flags
import LogSieve.Regex.Matching
import LogSieve.Regex.Parser
import LogSieve.Regex.Pattern
import LogSieve.Regex.Primitive
import LogSieve.Regex.Size
import LogSieve.Rule.Basic
import LogSieve.Rule.Bulk
import LogSieve.Rule.Json
import LogSieve.Rule.Matcher
import LogSieve.Ruleset
import LogSieve.Settings.Basic
import LogSieve.Settings.Document
import LogSieve.Settings.Loading
import LogSieve.Source.Basic
import LogSieve.Source.Replay
import LogSieve.Source.Script
import LogSieve.Store.Basic
import LogSieve.Store.Editing
import LogSieve.Store.File
import LogSieve.Store.Judging
import LogSieve.Store.Persistence
import LogSieve.Summary
import LogSieve.Text.Blank
import LogSieve.Text.Column
import LogSieve.Text.Decimal
import LogSieve.Text.Quoted
import LogSieve.Time.Calendar
import LogSieve.Toml.Reader
import LogSieve.Toml.Scalar
import LogSieve.Toml.Table
import LogSieve.Toml.Text
import LogSieve.Toml.Value
import LogSieve.Toml.Writer
import LogSieve.Unicode.Age
import LogSieve.Unicode.BinaryProperty
import LogSieve.Unicode.Category
import LogSieve.Unicode.Charset
import LogSieve.Unicode.Combining
import LogSieve.Unicode.Composition
import LogSieve.Unicode.Direction
import LogSieve.Unicode.Folding
import LogSieve.Unicode.HostMapping
import LogSieve.Unicode.Joining
import LogSieve.Unicode.Property
import LogSieve.Unicode.Script
import LogSieve.Unicode.ScriptExtension
import LogSieve.Unicode.Segment
import LogSieve.Unicode.Table
import LogSieve.Unicode.Unseen
import LogSieve.Url.Address
import LogSieve.Url.Host
import LogSieve.Url.Name
import LogSieve.Url.Percent
import LogSieve.Url.Punycode
import LogSieve.Verdict
import LogSieve.World
