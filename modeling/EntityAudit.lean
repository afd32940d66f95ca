import EntityAudit.Auditor
import EntityAudit.Cache
import EntityAudit.Calendar
import EntityAudit.Command.Arguments
import EntityAudit.Command.Completion
import EntityAudit.Command.Help
import EntityAudit.Command.Request
import EntityAudit.Command.Topic
import EntityAudit.Config
import EntityAudit.Constraint
import EntityAudit.ConstraintSource
import EntityAudit.Context
import EntityAudit.Database
import EntityAudit.Decimal.Layout
import EntityAudit.Decimal.Reading
import EntityAudit.Decimal.Shortest
import EntityAudit.Digest.Sha256
import EntityAudit.Dump
import EntityAudit.GraphQuery
import EntityAudit.Host
import EntityAudit.Id
import EntityAudit.Json.Basic
import EntityAudit.Json.Reader
import EntityAudit.Json.Record
import EntityAudit.Json.Token
import EntityAudit.Json.Writer
import EntityAudit.Magnitude
import EntityAudit.Main
import EntityAudit.Membership
import EntityAudit.Metadata
import EntityAudit.Moment
import EntityAudit.Ordered.Map
import EntityAudit.Pages
import EntityAudit.ParameterError
import EntityAudit.Parameters
import EntityAudit.Program
import EntityAudit.ReadError
import EntityAudit.Regex.Basic
import EntityAudit.Regex.Bracket
import EntityAudit.Regex.CharSet
import EntityAudit.Regex.Engine
import EntityAudit.Regex.Escape
import EntityAudit.Regex.Reader
import EntityAudit.Report
import EntityAudit.Result
import EntityAudit.ResultSource
import EntityAudit.ResultTree
import EntityAudit.Rule.Basic
import EntityAudit.Rule.Cardinality
import EntityAudit.Rule.Catalog
import EntityAudit.Rule.Classes
import EntityAudit.Rule.Format
import EntityAudit.Rule.Link
import EntityAudit.Rule.Placement
import EntityAudit.Rule.Range
import EntityAudit.Rule.Statements
import EntityAudit.Rule.Values
import EntityAudit.Session
import EntityAudit.Settings
import EntityAudit.Significand
import EntityAudit.Site
import EntityAudit.SlowCheck
import EntityAudit.Snak
import EntityAudit.Statement
import EntityAudit.Store
import EntityAudit.Text.Blank
import EntityAudit.Text.Columns
import EntityAudit.Text.Hexadecimal
import EntityAudit.Text.Integer
import EntityAudit.Text.Quoted
import EntityAudit.Text.Split
import EntityAudit.Time
import EntityAudit.Toml.Number
import EntityAudit.Toml.Quoted
import EntityAudit.Toml.Reader
import EntityAudit.Toml.Table
import EntityAudit.Toml.Writer
import EntityAudit.Unicode.Category
import EntityAudit.Unicode.Fold
import EntityAudit.Unicode.Property
import EntityAudit.Unicode.Script
import EntityAudit.Unicode.Span
import EntityAudit.Url.Basic
import EntityAudit.Url.Escape
import EntityAudit.Url.Host
import EntityAudit.Url.Punycode
import EntityAudit.Url.Reader
import EntityAudit.Value
import EntityAudit.Proofs.Ordered.Lookup
import EntityAudit.Proofs.Store.Revision
import EntityAudit.Proofs.Metadata
import EntityAudit.Proofs.Agreement
import EntityAudit.Proofs.Calendar
import EntityAudit.Proofs.Text.Number
import EntityAudit.Proofs.Time
import EntityAudit.Proofs.Rule.Clock
import EntityAudit.Proofs.Rule.Trace
import EntityAudit.Proofs.Outcome
import EntityAudit.Proofs.Cache.World
import EntityAudit.Proofs.Pairs
import EntityAudit.Proofs.Cache.Entry
import EntityAudit.Proofs.Cache.Served
import EntityAudit.Proofs.Cache.Decides
import EntityAudit.Proofs.Cache.Answer
import EntityAudit.Proofs.Cache.Transparency
import EntityAudit.Proofs.Cache.Interleaving
import EntityAudit.Proofs.Membership.Ascent
import EntityAudit.Proofs.Membership.Search
import EntityAudit.Proofs.Membership.Walk
import EntityAudit.Proofs.Membership.Routes
import EntityAudit.Proofs.Cache.Notice
import EntityAudit.Proofs.Cache.Recheck
import EntityAudit.Proofs.Cache.Redefinition
import EntityAudit.Proofs.Dispatch.Narrowing
import EntityAudit.Proofs.Dispatch.Coverage
import EntityAudit.Proofs.Dispatch.Gate
import EntityAudit.Proofs.Dispatch.Report
import EntityAudit.Proofs.Rule.Foresight
import EntityAudit.Proofs.Id
import EntityAudit.Proofs.Store.Edits
import EntityAudit.Proofs.Json.Reader
import EntityAudit.Proofs.Json.Record
import EntityAudit.Proofs.Encoding.Statement
import EntityAudit.Proofs.Encoding.Dump
import EntityAudit.Proofs.Moment
import EntityAudit.Proofs.Encoding.Entry
import EntityAudit.Proofs.Database
import EntityAudit.Proofs.Cache.Keeping
import EntityAudit.Proofs.Cache.Mirror
import EntityAudit.Proofs.Merging
import EntityAudit.Proofs.ResultTree
import EntityAudit.Proofs.Cache.Discipline
import EntityAudit.Proofs.Decimal.Layout
import EntityAudit.Proofs.Json.Unambiguous
import EntityAudit.Proofs.Encoding.Injective
import EntityAudit.Proofs.Cursor
import EntityAudit.Proofs.Cache.Age
import EntityAudit.Proofs.Store.Loading
import EntityAudit.Proofs.Membership.Depth
import EntityAudit.Proofs.Membership.Turns
import EntityAudit.Proofs.Time.Sign
import EntityAudit.Proofs.Rule.Expiry
import EntityAudit.Proofs.Time.Order
import EntityAudit.Proofs.Counting.Group
import EntityAudit.Proofs.Counting.Best
import EntityAudit.Proofs.Rule.Opposite
import EntityAudit.Proofs.Deprecation.Rules
import EntityAudit.Proofs.Reordered.Parameters
import EntityAudit.Proofs.Reordered.Store
import EntityAudit.Proofs.Reordered.Counts
import EntityAudit.Proofs.Reordered.Rules
import EntityAudit.Proofs.Reordered.Verdicts
import EntityAudit.Proofs.Duplicates
import EntityAudit.Proofs.Rule.Reciprocal
import EntityAudit.Proofs.Rule.Inquiry
import EntityAudit.Proofs.Page.Title
import EntityAudit.Proofs.Page.Listing
import EntityAudit.Proofs.Regex.Matching
import EntityAudit.Proofs.Regex.Local
import EntityAudit.Proofs.Regex.Bracket
import EntityAudit.Proofs.Regex.Reading
import EntityAudit.Proofs.Regex.Anchored
import EntityAudit.Proofs.Regex.Clash
import EntityAudit.Proofs.Rule.WholeMatch
import EntityAudit.Proofs.Parameters.Demand
import EntityAudit.Proofs.Parameters.Bounds
import EntityAudit.Proofs.Dispatch.Complete
import EntityAudit.Proofs.Counting.Resolution
import EntityAudit.Proofs.Dispatch.Identified
import EntityAudit.Proofs.Decimal.Unpacked
import EntityAudit.Proofs.Decimal.Rounding
import EntityAudit.Proofs.Decimal.Nearest
import EntityAudit.Proofs.Decimal.Reading
import EntityAudit.Proofs.Toml.Number
import EntityAudit.Proofs.Toml.Value
import EntityAudit.Proofs.Toml.Document
import EntityAudit.Proofs.Toml.Bounded
import EntityAudit.Proofs.Encoding.Config
import EntityAudit.Proofs.Program
import EntityAudit.Proofs.Settings
import EntityAudit.Proofs.Settings.Stored
import EntityAudit.Proofs.SlowCheck
import EntityAudit.Proofs.Counting.Recount
import EntityAudit.Proofs.Decimal.Equality
import EntityAudit.Proofs.Encoding.Equality
import EntityAudit.Proofs.Counting.Separators
