import Harvest.Client.Basic
import Harvest.Client.Config
import Harvest.Client.Http
import Harvest.Client.Proxy
import Harvest.Client.Static
import Harvest.Describe
import Harvest.Error
import Harvest.Extract.Evaluate
import Harvest.Extract.Path
import Harvest.Extract.Registry
import Harvest.Extract.Selection
import Harvest.Fields
import Harvest.Job.Channel
import Harvest.Job.Run
import Harvest.Job.Traversal
import Harvest.Json.Basic
import Harvest.Json.Fault
import Harvest.Json.Lookup
import Harvest.Json.Printer
import Harvest.Json.Reader
import Harvest.Json.Shaped
import Harvest.Json.Skip
import Harvest.Markup.Adoption
import Harvest.Markup.Builder
import Harvest.Markup.Document
import Harvest.Markup.Draft
import Harvest.Markup.Element
import Harvest.Markup.Entity
import Harvest.Markup.Insertion
import Harvest.Markup.Token
import Harvest.Number.Decimal
import Harvest.Number.Exact
import Harvest.Number.Shortest
import Harvest.Pattern.Basic
import Harvest.Pattern.Class
import Harvest.Pattern.Parser
import Harvest.Pattern.Program
import Harvest.Pattern.Search
import Harvest.Pattern.Space
import Harvest.Payload
import Harvest.Schema.Basic
import Harvest.Schema.Text
import Harvest.Scrape.Basic
import Harvest.Scrape.Crawl
import Harvest.Scrape.Page
import Harvest.Scrape.Rest
import Harvest.Selector.Basic
import Harvest.Selector.Matching
import Harvest.Selector.Parser
import Harvest.Selector.Token
import Harvest.Stream.Pool
import Harvest.Stream.Schedule
import Harvest.Stream.Subscribers
import Harvest.Template.Basic
import Harvest.Template.Helper
import Harvest.Template.Parser
import Harvest.Template.Render
import Harvest.Template.Scope
import Harvest.Template.Tag
import Harvest.Text.Casing
import Harvest.Text.Category
import Harvest.Text.CharSet
import Harvest.Text.Clean
import Harvest.Text.CodeMap
import Harvest.Text.Composition
import Harvest.Text.Folding
import Harvest.Text.Label
import Harvest.Text.Property
import Harvest.Text.Quoted
import Harvest.Text.Script
import Harvest.Text.SequenceMap
import Harvest.Text.Split
import Harvest.Text.Utf8
import Harvest.Url.Address
import Harvest.Url.Basic
import Harvest.Url.Direction
import Harvest.Url.Domain
import Harvest.Url.Mapping
import Harvest.Url.Parser
import Harvest.Url.Percent
import Harvest.Url.Punycode
import Harvest.Url.Query
import Harvest.Value
import Harvest.Proofs.Extract.Evaluation
import Harvest.Proofs.Extract.Record
import Harvest.Proofs.Extract.Sealing
import Harvest.Proofs.Scrape.Crawl
import Harvest.Proofs.Text.Clean
import Harvest.Proofs.Text.Label
import Harvest.Proofs.Extract.Conformance
import Harvest.Proofs.Job.Visits
import Harvest.Proofs.Job.Traversal
import Harvest.Proofs.Job.EarlyStop
import Harvest.Proofs.Job.Listing
import Harvest.Proofs.Stream.Step
import Harvest.Proofs.Stream.Subscribers
import Harvest.Proofs.Stream.Wakeup
import Harvest.Proofs.Stream.Tasks
import Harvest.Proofs.Stream.Turns
import Harvest.Proofs.Stream.Handover
import Harvest.Proofs.Stream.Ledger
import Harvest.Proofs.Scrape.Limit
import Harvest.Proofs.Scrape.Loop
import Harvest.Proofs.Number.Decimal
import Harvest.Proofs.Json.ReadBack
import Harvest.Proofs.Json.Yields
import Harvest.Proofs.Schema.RoundTrip
import Harvest.Proofs.Text.Split
import Harvest.Proofs.Text.Utf8
import Harvest.Proofs.Url.Query
import Harvest.Proofs.Url.Tail
import Harvest.Proofs.Url.Written
import Harvest.Proofs.Url.Hierarchy
import Harvest.Proofs.Url.Reparse
import Harvest.Proofs.Template.Increment
import Harvest.Proofs.Scrape.Numbered
import Harvest.Proofs.Scrape.Session
import Harvest.Proofs.Extract.Selection
import Harvest.Proofs.Job.Rows
import Harvest.Proofs.Job.Address
import Harvest.Proofs.Job.Succession
import Harvest.Proofs.Job.Direct
import Harvest.Proofs.Job.Outlet
import Harvest.Proofs.Job.Delivery
import Harvest.Proofs.Url.Settle
import Harvest.Proofs.Template.SetQuery
import Harvest.Proofs.Markup.Tree
import Harvest.Proofs.Selector.Scope
import Harvest.Proofs.Extract.Find
import Harvest.Proofs.Text.Normal
import Harvest.Proofs.Extract.Grouping
import Harvest.Proofs.Extract.Entries
import Harvest.Proofs.Job.Missing
import Harvest.Proofs.Text.Trim
import Harvest.Proofs.Pattern.Groups
import Harvest.Proofs.Pattern.Space
import Harvest.Proofs.Extract.Capture
import Harvest.Proofs.Extract.LongText
import Harvest.Proofs.Json.Lookup
import Harvest.Proofs.Value
import Harvest.Proofs.Number.Rounding
import Harvest.Proofs.Scrape.Total
import Harvest.Proofs.Stream.Attendance
import Harvest.Proofs.Text.Table
import Harvest.Proofs.Text.Casing
import Harvest.Proofs.Number.Integer
