import BoardSearch.Calendar.Date
import BoardSearch.Calendar.Layout.Basic
import BoardSearch.Calendar.Layout.Matching
import BoardSearch.Calendar.Layout.Parts
import BoardSearch.Calendar.Layout.Search
import BoardSearch.Calendar.Moment
import BoardSearch.Calendar.Timestamp
import BoardSearch.CommandLine.Arguments
import BoardSearch.CommandLine.Program
import BoardSearch.CommandLine.Script
import BoardSearch.Compiler.Basic
import BoardSearch.Compiler.Operation
import BoardSearch.Complaint
import BoardSearch.Failure
import BoardSearch.Index
import BoardSearch.Json.Basic
import BoardSearch.Json.Document
import BoardSearch.Json.Options
import BoardSearch.Json.Reader
import BoardSearch.Json.Writer
import BoardSearch.Keyed
import BoardSearch.Log.Event
import BoardSearch.Log.Level
import BoardSearch.Log.Line
import BoardSearch.Log.Record
import BoardSearch.Log.Setup
import BoardSearch.Log.Timing
import BoardSearch.Main
import BoardSearch.Number.Binary64
import BoardSearch.Number.Places
import BoardSearch.Number.Shortest
import BoardSearch.Order.Resolution
import BoardSearch.Order.Scoring
import BoardSearch.Order.Sort
import BoardSearch.Order.Token
import BoardSearch.Proofs.Breaking
import BoardSearch.Proofs.Calendar.Disjoint
import BoardSearch.Proofs.Calendar.Layout
import BoardSearch.Proofs.Calendar.Order
import BoardSearch.Proofs.Calendar.Utc
import BoardSearch.Proofs.Calendar.Writing
import BoardSearch.Proofs.CommandLine.Script
import BoardSearch.Proofs.Compiler.Agreement
import BoardSearch.Proofs.Compiler.Appending
import BoardSearch.Proofs.Compiler.Base
import BoardSearch.Proofs.Compiler.Body
import BoardSearch.Proofs.Compiler.Breaking
import BoardSearch.Proofs.Compiler.Comparison
import BoardSearch.Proofs.Compiler.Exclusion
import BoardSearch.Proofs.Compiler.Filtering
import BoardSearch.Proofs.Compiler.History
import BoardSearch.Proofs.Compiler.Listing
import BoardSearch.Proofs.Compiler.Negation
import BoardSearch.Proofs.Compiler.Recording
import BoardSearch.Proofs.Compiler.Refusal
import BoardSearch.Proofs.Compiler.Result
import BoardSearch.Proofs.Compiler.Tags
import BoardSearch.Proofs.Compiler.Truncation
import BoardSearch.Proofs.Compiler.Union
import BoardSearch.Proofs.Compiler.Visibility
import BoardSearch.Proofs.Json.Digits
import BoardSearch.Proofs.Json.Escaping
import BoardSearch.Proofs.Json.Grammar
import BoardSearch.Proofs.Json.NonFinite
import BoardSearch.Proofs.Json.Numeral
import BoardSearch.Proofs.Json.OneLine
import BoardSearch.Proofs.Json.Reading
import BoardSearch.Proofs.Json.ReadingBack
import BoardSearch.Proofs.Json.Soundness
import BoardSearch.Proofs.Json.Writing
import BoardSearch.Proofs.Log.Line
import BoardSearch.Proofs.Number.Leading
import BoardSearch.Proofs.Number.Rounding
import BoardSearch.Proofs.Number.Shortest
import BoardSearch.Proofs.Order.Direction
import BoardSearch.Proofs.Order.Grammar
import BoardSearch.Proofs.Order.Resolution
import BoardSearch.Proofs.Order.Token
import BoardSearch.Proofs.Outcome
import BoardSearch.Proofs.Query.Conjunction
import BoardSearch.Proofs.Query.Document
import BoardSearch.Proofs.Query.Intersection
import BoardSearch.Proofs.Query.Meaning
import BoardSearch.Proofs.Query.Post
import BoardSearch.Proofs.Query.Values
import BoardSearch.Proofs.Relation.Admission
import BoardSearch.Proofs.Relation.Breaking
import BoardSearch.Proofs.Relation.Comparison
import BoardSearch.Proofs.Relation.Listing
import BoardSearch.Proofs.Relation.Membership
import BoardSearch.Proofs.Relation.Opposition
import BoardSearch.Proofs.Relation.Range
import BoardSearch.Proofs.Relation.Reading
import BoardSearch.Proofs.Relation.Single
import BoardSearch.Proofs.Relation.Splitting
import BoardSearch.Proofs.Request.Agreement
import BoardSearch.Proofs.Request.Breaking
import BoardSearch.Proofs.Request.Changing
import BoardSearch.Proofs.Request.Integer
import BoardSearch.Proofs.Request.Loading
import BoardSearch.Proofs.Request.Reading
import BoardSearch.Proofs.Request.Soundness
import BoardSearch.Proofs.Request.Spelling
import BoardSearch.Proofs.Request.Temporal
import BoardSearch.Proofs.Settings.Checking
import BoardSearch.Proofs.Settings.Loading
import BoardSearch.Proofs.Settings.Merging
import BoardSearch.Proofs.Settings.Reading
import BoardSearch.Proofs.Settings.Reporting
import BoardSearch.Proofs.Text.Case
import BoardSearch.Proofs.Text.Numeral
import BoardSearch.Proofs.Value.Document
import BoardSearch.Proofs.Value.Json
import BoardSearch.Proofs.Wildcard.Canonical
import BoardSearch.Proofs.Wildcard.Escaping
import BoardSearch.Proofs.Wildcard.Marks
import BoardSearch.Proofs.Wildcard.Meaning
import BoardSearch.Proofs.Wildcard.Translation
import BoardSearch.Query.Basic
import BoardSearch.Query.Conjunction
import BoardSearch.Query.Document
import BoardSearch.Query.Kind
import BoardSearch.Query.Reading
import BoardSearch.Relation.Contribution
import BoardSearch.Relation.Filter
import BoardSearch.Relation.Metatag
import BoardSearch.Relation.Range
import BoardSearch.Relation.Status
import BoardSearch.Request.Basic
import BoardSearch.Request.Reading
import BoardSearch.Request.Temporal
import BoardSearch.Search
import BoardSearch.Search.Aggregation
import BoardSearch.Search.Body
import BoardSearch.Session
import BoardSearch.Settings.Checking
import BoardSearch.Settings.Dotenv
import BoardSearch.Settings.Loading
import BoardSearch.Settings.Logging
import BoardSearch.Settings.Query
import BoardSearch.Settings.Refusal
import BoardSearch.Settings.Scalar
import BoardSearch.Settings.Schema
import BoardSearch.Stopwatch
import BoardSearch.Template.Basic
import BoardSearch.Template.Fault
import BoardSearch.Template.Filling
import BoardSearch.Text.Blank
import BoardSearch.Text.Case
import BoardSearch.Text.Case.Table
import BoardSearch.Text.Class
import BoardSearch.Text.Digit
import BoardSearch.Text.Letter
import BoardSearch.Text.Line
import BoardSearch.Text.Numeral
import BoardSearch.Text.Printable
import BoardSearch.Text.Quoted
import BoardSearch.Value.Basic
import BoardSearch.Value.Counted
import BoardSearch.Value.Order
import BoardSearch.Value.Same
import BoardSearch.Value.Shown
import BoardSearch.Value.Timestamp
import BoardSearch.Value.Written
import BoardSearch.Wildcard
