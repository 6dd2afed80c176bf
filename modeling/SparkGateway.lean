import SparkGateway.Batch.Basic
import SparkGateway.Batch.Completion
import SparkGateway.Batch.Driver
import SparkGateway.Batch.LogPage
import SparkGateway.Batch.Snapshot
import SparkGateway.Batch.State
import SparkGateway.Batch.Tail
import SparkGateway.Cluster.Application
import SparkGateway.Cluster.Attempt
import SparkGateway.Cluster.Basic
import SparkGateway.Cluster.Containers
import SparkGateway.Command.Basic
import SparkGateway.Command.Batches
import SparkGateway.Command.Grammar
import SparkGateway.Command.Numbers
import SparkGateway.Command.Perform
import SparkGateway.Command.Relay
import SparkGateway.Command.Sessions
import SparkGateway.Command.Words
import SparkGateway.Decimal.Binary64
import SparkGateway.Decimal.Layout
import SparkGateway.Decimal.Shortest
import SparkGateway.Exchange
import SparkGateway.Exchange.Replies
import SparkGateway.Exchange.Script
import SparkGateway.Exchange.Trace
import SparkGateway.Exchange.Turn
import SparkGateway.Fault
import SparkGateway.Html.Entity
import SparkGateway.Html.EntityNames
import SparkGateway.Html.Event
import SparkGateway.Html.Markup
import SparkGateway.Json.Basic
import SparkGateway.Json.Compact
import SparkGateway.Json.Lookup
import SparkGateway.Json.Named
import SparkGateway.Json.Reader
import SparkGateway.Json.Whole
import SparkGateway.Json.Written
import SparkGateway.Main
import SparkGateway.Number
import SparkGateway.Number.Numeral
import SparkGateway.Page.Basic
import SparkGateway.Page.Builder
import SparkGateway.Page.Cache
import SparkGateway.Page.Loader
import SparkGateway.Polling
import SparkGateway.Reply
import SparkGateway.Session.Basic
import SparkGateway.Session.Snapshot
import SparkGateway.Session.State
import SparkGateway.Session.Work
import SparkGateway.Settings
import SparkGateway.Statement.Basic
import SparkGateway.Statement.Result
import SparkGateway.Terminal.Choice
import SparkGateway.Terminal.Display
import SparkGateway.Terminal.Markup
import SparkGateway.Terminal.Plain
import SparkGateway.Terminal.Progress
import SparkGateway.Terminal.Report
import SparkGateway.Text.Blank
import SparkGateway.Text.CaseTable
import SparkGateway.Text.Casing
import SparkGateway.Text.Digit
import SparkGateway.Text.Printable
import SparkGateway.Text.Quoted
import SparkGateway.Text.Search
import SparkGateway.Timeline
import SparkGateway.Url.Literal
import SparkGateway.Url.Basic
import SparkGateway.Url.Join
import SparkGateway.Workload
import SparkGateway.Proofs.Exchange.Course
import SparkGateway.Proofs.Exchange.Answers
import SparkGateway.Proofs.Exchange.Composed
import SparkGateway.Proofs.Polling.Attempts
import SparkGateway.Proofs.Batch.Status
import SparkGateway.Proofs.Batch.Following
import SparkGateway.Proofs.Batch.FollowedLog
import SparkGateway.Proofs.Batch.Completed
import SparkGateway.Proofs.Batch.Submission
import SparkGateway.Proofs.Session.Operations
import SparkGateway.Proofs.Session.Closing
import SparkGateway.Proofs.Polling.Budget
import SparkGateway.Proofs.Timeline
import SparkGateway.Proofs.Page.History
import SparkGateway.Proofs.Session.Leaving
import SparkGateway.Proofs.Session.Gate
import SparkGateway.Proofs.Statement.Outputs
import SparkGateway.Proofs.Statement.Records
import SparkGateway.Proofs.Batch.Identity
import SparkGateway.Proofs.Session.Identity
import SparkGateway.Proofs.Exchange.Moments
import SparkGateway.Proofs.Batch.GrowingLog
import SparkGateway.Proofs.Url.Site
import SparkGateway.Proofs.Url.Parts
import SparkGateway.Proofs.Cluster.Addresses
import SparkGateway.Proofs.Page.Fetching
import SparkGateway.Proofs.Cluster.Discovery
import SparkGateway.Proofs.Page.Content
import SparkGateway.Proofs.Page.EndTags
import SparkGateway.Proofs.Page.Coherence
import SparkGateway.Proofs.Batch.Inquiries
import SparkGateway.Proofs.Batch.Cancellation
import SparkGateway.Proofs.Command.Waiting
import SparkGateway.Proofs.Command.Reading
import SparkGateway.Proofs.Session.Deadline
import SparkGateway.Proofs.Session.Provenance
import SparkGateway.Proofs.Cluster.Attempts
import SparkGateway.Proofs.Batch.LogPages
import SparkGateway.Proofs.Page.TableOrder
import SparkGateway.Proofs.Batch.DriverHost
import SparkGateway.Proofs.Cluster.AttemptPage
import SparkGateway.Proofs.Cluster.Rediscovery
import SparkGateway.Proofs.Url.Rooted
import SparkGateway.Proofs.Url.Climbing
import SparkGateway.Proofs.Cluster.Spelled
import SparkGateway.Proofs.Cluster.DriverLog
import SparkGateway.Proofs.Cluster.CurrentAttempt
import SparkGateway.Proofs.Terminal.Rows
import SparkGateway.Proofs.Workload.Document
import SparkGateway.Proofs.Decimal.Unpacked
import SparkGateway.Proofs.Number.AtLeastZero
import SparkGateway.Proofs.Settings.Usable
import SparkGateway.Proofs.Command.Reporting
import SparkGateway.Proofs.Command.StateShown
import SparkGateway.Proofs.Command.Killing
import SparkGateway.Proofs.Outcome
import SparkGateway.Proofs.Text.Cuts
import SparkGateway.Proofs.Text.Collapsed
import SparkGateway.Proofs.Workload.Entries
import SparkGateway.Proofs.Settings.Checked
import SparkGateway.Proofs.Page.Records
import SparkGateway.Proofs.Terminal.Labels
