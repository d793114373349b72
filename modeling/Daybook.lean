import Daybook.Text.Collation
import Daybook.Text.Letter
import Daybook.Text.Quoted
import Daybook.Number.Decimal
import Daybook.Pattern
import Daybook.Amount.Format
import Daybook.Journal.Line
import Daybook.Journal.Tag
import Daybook.Journal.Token
import Daybook.Journal.LineTokens
import Daybook.Completion.Context
import Daybook.Completion.Prompt
import Daybook.Builder.Feed
import Daybook.Snapshot.Merge
import Daybook.Snapshot.Query
import Daybook.Search.Matcher
import Daybook.Settings
import Daybook.Project.Summary
import Daybook.Cli.Run
import Daybook.Main
import Daybook.Proofs.Table
import Daybook.Proofs.Pattern
import Daybook.Proofs.Pattern.Leaves
import Daybook.Proofs.Text.Trim
import Daybook.Proofs.Text.Split
import Daybook.Proofs.Text.Utf8
import Daybook.Proofs.Journal.Form
import Daybook.Proofs.Journal.Marks
import Daybook.Proofs.Journal.Heading
import Daybook.Proofs.Journal.PostingLine
import Daybook.Proofs.Journal.Columns
import Daybook.Proofs.Number.Decimal
import Daybook.Proofs.Amount.Overflow
import Daybook.Proofs.Amount.Sample
import Daybook.Proofs.Builder.Outcome
import Daybook.Proofs.Builder.Lines
import Daybook.Proofs.Builder.Portions
import Daybook.Proofs.Snapshot.Entries
import Daybook.Proofs.Snapshot.Reachable
import Daybook.Proofs.Snapshot.Absorb
import Daybook.Proofs.Snapshot.Recount
import Daybook.Proofs.Template.Ring
import Daybook.Proofs.Template.Store
import Daybook.Proofs.Snapshot.Templates
import Daybook.Proofs.Snapshot.Joined
import Daybook.Proofs.Builder.Simulation
import Daybook.Proofs.Builder.Concatenation
import Daybook.Proofs.Builder.Safety
import Daybook.Proofs.Builder.Effect
import Daybook.Proofs.Builder.Blocks
import Daybook.Proofs.Builder.Days
import Daybook.Proofs.Snapshot.Agreement
import Daybook.Proofs.Snapshot.Merging
import Daybook.Proofs.Snapshot.Fingerprint
import Daybook.Proofs.Snapshot.Remerge
import Daybook.Proofs.Snapshot.Pooled
import Daybook.Proofs.Snapshot.Formats
import Daybook.Proofs.Snapshot.Totals
import Daybook.Proofs.Snapshot.Names
import Daybook.Proofs.Snapshot.Apart
import Daybook.Proofs.Disk.Basic
import Daybook.Proofs.Project.Include
import Daybook.Proofs.Project.Pass
import Daybook.Proofs.Project.Parallel
import Daybook.Proofs.Project.History
import Daybook.Proofs.Project.Freshness
import Daybook.Proofs.Project.Reach
import Daybook.Proofs.Project.Request
import Daybook.Proofs.Project.Search
import Daybook.Proofs.Project.Counted
import Daybook.Proofs.Project.Abandon
import Daybook.Proofs.Search.Matcher
import Daybook.Proofs.Search.Calls
import Daybook.Proofs.Completion.Engine
import Daybook.Proofs.Completion.Cap
import Daybook.Proofs.Completion.Origin
import Daybook.Proofs.Completion.Header
import Daybook.Proofs.Completion.Commodity
import Daybook.Proofs.Completion.Dates
import Daybook.Proofs.Completion.Query
import Daybook.Proofs.Completion.Replaced
import Daybook.Proofs.Amount.ExplicitMark
import Daybook.Proofs.Template.Readback
import Daybook.Proofs.Builder.Sample
import Daybook.Proofs.Builder.Header
import Daybook.Proofs.Number.Padded
import Daybook.Proofs.Calendar.Written
import Daybook.Proofs.Calendar.Iso
import Daybook.Proofs.Calendar.Order
import Daybook.Proofs.Snapshot.Redated
import Daybook.Proofs.Builder.Orders
import Daybook.Proofs.Snapshot.LastDate
import Daybook.Proofs.Builder.Withheld
import Daybook.Proofs.Template.Greatest
import Daybook.Proofs.Snapshot.TopTemplates
import Daybook.Proofs.Builder.Includes
import Daybook.Proofs.Snapshot.TemplateOrder
import Daybook.Proofs.Completion.Snippets
import Daybook.Proofs.Completion.AmountEnd
import Daybook.Proofs.Text.Casing
import Daybook.Proofs.Completion.Remainder
import Daybook.Proofs.Journal.OpenTag
import Daybook.Proofs.Journal.LineTags
import Daybook.Proofs.Snapshot.TagTexts
import Daybook.Proofs.Completion.TagValues
import Daybook.Proofs.Template.Key
import Daybook.Proofs.Template.Replay
import Daybook.Proofs.Template.RingCalls
import Daybook.Proofs.Template.RingMemory
import Daybook.Proofs.Snapshot.RecentUse
import Daybook.Proofs.Text.Lowered
import Daybook.Proofs.Settings
import Daybook.Proofs.Disk.Marks
import Daybook.Proofs.Disk.Expansion
import Daybook.Proofs.Project.Watch
