import SeedStream.Number.Binary
import SeedStream.Number.Decimal
import SeedStream.Bytes
import SeedStream.Text
import SeedStream.Text.Utf8
import SeedStream.FileTree
import SeedStream.Error
import SeedStream.Time.Calendar
import SeedStream.Time.Timestamp
import SeedStream.Time.BinaryTime
import SeedStream.SampleRate
import SeedStream.Channel.Key
import SeedStream.Channel.Aliases
import SeedStream.BlockPool
import SeedStream.Segment
import SeedStream.Segment.Merge
import SeedStream.Assembly
import SeedStream.Coverage
import SeedStream.Selection.Quality
import SeedStream.Record.Fault
import SeedStream.Record.Field
import SeedStream.Record.Blockette
import SeedStream.Record.Header
import SeedStream.Record.Payload
import SeedStream.Record.Draft
import SeedStream.Framing.Reader
import SeedStream.Framing.Framer
import SeedStream.Unicode.Ranges
import SeedStream.Unicode.Category
import SeedStream.Unicode.Script
import SeedStream.Unicode.CaseFold
import SeedStream.Unicode.Property
import SeedStream.Unicode.Later
import SeedStream.Unicode.Age
import SeedStream.Unicode.ScriptSet
import SeedStream.Unicode.Named
import SeedStream.Pattern.CharSet
import SeedStream.Pattern.BreakClass
import SeedStream.Pattern.CharClass
import SeedStream.Pattern.Boundary
import SeedStream.Pattern.Expression
import SeedStream.Pattern.ByteSequence
import SeedStream.Pattern.Layout
import SeedStream.Pattern.Machine
import SeedStream.Pattern.Scanner
import SeedStream.Pattern.Escape
import SeedStream.Pattern.Bracket
import SeedStream.Pattern.Parser
import SeedStream.Selection.Channels
import SeedStream.Toml.Value
import SeedStream.Toml.Reading
import SeedStream.Toml.DateTime
import SeedStream.Toml.Scalar
import SeedStream.Toml.Table
import SeedStream.Toml.Line
import SeedStream.Toml.Document
import SeedStream.Settings
import SeedStream.Processing.Channel
import SeedStream.Processing.Setup
import SeedStream.Processing.Processor
import SeedStream.Splitting
import SeedStream.Report.Json
import SeedStream.Report.Structure
import SeedStream.Report.Inspection
import SeedStream.Report.Text
import SeedStream.CommandLine.Arguments
import SeedStream.CommandLine.Command
import SeedStream.CommandLine.Run
import SeedStream.Main
import SeedStream.Proofs.Storage.Pool
import SeedStream.Proofs.Storage.Samples
import SeedStream.Proofs.Number.Nearest
import SeedStream.Proofs.SampleRate.Decade
import SeedStream.Proofs.SampleRate.Interval
import SeedStream.Proofs.Segment.Merging
import SeedStream.Proofs.Segment.Reachable
import SeedStream.Proofs.Segment.Grid
import SeedStream.Proofs.Segment.Words
import SeedStream.Proofs.Segment.Decision
import SeedStream.Proofs.Segment.Windows
import SeedStream.Proofs.Segment.Extract
import SeedStream.Proofs.Assembly.Fold
import SeedStream.Proofs.Assembly.Words
import SeedStream.Proofs.Processing.Continuity
import SeedStream.Proofs.Processing.Drift
import SeedStream.Proofs.Assembly.Runs
import SeedStream.Proofs.Assembly.Earliest
import SeedStream.Proofs.Channel.Order
import SeedStream.Proofs.Processing.Reassembly
import SeedStream.Proofs.Framing.Stopping
import SeedStream.Proofs.Framing.Tiling
import SeedStream.Proofs.Record.Located
import SeedStream.Proofs.Record.Texts
import SeedStream.Proofs.Record.Layout
import SeedStream.Proofs.Time.Calendar
import SeedStream.Proofs.Time.RoundTrip
import SeedStream.Proofs.Record.Draft
import SeedStream.Proofs.Record.Words
import SeedStream.Proofs.Record.Payload
import SeedStream.Proofs.Record.RoundTrip
import SeedStream.Proofs.Record.Heads
import SeedStream.Proofs.Framing.RoundTrip
import SeedStream.Proofs.Coverage.Gaps
import SeedStream.Proofs.Coverage.Intersection
import SeedStream.Proofs.Record.Chain
import SeedStream.Proofs.Framing.Announced
import SeedStream.Proofs.Processing.Interleaving
import SeedStream.Proofs.Processing.Intake
import SeedStream.Proofs.Channel.Alike
import SeedStream.Proofs.Processing.Isolation
import SeedStream.Proofs.Processing.Skipped
import SeedStream.Proofs.Assembly.Spacing
import SeedStream.Proofs.Coverage.Stretches
import SeedStream.Proofs.Coverage.Assembled
import SeedStream.Proofs.Coverage.Extraction
import SeedStream.Proofs.Processing.Accounting
import SeedStream.Proofs.Processing.Unbroken
import SeedStream.Proofs.Framing.Concatenation
import SeedStream.Proofs.Framing.Delivery
import SeedStream.Proofs.Framing.Screening
import SeedStream.Proofs.Record.Parsing
import SeedStream.Proofs.Record.Reversal
import SeedStream.Proofs.Record.StartTime
import SeedStream.Proofs.Record.Walk
import SeedStream.Proofs.Record.Twin
import SeedStream.Proofs.Framing.Buffer
import SeedStream.Proofs.Segment.Extent
import SeedStream.Proofs.Assembly.Meetings
import SeedStream.Proofs.Processing.Extent
import SeedStream.Proofs.Segment.Contents
import SeedStream.Proofs.Assembly.Orders
import SeedStream.Proofs.Assembly.Settled
import SeedStream.Proofs.Assembly.Components
import SeedStream.Proofs.Assembly.Placement
import SeedStream.Proofs.Record.Acceptance
import SeedStream.Proofs.Time.Order
import SeedStream.Proofs.Framing.Cancellation
import SeedStream.Proofs.Processing.Sides
import SeedStream.Proofs.Channel.Name
import SeedStream.Proofs.Text.Parts
import SeedStream.Proofs.Selection.Quality
import SeedStream.Proofs.Coverage.Uncovered
import SeedStream.Proofs.Channel.Identity
import SeedStream.Proofs.Storage.Compaction
import SeedStream.Proofs.Storage.Usage
import SeedStream.Proofs.SampleRate.Order
