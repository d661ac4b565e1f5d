import Dialogue.Call.Change
import Dialogue.Call.Engine
import Dialogue.Call.Event
import Dialogue.Call.Handling
import Dialogue.Call.State
import Dialogue.Call.View
import Dialogue.Chat
import Dialogue.Command.Argument
import Dialogue.Command.Run
import Dialogue.Command.Usage
import Dialogue.Decimal.Notation
import Dialogue.Decimal.Read
import Dialogue.Decimal.Shortest
import Dialogue.Draft.Generation
import Dialogue.Draft.Prompt
import Dialogue.Draft.Reply
import Dialogue.Draft.Shape
import Dialogue.Flow.Basic
import Dialogue.Flow.Decode
import Dialogue.Flow.Encode
import Dialogue.Flow.Template
import Dialogue.Flow.Validation
import Dialogue.Intent.Match
import Dialogue.Intent.Reply
import Dialogue.Intent.Resolver
import Dialogue.Intent.Routing
import Dialogue.Json.Plain
import Dialogue.Json.Reader
import Dialogue.Json.Value
import Dialogue.Json.Writer
import Dialogue.Layout.Animation
import Dialogue.Layout.Digraph
import Dialogue.Layout.Length
import Dialogue.Layout.Ordering
import Dialogue.Layout.Placement
import Dialogue.Limits
import Dialogue.Log
import Dialogue.Lookup.Context
import Dialogue.Lookup.Exchange
import Dialogue.Lookup.Path
import Dialogue.Main
import Dialogue.Marker
import Dialogue.Schema.Checked
import Dialogue.Schema.Fault
import Dialogue.Schema.Record
import Dialogue.Schema.Scalar
import Dialogue.Script
import Dialogue.Service.Answer
import Dialogue.Service.Request
import Dialogue.Service.Route
import Dialogue.Session.Manager
import Dialogue.Session.Registry
import Dialogue.Session.Switchboard
import Dialogue.Settings
import Dialogue.Text.Blank
import Dialogue.Text.Case
import Dialogue.Text.CaseTable
import Dialogue.Text.Digit
import Dialogue.Text.Fence
import Dialogue.Text.HiddenTable
import Dialogue.Text.Percent
import Dialogue.Text.Quoted
import Dialogue.Text.Search
import Dialogue.Proofs.Text.Trimming
import Dialogue.Proofs.Text.Marking
import Dialogue.Proofs.Flow.Soundness
import Dialogue.Proofs.Flow.Choices
import Dialogue.Proofs.Call.Handling
import Dialogue.Proofs.Call.Carrying
import Dialogue.Proofs.Call.Run
import Dialogue.Proofs.Call.Effect
import Dialogue.Proofs.Call.Provenance
import Dialogue.Proofs.Call.Overtaking
import Dialogue.Proofs.Call.Alike
import Dialogue.Proofs.Call.Isolation
import Dialogue.Proofs.Call.Branching
import Dialogue.Proofs.Call.Ending
import Dialogue.Proofs.Call.Scheduling
import Dialogue.Proofs.Call.Life
import Dialogue.Proofs.Call.Recording
import Dialogue.Proofs.Call.Mirroring
import Dialogue.Proofs.Call.Path
import Dialogue.Proofs.Call.Awaiting
import Dialogue.Proofs.Script.Coverage
import Dialogue.Proofs.Call.Following
import Dialogue.Proofs.Call.Scripted
import Dialogue.Proofs.Call.Naming
import Dialogue.Proofs.Call.Abreast
import Dialogue.Proofs.Call.Pacing
import Dialogue.Proofs.Call.Seeking
import Dialogue.Proofs.Call.Tracing
import Dialogue.Proofs.Call.Injecting
import Dialogue.Proofs.Decimal.Order
import Dialogue.Proofs.Decimal.Rounding
import Dialogue.Proofs.Decimal.Range
import Dialogue.Proofs.Intent.Confidence
import Dialogue.Proofs.Text.Fencing
import Dialogue.Proofs.Json.Reading
import Dialogue.Proofs.Intent.Tiers
import Dialogue.Proofs.Json.Writing
import Dialogue.Proofs.Intent.Copying
import Dialogue.Proofs.Lookup.Walking
import Dialogue.Proofs.Draft.Answering
import Dialogue.Proofs.Lookup.Settling
import Dialogue.Proofs.Flow.Breaches
import Dialogue.Proofs.Layout.Placing
import Dialogue.Proofs.Draft.Keeping
import Dialogue.Proofs.Session.Overlap
import Dialogue.Proofs.Session.Expiring
import Dialogue.Proofs.Session.Managing
import Dialogue.Proofs.Schema.Reading
import Dialogue.Proofs.Flow.Slots
import Dialogue.Proofs.Flow.Storing
import Dialogue.Proofs.Layout.Moving
import Dialogue.Proofs.Layout.Presentation
import Dialogue.Proofs.Script.Preorder
import Dialogue.Proofs.Call.Shapes
import Dialogue.Proofs.Session.Queueing
import Dialogue.Proofs.Layout.Descending
import Dialogue.Proofs.Layout.Turning
import Dialogue.Proofs.Layout.Ranking
import Dialogue.Proofs.Layout.Layering
import Dialogue.Proofs.Layout.Heading
import Dialogue.Proofs.Layout.Levelling
import Dialogue.Proofs.Flow.Saying
import Dialogue.Proofs.Call.Routing
import Dialogue.Proofs.Call.Speaking
import Dialogue.Proofs.Call.Transcribing
import Dialogue.Proofs.Text.Erasing
import Dialogue.Proofs.Text.Rejoining
import Dialogue.Proofs.Intent.Choosing
import Dialogue.Proofs.Json.Grammar
import Dialogue.Proofs.Draft.Unfencing
import Dialogue.Proofs.Layout.Climbing
import Dialogue.Proofs.Lookup.Composing
import Dialogue.Proofs.Lookup.Filling
import Dialogue.Proofs.Lookup.Relaying
