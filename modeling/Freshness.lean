import Freshness.Unicode.Age
import Freshness.Unicode.Boundary
import Freshness.Unicode.CaseFold
import Freshness.Unicode.Category
import Freshness.Unicode.Class
import Freshness.Unicode.Word
import Freshness.Unicode.LowerCase
import Freshness.Unicode.Property
import Freshness.Unicode.Script
import Freshness.Unicode.ScriptExtension
import Freshness.Unicode.Lookup
import Freshness.Unicode.Case
import Freshness.Pattern.Syntax
import Freshness.Pattern.Scan
import Freshness.Text.Blank
import Freshness.Pattern.Parser
import Freshness.Pattern
import Freshness.Options
import Freshness.Duration
import Freshness.Store.Exposition
import Freshness.Log
import Freshness.Failure
import Freshness.Number.Shortest
import Freshness.Number.Reading
import Freshness.Log.Notice
import Freshness.Counters
import Freshness.Policy.Environment
import Freshness.Policy.Layers
import Freshness.Record.Forms
import Freshness.Sync.Turn
import Freshness.Sync
import Freshness.Log.Filter
import Freshness.Log.Line
import Freshness.Log.Start
import Freshness.Sync.Termination
import Freshness.Store.Exposition.Sample
import Freshness.Proofs.Store.Correspondence
import Freshness.Proofs.Sync.Answer
import Freshness.Proofs.Store.Isolation
import Freshness.Proofs.Sync.Report
import Freshness.Proofs.Sync.Aggregate
import Freshness.Proofs.Sync.Completion
import Freshness.Proofs.Sync.Place
import Freshness.Proofs.Sync.Protocol
import Freshness.Proofs.Sync.History
import Freshness.Proofs.Store.Ownership
import Freshness.Proofs.Store.Order
import Freshness.Proofs.Store.Convergence
import Freshness.Proofs.Store.Reading
import Freshness.Proofs.Sync.Clock
import Freshness.Proofs.Sync.Window
import Freshness.Proofs.Sync.Occupancy
import Freshness.Proofs.Sync.Calls
import Freshness.Proofs.Sync.Cancellation
import Freshness.Proofs.Sync.CancelledResult
import Freshness.Proofs.Sync.Alone
import Freshness.Proofs.Sync.Notices
import Freshness.Proofs.Sync.Outcomes
import Freshness.Proofs.Sync.Independence
import Freshness.Proofs.Sync.Conservation
import Freshness.Proofs.Sync.Records
import Freshness.Proofs.Options.Image
import Freshness.Proofs.Sync.Retry
import Freshness.Proofs.Options.Scope
import Freshness.Proofs.Sync.Drafts
import Freshness.Proofs.Sync.Deadline
import Freshness.Proofs.Number.Word
import Freshness.Proofs.Number.Reading
import Freshness.Proofs.Policy.Numbers
import Freshness.Proofs.Failure.Chain
import Freshness.Proofs.Options.Pins
import Freshness.Proofs.Unicode.Case
import Freshness.Proofs.Policy.Variables
