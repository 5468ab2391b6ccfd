import Containment.Concurrency.Interleaving
import Containment.Concurrency.Execution
import Containment.Models.CanonicalText
import Containment.Json.Codec
import Containment.Models.Encoding
import Containment.Models.Fields
import Containment.Models.Envelope
import Containment.Models.Manifest
import Containment.Models.Event
import Containment.Models.Receipt
import Containment.Runtime.Policy
import Containment.Runtime.State
import Containment.Auditor.Verify
import Containment.Auditor.Protocol
import Containment.Auditor.Stream
import Containment.Auditor.Soundness
import Containment.Runtime.Witness
import Containment.Auditor.Agreement
import Containment.Runtime.Evidence
import Containment.Runtime.Shared
import Containment.Runtime.Supervisor
import Containment.Runtime.Gateway
import Containment.Runtime.Executor
import Containment.Runtime.Steps
import Containment.Runtime.Calls
import Containment.Runtime.Barrier
import Containment.Json.Size
import Containment.Models.Capacity
import Containment.Models.Signing
import Containment.Auditor.Acceptance
import Containment.Auditor.Closing
import Containment.Reference.Platform
import Containment.Reference.Factory
import Containment.Reference.Bundle
import Containment.Reference.Requests
import Containment.Runtime.Payloads
import Containment.Runtime.Commit
import Containment.Auditor.Terminal
import Containment.Auditor.Acknowledgement
import Containment.Runtime.Outage
import Containment.Runtime.AfterKill
import Containment.Reference.Submission
import Containment.Runtime.SideCode
import Containment.Reference.Dispatching
import Containment.Runtime.Counting
import Containment.Runtime.RequestIds
import Containment.Runtime.Expiry
import Containment.Runtime.ClockOrder
import Containment.Runtime.Latching
import Containment.Reference.Completion
import Containment.Runtime.ReceiptCounts
import Containment.Runtime.Budgets
import Containment.Runtime.Isolation
import Containment.Runtime.Coherence
import Containment.Runtime.LatchFirst
import Containment.Runtime.ReceiptStatus
import Containment.Runtime.Completing
import Containment.Auditor.Keys
import Containment.Models.NormalForm
import Containment.Models.Separation
import Containment.Runtime.CompletedDispatches
import Containment.Runtime.Registration
import Containment.Runtime.Cancellation
import Containment.Runtime.AcknowledgedReceipts
import Containment.Runtime.MirrorChain
import Containment.Chain.HashChain
import Containment.Runtime.LedgerRuns
import Containment.Runtime.WriteAhead
import Containment.Rate.FixedWindow
import Containment.Runtime.Admission
import Containment.Concurrency.Threads
import Containment.Runtime.FailedDispatch
import Containment.Runtime.FinalRoots
import Containment.Runtime.EvidenceFile
import Containment.Json.Normalization
import Containment.Models.Recognition
import Containment.Text.Segments
import Containment.Runtime.Paths
import Containment.Models.Spelling
import Containment.Text.Lexicographic
import Containment.Models.Timestamps
import Containment.Models.JsonProfile
import Containment.Runtime.RuleNames
import Containment.Models.FieldErrors
import Containment.Concurrency.Outcomes
import Containment.Runtime.ClockRange
import Containment.Runtime.KilledRuns
import Containment.Concurrency.Trace
import Containment.Concurrency.Typestate
import Containment.Runtime.Walk
import Containment.Runtime.Locks
import Containment.Runtime.Mediation
import Containment.Runtime.Leases
import Containment.Runtime.RuleBudgets
import Containment.Concurrency.Serving
import Containment.Runtime.Adapter
