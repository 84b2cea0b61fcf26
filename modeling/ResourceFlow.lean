import ResourceFlow.Rehearsal.Scenario
import ResourceFlow.Rehearsal.Trial
import ResourceFlow.Settings
import ResourceFlow.Proofs.Engine.Instances
import ResourceFlow.Proofs.Engine.Moves
import ResourceFlow.Proofs.Engine.Effects
import ResourceFlow.Proofs.World.Occupancy
import ResourceFlow.Proofs.Program.Attempts
import ResourceFlow.Proofs.World.Cancellation
import ResourceFlow.Engine.Threads
import ResourceFlow.Proofs.Engine.Threads
import ResourceFlow.Proofs.Engine.Endings
import ResourceFlow.Proofs.Engine.Progress
import ResourceFlow.Proofs.Flows.BuiltIn
import ResourceFlow.Proofs.Flows.Termination
import ResourceFlow.Proofs.World.Lifecycle
import ResourceFlow.Proofs.World.AuditTrail
import ResourceFlow.Proofs.Engine.Account
import ResourceFlow.Proofs.World.Account
import ResourceFlow.Proofs.World.Marks
import ResourceFlow.Proofs.Flows.DeletionOrder
import ResourceFlow.Proofs.Flows.UpscaleOutcome
import ResourceFlow.Proofs.Polling.Timing
import ResourceFlow.Proofs.World.Targets
import ResourceFlow.Proofs.World.Routing
import ResourceFlow.Proofs.Program.Confined
import ResourceFlow.Proofs.Flows.Confined
import ResourceFlow.Proofs.Registry.Mirrors
import ResourceFlow.Proofs.Engine.Mirrors
import ResourceFlow.Proofs.World.Mirrors
import ResourceFlow.Proofs.World.Isolation
import ResourceFlow.Proofs.World.Closing
import ResourceFlow.Proofs.Flows.DiagnosticsOutcome
import ResourceFlow.Proofs.Flows.Repetition
import ResourceFlow.Proofs.Service.EnvironmentOutcome
import ResourceFlow.Proofs.Service.DeletionInquiries
import ResourceFlow.Proofs.Service.Visits
import ResourceFlow.Proofs.Service.Deletions
import ResourceFlow.Proofs.Program.Likeness
import ResourceFlow.Proofs.Engine.Likeness
import ResourceFlow.Proofs.World.Likeness
import ResourceFlow.Proofs.Flows.Secrecy
import ResourceFlow.Proofs.Engine.Standing
import ResourceFlow.Proofs.World.Standing
import ResourceFlow.Proofs.World.Parking
import ResourceFlow.Proofs.World.Arrivals
import ResourceFlow.Proofs.World.Results
import ResourceFlow.Proofs.World.Precedence
import ResourceFlow.Proofs.Flow.Lineage
import ResourceFlow.Proofs.World.Provenance
import ResourceFlow.Proofs.Flows.Lineage
import ResourceFlow.Proofs.World.Turns
import ResourceFlow.Proofs.Engine.Memory
import ResourceFlow.Proofs.World.Memory
import ResourceFlow.Proofs.World.CancelAnswers
import ResourceFlow.Proofs.World.Retirement
import ResourceFlow.Proofs.World.LateCalls
import ResourceFlow.Proofs.Program.GivesWay
import ResourceFlow.Proofs.World.GivingWay
import ResourceFlow.Proofs.World.Latency
import ResourceFlow.Proofs.Flows.CancelLatency
import ResourceFlow.Proofs.World.Refusals
import ResourceFlow.Proofs.Flows.DeletionOutcome
import ResourceFlow.Proofs.Settings.Reading
import ResourceFlow.Proofs.Polling.Budget
import ResourceFlow.Proofs.Data.Sets
import ResourceFlow.Proofs.Cluster.Filtering
import ResourceFlow.Proofs.Data.RoundTrip
import ResourceFlow.Proofs.Registry.Claims
import ResourceFlow.Proofs.Flow.Chains
import ResourceFlow.Proofs.Program.Link
import ResourceFlow.Proofs.Program.Calls
import ResourceFlow.Proofs.Flow.Embedding
import ResourceFlow.Proofs.Engine.Embedding
import ResourceFlow.Proofs.World.Embedding
import ResourceFlow.Proofs.Flows.Keyless
import ResourceFlow.Proofs.Flows.Shared
import ResourceFlow.Proofs.Rehearsal.Sharing
