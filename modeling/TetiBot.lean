import TetiBot.Library.Program
import TetiBot.Library.Async
import TetiBot.Library.Focus
import TetiBot.Library.Utf16
import TetiBot.Library.Json
import TetiBot.Library.JsonText
import TetiBot.Library.TextStream
import TetiBot.Library.JsonData
import TetiBot.Library.Transition
import TetiBot.Library.Register
import TetiBot.Library.OrderedMap
import TetiBot.Library.Coupled
import TetiBot.Library.Collation
import TetiBot.Library.Relational
import TetiBot.Library.Framing
import TetiBot.Core.Types
import TetiBot.Core.Delegation
import TetiBot.Core.Transport
import TetiBot.Core.Validation
import TetiBot.Core.Dates
import TetiBot.Core.RequestData
import TetiBot.Callable.ExecutionStore
import TetiBot.Callable.Registry
import TetiBot.Callable.HandleCapacity
import TetiBot.Callable.Checkpoints
import TetiBot.Callable.Authority
import TetiBot.Callable.Adapter
import TetiBot.Callable.Execution
import TetiBot.Callable.Kernel
import TetiBot.Callable.Moves
import TetiBot.Callable.SingleUse
import TetiBot.Callable.Queues
import TetiBot.Callable.Scheduled
import TetiBot.Callable.Scheduling
import TetiBot.Tasks.Store
import TetiBot.Tasks.Record
import TetiBot.Tasks.Session
import TetiBot.Tasks.Commands
import TetiBot.Tasks.Changes
import TetiBot.Tasks.World
import TetiBot.Tasks.Outbox
import TetiBot.Tasks.Execution
import TetiBot.Tasks.Upkeep
import TetiBot.Tasks.Inbound
import TetiBot.Tasks.Owner
import TetiBot.Tasks.Operations
import TetiBot.Tasks.Outline
import TetiBot.Tasks.ReadModel
import TetiBot.Tasks.Expiry
import TetiBot.Tasks.Artifacts
import TetiBot.Tasks.Statuses
import TetiBot.Tasks.Leases
import TetiBot.Callable.Cancellation
import TetiBot.Relationships.Types
import TetiBot.Relationships.Service
import TetiBot.Relationships.Frames
import TetiBot.Relationships.Pending
import TetiBot.Relationships.Commands
import TetiBot.Relationships.Reconciliation
import TetiBot.Workspaces.Types
import TetiBot.Workspaces.Store
import TetiBot.Workspaces.Atomicity
import TetiBot.Workspaces.Concurrency
import TetiBot.Workspaces.Directories
import TetiBot.Workspaces.Isolation
import TetiBot.Passport.Content
import TetiBot.Passport.Merge
import TetiBot.Passport.Validity
import TetiBot.Passport.Projection
import TetiBot.Passport.Capabilities
import TetiBot.Passport.Protocol
import TetiBot.Passport.Labels
import TetiBot.Passport.Sharing
import TetiBot.Passport.Payload
import TetiBot.Library.Lanes
import TetiBot.Connections.Convergence
import TetiBot.Connections.Inbound
import TetiBot.Connections.Queues
import TetiBot.Tasks.ReadCache
import TetiBot.Tasks.Counts
import TetiBot.Memory.Isolation
import TetiBot.Memory.Bounds
import TetiBot.Memory.Budget
import TetiBot.Runtime.ProfileLock
import TetiBot.Runtime.Presence
import TetiBot.Network.Profile
import TetiBot.Network.Relay
import TetiBot.Network.Identity
import TetiBot.Runtime.Creation
import TetiBot.Connections.Mailbox
import TetiBot.Chatmail.StdioTransport
import TetiBot.Runtime.HostScheduling
import TetiBot.Runtime.Wakeups
import TetiBot.Runtime.AgentOverrides
import TetiBot.Desktop.Correlation
import TetiBot.Runtime.ReleaseFloor
import TetiBot.Desktop.MigrationConvergence
import TetiBot.Desktop.FirstLaunchRuns
import TetiBot.Core.Precedence
import TetiBot.Passport.PeerCapabilities
import TetiBot.Tasks.Capacity
import TetiBot.Tasks.StagePrompt
import TetiBot.Memory.Restore
import TetiBot.Memory.Expiry
import TetiBot.Memory.Openings
import TetiBot.Memory.Replay
import TetiBot.Memory.Envelopes
import TetiBot.Workspaces.Enumeration
import TetiBot.Tasks.PeerVersions
import TetiBot.Callable.Rejection
import TetiBot.Callable.ExactRecords
import TetiBot.Tasks.Images
import TetiBot.Tasks.ImageMetadata
import TetiBot.Tasks.Resend
