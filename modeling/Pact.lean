import Pact.Agent.Boot
import Pact.Agent.Boot.MountValues
import Pact.Agent.Boot.Shortcut
import Pact.Agent.Boot.Theorems
import Pact.Agent.Capability.CpuInfo
import Pact.Agent.Capability.CpuInfo.Theorems
import Pact.Agent.Capability.CpuList
import Pact.Agent.CertRotation
import Pact.Agent.CertRotation.Theorems
import Pact.Agent.Commit
import Pact.Agent.Commit.Emergency
import Pact.Agent.Commit.Extension
import Pact.Agent.Commit.Theorems
import Pact.Agent.Conflict
import Pact.Agent.Conflict.Theorems
import Pact.Agent.Drift
import Pact.Agent.Drift.Counts
import Pact.Agent.Drift.Globs
import Pact.Agent.Handoff
import Pact.Agent.Handoff.Theorems
import Pact.Agent.Identity
import Pact.Agent.Mounts
import Pact.Agent.Mounts.Leases
import Pact.Agent.Mounts.MountPoints
import Pact.Agent.Mounts.Reconstruction
import Pact.Agent.Mounts.Theorems
import Pact.Agent.Shell
import Pact.Agent.Shell.Arguments
import Pact.Agent.Shell.Auth
import Pact.Agent.Shell.Capture
import Pact.Agent.Shell.Diag
import Pact.Agent.Shell.Diag.Theorems
import Pact.Agent.Shell.Exec
import Pact.Agent.Shell.ExecStream
import Pact.Agent.Shell.GrpcService
import Pact.Agent.Shell.PolicyWhitelist
import Pact.Agent.Shell.Session
import Pact.Agent.Shell.Session.Slots
import Pact.Agent.Shell.Session.Theorems
import Pact.Agent.Shell.Theorems
import Pact.Agent.Shell.Whitelist
import Pact.Agent.Sizes
import Pact.Agent.Subscription
import Pact.Agent.Subscription.Backoff
import Pact.Agent.Subscription.Coverage
import Pact.Agent.Subscription.Theorems
import Pact.Agent.Supervisor
import Pact.Agent.Supervisor.Lemmas
import Pact.Agent.Supervisor.Life
import Pact.Agent.Supervisor.Order
import Pact.Agent.Supervisor.Progress
import Pact.Agent.Supervisor.Recovery
import Pact.Agent.Supervisor.Scopes
import Pact.Agent.Supervisor.SingleProcess
import Pact.Agent.Supervisor.StopHonoured
import Pact.Agent.Supervisor.Watchdog
import Pact.Cli.Apply
import Pact.Cli.Apply.Theorems
import Pact.Cli.Delegate
import Pact.Cli.Import
import Pact.Cli.Import.Theorems
import Pact.Cli.Log
import Pact.Cli.Promote
import Pact.Cli.Promote.Theorems
import Pact.Common.Proto
import Pact.Common.Types
import Pact.Common.UidMap
import Pact.Common.UidMap.Arithmetic
import Pact.Common.UidMap.Theorems
import Pact.Deployment.Configuration
import Pact.Journal.BootService
import Pact.Journal.BootService.BootConfig
import Pact.Journal.BootService.Isolation
import Pact.Journal.BootService.Lemmas
import Pact.Journal.BootService.Ordering
import Pact.Journal.BootService.Theorems
import Pact.Journal.Ca
import Pact.Journal.Ca.Theorems
import Pact.Journal.ConfigService
import Pact.Journal.ConfigService.Listing
import Pact.Journal.ConfigService.Reads
import Pact.Journal.ConfigService.Theorems
import Pact.Journal.EnrollmentService
import Pact.Journal.EnrollmentService.Assignment
import Pact.Journal.EnrollmentService.FailedEnrollment
import Pact.Journal.EnrollmentService.HardwareIndex
import Pact.Journal.EnrollmentService.Lineage
import Pact.Journal.EnrollmentService.Registration
import Pact.Journal.EnrollmentService.Renewal
import Pact.Journal.EnrollmentService.RevokedSerials
import Pact.Journal.EnrollmentService.Signings
import Pact.Journal.EnrollmentService.Theorems
import Pact.Journal.EnrollmentService.Visibility
import Pact.Journal.Heartbeat
import Pact.Journal.Heartbeat.Theorems
import Pact.Journal.PolicyService
import Pact.Journal.PolicyService.Reads
import Pact.Journal.PolicyService.Theorems
import Pact.Journal.RateLimiter
import Pact.Journal.RateLimiter.Lemmas
import Pact.Journal.RateLimiter.Theorems
import Pact.Journal.Replica
import Pact.Journal.Rpc
import Pact.Journal.Server
import Pact.Journal.Server.ApprovalChecks
import Pact.Journal.Server.Approvals
import Pact.Journal.Server.Attribution
import Pact.Journal.Server.Authorization
import Pact.Journal.Server.Lemmas
import Pact.Journal.Services
import Pact.Journal.Services.Approvals
import Pact.Journal.Services.Assignments
import Pact.Journal.Services.Lemmas
import Pact.Journal.Services.Policies
import Pact.Journal.Services.Presence
import Pact.Journal.Services.Unwritten
import Pact.Journal.State
import Pact.Journal.State.AuditLog
import Pact.Journal.State.Conflicts
import Pact.Journal.State.HardwareKey
import Pact.Journal.State.Lemmas
import Pact.Journal.State.Locality
import Pact.Journal.State.Theorems
import Pact.Journal.Types
import Pact.Library.Arithmetic
import Pact.Library.Chunks
import Pact.Library.Custody
import Pact.Library.Index
import Pact.Library.JsonRecord
import Pact.Library.Lines
import Pact.Library.Locality
import Pact.Library.Map
import Pact.Library.MapSize
import Pact.Library.Pace
import Pact.Library.Padding
import Pact.Library.Path
import Pact.Library.Register
import Pact.Library.Run
import Pact.Library.Sequence
import Pact.Library.Sorting
import Pact.Library.Text
import Pact.Library.TokenBucket
import Pact.Library.Toml
import Pact.Library.Trace
import Pact.Mcp.Connected
import Pact.Mcp.Connected.Theorems
import Pact.Mcp.Exec
import Pact.Mcp.Log
import Pact.Nss
import Pact.Nss.Freshness
import Pact.Nss.Names
import Pact.Policy.Rbac
import Pact.Policy.Rbac.Bindings
import Pact.Policy.Rbac.Soundness
import Pact.Policy.Rbac.Theorems
import Pact.Policy.Rules
import Pact.Policy.Rules.Theorems
