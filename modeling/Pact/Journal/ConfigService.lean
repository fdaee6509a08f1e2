import Pact.Common.Proto
import Pact.Journal.Rpc

namespace Pact.Journal.ConfigService

open Pact.Library Pact.Common

-- An unspecified or unknown action counts as a modification.
def protoAction (action : Int) : DeltaAction :=
  if action = 1 then .Add else if action = 2 then .Remove else .Modify

def mountText (spec : Proto.MountSpec) : String :=
  spec.fsType ++ ":" ++ spec.source ++ " (" ++ spec.options ++ ")"

def protoToStateDelta (proto : Proto.StateDelta) : StateDelta where
  mounts := proto.mounts.map fun mount =>
    ⟨protoAction mount.action, mount.path, mount.declared.map mountText, mount.actual.map mountText⟩
  files := proto.files.map fun file =>
    ⟨protoAction file.action, file.path, file.contentHash, file.owner⟩
  network := proto.network.map fun network =>
    ⟨protoAction network.action, network.interface, network.detail, none⟩
  services := proto.services.map fun service =>
    ⟨protoAction service.action, service.name, service.declaredState, service.actualState⟩
  kernel := proto.kernel.map fun kernel =>
    ⟨protoAction kernel.action, kernel.key, kernel.declaredValue, kernel.actualValue⟩
  packages := proto.packages.map fun package =>
    ⟨protoAction package.action, package.name, package.version, none⟩
  gpu := proto.gpu.map fun gpu => ⟨protoAction gpu.action, toString gpu.gpuIndex, gpu.detail, none⟩

def domainAction : DeltaAction → Int
  | .Add => 1
  | .Remove => 2
  | .Modify => 3

-- A mount keeps only its path: what is mounted there is not part of the message.
def stateDeltaToProto (delta : StateDelta) : Proto.StateDelta where
  mounts := delta.mounts.map fun mount => ⟨mount.key, domainAction mount.action, none, none⟩
  files := delta.files.map fun file =>
    ⟨file.key, domainAction file.action, file.value, none, file.previous⟩
  network := delta.network.map fun network =>
    ⟨network.key, domainAction network.action, network.value⟩
  services := delta.services.map fun service =>
    ⟨service.key, domainAction service.action, service.value, service.previous⟩
  kernel := delta.kernel.map fun kernel =>
    ⟨kernel.key, domainAction kernel.action, kernel.value, kernel.previous⟩
  packages := delta.packages.map fun package =>
    ⟨package.key, domainAction package.action, package.value⟩
  gpu := delta.gpu.map fun gpu =>
    ⟨.ofNat ((parseUnsigned 32 gpu.key).getD 0), domainAction gpu.action, gpu.value⟩

def protoToEntryType (entryType : Int) : Option EntryType :=
  if entryType = 1 then some .Commit
  else if entryType = 2 then some .Rollback
  else if entryType = 3 then some .AutoConverge
  else if entryType = 4 then some .DriftDetected
  else if entryType = 5 then some .CapabilityChange
  else if entryType = 6 then some .PolicyUpdate
  else if entryType = 7 then some .BootConfig
  else if entryType = 8 then some .EmergencyStart
  else if entryType = 9 then some .EmergencyEnd
  else if entryType = 10 then some .ExecLog
  else if entryType = 11 then some .ShellSession
  else if entryType = 12 then some .ServiceLifecycle
  else if entryType = 13 then some .PendingApproval
  else none

def protoToAuthor (proto : Proto.Identity) : Identity where
  principal := proto.principal
  principalType :=
    if proto.principalType = "agent" ∨ proto.principalType = "Agent" then .Agent
    else if proto.principalType = "service" ∨ proto.principalType = "Service" then .Service
    else .Human
  role := proto.role

def protoToScope (proto : Option Proto.Scope) : Scope :=
  match proto.bind Proto.Scope.scope with
  | some (.NodeId nodeId) => .Node nodeId
  | some (.VclusterId vclusterId) => .VCluster vclusterId
  | some (.Global _) => .Global
  | none => .Global

-- The seconds of a duration are cut to 32 bits.
def protoToTtl (ttl : Option Proto.Duration) : Option Nat :=
  ttl.map fun duration => (duration.seconds % 2 ^ 32).toNat

-- `now` is the server's clock, which stamps the entry.
def protoToConfigEntry (now : DateTime) (proto : Proto.ConfigEntry) : Except Status ConfigEntry :=
  match proto.author with
  | none => .error ⟨.InvalidArgument, "author required"⟩
  | some author =>
    match protoToEntryType proto.entryType with
    | none => .error ⟨.InvalidArgument, "unknown entry type"⟩
    | some entryType =>
      .ok {
        sequence := proto.sequence
        timestamp := now
        entryType := entryType
        scope := protoToScope proto.scope
        author := protoToAuthor author
        parent := proto.parent
        stateDelta := proto.stateDelta.map protoToStateDelta
        policyRef := if proto.policyRef = "" then none else some proto.policyRef
        ttlSeconds := protoToTtl proto.ttl
        emergencyReason := proto.emergencyReason }

def entryTypeToProto : EntryType → Int
  | .Commit => 1
  | .Rollback => 2
  | .AutoConverge => 3
  | .DriftDetected => 4
  | .CapabilityChange => 5
  | .PolicyUpdate => 6
  | .BootConfig => 7
  | .EmergencyStart => 8
  | .EmergencyEnd => 9
  | .ExecLog => 10
  | .ShellSession => 11
  | .ServiceLifecycle => 12
  | .PendingApproval => 13
  | .NodeEnrolled => 14
  | .NodeActivated => 15
  | .NodeDeactivated => 16
  | .NodeDecommissioned => 17
  | .NodeAssigned => 18
  | .NodeUnassigned => 19
  | .CertSigned => 20
  | .CertRevoked => 21

def scopeToProto : Scope → Proto.Scope
  | .Global => ⟨some (.Global true)⟩
  | .VCluster vclusterId => ⟨some (.VclusterId vclusterId)⟩
  | .Node nodeId => ⟨some (.NodeId nodeId)⟩

def principalTypeToProto : PrincipalType → String
  | .Human => "Human"
  | .Agent => "Agent"
  | .Service => "Service"

def configEntryToProto (entry : ConfigEntry) : Proto.ConfigEntry where
  sequence := entry.sequence
  timestamp := some ⟨entry.timestamp / 1000000000, entry.timestamp % 1000000000⟩
  entryType := entryTypeToProto entry.entryType
  scope := some (scopeToProto entry.scope)
  author := some ⟨entry.author.principal, principalTypeToProto entry.author.principalType,
    entry.author.role⟩
  parent := entry.parent
  stateDelta := entry.stateDelta.map stateDeltaToProto
  policyRef := entry.policyRef.getD ""
  ttl := entry.ttlSeconds.map fun (seconds : Nat) => ⟨seconds, 0⟩
  emergencyReason := entry.emergencyReason

-- Subscribers are notified after the write; that changes neither the journal nor the answer.
def appendEntry (now : DateTime) (req : Proto.AppendEntryRequest) :
    Handler Proto.AppendEntryResponse :=
  match req.entry with
  | none => .Return (.error ⟨.InvalidArgument, "entry required"⟩)
  | some proto =>
    match protoToConfigEntry now proto with
    | .error status => .Return (.error status)
    | .ok entry =>
      .Write (.AppendEntry entry) fun response =>
        match response with
        | .EntryAppended sequence => .ok ⟨sequence⟩
        | .ValidationError reason => .error ⟨.FailedPrecondition, reason⟩
        | _ => .error ⟨.Internal, "unexpected response for AppendEntry"⟩

end Pact.Journal.ConfigService
