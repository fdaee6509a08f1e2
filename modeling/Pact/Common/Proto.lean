import Pact.Common.Types

namespace Pact.Common.Proto

structure Timestamp where
  seconds : Int
  nanos : Int
  deriving DecidableEq

structure Duration where
  seconds : Int
  nanos : Int
  deriving DecidableEq

structure Identity where
  principal : String
  principalType : String
  role : String
  deriving DecidableEq

inductive ScopeKind
  | NodeId (nodeId : String)
  | VclusterId (vclusterId : String)
  | Global (isGlobal : Bool)
  deriving DecidableEq

structure Scope where
  scope : Option ScopeKind
  deriving DecidableEq

structure MountSpec where
  fsType : String
  source : String
  options : String
  readOnly : Bool
  deriving DecidableEq

-- Enumerations travel as plain numbers, so `action` and `entryType` may be out of range.
structure MountDelta where
  path : String
  action : Int
  declared : Option MountSpec
  actual : Option MountSpec
  deriving DecidableEq

structure FileDelta where
  path : String
  action : Int
  contentHash : Option String
  mode : Option Nat
  owner : Option String
  deriving DecidableEq

structure NetworkDelta where
  interface : String
  action : Int
  detail : Option String
  deriving DecidableEq

structure ServiceDelta where
  name : String
  action : Int
  declaredState : Option String
  actualState : Option String
  deriving DecidableEq

structure KernelDelta where
  key : String
  action : Int
  declaredValue : Option String
  actualValue : Option String
  deriving DecidableEq

structure PackageDelta where
  name : String
  action : Int
  version : Option String
  deriving DecidableEq

structure GpuDelta where
  gpuIndex : UInt32
  action : Int
  detail : Option String
  deriving DecidableEq

structure StateDelta where
  mounts : List MountDelta
  files : List FileDelta
  network : List NetworkDelta
  services : List ServiceDelta
  kernel : List KernelDelta
  packages : List PackageDelta
  gpu : List GpuDelta
  deriving DecidableEq

structure ConfigEntry where
  sequence : Nat
  timestamp : Option Timestamp
  entryType : Int
  scope : Option Scope
  author : Option Identity
  parent : Option Nat
  stateDelta : Option StateDelta
  policyRef : String
  ttl : Option Duration
  emergencyReason : Option String
  deriving DecidableEq

structure AppendEntryRequest where
  entry : Option ConfigEntry
  deriving DecidableEq

structure AppendEntryResponse where
  sequence : Nat
  deriving DecidableEq

structure RoleBinding where
  role : String
  principals : List String
  allowedActions : List String
  deriving DecidableEq

structure VClusterPolicy where
  vclusterId : String
  policyId : String
  updatedAt : Option Timestamp
  driftSensitivity : F64
  baseCommitWindowSeconds : Nat
  emergencyWindowSeconds : Nat
  autoConvergeCategories : List String
  requireAckCategories : List String
  enforcementMode : String
  roleBindings : List RoleBinding
  regulated : Bool
  twoPersonApproval : Bool
  auditRetentionDays : Nat
  federationTemplate : Option String
  supervisorBackend : String
  execWhitelist : List String
  shellWhitelist : List String
  emergencyAllowed : Bool
  aiExecAllowed : Bool
  deriving DecidableEq

structure ListEntriesRequest where
  scope : Option Scope
  fromSequence : Option Nat
  toSequence : Option Nat
  limit : Option Nat
  deriving DecidableEq

structure PolicyEvalRequest where
  author : Option Identity
  scope : Option Scope
  action : String
  command : Option String
  deriving DecidableEq

structure ApprovalRequired where
  approvalType : String
  pendingApprovalId : String
  deriving DecidableEq

structure PolicyEvalResponse where
  authorized : Bool
  policyRef : String
  denialReason : Option String
  approval : Option ApprovalRequired
  deriving DecidableEq

structure UpdatePolicyRequest where
  vclusterId : String
  policy : Option VClusterPolicy
  author : Option Identity
  message : String
  deriving DecidableEq

structure UpdatePolicyResponse where
  success : Bool
  policyRef : String
  error : Option String
  deriving DecidableEq

structure DecideApprovalRequest where
  approvalId : String
  approver : Option Identity
  decision : String
  reason : Option String
  deriving DecidableEq

structure DecideApprovalResponse where
  success : Bool
  error : Option String
  deriving DecidableEq

structure HardwareIdentity where
  macAddress : String
  bmcSerial : String
  extra : Library.Map String String
  deriving DecidableEq

structure EnrollRequest where
  hardwareIdentity : Option HardwareIdentity
  csr : List UInt8
  deriving DecidableEq

-- Certificates are sent as the bytes of their text; here they stay text.
structure EnrollResponse where
  nodeId : String
  domainId : String
  signedCert : String
  caChain : String
  vclusterId : String
  certSerial : String
  certExpiresAt : String
  deriving DecidableEq

structure RegisterNodeRequest where
  nodeId : String
  hardwareIdentity : Option HardwareIdentity
  deriving DecidableEq

structure RegisterNodeResponse where
  nodeId : String
  enrollmentState : String
  deriving DecidableEq

structure BatchRegisterNodesRequest where
  nodes : List RegisterNodeRequest
  deriving DecidableEq

structure BatchNodeResult where
  nodeId : String
  success : Bool
  enrollmentState : String
  error : String
  deriving DecidableEq

structure BatchRegisterNodesResponse where
  results : List BatchNodeResult
  succeeded : UInt32
  failed : UInt32
  deriving DecidableEq

structure DecommissionNodeRequest where
  nodeId : String
  force : Bool
  deriving DecidableEq

structure DecommissionNodeResponse where
  nodeId : String
  enrollmentState : String
  sessionsTerminated : Nat
  certSerialRevoked : String
  deriving DecidableEq

structure AssignNodeRequest where
  nodeId : String
  vclusterId : String
  deriving DecidableEq

structure AssignNodeResponse where
  nodeId : String
  vclusterId : String
  deriving DecidableEq

structure UnassignNodeRequest where
  nodeId : String
  deriving DecidableEq

structure UnassignNodeResponse where
  nodeId : String
  deriving DecidableEq

structure MoveNodeRequest where
  nodeId : String
  toVclusterId : String
  deriving DecidableEq

structure MoveNodeResponse where
  nodeId : String
  fromVclusterId : String
  toVclusterId : String
  deriving DecidableEq

structure RenewCertRequest where
  currentCertSerial : String
  csr : List UInt8
  deriving DecidableEq

structure RenewCertResponse where
  signedCert : String
  caChain : String
  certSerial : String
  certExpiresAt : String
  deriving DecidableEq

structure ListNodesRequest where
  stateFilter : String
  vclusterFilter : String
  unassignedOnly : Bool
  deriving DecidableEq

structure NodeSummary where
  nodeId : String
  enrollmentState : String
  vclusterId : String
  lastSeen : String
  macAddress : String
  deriving DecidableEq

structure ListNodesResponse where
  nodes : List NodeSummary
  deriving DecidableEq

structure InspectNodeRequest where
  nodeId : String
  deriving DecidableEq

structure InspectNodeResponse where
  nodeId : String
  domainId : String
  enrollmentState : String
  hardwareIdentity : Option HardwareIdentity
  vclusterId : String
  certSerial : String
  certExpiresAt : String
  lastSeen : String
  enrolledAt : String
  enrolledBy : String
  activeSessions : Nat
  deriving DecidableEq

inductive ConfigChange
  | VclusterChange (data : List UInt8)
  | NodeChange (data : List UInt8)
  | PolicyChange (data : List UInt8)
  | BlacklistChange (data : List UInt8)
  deriving DecidableEq

structure ConfigUpdate where
  sequence : Nat
  timestamp : Option Timestamp
  update : Option ConfigChange
  deriving DecidableEq

structure BootConfigRequest where
  nodeId : String
  vclusterId : String
  lastKnownVersion : Option Nat
  deriving DecidableEq

structure OverlayChunk where
  version : Nat
  vclusterId : String
  data : List UInt8
  chunkIndex : Nat
  totalChunks : Nat
  checksum : String
  deriving DecidableEq

structure NodeDelta where
  nodeId : String
  version : Nat
  data : List UInt8
  checksum : String
  deriving DecidableEq

structure ConfigComplete where
  baseVersion : Nat
  nodeVersion : Nat
  timestamp : Option Timestamp
  deriving DecidableEq

inductive ChunkKind
  | BaseOverlay (overlay : OverlayChunk)
  | NodeDelta (delta : NodeDelta)
  | Complete (complete : ConfigComplete)
  deriving DecidableEq

structure ConfigChunk where
  chunk : Option ChunkKind
  deriving DecidableEq

end Pact.Common.Proto
