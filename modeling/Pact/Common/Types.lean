import Pact.Library.Map

namespace Pact.Common

open Pact.Library

abbrev NodeId := String
abbrev VClusterId := String
abbrev DomainId := String

-- Nanoseconds since the Unix epoch.
abbrev DateTime := Int

def DateTime.seconds (count : Int) : Int := count * 1000000000

def DateTime.hours (count : Int) : Int := DateTime.seconds (count * 3600)

-- The bit pattern of an f64. The journal stores and copies such values and never computes
-- with them.
structure F64 where
  bits : UInt64
  deriving DecidableEq

inductive ConfigState
  | ObserveOnly
  | Committed
  | Drifted
  | Converging
  | Emergency
  deriving DecidableEq

inductive EntryType
  | Commit
  | Rollback
  | AutoConverge
  | DriftDetected
  | CapabilityChange
  | PolicyUpdate
  | BootConfig
  | EmergencyStart
  | EmergencyEnd
  | ExecLog
  | ShellSession
  | ServiceLifecycle
  | PendingApproval
  | NodeEnrolled
  | NodeActivated
  | NodeDeactivated
  | NodeDecommissioned
  | NodeAssigned
  | NodeUnassigned
  | CertSigned
  | CertRevoked
  deriving DecidableEq

inductive Scope
  | Global
  | VCluster (vcluster : VClusterId)
  | Node (node : NodeId)
  deriving DecidableEq

inductive PrincipalType
  | Human
  | Agent
  | Service
  deriving DecidableEq

structure Identity where
  principal : String
  principalType : PrincipalType
  role : String
  deriving DecidableEq

inductive DeltaAction
  | Add
  | Remove
  | Modify
  deriving DecidableEq

structure DeltaItem where
  action : DeltaAction
  key : String
  value : Option String
  previous : Option String
  deriving DecidableEq

structure StateDelta where
  mounts : List DeltaItem
  files : List DeltaItem
  network : List DeltaItem
  services : List DeltaItem
  kernel : List DeltaItem
  packages : List DeltaItem
  gpu : List DeltaItem
  deriving DecidableEq

structure ConfigEntry where
  sequence : Nat
  timestamp : DateTime
  entryType : EntryType
  scope : Scope
  author : Identity
  parent : Option Nat
  stateDelta : Option StateDelta
  policyRef : Option String
  ttlSeconds : Option Nat
  emergencyReason : Option String
  deriving DecidableEq

structure RoleBinding where
  role : String
  principals : List String
  allowedActions : List String
  deriving DecidableEq

structure VClusterPolicy where
  vclusterId : VClusterId
  policyId : String
  updatedAt : Option DateTime
  driftSensitivity : F64
  baseCommitWindowSeconds : Nat
  emergencyWindowSeconds : Nat
  autoConvergeCategories : List String
  requireAckCategories : List String
  enforcementMode : String
  roleBindings : List RoleBinding
  regulated : Bool
  twoPersonApproval : Bool
  emergencyAllowed : Bool
  auditRetentionDays : Nat
  aiExecAllowed : Bool
  federationTemplate : Option String
  supervisorBackend : String
  execWhitelist : List String
  shellWhitelist : List String
  deriving DecidableEq

-- 4611686018427387904 is the bit pattern of 2.0.
def VClusterPolicy.default : VClusterPolicy where
  vclusterId := ""
  policyId := ""
  updatedAt := none
  driftSensitivity := ⟨4611686018427387904⟩
  baseCommitWindowSeconds := 900
  emergencyWindowSeconds := 14400
  autoConvergeCategories := []
  requireAckCategories := []
  enforcementMode := "observe"
  roleBindings := []
  regulated := false
  twoPersonApproval := false
  emergencyAllowed := true
  auditRetentionDays := 2555
  aiExecAllowed := false
  federationTemplate := none
  supervisorBackend := "pact"
  execWhitelist := []
  shellWhitelist := []

structure BootOverlay where
  vclusterId : VClusterId
  version : Nat
  data : List UInt8
  checksum : String
  deriving DecidableEq

inductive AdminOperationType
  | Exec
  | ShellSessionStart
  | ShellSessionEnd
  | ServiceStart
  | ServiceStop
  | ServiceRestart
  | EmergencyStart
  | EmergencyEnd
  | ApprovalDecision
  | NodeEnroll
  | NodeDecommission
  | NodeAssign
  | NodeUnassign
  | NodeMove
  | CertRenew
  | CertRevoke
  deriving DecidableEq

structure AdminOperation where
  operationId : String
  timestamp : DateTime
  actor : Identity
  operationType : AdminOperationType
  scope : Scope
  detail : String
  deriving DecidableEq

inductive ApprovalStatus
  | Pending
  | Approved
  | Rejected
  | Expired
  deriving DecidableEq

structure PendingApproval where
  approvalId : String
  originalRequest : String
  action : String
  scope : Scope
  requester : Identity
  approver : Option Identity
  status : ApprovalStatus
  createdAt : DateTime
  expiresAt : DateTime
  deriving DecidableEq

inductive EnrollmentState
  | Registered
  | Active
  | Inactive
  | Revoked
  deriving DecidableEq

structure HardwareIdentity where
  macAddress : String
  bmcSerial : Option String
  extra : Map String String
  deriving DecidableEq

structure NodeEnrollment where
  nodeId : NodeId
  domainId : DomainId
  state : EnrollmentState
  hardwareIdentity : HardwareIdentity
  vclusterId : Option VClusterId
  certSerial : Option String
  certExpiresAt : Option DateTime
  lastSeen : Option DateTime
  enrolledAt : DateTime
  enrolledBy : Identity
  activeSessions : Nat
  deriving DecidableEq

-- What the journal takes from outside this repository: the Unicode lower-case mapping, the
-- standard library's default hasher, chrono's parser, printer and timestamp conversion, and the
-- JSON serializer.
structure Platform where
  toLowercase : String → String
  defaultHash : List UInt8 → UInt64
  parseFromRfc3339 : String → Option DateTime
  toRfc3339 : DateTime → String
  fromTimestamp : Int → Nat → Option DateTime
  entryToJson : ConfigEntry → List UInt8

-- What the boot transfer takes from outside this repository: the compressor at the level the
-- journal uses and its decompressor, and the JSON texts of a list of entries and of a delta.
structure Codec where
  encodeAll : List UInt8 → Option (List UInt8)
  decodeAll : List UInt8 → Option (List UInt8)
  entriesToJson : List ConfigEntry → Option (List UInt8)
  deltaFromJson : List UInt8 → Option StateDelta

-- The documented worst case of the compressed size.
def compressBound (length : Nat) : Nat :=
  length + length / 256 + if length < 131072 then (131072 - length) / 2048 else 0

-- Compression succeeds and loses nothing, a frame starts with its magic number and is no longer
-- than documented.
structure Codec.Sound (codec : Codec) : Prop where
  lossless : ∀ data, ∃ frame, codec.encodeAll data = some frame ∧
    codec.decodeAll frame = some data ∧ 4 ≤ frame.length ∧
    frame.length ≤ compressBound data.length

-- Agrees with the real platform on ASCII text, on the one time whose text the concrete runs below
-- read or print and on timestamps without a leap second. Those runs store no overlay and read no
-- serialized entry.
def Platform.ascii : Platform where
  toLowercase text := String.ofList (text.toList.map Char.toLower)
  defaultHash _ := 0
  parseFromRfc3339 text :=
    if text = "1970-01-04T00:00:00Z" ∨ text = "1970-01-04T00:00:00+00:00" then
      some (DateTime.hours 72)
    else none
  toRfc3339 time := if time = DateTime.hours 72 then "1970-01-04T00:00:00+00:00" else ""
  fromTimestamp seconds nanos :=
    if nanos < 1000000000 then some (DateTime.seconds seconds + nanos) else none
  entryToJson _ := []

-- A record as node registration creates it.
def NodeEnrollment.sample (nodeId : NodeId) (macAddress : String) : NodeEnrollment where
  nodeId := nodeId
  domainId := "default"
  state := .Registered
  hardwareIdentity := ⟨macAddress, none, .empty⟩
  vclusterId := none
  certSerial := none
  certExpiresAt := none
  lastSeen := none
  enrolledAt := 0
  enrolledBy := ⟨"admin", .Human, "pact-platform-admin"⟩
  activeSessions := 0

-- The text of an unsigned number in base 16, as the format directive for lower-case hex prints it.
def hex (value : UInt64) : String := String.ofList (Nat.toDigits 16 value.toNat)

def computeOverlayChecksum (platform : Platform) (data : List UInt8) : String :=
  hex (platform.defaultHash data)

end Pact.Common
