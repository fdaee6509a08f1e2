import Pact.Journal.Types

namespace Pact.Journal

open Pact.Library Pact.Common

structure JournalState where
  entries : Map Nat ConfigEntry
  nextSequence : Nat
  nodeStates : Map NodeId ConfigState
  policies : Map VClusterId VClusterPolicy
  overlays : Map VClusterId BootOverlay
  auditLog : List AdminOperation
  nodeAssignments : Map NodeId VClusterId
  pendingApprovals : Map String PendingApproval
  enrollments : Map NodeId NodeEnrollment
  hwIndex : Map String NodeId
  revokedSerials : Finset String
  deriving DecidableEq

def JournalState.default : JournalState where
  entries := .empty
  nextSequence := 0
  nodeStates := .empty
  policies := .empty
  overlays := .empty
  auditLog := []
  nodeAssignments := .empty
  pendingApprovals := .empty
  enrollments := .empty
  hwIndex := .empty
  revokedSerials := ∅

def hwCanonicalKey (platform : Platform) (hw : HardwareIdentity) : String :=
  match hw.bmcSerial with
  | some serial =>
    if serial ≠ "" then
      "mac:" ++ platform.toLowercase hw.macAddress ++ ":bmc:" ++ platform.toLowercase serial
    else "mac:" ++ platform.toLowercase hw.macAddress
  | none => "mac:" ++ platform.toLowercase hw.macAddress

def ttlMinSeconds : Nat := 900
def ttlMaxSeconds : Nat := 864000
def overlayMaxBytes : Nat := 10 * 1024 * 1024
def auditLogMax : Nat := 100000

def parentRejection (nextSequence : Nat) (parent : Option Nat) : Option String :=
  match parent with
  | some parent => if parent ≥ nextSequence then some "parent must precede entry" else none
  | none => none

def ttlRejection (ttlSeconds : Option Nat) : Option String :=
  match ttlSeconds with
  | some ttl =>
    if ttl > 0 ∧ ttl < ttlMinSeconds then
      some ("TTL must be >= " ++ toString ttlMinSeconds ++ " seconds (15 minutes)")
    else if ttl > ttlMaxSeconds then
      some ("TTL must be <= " ++ toString ttlMaxSeconds ++ " seconds (10 days)")
    else none
  | none => none

-- The reason of the first failing check of a new entry, in the order the journal makes them.
def entryRejection (s : JournalState) (entry : ConfigEntry) : Option String :=
  if entry.author.principal = "" then some "author principal required"
  else if entry.author.role = "" then some "author role required"
  else parentRejection s.nextSequence entry.parent <|> ttlRejection entry.ttlSeconds

def appendEntry (s : JournalState) (entry : ConfigEntry) : JournalState × JournalResponse :=
  match entryRejection s entry with
  | some reason => (s, .ValidationError reason)
  | none =>
    ({ s with
        entries := s.entries.insert s.nextSequence { entry with sequence := s.nextSequence }
        nextSequence := s.nextSequence + 1 },
      .EntryAppended s.nextSequence)

def setOverlay (platform : Platform) (s : JournalState) (vclusterId : VClusterId)
    (overlay : BootOverlay) : JournalState × JournalResponse :=
  if overlay.data.length > overlayMaxBytes then
    (s, .ValidationError ("overlay data too large: " ++ toString overlay.data.length ++
      " bytes (max " ++ toString overlayMaxBytes ++ ")"))
  else
    let computed := computeOverlayChecksum platform overlay.data
    if overlay.checksum ≠ computed then
      (s, .ValidationError ("overlay checksum mismatch: expected " ++ overlay.checksum ++
        ", got " ++ computed))
    else ({ s with overlays := s.overlays.insert vclusterId overlay }, .Ok)

-- The oldest operations are dropped once the log is over its bound.
def capLog (bound : Nat) (log : List AdminOperation) : List AdminOperation :=
  if log.length > bound then log.drop (log.length - bound) else log

def recordOperation (s : JournalState) (operation : AdminOperation) :
    JournalState × JournalResponse :=
  ({ s with auditLog := capLog auditLogMax (s.auditLog ++ [operation]) }, .Ok)

def debugStatus : ApprovalStatus → String
  | .Pending => "Pending"
  | .Approved => "Approved"
  | .Rejected => "Rejected"
  | .Expired => "Expired"

def decideApproval (s : JournalState) (approvalId : String) (approver : Identity)
    (decision : ApprovalStatus) : JournalState × JournalResponse :=
  match s.pendingApprovals.get approvalId with
  | some approval =>
    if approval.status ≠ .Pending then
      (s, .ValidationError ("approval " ++ approvalId ++ " already " ++
        debugStatus approval.status))
    else if approval.requester.principal = approver.principal then
      (s, .ValidationError "SELF_APPROVAL: cannot approve your own request (P4)")
    else
      ({ s with
          pendingApprovals := s.pendingApprovals.insert approvalId
            { approval with status := decision, approver := some approver } }, .Ok)
  | none => (s, .ValidationError ("approval " ++ approvalId ++ " not found"))

def registerNode (platform : Platform) (s : JournalState) (enrollment : NodeEnrollment) :
    JournalState × JournalResponse :=
  if (s.enrollments.get enrollment.nodeId).isSome then
    (s, .ValidationError ("NODE_ALREADY_ENROLLED: " ++ enrollment.nodeId))
  else
    let hwKey := hwCanonicalKey platform enrollment.hardwareIdentity
    match s.hwIndex.get hwKey with
    | some existing =>
      (s, .ValidationError
        ("HARDWARE_IDENTITY_CONFLICT: hardware already registered to " ++ existing))
    | none =>
      ({ s with
          hwIndex := s.hwIndex.insert hwKey enrollment.nodeId
          enrollments := s.enrollments.insert enrollment.nodeId enrollment },
        .EnrollmentResult enrollment.nodeId .Registered none)

-- Every command below looks its node up first and answers the same error for an unknown one.
def withEnrollment (s : JournalState) (nodeId : NodeId)
    (update : NodeEnrollment → JournalState × JournalResponse) : JournalState × JournalResponse :=
  match s.enrollments.get nodeId with
  | some enrollment => update enrollment
  | none => (s, .ValidationError ("NODE_NOT_ENROLLED: " ++ nodeId))

def JournalState.putEnrollment (s : JournalState) (nodeId : NodeId) (enrollment : NodeEnrollment) :
    JournalState :=
  { s with enrollments := s.enrollments.insert nodeId enrollment }

def activateNode (platform : Platform) (now : DateTime) (s : JournalState) (nodeId : NodeId)
    (certSerial certExpiresAt : String) : JournalState × JournalResponse :=
  withEnrollment s nodeId fun enrollment =>
    if enrollment.state = .Revoked then (s, .ValidationError ("NODE_REVOKED: " ++ nodeId))
    else if enrollment.state = .Active then (s, .ValidationError ("ALREADY_ACTIVE: " ++ nodeId))
    else
      (s.putEnrollment nodeId
          { enrollment with
            state := .Active
            certSerial := some certSerial
            certExpiresAt := platform.parseFromRfc3339 certExpiresAt
            lastSeen := some now },
        .EnrollmentResult nodeId .Active enrollment.vclusterId)

def deactivateNode (s : JournalState) (nodeId : NodeId) : JournalState × JournalResponse :=
  withEnrollment s nodeId fun enrollment =>
    (s.putEnrollment nodeId { enrollment with state := .Inactive }, .Ok)

def revokeNode (s : JournalState) (nodeId : NodeId) : JournalState × JournalResponse :=
  withEnrollment s nodeId fun enrollment =>
    (s.putEnrollment nodeId { enrollment with state := .Revoked }, .Ok)

def assignNodeToVCluster (s : JournalState) (nodeId : NodeId) (vclusterId : VClusterId) :
    JournalState × JournalResponse :=
  withEnrollment s nodeId fun enrollment =>
    ({ s.putEnrollment nodeId { enrollment with vclusterId := some vclusterId } with
        nodeAssignments := s.nodeAssignments.insert nodeId vclusterId }, .Ok)

def unassignNode (s : JournalState) (nodeId : NodeId) : JournalState × JournalResponse :=
  withEnrollment s nodeId fun enrollment =>
    ({ s.putEnrollment nodeId { enrollment with vclusterId := none } with
        nodeAssignments := s.nodeAssignments.erase nodeId }, .Ok)

-- The source vCluster of the command is not read.
def moveNodeVCluster (s : JournalState) (nodeId : NodeId) (_fromVclusterId : VClusterId)
    (toVclusterId : VClusterId) : JournalState × JournalResponse :=
  withEnrollment s nodeId fun enrollment =>
    ({ s.putEnrollment nodeId { enrollment with vclusterId := some toVclusterId } with
        nodeAssignments := s.nodeAssignments.insert nodeId toVclusterId }, .Ok)

def updateNodeLastSeen (platform : Platform) (s : JournalState) (nodeId : NodeId)
    (timestamp : String) : JournalState × JournalResponse :=
  withEnrollment s nodeId fun enrollment =>
    (s.putEnrollment nodeId
      { enrollment with lastSeen := platform.parseFromRfc3339 timestamp }, .Ok)

def updateNodeCert (platform : Platform) (now : DateTime) (s : JournalState) (nodeId : NodeId)
    (certSerial certExpiresAt : String) : JournalState × JournalResponse :=
  withEnrollment s nodeId fun enrollment =>
    (s.putEnrollment nodeId
      { enrollment with
        certSerial := some certSerial
        certExpiresAt := platform.parseFromRfc3339 certExpiresAt
        lastSeen := some now }, .Ok)

-- `now` is the clock of the replica that applies the command.
def apply (platform : Platform) (now : DateTime) (s : JournalState) :
    JournalCommand → JournalState × JournalResponse
  | .AppendEntry entry => appendEntry s entry
  | .UpdateNodeState nodeId state =>
    ({ s with nodeStates := s.nodeStates.insert nodeId state }, .Ok)
  | .SetPolicy vclusterId policy =>
    ({ s with policies := s.policies.insert vclusterId policy }, .Ok)
  | .SetOverlay vclusterId overlay => setOverlay platform s vclusterId overlay
  | .RecordOperation operation => recordOperation s operation
  | .AssignNode nodeId vclusterId =>
    ({ s with nodeAssignments := s.nodeAssignments.insert nodeId vclusterId }, .Ok)
  | .CreateApproval approval =>
    ({ s with pendingApprovals := s.pendingApprovals.insert approval.approvalId approval }, .Ok)
  | .DecideApproval approvalId approver decision => decideApproval s approvalId approver decision
  | .RegisterNode enrollment => registerNode platform s enrollment
  | .ActivateNode nodeId certSerial certExpiresAt =>
    activateNode platform now s nodeId certSerial certExpiresAt
  | .DeactivateNode nodeId => deactivateNode s nodeId
  | .RevokeNode nodeId => revokeNode s nodeId
  | .AssignNodeToVCluster nodeId vclusterId => assignNodeToVCluster s nodeId vclusterId
  | .UnassignNode nodeId => unassignNode s nodeId
  | .MoveNodeVCluster nodeId fromVclusterId toVclusterId =>
    moveNodeVCluster s nodeId fromVclusterId toVclusterId
  | .UpdateNodeLastSeen nodeId timestamp => updateNodeLastSeen platform s nodeId timestamp
  | .UpdateNodeCert nodeId certSerial certExpiresAt =>
    updateNodeCert platform now s nodeId certSerial certExpiresAt

-- A committed command with the clock reading of the replica that applies it.
structure Applied where
  now : DateTime
  command : JournalCommand
  deriving DecidableEq

-- The state a replica reaches and the answers it gives along a sequence of commands.
def replay (platform : Platform) : JournalState → List Applied → JournalState × List JournalResponse
  | s, [] => (s, [])
  | s, applied :: rest =>
    let (after, response) := apply platform applied.now s applied.command
    let (last, responses) := replay platform after rest
    (last, response :: responses)

def journalNext (platform : Platform) (s : JournalState) (applied : Applied) :
    Option JournalState :=
  some (apply platform applied.now s applied.command).1

end Pact.Journal
