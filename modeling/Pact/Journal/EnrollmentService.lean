import Pact.Common.Proto
import Pact.Journal.Heartbeat
import Pact.Journal.Rpc

namespace Pact.Journal.EnrollmentService

open Pact.Library Pact.Common

structure SignedCertResult where
  certPem : String
  caChainPem : String
  certSerial : String
  certExpiresAt : String
  deriving DecidableEq

-- What the service is configured with. `validate` stands for the token validator.
structure Config where
  domainId : DomainId
  validate : String → Except String Identity

inductive Answer
  | Enrolled (result : Except Status Proto.EnrollResponse)
  | Renewed (result : Except Status Proto.RenewCertResponse)
  | Decommissioned (result : Except Status Proto.DecommissionNodeResponse)
  deriving DecidableEq

-- A call of the service between two of its effects: what it does next, with what it has read
-- and received so far.
inductive Call
  | Activate (nodeId : NodeId) (csr : List UInt8) (placeholderSerial placeholderExpires : String)
  | SignEnrollment (nodeId : NodeId) (csr : List UInt8) (vclusterId : Option VClusterId)
  | RecordEnrollment (nodeId : NodeId) (vclusterId : Option VClusterId) (signed : SignedCertResult)
  | Audit (operation : AdminOperation) (answer : Except Status Proto.EnrollResponse)
  | SignRenewal (nodeId : NodeId) (csr : List UInt8)
  | RecordRenewal (nodeId : NodeId) (signed : SignedCertResult)
  | Revoke (nodeId : NodeId) (certSerial : String)
  | Finished (answer : Answer)
  deriving DecidableEq

-- The clock reading and the random id that a step of a call may draw.
structure Draw where
  now : DateTime
  uuid : String
  deriving DecidableEq

def extractToken (authorization : Option MetadataValue) : Except Status String :=
  match authorization with
  | none => .error ⟨.Unauthenticated, "missing authorization header"⟩
  | some (.Binary _) => .error ⟨.Unauthenticated, "invalid authorization header"⟩
  | some (.Text value) =>
    match stripPrefix value "Bearer " with
    | some token => .ok token
    | none => .error ⟨.Unauthenticated, "expected Bearer token"⟩

def authenticate (config : Config) (authorization : Option MetadataValue) :
    Except Status Identity :=
  match extractToken authorization with
  | .error status => .error status
  | .ok token =>
    match config.validate token with
    | .ok identity => .ok identity
    | .error error => .error ⟨.Unauthenticated, "invalid token: " ++ error⟩

def requirePlatformAdmin (config : Config) (authorization : Option MetadataValue) :
    Except Status Identity :=
  match authenticate config authorization with
  | .error status => .error status
  | .ok identity =>
    if identity.role ≠ "pact-platform-admin" then
      .error ⟨.PermissionDenied, "requires pact-platform-admin"⟩
    else .ok identity

def enrollmentOperation (draw : Draw) (operationType : AdminOperationType) (nodeId detail : String) :
    AdminOperation where
  operationId := draw.uuid
  timestamp := draw.now
  actor := ⟨"enrollment-service", .Service, "pact-service-agent"⟩
  operationType := operationType
  scope := .Node nodeId
  detail := detail

def protoHwToDomain (hw : Proto.HardwareIdentity) : HardwareIdentity where
  macAddress := hw.macAddress
  bmcSerial := if hw.bmcSerial = "" then none else some hw.bmcSerial
  extra := hw.extra

-- The part of enroll before its first write. `acquired` is the answer of the rate limiter.
def enroll (platform : Platform) (s : JournalState) (acquired : Bool) (draw : Draw)
    (req : Proto.EnrollRequest) : Call :=
  if acquired = false then .Finished (.Enrolled (.error ⟨.ResourceExhausted, "RATE_LIMITED"⟩))
  else
    match req.hardwareIdentity with
    | none => .Finished (.Enrolled (.error ⟨.InvalidArgument, "hardware_identity required"⟩))
    | some hw =>
      match s.hwIndex.get (hwCanonicalKey platform (protoHwToDomain hw)) with
      | none =>
        .Audit (enrollmentOperation draw .NodeEnroll hw.macAddress
            ("REJECTED: NODE_NOT_ENROLLED mac=" ++ hw.macAddress))
          (.error ⟨.NotFound, "NODE_NOT_ENROLLED"⟩)
      | some nodeId =>
        match s.enrollments.get nodeId with
        | none => .Finished (.Enrolled (.error ⟨.Internal, "enrollment index inconsistency"⟩))
        | some enrollment =>
          match enrollment.state with
          | .Revoked =>
            .Audit (enrollmentOperation draw .NodeEnroll nodeId "REJECTED: NODE_REVOKED")
              (.error ⟨.PermissionDenied, "NODE_REVOKED"⟩)
          | .Active =>
            .Audit (enrollmentOperation draw .NodeEnroll nodeId "REJECTED: ALREADY_ACTIVE")
              (.error ⟨.AlreadyExists, "ALREADY_ACTIVE"⟩)
          | .Registered | .Inactive =>
            .Activate nodeId req.csr draw.uuid
              (platform.toRfc3339 (draw.now + DateTime.hours 72))

-- The nodes whose record carries this serial. The map has no fixed order, so the lookup of
-- renew_cert finds any one of them.
def renewable (s : JournalState) (certSerial : String) : List NodeId :=
  (s.enrollments.values.filter fun enrollment => enrollment.certSerial = some certSerial).map
    NodeEnrollment.nodeId

-- The part of renew_cert before it signs. The state of the enrollment is not looked at.
def renewCert (config : Config) (found : Option NodeId) (request : Request Proto.RenewCertRequest) :
    Call :=
  match authenticate config request.authorization with
  | .error status => .Finished (.Renewed (.error status))
  | .ok _ =>
    match found with
    | none =>
      .Finished (.Renewed (.error ⟨.NotFound, "no enrollment for this certificate serial"⟩))
    | some nodeId => .SignRenewal nodeId request.body.csr

-- The part of decommission_node before its write.
def decommissionNode (config : Config) (s : JournalState)
    (request : Request Proto.DecommissionNodeRequest) : Call :=
  match requirePlatformAdmin config request.authorization with
  | .error status => .Finished (.Decommissioned (.error status))
  | .ok _ =>
    match s.enrollments.get request.body.nodeId with
    | some enrollment =>
      if enrollment.activeSessions > 0 ∧ request.body.force = false then
        .Finished (.Decommissioned (.error ⟨.FailedPrecondition,
          toString enrollment.activeSessions ++
            " active session(s) on this node — use --force to terminate"⟩))
      else .Revoke request.body.nodeId (enrollment.certSerial.getD "")
    | none => .Revoke request.body.nodeId ""

def debugState : EnrollmentState → String
  | .Registered => "Registered"
  | .Active => "Active"
  | .Inactive => "Inactive"
  | .Revoked => "Revoked"

-- The vCluster in the role of an operator or viewer: what follows the second hyphen.
def roleVcluster (role : String) : VClusterId := join "-" ((split role '-').drop 2)

-- What list_nodes keeps to, from the role of the caller: one vCluster, or nothing.
def allowedVcluster (role : String) : Option VClusterId :=
  if role = "pact-platform-admin" then none
  else if startsWith role "pact-ops-" ∨ startsWith role "pact-viewer-" then some (roleVcluster role)
  else none

def listed (allowed : Option VClusterId) (req : Proto.ListNodesRequest)
    (enrollment : NodeEnrollment) : Bool :=
  (allowed = none ∨ enrollment.vclusterId = allowed) ∧
  (req.stateFilter = "" ∨ eqIgnoreAsciiCase (debugState enrollment.state) req.stateFilter) ∧
  (req.vclusterFilter = "" ∨ enrollment.vclusterId = some req.vclusterFilter) ∧
  (req.unassignedOnly → enrollment.vclusterId = none)

def nodeSummary (platform : Platform) (enrollment : NodeEnrollment) : Proto.NodeSummary where
  nodeId := enrollment.nodeId
  enrollmentState := debugState enrollment.state
  vclusterId := enrollment.vclusterId.getD ""
  lastSeen := (enrollment.lastSeen.map platform.toRfc3339).getD ""
  macAddress := enrollment.hardwareIdentity.macAddress

def listNodes (platform : Platform) (config : Config) (s : JournalState)
    (request : Request Proto.ListNodesRequest) : Except Status Proto.ListNodesResponse :=
  match authenticate config request.authorization with
  | .error status => .error status
  | .ok caller =>
    .ok ⟨(s.enrollments.values.filter (listed (allowedVcluster caller.role) request.body)).map
      (nodeSummary platform)⟩

def inspectNode (platform : Platform) (config : Config) (s : JournalState)
    (request : Request Proto.InspectNodeRequest) : Except Status Proto.InspectNodeResponse :=
  match authenticate config request.authorization with
  | .error status => .error status
  | .ok caller =>
    match s.enrollments.get request.body.nodeId with
    | none => .error ⟨.NotFound, "node " ++ request.body.nodeId ++ " not found"⟩
    | some enrollment =>
      if caller.role ≠ "pact-platform-admin" ∧
          (startsWith caller.role "pact-ops-" ∨ startsWith caller.role "pact-viewer-") ∧
          enrollment.vclusterId ≠ some (roleVcluster caller.role) then
        .error ⟨.PermissionDenied, "PERMISSION_DENIED: node not in your vCluster"⟩
      else .ok
        { nodeId := enrollment.nodeId
          domainId := enrollment.domainId
          enrollmentState := debugState enrollment.state
          hardwareIdentity := some ⟨enrollment.hardwareIdentity.macAddress,
            enrollment.hardwareIdentity.bmcSerial.getD "", enrollment.hardwareIdentity.extra⟩
          vclusterId := enrollment.vclusterId.getD ""
          certSerial := enrollment.certSerial.getD ""
          certExpiresAt := (enrollment.certExpiresAt.map platform.toRfc3339).getD ""
          lastSeen := (enrollment.lastSeen.map platform.toRfc3339).getD ""
          enrolledAt := platform.toRfc3339 enrollment.enrolledAt
          enrolledBy := enrollment.enrolledBy.principal
          activeSessions := enrollment.activeSessions }

def Call.command : Call → Option JournalCommand
  | .Activate nodeId _ placeholderSerial placeholderExpires =>
    some (.ActivateNode nodeId placeholderSerial placeholderExpires)
  | .RecordEnrollment nodeId _ signed =>
    some (.UpdateNodeCert nodeId signed.certSerial signed.certExpiresAt)
  | .Audit operation _ => some (.RecordOperation operation)
  | .RecordRenewal nodeId signed =>
    some (.UpdateNodeCert nodeId signed.certSerial signed.certExpiresAt)
  | .Revoke nodeId _ => some (.RevokeNode nodeId)
  | .SignEnrollment _ _ _ => none
  | .SignRenewal _ _ => none
  | .Finished _ => none

def raftFailed (error : String) : Status := ⟨.Internal, "Raft write failed: " ++ error⟩

def enrollResponse (config : Config) (nodeId : NodeId) (vclusterId : Option VClusterId)
    (signed : SignedCertResult) : Proto.EnrollResponse where
  nodeId := nodeId
  domainId := config.domainId
  signedCert := signed.certPem
  caChain := signed.caChainPem
  vclusterId := vclusterId.getD ""
  certSerial := signed.certSerial
  certExpiresAt := signed.certExpiresAt

-- Where a call goes on after its write. Enroll does not look at the outcome of recording the
-- certificate or of an audit record, and renew_cert only at whether the write came through.
def Call.resume (config : Config) (draw : Draw) (result : Except String JournalResponse) :
    Call → Call
  | .Activate nodeId csr _ _ =>
    match result with
    | .error error => .Finished (.Enrolled (.error (raftFailed error)))
    | .ok (.EnrollmentResult _ _ vclusterId) => .SignEnrollment nodeId csr vclusterId
    | .ok (.ValidationError reason) =>
      .Finished (.Enrolled (.error ⟨.FailedPrecondition, reason⟩))
    | .ok _ => .Finished (.Enrolled (.error ⟨.Internal, "unexpected Raft response"⟩))
  | .RecordEnrollment nodeId vclusterId signed =>
    .Audit (enrollmentOperation draw .NodeEnroll nodeId
        ("SUCCESS: node activated, cert_serial=" ++ signed.certSerial))
      (.ok (enrollResponse config nodeId vclusterId signed))
  | .Audit _ answer => .Finished (.Enrolled answer)
  | .RecordRenewal _ signed =>
    match result with
    | .error error => .Finished (.Renewed (.error (raftFailed error)))
    | .ok _ =>
      .Finished (.Renewed (.ok
        ⟨signed.certPem, signed.caChainPem, signed.certSerial, signed.certExpiresAt⟩))
  | .Revoke nodeId certSerial =>
    match result with
    | .error error => .Finished (.Decommissioned (.error (raftFailed error)))
    | .ok .Ok => .Finished (.Decommissioned (.ok ⟨nodeId, "Revoked", 0, certSerial⟩))
    | .ok (.ValidationError reason) =>
      .Finished (.Decommissioned (.error ⟨.FailedPrecondition, reason⟩))
    | .ok _ => .Finished (.Decommissioned (.error ⟨.Internal, "unexpected response"⟩))
  | call => call

def signingFailed (error : String) : Status := ⟨.Internal, "CSR signing failed: " ++ error⟩

def Call.sign (outcome : Except String SignedCertResult) : Call → Option Call
  | .SignEnrollment nodeId _ vclusterId =>
    match outcome with
    | .error error => some (.Finished (.Enrolled (.error (signingFailed error))))
    | .ok signed => some (.RecordEnrollment nodeId vclusterId signed)
  | .SignRenewal nodeId _ =>
    match outcome with
    | .error error => some (.Finished (.Renewed (.error (signingFailed error))))
    | .ok signed => some (.RecordRenewal nodeId signed)
  | _ => none

def Call.write (platform : Platform) (config : Config) (draw : Draw) (consensus : Consensus)
    (journal : JournalState) (call : Call) : JournalState × Call :=
  match call.command with
  | none => (journal, call)
  | some cmd =>
    let (after, result) := clientWrite platform consensus journal cmd
    (after, call.resume config draw result)

structure System where
  journal : JournalState
  calls : List Call
  deriving DecidableEq

-- Calls arrive at any time, and each moves on by itself. Background stands for every other
-- writer of the journal.
inductive Step
  | Enroll (acquired : Bool) (draw : Draw) (req : Proto.EnrollRequest)
  | RenewCert (found : Option NodeId) (request : Request Proto.RenewCertRequest)
  | DecommissionNode (request : Request Proto.DecommissionNodeRequest)
  | Sign (index : Nat) (outcome : Except String SignedCertResult)
  | Write (index : Nat) (draw : Draw) (consensus : Consensus)
  | Background (now : DateTime) (cmd : JournalCommand)

def isElsewhere : JournalCommand → Bool
  | .ActivateNode _ _ _ => false
  | .RevokeNode _ => false
  | .UpdateNodeCert _ _ _ => false
  | _ => true

def findsRenewable (s : JournalState) (certSerial : String) : Option NodeId → Bool
  | some nodeId => nodeId ∈ renewable s certSerial
  | none => renewable s certSerial = []

def System.arrive (system : System) (call : Call) : System :=
  { system with calls := system.calls ++ [call] }

def next (platform : Platform) (config : Config) (system : System) : Step → Option System
  | .Enroll acquired draw req => some (system.arrive (enroll platform system.journal acquired draw req))
  | .RenewCert found request =>
    if findsRenewable system.journal request.body.currentCertSerial found then
      some (system.arrive (renewCert config found request))
    else none
  | .DecommissionNode request =>
    some (system.arrive (decommissionNode config system.journal request))
  | .Sign index outcome =>
    ((system.calls[index]?).bind (Call.sign outcome)).map fun after =>
      { system with calls := system.calls.set index after }
  | .Write index draw consensus =>
    (system.calls[index]?).bind fun call =>
      call.command.map fun cmd =>
        let (journal, result) := clientWrite platform consensus system.journal cmd
        ⟨journal, system.calls.set index (call.resume config draw result)⟩
  | .Background now cmd =>
    if isElsewhere cmd then
      some { system with journal := (apply platform now system.journal cmd).1 }
    else none

end Pact.Journal.EnrollmentService
