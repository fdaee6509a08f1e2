import Pact.Journal.EnrollmentService

namespace Pact.Journal.EnrollmentService

open Pact.Library Pact.Common

def newEnrollment (config : Config) (principal : String) (now : DateTime) (nodeId : NodeId)
    (hw : Proto.HardwareIdentity) : NodeEnrollment where
  nodeId := nodeId
  domainId := config.domainId
  state := .Registered
  hardwareIdentity := protoHwToDomain hw
  vclusterId := none
  certSerial := none
  certExpiresAt := none
  lastSeen := none
  enrolledAt := now
  enrolledBy := ⟨principal, .Human, "pact-platform-admin"⟩
  activeSessions := 0

def registerNode (config : Config) (now : DateTime) (request : Request Proto.RegisterNodeRequest) :
    Handler Proto.RegisterNodeResponse :=
  match requirePlatformAdmin config request.authorization with
  | .error status => .Return (.error status)
  | .ok admin =>
    match request.body.hardwareIdentity with
    | none => .Return (.error ⟨.InvalidArgument, "hardware_identity required"⟩)
    | some hw =>
      .Write (.RegisterNode (newEnrollment config admin.principal now request.body.nodeId hw))
        fun response =>
          match response with
          | .EnrollmentResult nodeId state _ => .ok ⟨nodeId, debugState state⟩
          | .ValidationError reason => .error ⟨.FailedPrecondition, reason⟩
          | _ => .error ⟨.Internal, "unexpected Raft response"⟩

-- The loop of batch_register_nodes between two of its writes.
structure Batch where
  principal : String
  nodes : List Proto.RegisterNodeRequest
  results : List Proto.BatchNodeResult
  succeeded : UInt32
  failed : UInt32
  deriving DecidableEq

def batchRegisterNodes (config : Config) (request : Request Proto.BatchRegisterNodesRequest) :
    Except Status Batch :=
  match requirePlatformAdmin config request.authorization with
  | .error status => .error status
  | .ok admin => .ok ⟨admin.principal, request.body.nodes, [], 0, 0⟩

def Batch.push (batch : Batch) (rest : List Proto.RegisterNodeRequest)
    (result : Proto.BatchNodeResult) : Batch :=
  { batch with
    nodes := rest
    results := batch.results ++ [result]
    succeeded := if result.success then batch.succeeded + 1 else batch.succeeded
    failed := if result.success then batch.failed else batch.failed + 1 }

def batchResult (nodeId : NodeId) : Except String JournalResponse → Proto.BatchNodeResult
  | .ok (.EnrollmentResult registered state _) => ⟨registered, true, debugState state, ""⟩
  | .ok (.ValidationError reason) => ⟨nodeId, false, "", reason⟩
  | .ok _ => ⟨nodeId, false, "", "unexpected response"⟩
  | .error error => ⟨nodeId, false, "", "Raft error: " ++ error⟩

-- One round of the loop, with the clock reading and the outcome of the write it makes. A batch
-- with no nodes left is answered.
def Batch.round (platform : Platform) (config : Config) (now : DateTime) (consensus : Consensus)
    (journal : JournalState) (batch : Batch) : Option (JournalState × Batch) :=
  match batch.nodes with
  | [] => none
  | node :: rest =>
    match node.hardwareIdentity with
    | none =>
      some (journal, batch.push rest ⟨node.nodeId, false, "", "hardware_identity required"⟩)
    | some hw =>
      let (after, result) := clientWrite platform consensus journal
        (.RegisterNode (newEnrollment config batch.principal now node.nodeId hw))
      some (after, batch.push rest (batchResult node.nodeId result))

def Batch.response (batch : Batch) : Proto.BatchRegisterNodesResponse :=
  ⟨batch.results, batch.succeeded, batch.failed⟩

end Pact.Journal.EnrollmentService
