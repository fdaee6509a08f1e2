import Pact.Common.Types

namespace Pact.Journal

open Pact.Common

inductive JournalCommand
  | AppendEntry (entry : ConfigEntry)
  | UpdateNodeState (nodeId : NodeId) (state : ConfigState)
  | SetPolicy (vclusterId : VClusterId) (policy : VClusterPolicy)
  | SetOverlay (vclusterId : VClusterId) (overlay : BootOverlay)
  | RecordOperation (operation : AdminOperation)
  | AssignNode (nodeId : NodeId) (vclusterId : VClusterId)
  | CreateApproval (approval : PendingApproval)
  | DecideApproval (approvalId : String) (approver : Identity) (decision : ApprovalStatus)
  | RegisterNode (enrollment : NodeEnrollment)
  | ActivateNode (nodeId : NodeId) (certSerial : String) (certExpiresAt : String)
  | DeactivateNode (nodeId : NodeId)
  | RevokeNode (nodeId : NodeId)
  | AssignNodeToVCluster (nodeId : NodeId) (vclusterId : VClusterId)
  | UnassignNode (nodeId : NodeId)
  | MoveNodeVCluster (nodeId : NodeId) (fromVclusterId : VClusterId) (toVclusterId : VClusterId)
  | UpdateNodeLastSeen (nodeId : NodeId) (timestamp : String)
  | UpdateNodeCert (nodeId : NodeId) (certSerial : String) (certExpiresAt : String)
  deriving DecidableEq

inductive JournalResponse
  | Ok
  | EntryAppended (sequence : Nat)
  | ValidationError (reason : String)
  | EnrollmentResult (nodeId : NodeId) (state : EnrollmentState) (vclusterId : Option VClusterId)
  deriving DecidableEq

end Pact.Journal
