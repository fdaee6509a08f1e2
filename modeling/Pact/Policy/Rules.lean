import Pact.Library.Run
import Pact.Policy.Rbac

namespace Pact.Policy

open Pact.Library Pact.Common

structure PolicyRequest where
  identity : Identity
  scope : Scope
  action : String
  deriving DecidableEq

inductive PolicyDecision
  | Allow (policyRef : String)
  | Deny (policyRef reason : String)
  | RequireApproval (policyRef approvalId : String)
  deriving DecidableEq

inductive PolicyError
  | ApprovalNotFound (approvalId : String)
  | ApprovalExpired (approvalId : String)
  | ApprovalAlreadyResolved (approvalId : String)
  | SelfApproval
  | InsufficientPrivileges (reason : String)
  deriving DecidableEq

structure DefaultPolicyEngine where
  policies : Map VClusterId VClusterPolicy
  pendingApprovals : Map String PendingApproval
  approvalTimeoutSeconds : Int
  deriving DecidableEq

-- The vCluster a scope resolves to in the engine: the empty id for the global scope.
def scopeId (scope : Scope) : VClusterId := (scopeVcluster scope).getD ""

def approverHasAccess (role : String) (vclusterId : VClusterId) : Bool :=
  role = "pact-platform-admin" ∨ role = "pact-ops-" ++ vclusterId ∨
    role = "pact-regulated-" ++ vclusterId

namespace DefaultPolicyEngine

def new (approvalTimeoutSeconds : Int) : DefaultPolicyEngine :=
  ⟨.empty, .empty, approvalTimeoutSeconds⟩

def setPolicy (policy : VClusterPolicy) (engine : DefaultPolicyEngine) : DefaultPolicyEngine :=
  { engine with policies := engine.policies.insert policy.vclusterId policy }

-- `approvalId` and `now` are the random id and the clock reading of this call.
def createApproval (request : PolicyRequest) (vclusterId : VClusterId) (approvalId : String)
    (now : DateTime) (engine : DefaultPolicyEngine) : DefaultPolicyEngine :=
  { engine with
    pendingApprovals := engine.pendingApprovals.insert approvalId
      { approvalId := approvalId
        originalRequest := request.action ++ " on " ++ vclusterId
        action := request.action
        scope := request.scope
        requester := request.identity
        approver := none
        status := .Pending
        createdAt := now
        expiresAt := now + DateTime.seconds engine.approvalTimeoutSeconds } }

def evaluateSync (request : PolicyRequest) (approvalId : String) (now : DateTime)
    (engine : DefaultPolicyEngine) : DefaultPolicyEngine × PolicyDecision :=
  let vclusterId := scopeId request.scope
  let policy := (engine.policies.get vclusterId).getD
    { VClusterPolicy.default with vclusterId := vclusterId }
  let policyRef := if policy.policyId = "" then "default:" ++ vclusterId else policy.policyId
  match RbacEngine.evaluate request.identity request.action request.scope policy with
  | .Allow => (engine, .Allow policyRef)
  | .Deny reason => (engine, .Deny policyRef reason)
  | .Defer =>
    if policy.twoPersonApproval then
      (engine.createApproval request vclusterId approvalId now,
        .RequireApproval policyRef approvalId)
    else (engine, .Allow policyRef)

def store (approvalId : String) (approval : PendingApproval) (engine : DefaultPolicyEngine) :
    DefaultPolicyEngine :=
  { engine with pendingApprovals := engine.pendingApprovals.insert approvalId approval }

-- An approval that is overdue expires here, whatever has been decided about it before.
def approve (approvalId : String) (approver : Identity) (now : DateTime)
    (engine : DefaultPolicyEngine) :
    DefaultPolicyEngine × Except PolicyError PolicyDecision :=
  match engine.pendingApprovals.get approvalId with
  | none => (engine, .error (.ApprovalNotFound approvalId))
  | some approval =>
    if now > approval.expiresAt then
      (engine.store approvalId { approval with status := .Expired },
        .error (.ApprovalExpired approvalId))
    else if approval.status ≠ .Pending then
      (engine, .error (.ApprovalAlreadyResolved approvalId))
    else if approval.requester.principal = approver.principal then
      (engine, .error .SelfApproval)
    else if approverHasAccess approver.role (scopeId approval.scope) then
      (engine.store approvalId { approval with status := .Approved, approver := some approver },
        .ok (.Allow ("approved:" ++ approvalId)))
    else
      (engine, .error (.InsufficientPrivileges ("approver role '" ++ approver.role ++
        "' does not have ops access to vCluster '" ++ scopeId approval.scope ++ "'")))

def reject (approvalId : String) (rejector : Identity) (engine : DefaultPolicyEngine) :
    DefaultPolicyEngine × Except PolicyError Unit :=
  match engine.pendingApprovals.get approvalId with
  | none => (engine, .error (.ApprovalNotFound approvalId))
  | some approval =>
    if approval.status ≠ .Pending then
      (engine, .error (.ApprovalAlreadyResolved approvalId))
    else
      (engine.store approvalId { approval with status := .Rejected, approver := some rejector },
        .ok ())

def isOverdue (now : DateTime) (approval : PendingApproval) : Bool :=
  approval.status = .Pending ∧ now > approval.expiresAt

def expireApprovals (now : DateTime) (engine : DefaultPolicyEngine) :
    DefaultPolicyEngine × List String :=
  ({ engine with
      pendingApprovals := engine.pendingApprovals.mapValues fun approval =>
        if isOverdue now approval then { approval with status := .Expired } else approval },
    (engine.pendingApprovals.toList.filter fun (_, approval) => isOverdue now approval).map Prod.fst)

def cleanupResolved (engine : DefaultPolicyEngine) : DefaultPolicyEngine :=
  { engine with
    pendingApprovals := engine.pendingApprovals.filter fun _ approval =>
      approval.status = .Pending }

end DefaultPolicyEngine

inductive EngineStep
  | EvaluateSync (request : PolicyRequest) (approvalId : String) (now : DateTime)
  | Approve (approvalId : String) (approver : Identity) (now : DateTime)
  | Reject (approvalId : String) (rejector : Identity)
  | ExpireApprovals (now : DateTime)
  | SetPolicy (policy : VClusterPolicy)
  | CleanupResolved
  deriving DecidableEq

def engineNext (engine : DefaultPolicyEngine) : EngineStep → Option DefaultPolicyEngine
  | .EvaluateSync request approvalId now => some (engine.evaluateSync request approvalId now).1
  | .Approve approvalId approver now => some (engine.approve approvalId approver now).1
  | .Reject approvalId rejector => some (engine.reject approvalId rejector).1
  | .ExpireApprovals now => some (engine.expireApprovals now).1
  | .SetPolicy policy => some (engine.setPolicy policy)
  | .CleanupResolved => some engine.cleanupResolved

end Pact.Policy
