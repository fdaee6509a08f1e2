import Pact.Common.Proto
import Pact.Journal.Rpc
import Pact.Policy.Rbac

namespace Pact.Journal.PolicyService

open Pact.Library Pact.Common Pact.Policy

inductive OpaDecision
  | Allow
  | Deny (reason : String)
  deriving DecidableEq

structure OpaInput where
  principal : String
  role : String
  principalType : String
  action : String
  vcluster : VClusterId
  command : Option String
  deriving DecidableEq

abbrev OpaClient := OpaInput → Except String OpaDecision

def protoToIdentity (proto : Proto.Identity) : Identity where
  principal := proto.principal
  principalType :=
    if proto.principalType = "agent" then .Agent
    else if proto.principalType = "service" then .Service
    else .Human
  role := proto.role

def protoToScope (proto : Proto.Scope) : Scope :=
  match proto.scope with
  | some (.NodeId nodeId) => .Node nodeId
  | some (.VclusterId vclusterId) => .VCluster vclusterId
  | _ => .Global

def makeResponse (authorized : Bool) (policyRef : String) (denialReason : Option String) :
    Proto.PolicyEvalResponse where
  authorized := authorized
  policyRef := policyRef
  denialReason := denialReason
  approval := none

def policyRef (policy : Option VClusterPolicy) (head action : String) : String :=
  match policy with
  | some policy => head ++ ":" ++ policy.policyId ++ ":" ++ action
  | none => head ++ ":default:" ++ action

def debugPrincipalType : PrincipalType → String
  | .Human => "Human"
  | .Agent => "Agent"
  | .Service => "Service"

def evaluateOpa (opaClient : Option OpaClient) (identity : Identity) (scope : Scope)
    (action : String) (command : Option String) (policy : Option VClusterPolicy) :
    Proto.PolicyEvalResponse :=
  match opaClient with
  | some evaluate =>
    match evaluate ⟨identity.principal, identity.role, debugPrincipalType identity.principalType,
      action, (scopeVcluster scope).getD "", command⟩ with
    | .ok .Allow => makeResponse true (policyRef policy "opa" action) none
    | .ok (.Deny reason) => makeResponse false ("opa:denied:" ++ action) (some reason)
    | .error _ => makeResponse true (policyRef policy "degraded" action) none
  | none => makeResponse true (policyRef policy "rbac" action) none

def requestIdentity (req : Proto.PolicyEvalRequest) : Identity :=
  match req.author with
  | some author => protoToIdentity author
  | none => ⟨"anonymous", .Human, ""⟩

def requestScope (req : Proto.PolicyEvalRequest) : Scope :=
  match req.scope with
  | some scope => protoToScope scope
  | none => .Global

-- The policy the service reads for a request. A Node scope has none, although the engine below
-- takes the name in it as a vCluster.
def vclusterPolicy (s : JournalState) (scope : Scope) : Option VClusterPolicy :=
  match scope with
  | .VCluster vclusterId => s.policies.get vclusterId
  | _ => none

def policyInForce (s : JournalState) (scope : Scope) : VClusterPolicy :=
  (vclusterPolicy s scope).getD .default

def newApproval (req : Proto.PolicyEvalRequest) (approvalId : String) (now : DateTime) :
    PendingApproval where
  approvalId := approvalId
  originalRequest := req.command.getD req.action
  action := req.action
  scope := requestScope req
  requester := requestIdentity req
  approver := none
  status := .Pending
  createdAt := now
  expiresAt := now + DateTime.hours 24

def deferredResponse (action approvalId : String) : Proto.PolicyEvalResponse :=
  { makeResponse false ("rbac:deferred:" ++ action) none with
    approval := some ⟨"two_person", approvalId⟩ }

-- `s` is the state the handler reads. `approvalId` and `now` are the random id and the clock
-- reading it takes when it has to defer.
def evaluate (opaClient : Option OpaClient) (s : JournalState) (approvalId : String)
    (now : DateTime) (req : Proto.PolicyEvalRequest) : Handler Proto.PolicyEvalResponse :=
  let identity := requestIdentity req
  let scope := requestScope req
  let policy := policyInForce s scope
  match RbacEngine.evaluate identity req.action scope policy with
  | .Allow =>
    .Return (.ok (makeResponse true (policyRef (vclusterPolicy s scope) "rbac" req.action) none))
  | .Deny reason =>
    .Return (.ok (makeResponse false ("rbac:denied:" ++ req.action) (some reason)))
  | .Defer =>
    if policy.twoPersonApproval then
      .Write (.CreateApproval (newApproval req approvalId now)) fun _ =>
        .ok (deferredResponse req.action approvalId)
    else
      .Return (.ok (evaluateOpa opaClient identity scope req.action req.command
        (vclusterPolicy s scope)))

def protoToRoleBinding (proto : Proto.RoleBinding) : RoleBinding where
  role := proto.role
  principals := proto.principals
  allowedActions := proto.allowedActions

-- A negative nanosecond count wraps around, and a time out of range becomes the epoch.
def protoToVclusterPolicy (platform : Platform) (proto : Proto.VClusterPolicy) : VClusterPolicy where
  vclusterId := proto.vclusterId
  policyId := proto.policyId
  updatedAt := proto.updatedAt.map fun timestamp =>
    (platform.fromTimestamp timestamp.seconds (timestamp.nanos % 2 ^ 32).toNat).getD 0
  driftSensitivity := proto.driftSensitivity
  baseCommitWindowSeconds := proto.baseCommitWindowSeconds
  emergencyWindowSeconds := proto.emergencyWindowSeconds
  autoConvergeCategories := proto.autoConvergeCategories
  requireAckCategories := proto.requireAckCategories
  enforcementMode := proto.enforcementMode
  roleBindings := proto.roleBindings.map protoToRoleBinding
  regulated := proto.regulated
  twoPersonApproval := proto.twoPersonApproval
  emergencyAllowed := proto.emergencyAllowed
  auditRetentionDays := proto.auditRetentionDays
  aiExecAllowed := proto.aiExecAllowed
  federationTemplate := proto.federationTemplate
  supervisorBackend := proto.supervisorBackend
  execWhitelist := proto.execWhitelist
  shellWhitelist := proto.shellWhitelist

-- The author and the message of the request are not read.
def updatePolicy (platform : Platform) (req : Proto.UpdatePolicyRequest) :
    Handler Proto.UpdatePolicyResponse :=
  match req.policy with
  | none => .Return (.error ⟨.InvalidArgument, "policy required"⟩)
  | some policy =>
    .Write (.SetPolicy req.vclusterId (protoToVclusterPolicy platform policy)) fun response =>
      match response with
      | .Ok => .ok ⟨true, "policy:" ++ req.vclusterId, none⟩
      | .ValidationError reason => .ok ⟨false, "", some reason⟩
      | _ => .error ⟨.Internal, "unexpected response for UpdatePolicy"⟩

def parseDecision (decision : String) : Except Status ApprovalStatus :=
  if decision = "approved" then .ok .Approved
  else if decision = "rejected" then .ok .Rejected
  else .error ⟨.InvalidArgument,
    "invalid decision '" ++ decision ++ "', must be 'approved' or 'rejected'"⟩

def decideApproval (req : Proto.DecideApprovalRequest) : Handler Proto.DecideApprovalResponse :=
  match req.approver with
  | none => .Return (.error ⟨.InvalidArgument, "approver identity required"⟩)
  | some approver =>
    match parseDecision req.decision with
    | .error status => .Return (.error status)
    | .ok decision =>
      .Write (.DecideApproval req.approvalId (protoToIdentity approver) decision) fun response =>
        match response with
        | .Ok => .ok ⟨true, none⟩
        | .ValidationError reason => .ok ⟨false, some reason⟩
        | _ => .error ⟨.Internal, "unexpected response for DecideApproval"⟩

end Pact.Journal.PolicyService
