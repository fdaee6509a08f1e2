import Pact.Common.Types
import Pact.Library.Text

namespace Pact.Policy

open Pact.Library Pact.Common

inductive RbacDecision
  | Allow
  | Deny (reason : String)
  | Defer
  deriving DecidableEq

def readActions : List String := ["status", "diff", "log"]

def writeActions : List String :=
  ["commit", "rollback", "exec", "shell", "service_start", "service_stop", "service_restart"]

def emergencyActions : List String := ["emergency_start", "emergency_end"]

-- The vCluster a scope stands for. The name in a Node scope is taken as a vCluster id.
def scopeVcluster : Scope → Option VClusterId
  | .VCluster vcluster => some vcluster
  | .Node vcluster => some vcluster
  | .Global => none

def extractVclusterFromRole (role : String) : Option VClusterId :=
  stripPrefix role "pact-ops-" <|> stripPrefix role "pact-viewer-" <|>
    stripPrefix role "pact-regulated-"

def evaluateViewer (action : String) : RbacDecision :=
  if action ∈ readActions then .Allow
  else .Deny ("viewer role cannot perform action: " ++ action ++ " (P2)")

def evaluateRegulated (action : String) (policy : VClusterPolicy) : RbacDecision :=
  if action ∈ readActions then .Allow
  else if policy.twoPersonApproval ∧ action ∈ writeActions then .Defer
  else if action ∈ writeActions ∨ action = "approve" then .Allow
  else .Deny ("action not permitted for regulated role: " ++ action)

def evaluateOps (action : String) : RbacDecision :=
  if action ∈ readActions ∨ action ∈ writeActions then .Allow
  else if action ∈ emergencyActions then .Allow
  else if action = "approve" then .Allow
  else .Deny ("action not permitted for ops role: " ++ action)

def evaluateServiceAgent (action : String) : RbacDecision :=
  if action = "status" ∨ action = "log" then .Allow
  else .Deny ("service agent cannot perform action: " ++ action)

def evaluateServiceAi (action : String) (vcluster : VClusterId) (policy : VClusterPolicy) :
    RbacDecision :=
  if action ∈ readActions then .Allow
  else if action = "exec" ∧ policy.aiExecAllowed then .Allow
  else if action = "exec" then
    .Deny ("AI exec not authorized for vCluster '" ++ vcluster ++
      "' (set ai_exec_allowed in policy)")
  else .Deny ("AI agent cannot perform action: " ++ action)

def bindingMatches (identity : Identity) (action : String) (binding : RoleBinding) : Bool :=
  binding.role = identity.role ∧ identity.principal ∈ binding.principals ∧
    binding.allowedActions.any fun allowed => allowed = action ∨ allowed = "*"

-- The first matching binding decides.
def evaluateBindings (identity : Identity) (action : String) : List RoleBinding → RbacDecision
  | [] => .Deny ("unknown role: " ++ identity.role)
  | binding :: rest =>
    if bindingMatches identity action binding then
      if action ∈ emergencyActions ∧ action ∉ binding.allowedActions then
        .Deny "emergency actions require explicit binding, not wildcard"
      else .Allow
    else evaluateBindings identity action rest

def evaluateRole (identity : Identity) (action : String) (vcluster : VClusterId)
    (policy : VClusterPolicy) : RbacDecision :=
  if startsWith identity.role "pact-viewer-" then evaluateViewer action
  else if startsWith identity.role "pact-regulated-" then evaluateRegulated action policy
  else if startsWith identity.role "pact-ops-" then evaluateOps action
  else if identity.role = "pact-service-agent" then evaluateServiceAgent action
  else if identity.role = "pact-service-ai" then evaluateServiceAi action vcluster policy
  else evaluateBindings identity action policy.roleBindings

def evaluateIn (identity : Identity) (action : String) (vcluster : VClusterId)
    (policy : VClusterPolicy) : RbacDecision :=
  match (extractVclusterFromRole identity.role).filter (· ≠ vcluster) with
  | some roleVcluster =>
    .Deny ("role " ++ identity.role ++ " is scoped to vCluster " ++ roleVcluster ++ ", not " ++
      vcluster ++ " (P3)")
  | none =>
    if action = "policy_update" then .Deny "policy_update requires pact-platform-admin role"
    else evaluateRole identity action vcluster policy

def RbacEngine.evaluate (identity : Identity) (action : String) (scope : Scope)
    (policy : VClusterPolicy) : RbacDecision :=
  if identity.role = "pact-platform-admin" then .Allow
  else if identity.role = "pact-service-ai" ∧ action ∈ emergencyActions then
    .Deny "AI agents cannot enter or exit emergency mode (P8)"
  else
    match scopeVcluster scope with
    | some vcluster => evaluateIn identity action vcluster policy
    | none => .Deny "global scope requires pact-platform-admin role"

end Pact.Policy
