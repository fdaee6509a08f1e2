import Pact.Journal.BootService
import Pact.Journal.PolicyService

namespace Pact.Journal.PolicyService

open Pact.Library Pact.Common

def roleBindingToProto (binding : RoleBinding) : Proto.RoleBinding where
  role := binding.role
  principals := binding.principals
  allowedActions := binding.allowedActions

def vclusterPolicyToProto (policy : VClusterPolicy) : Proto.VClusterPolicy where
  vclusterId := policy.vclusterId
  policyId := policy.policyId
  updatedAt := policy.updatedAt.map BootService.protoTimestamp
  driftSensitivity := policy.driftSensitivity
  baseCommitWindowSeconds := policy.baseCommitWindowSeconds
  emergencyWindowSeconds := policy.emergencyWindowSeconds
  autoConvergeCategories := policy.autoConvergeCategories
  requireAckCategories := policy.requireAckCategories
  enforcementMode := policy.enforcementMode
  roleBindings := policy.roleBindings.map roleBindingToProto
  regulated := policy.regulated
  twoPersonApproval := policy.twoPersonApproval
  auditRetentionDays := policy.auditRetentionDays
  federationTemplate := policy.federationTemplate
  supervisorBackend := policy.supervisorBackend
  execWhitelist := policy.execWhitelist
  shellWhitelist := policy.shellWhitelist
  emergencyAllowed := policy.emergencyAllowed
  aiExecAllowed := policy.aiExecAllowed

def getEffectivePolicy (s : JournalState) (vclusterId : VClusterId) :
    Except Status Proto.VClusterPolicy :=
  match s.policies.get vclusterId with
  | some policy => .ok (vclusterPolicyToProto policy)
  | none => .error ⟨.NotFound, "policy for " ++ vclusterId ++ " not found"⟩

def storedTimestamp (platform : Platform) (timestamp : Proto.Timestamp) : Proto.Timestamp :=
  BootService.protoTimestamp
    ((platform.fromTimestamp timestamp.seconds (timestamp.nanos % 2 ^ 32).toNat).getD 0)

-- Everything of a policy is stored; only its time is put into normal form.
theorem vclusterPolicyToProto_stored (platform : Platform) (policy : Proto.VClusterPolicy) :
    vclusterPolicyToProto (protoToVclusterPolicy platform policy) =
      { policy with updatedAt := policy.updatedAt.map (storedTimestamp platform) } := by
  have hbindings : (policy.roleBindings.map protoToRoleBinding).map roleBindingToProto =
      policy.roleBindings := by
    rw [List.map_map]
    exact List.map_id policy.roleBindings
  have hupdated : (protoToVclusterPolicy platform policy).updatedAt.map BootService.protoTimestamp =
      policy.updatedAt.map (storedTimestamp platform) := by
    cases hnone : policy.updatedAt <;> simp [protoToVclusterPolicy, storedTimestamp, hnone]
  unfold vclusterPolicyToProto
  rw [hupdated]
  simp only [protoToVclusterPolicy, hbindings]

end Pact.Journal.PolicyService
