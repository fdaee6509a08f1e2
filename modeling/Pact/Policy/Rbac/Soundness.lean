import Pact.Policy.Rbac.Theorems

namespace Pact.Policy

open Pact.Library Pact.Common

def scopedHeads : List String := ["pact-ops-", "pact-viewer-", "pact-regulated-"]

-- What must be so for anybody but the platform administrator to be let through.
structure Admissible (identity : Identity) (action : String) (scope : Scope)
    (policy : VClusterPolicy) : Prop where
  notGlobal : scope ≠ .Global
  home : ∀ head ∈ scopedHeads, ∀ home, identity.role = head ++ home →
    scopeVcluster scope = some home
  update : action ≠ "policy_update"
  viewer : ∀ home, identity.role = "pact-viewer-" ++ home → action ∈ readActions
  serviceAgent : identity.role = "pact-service-agent" → action = "status" ∨ action = "log"
  serviceAi : identity.role = "pact-service-ai" →
    action ∉ emergencyActions ∧ (action = "exec" → policy.aiExecAllowed = true)
  custom : CustomRole identity.role → ∃ binding ∈ policy.roleBindings,
    binding.role = identity.role ∧ identity.principal ∈ binding.principals ∧
    (action ∈ binding.allowedActions ∨ "*" ∈ binding.allowedActions) ∧
    (action ∈ emergencyActions → action ∈ binding.allowedActions)

theorem bindingMatches_iff (identity : Identity) (action : String) (binding : RoleBinding) :
    bindingMatches identity action binding = true ↔ binding.role = identity.role ∧
      identity.principal ∈ binding.principals ∧
      (action ∈ binding.allowedActions ∨ "*" ∈ binding.allowedActions) := by
  have hlisted : (∃ allowed ∈ binding.allowedActions, allowed = action ∨ allowed = "*") ↔
      action ∈ binding.allowedActions ∨ "*" ∈ binding.allowedActions := by
    constructor
    · rintro ⟨allowed, hmem, rfl | rfl⟩
      · exact .inl hmem
      · exact .inr hmem
    · rintro (hmem | hmem)
      · exact ⟨action, hmem, .inl rfl⟩
      · exact ⟨"*", hmem, .inr rfl⟩
  simp only [bindingMatches, List.any_eq_true, decide_eq_true_eq, hlisted]

theorem extract_scoped (head : String) (hhead : head ∈ scopedHeads) (home : VClusterId) :
    extractVclusterFromRole (head ++ home) = some home := by
  simp only [scopedHeads, List.mem_cons, List.not_mem_nil, or_false] at hhead
  rcases hhead with rfl | rfl | rfl
  · exact extract_ops home
  · exact extract_viewer home
  · exact extract_regulated home

section Sound

variable (identity : Identity) (action : String) (scope : Scope) (policy : VClusterPolicy)

theorem viewer_reads (home : VClusterId) (hrole : identity.role = "pact-viewer-" ++ home)
    (hdecision : ∀ reason, RbacEngine.evaluate identity action scope policy ≠ .Deny reason) :
    action ∈ readActions := by
  obtain ⟨_, _, hrules⟩ :=
    (evaluate_viewer_iff identity action scope policy home _ hrole hdecision).mp rfl
  by_contra hread
  rw [evaluateViewer, if_neg hread] at hrules
  exact hdecision _ hrules.symm

theorem serviceAgent_reports (hrole : identity.role = "pact-service-agent")
    (hdecision : ∀ reason, RbacEngine.evaluate identity action scope policy ≠ .Deny reason) :
    action = "status" ∨ action = "log" := by
  obtain ⟨_, _, _, hrules⟩ :=
    (evaluate_serviceAgent_iff identity action scope policy _ hrole hdecision).mp rfl
  by_contra hother
  rw [evaluateServiceAgent, if_neg hother] at hrules
  exact hdecision _ hrules.symm

theorem serviceAi_exec (hrole : identity.role = "pact-service-ai")
    (hdecision : ∀ reason, RbacEngine.evaluate identity action scope policy ≠ .Deny reason) :
    action ∉ emergencyActions ∧ (action = "exec" → policy.aiExecAllowed = true) := by
  obtain ⟨vcluster, _, hemergency, _, hrules⟩ :=
    (evaluate_serviceAi_iff identity action scope policy _ hrole hdecision).mp rfl
  refine ⟨hemergency, ?_⟩
  rintro rfl
  by_contra hforbidden
  simp only [evaluateServiceAi, hforbidden, show "exec" ∉ readActions by decide, if_false,
    and_false, if_true] at hrules
  exact hdecision _ hrules.symm

theorem custom_bound (hrole : CustomRole identity.role)
    (hdecision : ∀ reason, RbacEngine.evaluate identity action scope policy ≠ .Deny reason) :
    ∃ binding ∈ policy.roleBindings, binding.role = identity.role ∧
      identity.principal ∈ binding.principals ∧
      (action ∈ binding.allowedActions ∨ "*" ∈ binding.allowedActions) ∧
      (action ∈ emergencyActions → action ∈ binding.allowedActions) := by
  obtain ⟨_, _, _, hrules⟩ :=
    (evaluate_custom_iff identity action scope policy _ hrole hdecision).mp rfl
  have hallow : evaluateBindings identity action policy.roleBindings = .Allow := by
    cases hbindings : evaluateBindings identity action policy.roleBindings with
    | Allow => rfl
    | Deny reason => exact absurd (hrules.symm.trans hbindings) (hdecision reason)
    | Defer => exact absurd hbindings (evaluateBindings_ne_defer identity action _)
  obtain ⟨binding, hfind, hexplicit⟩ :=
    (evaluateBindings_allow_iff identity action policy.roleBindings).mp hallow
  obtain ⟨hname, hprincipal, hlisted⟩ :=
    (bindingMatches_iff identity action binding).mp (List.find?_some hfind)
  exact ⟨binding, List.mem_of_find?_eq_some hfind, hname, hprincipal, hlisted, hexplicit⟩

-- Everything the engine lets through, at once or after an approval, is admissible, and it asks
-- for an approval exactly where the role model does.
theorem evaluate_sound :
    (identity.role ≠ "pact-platform-admin" →
      (∀ reason, RbacEngine.evaluate identity action scope policy ≠ .Deny reason) →
      Admissible identity action scope policy) ∧
    (RbacEngine.evaluate identity action scope policy = .Defer ↔
      ∃ vcluster, scopeVcluster scope = some vcluster ∧
        identity.role = "pact-regulated-" ++ vcluster ∧ action ∈ writeActions ∧
        policy.twoPersonApproval = true) := by
  refine ⟨fun hadmin hdecision => ?_, evaluate_defer_iff identity action scope policy⟩
  obtain ⟨vcluster, hscope, hhome, _, hupdate, _⟩ :=
    (evaluate_eq_iff identity action scope policy _ hadmin hdecision).mp rfl
  constructor
  · rintro rfl
    cases hscope
  · intro head hhead home hrole
    rw [hscope, hhome home (hrole ▸ extract_scoped head hhead home)]
  · exact hupdate
  · exact fun home hrole => viewer_reads identity action scope policy home hrole hdecision
  · exact fun hrole => serviceAgent_reports identity action scope policy hrole hdecision
  · exact fun hrole => serviceAi_exec identity action scope policy hrole hdecision
  · exact fun hrole => custom_bound identity action scope policy hrole hdecision

-- Who is in command of the emergency mode of a vCluster, by role or by an explicit binding.
inductive CommandsEmergency : Prop
  | PlatformAdmin (hrole : identity.role = "pact-platform-admin")
  | Ops (vcluster : VClusterId) (hscope : scopeVcluster scope = some vcluster)
      (hrole : identity.role = "pact-ops-" ++ vcluster)
  | Bound (binding : RoleBinding) (hscope : scope ≠ .Global) (hrole : CustomRole identity.role)
      (hbinding : policy.roleBindings.find? (bindingMatches identity action) = some binding)
      (hexplicit : action ∈ binding.allowedActions)

theorem evaluate_emergency_iff (haction : action ∈ emergencyActions) :
    RbacEngine.evaluate identity action scope policy = .Allow ↔
      CommandsEmergency identity action scope policy := by
  have hother : ∀ action ∈ emergencyActions, action ∉ readActions ∧ action ∉ writeActions ∧
      action ≠ "approve" ∧ action ≠ "status" ∧ action ≠ "log" ∧ action ≠ "exec" ∧
      action ≠ "policy_update" := by decide
  obtain ⟨hread, hwrite, happrove, hstatus, hlog, hexec, hupdate⟩ := hother action haction
  rw [evaluate_allow_iff]
  constructor
  · intro hgranted
    cases hgranted with
    | PlatformAdmin hrole => exact .PlatformAdmin hrole
    | Viewer vcluster hscope hrole hallowed => exact absurd hallowed hread
    | Regulated vcluster hscope hrole hallowed => simp [hread, hwrite, happrove] at hallowed
    | Ops vcluster hscope hrole hallowed => exact .Ops vcluster hscope hrole
    | ServiceAgent vcluster hscope hrole hallowed => simp [hstatus, hlog] at hallowed
    | ServiceAi vcluster hscope hrole hallowed => simp [hread, hexec] at hallowed
    | Bound vcluster binding hscope hrole hbinding hexplicit _ =>
      refine .Bound binding ?_ hrole hbinding (hexplicit haction)
      rintro rfl
      cases hscope
  · intro hcommands
    cases hcommands with
    | PlatformAdmin hrole => exact .PlatformAdmin hrole
    | Ops vcluster hscope hrole =>
      exact .Ops vcluster hscope hrole (.inr (.inr (.inl haction)))
    | Bound binding hscope hrole hbinding hexplicit =>
      obtain ⟨vcluster, hvcluster⟩ : ∃ vcluster, scopeVcluster scope = some vcluster := by
        cases scope with
        | Global => exact absurd rfl hscope
        | VCluster vcluster => exact ⟨vcluster, rfl⟩
        | Node vcluster => exact ⟨vcluster, rfl⟩
      exact .Bound vcluster binding hvcluster hrole hbinding (fun _ => hexplicit) hupdate

-- The engine reads neither the kind of principal nor whether the policy allows emergencies.
theorem emergency_authority_iff (haction : action ∈ emergencyActions) :
    (RbacEngine.evaluate identity action scope policy = .Allow →
      identity.principalType = .Human ∧
        (identity.role ≠ "pact-platform-admin" → policy.emergencyAllowed = true)) ↔
    ¬ CommandsEmergency identity action scope policy ∨
      identity.principalType = .Human ∧
        (identity.role = "pact-platform-admin" ∨ policy.emergencyAllowed = true) := by
  rw [evaluate_emergency_iff identity action scope policy haction, ← or_iff_not_imp_left,
    imp_iff_not_or]

end Sound

def opsBot : Identity := ⟨"bot", .Agent, "pact-ops-ml"⟩

def opsHuman : Identity := ⟨"kim", .Human, "pact-ops-ml"⟩

def lockedDown : VClusterPolicy := { VClusterPolicy.default with emergencyAllowed := false }

theorem emergency_authority_human :
    "emergency_start" ∈ emergencyActions ∧
      (RbacEngine.evaluate opsHuman "emergency_start" (.VCluster "ml") .default = .Allow →
        opsHuman.principalType = .Human ∧
          (opsHuman.role ≠ "pact-platform-admin" →
            VClusterPolicy.default.emergencyAllowed = true)) :=
  ⟨by decide, (emergency_authority_iff opsHuman "emergency_start" (.VCluster "ml") .default
    (by decide)).mpr (.inr ⟨rfl, .inr rfl⟩)⟩

-- An agent with an operator's role, and an operator under a policy without emergencies.
theorem emergency_without_authority :
    RbacEngine.evaluate opsBot "emergency_start" (.VCluster "ml") .default = .Allow ∧
      opsBot.principalType = .Agent ∧
      RbacEngine.evaluate opsHuman "emergency_start" (.VCluster "ml") lockedDown = .Allow ∧
      opsHuman.role ≠ "pact-platform-admin" ∧ lockedDown.emergencyAllowed = false := by
  decide +kernel

end Pact.Policy
