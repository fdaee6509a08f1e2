import Pact.Policy.Rbac

namespace Pact.Policy

open Pact.Library Pact.Common

-- A role that the role model does not name: only the bindings of a policy can grant it anything.
structure CustomRole (role : String) : Prop where
  viewer : startsWith role "pact-viewer-" = false
  regulated : startsWith role "pact-regulated-" = false
  ops : startsWith role "pact-ops-" = false
  platformAdmin : role ≠ "pact-platform-admin"
  serviceAgent : role ≠ "pact-service-agent"
  serviceAi : role ≠ "pact-service-ai"

-- The role model: who may do what, and where, without anybody else's approval.
inductive Granted (identity : Identity) (action : String) (scope : Scope) (policy : VClusterPolicy) :
    Prop
  | PlatformAdmin (hrole : identity.role = "pact-platform-admin")
  | Viewer (vcluster : VClusterId) (hscope : scopeVcluster scope = some vcluster)
      (hrole : identity.role = "pact-viewer-" ++ vcluster) (haction : action ∈ readActions)
  | Regulated (vcluster : VClusterId) (hscope : scopeVcluster scope = some vcluster)
      (hrole : identity.role = "pact-regulated-" ++ vcluster)
      (haction : action ∈ readActions ∨
        (action ∈ writeActions ∧ policy.twoPersonApproval = false) ∨ action = "approve")
  | Ops (vcluster : VClusterId) (hscope : scopeVcluster scope = some vcluster)
      (hrole : identity.role = "pact-ops-" ++ vcluster)
      (haction : action ∈ readActions ∨ action ∈ writeActions ∨ action ∈ emergencyActions ∨
        action = "approve")
  | ServiceAgent (vcluster : VClusterId) (hscope : scopeVcluster scope = some vcluster)
      (hrole : identity.role = "pact-service-agent") (haction : action = "status" ∨ action = "log")
  | ServiceAi (vcluster : VClusterId) (hscope : scopeVcluster scope = some vcluster)
      (hrole : identity.role = "pact-service-ai")
      (haction : action ∈ readActions ∨ (action = "exec" ∧ policy.aiExecAllowed = true))
  | Bound (vcluster : VClusterId) (binding : RoleBinding)
      (hscope : scopeVcluster scope = some vcluster) (hrole : CustomRole identity.role)
      (hbinding : policy.roleBindings.find? (bindingMatches identity action) = some binding)
      (hexplicit : action ∈ emergencyActions → action ∈ binding.allowedActions)
      (haction : action ≠ "policy_update")

-- What the role model allows only after a second person has approved it.
def NeedsApproval (identity : Identity) (action : String) (scope : Scope)
    (policy : VClusterPolicy) : Prop :=
  ∃ vcluster, scopeVcluster scope = some vcluster ∧
    identity.role = "pact-regulated-" ++ vcluster ∧ action ∈ writeActions ∧
    policy.twoPersonApproval = true

inductive RoleKind : String → Prop
  | PlatformAdmin : RoleKind "pact-platform-admin"
  | Viewer (vcluster : VClusterId) : RoleKind ("pact-viewer-" ++ vcluster)
  | Regulated (vcluster : VClusterId) : RoleKind ("pact-regulated-" ++ vcluster)
  | Ops (vcluster : VClusterId) : RoleKind ("pact-ops-" ++ vcluster)
  | ServiceAgent : RoleKind "pact-service-agent"
  | ServiceAi : RoleKind "pact-service-ai"
  | Custom (role : String) (h : CustomRole role) : RoleKind role

theorem roleKind (role : String) : RoleKind role := by
  by_cases hviewer : startsWith role "pact-viewer-" = true
  · obtain ⟨vcluster, rfl⟩ := (startsWith_iff _ _).mp hviewer
    exact .Viewer vcluster
  by_cases hregulated : startsWith role "pact-regulated-" = true
  · obtain ⟨vcluster, rfl⟩ := (startsWith_iff _ _).mp hregulated
    exact .Regulated vcluster
  by_cases hops : startsWith role "pact-ops-" = true
  · obtain ⟨vcluster, rfl⟩ := (startsWith_iff _ _).mp hops
    exact .Ops vcluster
  by_cases hadmin : role = "pact-platform-admin"
  · exact hadmin ▸ .PlatformAdmin
  by_cases hagent : role = "pact-service-agent"
  · exact hagent ▸ .ServiceAgent
  by_cases hai : role = "pact-service-ai"
  · exact hai ▸ .ServiceAi
  exact .Custom role ⟨by simpa using hviewer, by simpa using hregulated, by simpa using hops,
    hadmin, hagent, hai⟩

-- Past the platform administrator, everything that is not denied goes through the role's own
-- rules, in the one vCluster the scope and the role agree on.
theorem evaluate_eq_iff (identity : Identity) (action : String) (scope : Scope)
    (policy : VClusterPolicy) (decision : RbacDecision)
    (hadmin : identity.role ≠ "pact-platform-admin")
    (hdecision : ∀ reason, decision ≠ .Deny reason) :
    RbacEngine.evaluate identity action scope policy = decision ↔
      ∃ vcluster, scopeVcluster scope = some vcluster ∧
        (∀ roleVcluster, extractVclusterFromRole identity.role = some roleVcluster →
          roleVcluster = vcluster) ∧
        ¬(identity.role = "pact-service-ai" ∧ action ∈ emergencyActions) ∧
        action ≠ "policy_update" ∧ evaluateRole identity action vcluster policy = decision := by
  have hdeny : ∀ reason, RbacDecision.Deny reason ≠ decision := fun reason => (hdecision reason).symm
  simp only [RbacEngine.evaluate, if_neg hadmin]
  by_cases hai : identity.role = "pact-service-ai" ∧ action ∈ emergencyActions
  · simp [hai, hdeny]
  rw [if_neg hai]
  cases hscope : scopeVcluster scope with
  | none => simp [hdeny]
  | some vcluster =>
    simp only [evaluateIn, Option.some.injEq, exists_eq_left', hai, not_false_eq_true, true_and]
    cases hextract : extractVclusterFromRole identity.role with
    | none =>
      by_cases hupdate : action = "policy_update" <;> simp [hupdate, hdeny]
    | some roleVcluster =>
      by_cases heq : roleVcluster = vcluster
      · by_cases hupdate : action = "policy_update" <;> simp [heq, hupdate, hdeny, Option.filter]
      · simp [heq, hdeny, Option.filter]

theorem extract_ops (vcluster : VClusterId) :
    extractVclusterFromRole ("pact-ops-" ++ vcluster) = some vcluster := by
  simp [extractVclusterFromRole]

theorem extract_viewer (vcluster : VClusterId) :
    extractVclusterFromRole ("pact-viewer-" ++ vcluster) = some vcluster := by
  have hops := stripPrefix_append_eq_none "pact-viewer-" "pact-ops-" vcluster (by decide) (by decide)
  simp [extractVclusterFromRole, hops]

theorem extract_regulated (vcluster : VClusterId) :
    extractVclusterFromRole ("pact-regulated-" ++ vcluster) = some vcluster := by
  have hops :=
    stripPrefix_append_eq_none "pact-regulated-" "pact-ops-" vcluster (by decide) (by decide)
  have hviewer :=
    stripPrefix_append_eq_none "pact-regulated-" "pact-viewer-" vcluster (by decide) (by decide)
  simp [extractVclusterFromRole, hops, hviewer]

theorem extract_of_unscoped (role : String) (hops : startsWith role "pact-ops-" = false)
    (hviewer : startsWith role "pact-viewer-" = false)
    (hregulated : startsWith role "pact-regulated-" = false) :
    extractVclusterFromRole role = none := by
  simp [extractVclusterFromRole, stripPrefix, hops, hviewer, hregulated]

section ScopedRules

variable (identity : Identity) (action : String) (vcluster home : VClusterId)
  (policy : VClusterPolicy)

theorem evaluateRole_viewer (hrole : identity.role = "pact-viewer-" ++ home) :
    evaluateRole identity action vcluster policy = evaluateViewer action := by
  simp [evaluateRole, hrole]

theorem evaluateRole_regulated (hrole : identity.role = "pact-regulated-" ++ home) :
    evaluateRole identity action vcluster policy = evaluateRegulated action policy := by
  have hviewer :=
    startsWith_append_eq_false "pact-regulated-" "pact-viewer-" home (by decide) (by decide)
  simp [evaluateRole, hrole, hviewer]

theorem evaluateRole_ops (hrole : identity.role = "pact-ops-" ++ home) :
    evaluateRole identity action vcluster policy = evaluateOps action := by
  have hviewer := startsWith_append_eq_false "pact-ops-" "pact-viewer-" home (by decide) (by decide)
  have hregulated :=
    startsWith_append_eq_false "pact-ops-" "pact-regulated-" home (by decide) (by decide)
  simp [evaluateRole, hrole, hviewer, hregulated]

end ScopedRules

theorem evaluateRole_unscoped (identity : Identity) (action : String) (vcluster : VClusterId)
    (policy : VClusterPolicy) (hops : startsWith identity.role "pact-ops-" = false)
    (hviewer : startsWith identity.role "pact-viewer-" = false)
    (hregulated : startsWith identity.role "pact-regulated-" = false) :
    evaluateRole identity action vcluster policy =
      if identity.role = "pact-service-agent" then evaluateServiceAgent action
      else if identity.role = "pact-service-ai" then evaluateServiceAi action vcluster policy
      else evaluateBindings identity action policy.roleBindings := by
  simp [evaluateRole, hops, hviewer, hregulated]

theorem evaluateBindings_allow_iff (identity : Identity) (action : String)
    (bindings : List RoleBinding) :
    evaluateBindings identity action bindings = .Allow ↔
      ∃ binding, bindings.find? (bindingMatches identity action) = some binding ∧
        (action ∈ emergencyActions → action ∈ binding.allowedActions) := by
  induction bindings with
  | nil => simp [evaluateBindings]
  | cons binding rest ih =>
    by_cases hmatch : bindingMatches identity action binding = true
    · by_cases hexplicit : action ∈ emergencyActions ∧ action ∉ binding.allowedActions
      · simp [evaluateBindings, hmatch, hexplicit]
      · have hgrant : action ∈ emergencyActions → action ∈ binding.allowedActions := by
          simpa using hexplicit
        simpa only [evaluateBindings, hmatch, if_true, if_neg hexplicit, List.find?_cons_of_pos,
          Option.some.injEq, exists_eq_left', true_iff] using hgrant
    · simp [evaluateBindings, hmatch, ih]

theorem evaluateBindings_ne_defer (identity : Identity) (action : String)
    (bindings : List RoleBinding) : evaluateBindings identity action bindings ≠ .Defer := by
  induction bindings with
  | nil => simp [evaluateBindings]
  | cons binding rest ih =>
    simp only [evaluateBindings]
    split_ifs
    · exact RbacDecision.noConfusion
    · exact RbacDecision.noConfusion
    · exact ih

theorem evaluateViewer_allow_iff (action : String) :
    evaluateViewer action = .Allow ↔ action ∈ readActions := by
  by_cases hread : action ∈ readActions <;> simp [evaluateViewer, hread]

theorem evaluateRegulated_allow_iff (action : String) (policy : VClusterPolicy) :
    evaluateRegulated action policy = .Allow ↔ action ∈ readActions ∨
      (action ∈ writeActions ∧ policy.twoPersonApproval = false) ∨ action = "approve" := by
  simp only [evaluateRegulated]
  split_ifs with hread hdefer hallow
  · simp [hread]
  · have hne : action ≠ "approve" := by
      rintro rfl
      exact absurd hdefer.2 (by decide)
    simp [hread, hdefer, hne]
  · have htwo : action ∈ writeActions → policy.twoPersonApproval = false := by
      intro hwrite
      simpa [hwrite] using hdefer
    rcases hallow with hwrite | happrove
    · simp [hwrite, htwo hwrite]
    · simp [happrove]
  · simp only [not_or] at hallow
    simp [hread, hallow]

theorem evaluateRegulated_defer_iff (action : String) (policy : VClusterPolicy) :
    evaluateRegulated action policy = .Defer ↔
      action ∈ writeActions ∧ policy.twoPersonApproval = true := by
  have hdisjoint : ∀ action ∈ readActions, action ∉ writeActions := by decide
  simp only [evaluateRegulated]
  split_ifs with hread hdefer hallow
  · simp [hdisjoint action hread]
  · simp [hdefer]
  · simpa [and_comm] using hdefer
  · simpa [and_comm] using hdefer

theorem evaluateOps_allow_iff (action : String) :
    evaluateOps action = .Allow ↔ action ∈ readActions ∨ action ∈ writeActions ∨
      action ∈ emergencyActions ∨ action = "approve" := by
  simp only [evaluateOps]
  split_ifs <;> simp_all
  tauto

theorem evaluateServiceAi_allow_iff (action : String) (vcluster : VClusterId)
    (policy : VClusterPolicy) :
    evaluateServiceAi action vcluster policy = .Allow ↔ action ∈ readActions ∨
      (action = "exec" ∧ policy.aiExecAllowed = true) := by
  simp only [evaluateServiceAi]
  split_ifs <;> simp_all

theorem evaluateServiceAgent_allow_iff (action : String) :
    evaluateServiceAgent action = .Allow ↔ action = "status" ∨ action = "log" := by
  simp only [evaluateServiceAgent]
  split_ifs <;> simp_all

theorem evaluate_scoped_iff (identity : Identity) (action : String) (scope : Scope)
    (policy : VClusterPolicy) (head : String) (home : VClusterId) (decision : RbacDecision)
    (hrole : identity.role = head ++ home)
    (hhead : startsWith "pact-platform-admin" head = false)
    (hhead' : startsWith "pact-service-ai" head = false)
    (hextract : extractVclusterFromRole (head ++ home) = some home)
    (hdecision : ∀ reason, decision ≠ .Deny reason) :
    RbacEngine.evaluate identity action scope policy = decision ↔
      scopeVcluster scope = some home ∧ action ≠ "policy_update" ∧
        evaluateRole identity action home policy = decision := by
  have hadmin : identity.role ≠ "pact-platform-admin" := hrole ▸ append_ne _ _ _ hhead
  have hai : identity.role ≠ "pact-service-ai" := hrole ▸ append_ne _ _ _ hhead'
  rw [← hrole] at hextract
  rw [evaluate_eq_iff identity action scope policy decision hadmin hdecision]
  constructor
  · rintro ⟨vcluster, hscope, hhome, _, hupdate, hrole⟩
    obtain rfl := hhome home hextract
    exact ⟨hscope, hupdate, hrole⟩
  · rintro ⟨hscope, hupdate, hrole⟩
    refine ⟨home, hscope, ?_, fun h => hai h.1, hupdate, hrole⟩
    intro roleVcluster h
    rw [hextract] at h
    exact (Option.some.inj h).symm

theorem evaluate_unscoped_iff (identity : Identity) (action : String) (scope : Scope)
    (policy : VClusterPolicy) (decision : RbacDecision)
    (hadmin : identity.role ≠ "pact-platform-admin")
    (hops : startsWith identity.role "pact-ops-" = false)
    (hviewer : startsWith identity.role "pact-viewer-" = false)
    (hregulated : startsWith identity.role "pact-regulated-" = false)
    (hdecision : ∀ reason, decision ≠ .Deny reason) :
    RbacEngine.evaluate identity action scope policy = decision ↔
      ∃ vcluster, scopeVcluster scope = some vcluster ∧
        ¬(identity.role = "pact-service-ai" ∧ action ∈ emergencyActions) ∧
        action ≠ "policy_update" ∧
        (if identity.role = "pact-service-agent" then evaluateServiceAgent action
          else if identity.role = "pact-service-ai" then evaluateServiceAi action vcluster policy
          else evaluateBindings identity action policy.roleBindings) = decision := by
  have hextract := extract_of_unscoped identity.role hops hviewer hregulated
  simp only [evaluate_eq_iff identity action scope policy decision hadmin hdecision, hextract,
    evaluateRole_unscoped identity action _ policy hops hviewer hregulated]
  simp

section Roles

variable (identity : Identity) (action : String) (scope : Scope) (policy : VClusterPolicy)
  (home : VClusterId) (decision : RbacDecision)

theorem evaluate_viewer_iff (hrole : identity.role = "pact-viewer-" ++ home)
    (hdecision : ∀ reason, decision ≠ .Deny reason) :
    RbacEngine.evaluate identity action scope policy = decision ↔
      scopeVcluster scope = some home ∧ action ≠ "policy_update" ∧
        evaluateViewer action = decision := by
  rw [evaluate_scoped_iff identity action scope policy "pact-viewer-" home decision hrole
      (by decide) (by decide) (extract_viewer home) hdecision,
    evaluateRole_viewer identity action home home policy hrole]

theorem evaluate_regulated_iff (hrole : identity.role = "pact-regulated-" ++ home)
    (hdecision : ∀ reason, decision ≠ .Deny reason) :
    RbacEngine.evaluate identity action scope policy = decision ↔
      scopeVcluster scope = some home ∧ action ≠ "policy_update" ∧
        evaluateRegulated action policy = decision := by
  rw [evaluate_scoped_iff identity action scope policy "pact-regulated-" home decision hrole
      (by decide) (by decide) (extract_regulated home) hdecision,
    evaluateRole_regulated identity action home home policy hrole]

theorem evaluate_ops_iff (hrole : identity.role = "pact-ops-" ++ home)
    (hdecision : ∀ reason, decision ≠ .Deny reason) :
    RbacEngine.evaluate identity action scope policy = decision ↔
      scopeVcluster scope = some home ∧ action ≠ "policy_update" ∧
        evaluateOps action = decision := by
  rw [evaluate_scoped_iff identity action scope policy "pact-ops-" home decision hrole
      (by decide) (by decide) (extract_ops home) hdecision,
    evaluateRole_ops identity action home home policy hrole]

theorem evaluate_serviceAgent_iff (hrole : identity.role = "pact-service-agent")
    (hdecision : ∀ reason, decision ≠ .Deny reason) :
    RbacEngine.evaluate identity action scope policy = decision ↔
      ∃ vcluster, scopeVcluster scope = some vcluster ∧ action ≠ "policy_update" ∧
        evaluateServiceAgent action = decision := by
  rw [evaluate_unscoped_iff identity action scope policy decision (hrole ▸ by decide)
    (hrole ▸ by decide) (hrole ▸ by decide) (hrole ▸ by decide) hdecision]
  simp [hrole]

theorem evaluate_serviceAi_iff (hrole : identity.role = "pact-service-ai")
    (hdecision : ∀ reason, decision ≠ .Deny reason) :
    RbacEngine.evaluate identity action scope policy = decision ↔
      ∃ vcluster, scopeVcluster scope = some vcluster ∧ action ∉ emergencyActions ∧
        action ≠ "policy_update" ∧ evaluateServiceAi action vcluster policy = decision := by
  rw [evaluate_unscoped_iff identity action scope policy decision (hrole ▸ by decide)
    (hrole ▸ by decide) (hrole ▸ by decide) (hrole ▸ by decide) hdecision]
  simp [hrole]

theorem evaluate_custom_iff (hrole : CustomRole identity.role)
    (hdecision : ∀ reason, decision ≠ .Deny reason) :
    RbacEngine.evaluate identity action scope policy = decision ↔
      ∃ vcluster, scopeVcluster scope = some vcluster ∧ action ≠ "policy_update" ∧
        evaluateBindings identity action policy.roleBindings = decision := by
  rw [evaluate_unscoped_iff identity action scope policy decision hrole.platformAdmin hrole.ops
    hrole.viewer hrole.regulated hdecision]
  simp [hrole.serviceAgent, hrole.serviceAi]

theorem ne_policyUpdate_of_mem (h : action ∈ readActions ∨ action ∈ writeActions ∨
    action ∈ emergencyActions ∨ action = "approve") : action ≠ "policy_update" := by
  rintro rfl
  revert h
  decide

theorem granted_of_evaluate (h : RbacEngine.evaluate identity action scope policy = .Allow) :
    Granted identity action scope policy := by
  have hallow : ∀ reason, RbacDecision.Allow ≠ .Deny reason := fun _ => RbacDecision.noConfusion
  have hkind := roleKind identity.role
  generalize hrole : identity.role = role at hkind
  cases hkind with
  | PlatformAdmin => exact .PlatformAdmin hrole
  | Viewer home =>
    rw [evaluate_viewer_iff _ _ _ _ home _ hrole hallow] at h
    exact .Viewer home h.1 hrole ((evaluateViewer_allow_iff action).mp h.2.2)
  | Regulated home =>
    rw [evaluate_regulated_iff _ _ _ _ home _ hrole hallow] at h
    exact .Regulated home h.1 hrole ((evaluateRegulated_allow_iff action policy).mp h.2.2)
  | Ops home =>
    rw [evaluate_ops_iff _ _ _ _ home _ hrole hallow] at h
    exact .Ops home h.1 hrole ((evaluateOps_allow_iff action).mp h.2.2)
  | ServiceAgent =>
    obtain ⟨vcluster, hscope, _, hrules⟩ :=
      (evaluate_serviceAgent_iff _ _ _ _ _ hrole hallow).mp h
    exact .ServiceAgent vcluster hscope hrole ((evaluateServiceAgent_allow_iff action).mp hrules)
  | ServiceAi =>
    obtain ⟨vcluster, hscope, _, _, hrules⟩ :=
      (evaluate_serviceAi_iff _ _ _ _ _ hrole hallow).mp h
    exact .ServiceAi vcluster hscope hrole
      ((evaluateServiceAi_allow_iff action vcluster policy).mp hrules)
  | Custom role hcustom =>
    subst hrole
    obtain ⟨vcluster, hscope, hupdate, hrules⟩ :=
      (evaluate_custom_iff _ _ _ _ _ hcustom hallow).mp h
    obtain ⟨binding, hbinding, hexplicit⟩ :=
      (evaluateBindings_allow_iff identity action policy.roleBindings).mp hrules
    exact .Bound vcluster binding hscope hcustom hbinding hexplicit hupdate

theorem Granted.allows (h : Granted identity action scope policy) :
    RbacEngine.evaluate identity action scope policy = .Allow := by
  have hallow : ∀ reason, RbacDecision.Allow ≠ .Deny reason := fun _ => RbacDecision.noConfusion
  cases h with
  | PlatformAdmin hrole => simp [RbacEngine.evaluate, hrole]
  | Viewer home hscope hrole haction =>
    exact (evaluate_viewer_iff _ _ _ _ home _ hrole hallow).mpr
      ⟨hscope, ne_policyUpdate_of_mem action (.inl haction),
        (evaluateViewer_allow_iff action).mpr haction⟩
  | Regulated home hscope hrole haction =>
    refine (evaluate_regulated_iff _ _ _ _ home _ hrole hallow).mpr
      ⟨hscope, ne_policyUpdate_of_mem action ?_,
        (evaluateRegulated_allow_iff action policy).mpr haction⟩
    rcases haction with h | h | h
    · exact .inl h
    · exact .inr (.inl h.1)
    · exact .inr (.inr (.inr h))
  | Ops home hscope hrole haction =>
    exact (evaluate_ops_iff _ _ _ _ home _ hrole hallow).mpr
      ⟨hscope, ne_policyUpdate_of_mem action haction,
        (evaluateOps_allow_iff action).mpr haction⟩
  | ServiceAgent vcluster hscope hrole haction =>
    refine (evaluate_serviceAgent_iff _ _ _ _ _ hrole hallow).mpr ⟨vcluster, hscope, ?_,
      (evaluateServiceAgent_allow_iff action).mpr haction⟩
    rcases haction with rfl | rfl <;> decide
  | ServiceAi vcluster hscope hrole haction =>
    have hmember : action ∈ "exec" :: readActions := by
      rcases haction with h | h
      · exact List.mem_cons_of_mem _ h
      · exact h.1 ▸ List.mem_cons_self
    have hsafe : ∀ action ∈ "exec" :: readActions,
        action ∉ emergencyActions ∧ action ≠ "policy_update" := by decide
    exact (evaluate_serviceAi_iff _ _ _ _ _ hrole hallow).mpr ⟨vcluster, hscope,
      (hsafe action hmember).1, (hsafe action hmember).2,
      (evaluateServiceAi_allow_iff action vcluster policy).mpr haction⟩
  | Bound vcluster binding hscope hrole hbinding hexplicit haction =>
    exact (evaluate_custom_iff _ _ _ _ _ hrole hallow).mpr ⟨vcluster, hscope, haction,
      (evaluateBindings_allow_iff identity action policy.roleBindings).mpr
        ⟨binding, hbinding, hexplicit⟩⟩

theorem evaluate_allow_iff :
    RbacEngine.evaluate identity action scope policy = .Allow ↔
      Granted identity action scope policy :=
  ⟨granted_of_evaluate identity action scope policy,
    Granted.allows identity action scope policy⟩

theorem evaluate_defer_iff :
    RbacEngine.evaluate identity action scope policy = .Defer ↔
      NeedsApproval identity action scope policy := by
  have hdefer : ∀ reason, RbacDecision.Defer ≠ .Deny reason := fun _ => RbacDecision.noConfusion
  constructor
  · intro h
    have hkind := roleKind identity.role
    generalize hrole : identity.role = role at hkind
    cases hkind with
    | PlatformAdmin => simp [RbacEngine.evaluate, hrole] at h
    | Viewer home =>
      rw [evaluate_viewer_iff _ _ _ _ home _ hrole hdefer] at h
      have hrules := h.2.2
      simp only [evaluateViewer] at hrules
      split_ifs at hrules
    | Regulated home =>
      rw [evaluate_regulated_iff _ _ _ _ home _ hrole hdefer] at h
      exact ⟨home, h.1, hrole, (evaluateRegulated_defer_iff action policy).mp h.2.2⟩
    | Ops home =>
      rw [evaluate_ops_iff _ _ _ _ home _ hrole hdefer] at h
      have hrules := h.2.2
      simp only [evaluateOps] at hrules
      split_ifs at hrules
    | ServiceAgent =>
      obtain ⟨vcluster, _, _, hrules⟩ := (evaluate_serviceAgent_iff _ _ _ _ _ hrole hdefer).mp h
      simp only [evaluateServiceAgent] at hrules
      split_ifs at hrules
    | ServiceAi =>
      obtain ⟨vcluster, _, _, _, hrules⟩ := (evaluate_serviceAi_iff _ _ _ _ _ hrole hdefer).mp h
      simp only [evaluateServiceAi] at hrules
      split_ifs at hrules
    | Custom role hcustom =>
      subst hrole
      obtain ⟨vcluster, _, _, hrules⟩ := (evaluate_custom_iff _ _ _ _ _ hcustom hdefer).mp h
      exact absurd hrules (evaluateBindings_ne_defer identity action policy.roleBindings)
  · rintro ⟨home, hscope, hrole, hwrite, htwo⟩
    exact (evaluate_regulated_iff _ _ _ _ home _ hrole hdefer).mpr
      ⟨hscope, ne_policyUpdate_of_mem action (.inr (.inl hwrite)),
        (evaluateRegulated_defer_iff action policy).mpr ⟨hwrite, htwo⟩⟩

theorem evaluate_aiEmergency (hrole : identity.role = "pact-service-ai")
    (haction : action ∈ emergencyActions) :
    RbacEngine.evaluate identity action scope policy =
      .Deny "AI agents cannot enter or exit emergency mode (P8)" := by
  simp [RbacEngine.evaluate, hrole, haction]

-- An AI agent may read and, where the policy says so, exec.
theorem evaluate_aiWrite (hrole : identity.role = "pact-service-ai")
    (hread : action ∉ readActions) (hexec : action ≠ "exec") :
    ∃ reason, RbacEngine.evaluate identity action scope policy = .Deny reason := by
  by_contra hnone
  have hdecision : ∀ reason, RbacEngine.evaluate identity action scope policy ≠ .Deny reason :=
    not_exists.mp hnone
  obtain ⟨vcluster, _, _, _, hrules⟩ :=
    (evaluate_serviceAi_iff identity action scope policy _ hrole hdecision).mp rfl
  simp only [evaluateServiceAi, hread, hexec, if_false, false_and] at hrules
  exact hdecision _ hrules.symm

end Roles

end Pact.Policy
