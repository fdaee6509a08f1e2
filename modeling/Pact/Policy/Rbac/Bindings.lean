import Mathlib.Data.List.Perm.Basic
import Pact.Policy.Rbac.Soundness

namespace Pact.Policy

open Pact.Library Pact.Common

def withBindings (policy : VClusterPolicy) (bindings : List RoleBinding) : VClusterPolicy :=
  { policy with roleBindings := bindings }

-- Bindings as a set of grants: their order does not matter, and one more of them, wherever it is
-- put, takes nothing away.
structure ActAsSet (identity : Identity) (action : String) (scope : Scope)
    (policy : VClusterPolicy) : Prop where
  order : ∀ bindings : List RoleBinding, bindings.Perm policy.roleBindings →
    RbacEngine.evaluate identity action scope (withBindings policy bindings) =
      RbacEngine.evaluate identity action scope policy
  adding : ∀ before binding after, policy.roleBindings = before ++ after →
    RbacEngine.evaluate identity action scope policy = .Allow →
    ∀ reason, RbacEngine.evaluate identity action scope
      (withBindings policy (before ++ binding :: after)) ≠ .Deny reason

-- A binding that names the action itself, not only the wildcard.
def ExplicitMatch (identity : Identity) (action : String) (binding : RoleBinding) : Prop :=
  binding.role = identity.role ∧ identity.principal ∈ binding.principals ∧
    action ∈ binding.allowedActions

-- The decisions that depend on which matching binding comes first: an emergency action of a role
-- that only the bindings know, with a binding that lists the action.
structure OrderMatters (identity : Identity) (action : String) (scope : Scope)
    (policy : VClusterPolicy) : Prop where
  custom : CustomRole identity.role
  scope : scope ≠ .Global
  emergency : action ∈ emergencyActions
  explicit : ∃ binding ∈ policy.roleBindings, ExplicitMatch identity action binding

def wildcardBinding (identity : Identity) : RoleBinding where
  role := identity.role
  principals := [identity.principal]
  allowedActions := ["*"]

section Bindings

variable (identity : Identity) (action : String)

theorem explicitMatch_matches (binding : RoleBinding)
    (hexplicit : ExplicitMatch identity action binding) :
    bindingMatches identity action binding = true := by
  obtain ⟨hrole, hprincipal, haction⟩ := hexplicit
  exact (bindingMatches_iff identity action binding).mpr ⟨hrole, hprincipal, .inl haction⟩

theorem evaluateBindings_eq_any (bindings : List RoleBinding)
    (hplain : action ∈ emergencyActions →
      ∀ binding ∈ bindings, ¬ExplicitMatch identity action binding) :
    evaluateBindings identity action bindings =
      if bindings.any (bindingMatches identity action) then
        if action ∈ emergencyActions then
          .Deny "emergency actions require explicit binding, not wildcard"
        else .Allow
      else .Deny ("unknown role: " ++ identity.role) := by
  induction bindings with
  | nil => simp [evaluateBindings]
  | cons binding rest ih =>
    have hrest := ih fun hemergency other hmem => hplain hemergency other (.tail _ hmem)
    by_cases hmatch : bindingMatches identity action binding = true
    · by_cases hemergency : action ∈ emergencyActions
      · have hlisted : action ∉ binding.allowedActions := by
          intro hlisted
          obtain ⟨hrole, hprincipal, _⟩ := (bindingMatches_iff identity action binding).mp hmatch
          exact hplain hemergency binding (.head _) ⟨hrole, hprincipal, hlisted⟩
        simp [evaluateBindings, hmatch, hemergency, hlisted]
      · simp [evaluateBindings, hmatch, hemergency]
    · simpa [evaluateBindings, hmatch] using hrest

theorem evaluateBindings_perm (first second : List RoleBinding) (hperm : first.Perm second)
    (hplain : action ∈ emergencyActions →
      ∀ binding ∈ second, ¬ExplicitMatch identity action binding) :
    evaluateBindings identity action first = evaluateBindings identity action second := by
  have hfirst : action ∈ emergencyActions →
      ∀ binding ∈ first, ¬ExplicitMatch identity action binding := by
    intro hemergency binding hmem
    exact hplain hemergency binding (hperm.mem_iff.mp hmem)
  rw [evaluateBindings_eq_any identity action first hfirst,
    evaluateBindings_eq_any identity action second hplain, hperm.any_eq]

theorem evaluateBindings_grows (bindings before after : List RoleBinding) (binding : RoleBinding)
    (hsplit : bindings = before ++ after)
    (hplain : action ∈ emergencyActions →
      ∀ binding ∈ bindings, ¬ExplicitMatch identity action binding)
    (hallow : evaluateBindings identity action bindings = .Allow) :
    evaluateBindings identity action (before ++ binding :: after) = .Allow := by
  rw [evaluateBindings_eq_any identity action _ hplain] at hallow
  by_cases hany : bindings.any (bindingMatches identity action) = true
  · by_cases hemergency : action ∈ emergencyActions
    · simp [hany, hemergency] at hallow
    · have hmore : (before ++ binding :: after).any (bindingMatches identity action) = true := by
        rw [hsplit, List.any_append, Bool.or_eq_true] at hany
        simp only [List.any_append, List.any_cons, Bool.or_eq_true]
        rcases hany with hbefore | hafter
        · exact .inl hbefore
        · exact .inr (.inr hafter)
      rw [evaluateBindings_eq_any identity action _ fun h => absurd h hemergency]
      simp [hmore, hemergency]
  · simp [hany] at hallow

theorem evaluateBindings_of_wildcard_first (bindings : List RoleBinding)
    (hemergency : action ∈ emergencyActions) :
    evaluateBindings identity action (wildcardBinding identity :: bindings) =
      .Deny "emergency actions require explicit binding, not wildcard" := by
  have hmatch : bindingMatches identity action (wildcardBinding identity) = true := by
    rw [bindingMatches_iff]
    simp [wildcardBinding]
  have hlisted : action ∉ (wildcardBinding identity).allowedActions := by
    simp only [wildcardBinding, List.mem_singleton]
    rintro rfl
    exact absurd hemergency (by decide)
  simp [evaluateBindings, hmatch, hemergency, hlisted]

theorem evaluateBindings_of_explicit_first (binding : RoleBinding) (rest : List RoleBinding)
    (hexplicit : ExplicitMatch identity action binding) :
    evaluateBindings identity action (binding :: rest) = .Allow := by
  have hmatch := explicitMatch_matches identity action binding hexplicit
  simp [evaluateBindings, hmatch, hexplicit.2.2]

end Bindings

section Decision

variable (identity : Identity) (action : String) (scope : Scope) (policy : VClusterPolicy)

theorem evaluate_withBindings_congr (bindings : List RoleBinding)
    (hsame : CustomRole identity.role → scope ≠ .Global →
      evaluateBindings identity action bindings =
        evaluateBindings identity action policy.roleBindings) :
    RbacEngine.evaluate identity action scope (withBindings policy bindings) =
      RbacEngine.evaluate identity action scope policy := by
  by_cases hadmin : identity.role = "pact-platform-admin"
  · simp only [RbacEngine.evaluate, if_pos hadmin]
  by_cases hglobal : scope = .Global
  · simp only [RbacEngine.evaluate, hglobal, scopeVcluster]
  have hrules : ∀ vcluster, evaluateRole identity action vcluster (withBindings policy bindings) =
      evaluateRole identity action vcluster policy := by
    intro vcluster
    simp only [evaluateRole]
    split_ifs with hviewer hregulated hops hagent hai
    · rfl
    · rfl
    · rfl
    · rfl
    · rfl
    · exact hsame ⟨by simpa using hviewer, by simpa using hregulated, by simpa using hops, hadmin,
        hagent, hai⟩ hglobal
  simp only [RbacEngine.evaluate, evaluateIn, hrules]

theorem evaluate_emergency_allow_iff (hrole : CustomRole identity.role) (hscope : scope ≠ .Global)
    (hemergency : action ∈ emergencyActions) :
    RbacEngine.evaluate identity action scope policy = .Allow ↔
      evaluateBindings identity action policy.roleBindings = .Allow := by
  have hvcluster : ∃ vcluster, scopeVcluster scope = some vcluster := by
    cases scope with
    | Global => exact absurd rfl hscope
    | VCluster vcluster => exact ⟨vcluster, rfl⟩
    | Node node => exact ⟨node, rfl⟩
  obtain ⟨vcluster, hvcluster⟩ := hvcluster
  have hupdate := ne_policyUpdate_of_mem action (.inr (.inr (.inl hemergency)))
  rw [evaluate_custom_iff identity action scope policy .Allow hrole (fun _ => nofun)]
  simp [hvcluster, hupdate]

theorem not_actAsSet_of_orderMatters (horder : OrderMatters identity action scope policy) :
    ¬ActAsSet identity action scope policy := by
  intro hset
  obtain ⟨hrole, hscope, hemergency, binding, hmem, hexplicit⟩ := horder
  -- Putting the explicit binding first grants the action, so the policy as it is must grant it,
  obtain ⟨before, after, hsplit⟩ := List.append_of_mem hmem
  have hfirst := evaluateBindings_of_explicit_first identity action binding (before ++ after) hexplicit
  have hfront := hset.order (binding :: (before ++ after)) (hsplit ▸ List.perm_middle.symm)
  have hallow : RbacEngine.evaluate identity action scope policy = .Allow := by
    rw [← hfront]
    exact (evaluate_emergency_allow_iff identity action scope _ hrole hscope hemergency).mpr hfirst
  -- and then one wildcard binding in front of it takes the grant away.
  have hkept := hset.adding [] (wildcardBinding identity) policy.roleBindings rfl hallow
  have hdenied : RbacEngine.evaluate identity action scope
      (withBindings policy ([] ++ wildcardBinding identity :: policy.roleBindings)) ≠ .Allow := by
    rw [Ne, evaluate_emergency_allow_iff identity action scope _ hrole hscope hemergency]
    simp [withBindings,
      evaluateBindings_of_wildcard_first identity action policy.roleBindings hemergency]
  cases hdecision : RbacEngine.evaluate identity action scope
      (withBindings policy ([] ++ wildcardBinding identity :: policy.roleBindings)) with
  | Allow => exact hdenied hdecision
  | Deny reason => exact hkept reason hdecision
  | Defer =>
    have hbindings := ((evaluate_custom_iff identity action scope _ .Defer hrole
      (fun _ => nofun)).mp hdecision).choose_spec.2.2
    exact evaluateBindings_ne_defer identity action _ hbindings

-- The bindings of a policy act as a set of grants for every identity, action and scope but these:
-- an emergency action of a role that only the bindings know, when some binding lists that action.
-- There the first matching binding decides, and a wildcard in front of it refuses.
theorem bindings_actAsSet_iff :
    ActAsSet identity action scope policy ↔ ¬OrderMatters identity action scope policy := by
  refine ⟨fun hset horder => not_actAsSet_of_orderMatters identity action scope policy horder hset,
    ?_⟩
  intro horder
  have hplain : CustomRole identity.role → scope ≠ .Global → action ∈ emergencyActions →
      ∀ binding ∈ policy.roleBindings, ¬ExplicitMatch identity action binding := by
    intro hrole hscope hemergency binding hmem hexplicit
    exact horder ⟨hrole, hscope, hemergency, binding, hmem, hexplicit⟩
  refine ⟨?_, ?_⟩
  · intro bindings hperm
    refine evaluate_withBindings_congr identity action scope policy bindings ?_
    intro hrole hscope
    exact evaluateBindings_perm identity action bindings policy.roleBindings hperm
      (hplain hrole hscope)
  · intro before binding after hsplit hallow reason
    have hkept : RbacEngine.evaluate identity action scope
        (withBindings policy (before ++ binding :: after)) = .Allow := by
      rw [← hallow]
      refine evaluate_withBindings_congr identity action scope policy _ ?_
      intro hrole hscope
      obtain ⟨_, _, _, hbindings⟩ :=
        (evaluate_custom_iff identity action scope policy .Allow hrole (fun _ => nofun)).mp hallow
      rw [hbindings]
      exact evaluateBindings_grows identity action policy.roleBindings before after binding hsplit
        (hplain hrole hscope) hbindings
    rw [hkept]
    exact nofun

def wildcardFirst : VClusterPolicy :=
  { VClusterPolicy.default with
    roleBindings := [⟨"lab-oncall", ["alice"], ["*"]⟩, ⟨"lab-oncall", ["alice"], ["emergency_start"]⟩] }

-- The binding that lists emergency_start grants it when it stands first, and is never reached
-- behind a wildcard binding for the same person.
theorem wildcardFirst_not_actAsSet :
    RbacEngine.evaluate ⟨"alice", .Human, "lab-oncall"⟩ "emergency_start" (.VCluster "ml")
        wildcardFirst = .Deny "emergency actions require explicit binding, not wildcard" ∧
      RbacEngine.evaluate ⟨"alice", .Human, "lab-oncall"⟩ "emergency_start" (.VCluster "ml")
        (withBindings wildcardFirst wildcardFirst.roleBindings.reverse) = .Allow ∧
      ¬ActAsSet ⟨"alice", .Human, "lab-oncall"⟩ "emergency_start" (.VCluster "ml")
        wildcardFirst := by
  refine ⟨by decide, by decide, ?_⟩
  intro hset
  have hsame := hset.order wildcardFirst.roleBindings.reverse (List.reverse_perm _)
  revert hsame
  decide

end Decision

end Pact.Policy
