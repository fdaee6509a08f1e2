import Pact.Journal.PolicyService
import Pact.Policy.Rbac.Theorems

namespace Pact.Journal.PolicyService

open Pact.Library Pact.Common Pact.Policy

-- The request waits for a second person: no answer authorizes it, and the committed write adds
-- a pending approval for exactly this request.
structure HeldForApproval (platform : Platform) (req : Proto.PolicyEvalRequest)
    (handler : Handler Proto.PolicyEvalResponse) : Prop where
  unauthorized : ∀ consensus s response,
    (handler.finish platform consensus s).2 = .ok response → response.authorized = false
  stored : ∀ now s, ∃ approval response,
    handler.finish platform (.Committed now) s =
      ({ s with pendingApprovals := s.pendingApprovals.insert approval.approvalId approval },
        .ok response) ∧
    response.approval = some ⟨"two_person", approval.approvalId⟩ ∧ approval.status = .Pending ∧
    approval.requester = requestIdentity req ∧ approval.action = req.action ∧
    approval.scope = requestScope req

def AuthorizedAtOnce (platform : Platform) (handler : Handler Proto.PolicyEvalResponse) : Prop :=
  ∀ consensus s, ∃ response, (handler.finish platform consensus s).2 = .ok response ∧
    response.authorized = true ∧
    (handler.finish platform consensus s).1.pendingApprovals = s.pendingApprovals

section Evaluate

variable (platform : Platform) (opaClient : Option OpaClient) (s : JournalState)
  (approvalId : String) (now : DateTime) (req : Proto.PolicyEvalRequest)

theorem evaluate_of_granted (h : Granted (requestIdentity req) req.action (requestScope req)
    (policyInForce s (requestScope req))) :
    evaluate opaClient s approvalId now req = .Return (.ok (makeResponse true
      (policyRef (vclusterPolicy s (requestScope req)) "rbac" req.action) none)) := by
  simp only [evaluate, (evaluate_allow_iff _ _ _ _).mpr h]

theorem evaluate_of_needsApproval (h : NeedsApproval (requestIdentity req) req.action
    (requestScope req) (policyInForce s (requestScope req))) :
    evaluate opaClient s approvalId now req =
      .Write (.CreateApproval (newApproval req approvalId now)) fun _ =>
        .ok (deferredResponse req.action approvalId) := by
  have htwo : (policyInForce s (requestScope req)).twoPersonApproval = true := h.choose_spec.2.2.2
  simp only [evaluate, (evaluate_defer_iff _ _ _ _).mpr h, htwo, if_true]

theorem evaluate_of_denied
    (hgranted : ¬Granted (requestIdentity req) req.action (requestScope req)
      (policyInForce s (requestScope req)))
    (hneeds : ¬NeedsApproval (requestIdentity req) req.action (requestScope req)
      (policyInForce s (requestScope req))) :
    ∃ reason, evaluate opaClient s approvalId now req =
      .Return (.ok (makeResponse false ("rbac:denied:" ++ req.action) (some reason))) := by
  rw [← evaluate_allow_iff] at hgranted
  rw [← evaluate_defer_iff] at hneeds
  cases hdecision : RbacEngine.evaluate (requestIdentity req) req.action (requestScope req)
      (policyInForce s (requestScope req)) with
  | Allow => exact absurd hdecision hgranted
  | Defer => exact absurd hdecision hneeds
  | Deny reason =>
    refine ⟨reason, ?_⟩
    simp only [evaluate, hdecision]

theorem evaluate_held (h : NeedsApproval (requestIdentity req) req.action (requestScope req)
    (policyInForce s (requestScope req))) :
    HeldForApproval platform req (evaluate opaClient s approvalId now req) := by
  rw [evaluate_of_needsApproval opaClient s approvalId now req h]
  constructor
  · intro consensus t response hanswer
    cases consensus with
    | Committed committedAt =>
      obtain rfl := Except.ok.inj hanswer
      rfl
    | Failed error applied => cases hanswer
  · intro committedAt t
    exact ⟨newApproval req approvalId now, deferredResponse req.action approvalId,
      rfl, rfl, rfl, rfl, rfl, rfl⟩

theorem evaluate_authorizedAtOnce_iff :
    AuthorizedAtOnce platform (evaluate opaClient s approvalId now req) ↔
      Granted (requestIdentity req) req.action (requestScope req)
        (policyInForce s (requestScope req)) := by
  constructor
  · intro h
    obtain ⟨response, hanswer, hauthorized, _⟩ := h (.Committed now) s
    by_contra hgranted
    by_cases hneeds : NeedsApproval (requestIdentity req) req.action (requestScope req)
        (policyInForce s (requestScope req))
    · have hheld := evaluate_held platform opaClient s approvalId now req hneeds
      rw [hheld.unauthorized _ _ _ hanswer] at hauthorized
      cases hauthorized
    · obtain ⟨reason, hdenied⟩ := evaluate_of_denied opaClient s approvalId now req hgranted hneeds
      rw [hdenied] at hanswer
      obtain rfl := Except.ok.inj hanswer
      cases hauthorized
  · intro hgranted consensus t
    rw [evaluate_of_granted opaClient s approvalId now req hgranted]
    exact ⟨_, rfl, rfl, rfl⟩

theorem evaluate_of_not_needsApproval
    (h : ¬NeedsApproval (requestIdentity req) req.action (requestScope req)
      (policyInForce s (requestScope req)))
    (other : Option OpaClient) (otherId : String) (otherNow : DateTime) :
    evaluate opaClient s approvalId now req = evaluate other s otherId otherNow req := by
  cases hdecision : RbacEngine.evaluate (requestIdentity req) req.action (requestScope req)
      (policyInForce s (requestScope req)) with
  | Allow => simp only [evaluate, hdecision]
  | Deny reason => simp only [evaluate, hdecision]
  | Defer => exact absurd ((evaluate_defer_iff _ _ _ _).mp hdecision) h

-- OPA is asked only when RBAC defers under a policy without two-person approval, and RBAC defers
-- under no such policy.
theorem evaluate_opaClient (other : Option OpaClient) :
    evaluate opaClient s approvalId now req = evaluate other s approvalId now req := by
  by_cases hneeds : NeedsApproval (requestIdentity req) req.action (requestScope req)
      (policyInForce s (requestScope req))
  · rw [evaluate_of_needsApproval opaClient s approvalId now req hneeds,
      evaluate_of_needsApproval other s approvalId now req hneeds]
  · exact evaluate_of_not_needsApproval opaClient s approvalId now req hneeds other approvalId now

end Evaluate

-- What an answer decides: the flag, the reason and what approval it asks for. The id of the
-- approval is random.
def decision (response : Proto.PolicyEvalResponse) : Bool × Option String × Option String :=
  (response.authorized, response.denialReason, response.approval.map Proto.ApprovalRequired.approvalType)

theorem decision_approvalId (platform : Platform) (opaClient : Option OpaClient) (s : JournalState)
    (approvalId otherId : String) (now otherNow : DateTime) (req : Proto.PolicyEvalRequest)
    (consensus : Consensus) (written : JournalState) :
    ((evaluate opaClient s approvalId now req).finish platform consensus written).2.map decision =
      ((evaluate opaClient s otherId otherNow req).finish platform consensus written).2.map
        decision := by
  by_cases hneeds : NeedsApproval (requestIdentity req) req.action (requestScope req)
      (policyInForce s (requestScope req))
  · rw [evaluate_of_needsApproval opaClient s approvalId now req hneeds,
      evaluate_of_needsApproval opaClient s otherId otherNow req hneeds]
    cases consensus with
    | Committed committedAt => rfl
    | Failed error applied => rfl
  · rw [evaluate_of_not_needsApproval opaClient s approvalId now req hneeds opaClient otherId otherNow]

-- Whatever OPA would say, and whether or not it is configured, a request is handled in the same
-- way. Two calls that draw different ids and clock readings still decide the same.
theorem evaluate_without_opa (platform : Platform) (first second : Option OpaClient)
    (s : JournalState) (approvalId : String) (now : DateTime) (req : Proto.PolicyEvalRequest) :
    evaluate first s approvalId now req = evaluate second s approvalId now req ∧
      ∀ otherId otherNow consensus written,
        ((evaluate first s approvalId now req).finish platform consensus written).2.map decision =
          ((evaluate second s otherId otherNow req).finish platform consensus written).2.map
            decision := by
  refine ⟨evaluate_opaClient first s approvalId now req second, ?_⟩
  intro otherId otherNow consensus written
  rw [evaluate_opaClient first s approvalId now req second]
  exact decision_approvalId platform second s approvalId otherId now otherNow req consensus written

theorem scope_of_vcluster (scope : Scope) (vcluster : VClusterId)
    (h : scopeVcluster scope = some vcluster) :
    scope = .VCluster vcluster ∨ scope = .Node vcluster := by
  cases scope with
  | Global => cases h
  | VCluster name => exact .inl (congrArg Scope.VCluster (Option.some.inj h))
  | Node name => exact .inr (congrArg Scope.Node (Option.some.inj h))

-- Where two persons are required, a regulated write waits for the second one exactly when the
-- scope names the vCluster itself. Under a Node scope no policy is read and the default one,
-- which requires nobody else, takes its place.
theorem evaluate_held_iff (platform : Platform) (opaClient : Option OpaClient) (s : JournalState)
    (approvalId : String) (now : DateTime) (req : Proto.PolicyEvalRequest) (vcluster : VClusterId)
    (policy : VClusterPolicy) (hpolicy : s.policies.get vcluster = some policy)
    (htwo : policy.twoPersonApproval = true)
    (hrole : (requestIdentity req).role = "pact-regulated-" ++ vcluster)
    (haction : req.action ∈ writeActions)
    (hscope : scopeVcluster (requestScope req) = some vcluster) :
    HeldForApproval platform req (evaluate opaClient s approvalId now req) ↔
      requestScope req = .VCluster vcluster := by
  constructor
  · intro hheld
    rcases scope_of_vcluster _ _ hscope with hname | hname
    · exact hname
    · have hdefault : policyInForce s (requestScope req) = .default := by rw [hname]; rfl
      have hgranted : Granted (requestIdentity req) req.action (requestScope req)
          (policyInForce s (requestScope req)) :=
        .Regulated vcluster hscope hrole (.inr (.inl ⟨haction, by rw [hdefault]; rfl⟩))
      obtain ⟨response, hanswer, hauthorized, _⟩ :=
        (evaluate_authorizedAtOnce_iff platform opaClient s approvalId now req).mpr hgranted
          (.Committed now) s
      rw [hheld.unauthorized _ _ _ hanswer] at hauthorized
      cases hauthorized
  · intro hname
    have hread : policyInForce s (requestScope req) = policy := by
      simp [hname, policyInForce, vclusterPolicy, hpolicy]
    exact evaluate_held platform opaClient s approvalId now req
      ⟨vcluster, hscope, hrole, haction, by rw [hread]; exact htwo⟩

def twoPersonPolicy : VClusterPolicy :=
  { VClusterPolicy.default with vclusterId := "ml", policyId := "pol-1", twoPersonApproval := true }

def twoPersonJournal : JournalState :=
  (apply .ascii 0 .default (.SetPolicy "ml" twoPersonPolicy)).1

def commitRequest (scope : Proto.ScopeKind) : Proto.PolicyEvalRequest where
  author := some ⟨"alice", "human", "pact-regulated-ml"⟩
  scope := some ⟨some scope⟩
  action := "commit"
  command := none

theorem evaluate_held_vclusterScope :
    HeldForApproval .ascii (commitRequest (.VclusterId "ml"))
      (evaluate none twoPersonJournal "ap-1" 0 (commitRequest (.VclusterId "ml"))) :=
  (evaluate_held_iff .ascii none twoPersonJournal "ap-1" 0 (commitRequest (.VclusterId "ml")) "ml"
    twoPersonPolicy (by decide) (by decide) (by decide) (by decide) (by decide)).mpr (by decide)

-- The same write with the vCluster's name in a Node scope is authorized on the spot, and no
-- approval is created.
theorem nodeScope_sidesteps_approval :
    scopeVcluster (requestScope (commitRequest (.NodeId "ml"))) = some "ml" ∧
    (twoPersonJournal.policies.get "ml").map VClusterPolicy.twoPersonApproval = some true ∧
    (evaluate none twoPersonJournal "ap-1" 0 (commitRequest (.NodeId "ml"))).finish .ascii
        (.Committed 0) twoPersonJournal =
      (twoPersonJournal, .ok ⟨true, "rbac:default:commit", none, none⟩) := by
  decide

-- An approval that was given makes no difference to the repeated request: it is authorized
-- exactly when the role model grants it without one. A request that needs the approval is put
-- on hold once more.
theorem approved_request_authorized_iff (platform : Platform) (opaClient : Option OpaClient)
    (s : JournalState) (approvalId : String) (now : DateTime) (req : Proto.PolicyEvalRequest)
    (givenId : String) (given : PendingApproval)
    (_hstored : s.pendingApprovals.get givenId = some given)
    (_happroved : given.status = .Approved) (_hunexpired : now ≤ given.expiresAt)
    (hrequester : given.requester = requestIdentity req) (haction : given.action = req.action)
    (hscope : given.scope = requestScope req) :
    (AuthorizedAtOnce platform (evaluate opaClient s approvalId now req) ↔
      Granted given.requester given.action given.scope (policyInForce s given.scope)) ∧
    (NeedsApproval given.requester given.action given.scope (policyInForce s given.scope) →
      HeldForApproval platform req (evaluate opaClient s approvalId now req)) := by
  rw [hrequester, haction, hscope]
  exact ⟨evaluate_authorizedAtOnce_iff platform opaClient s approvalId now req,
    evaluate_held platform opaClient s approvalId now req⟩

def deferredJournal : JournalState :=
  ((evaluate none twoPersonJournal "ap-1" 0 (commitRequest (.VclusterId "ml"))).finish .ascii
    (.Committed 0) twoPersonJournal).1

def approvedJournal : JournalState :=
  ((decideApproval ⟨"ap-1", some ⟨"bob", "human", "pact-ops-ml"⟩, "approved", none⟩).finish .ascii
    (.Committed 0) deferredJournal).1

def approvedCommit : PendingApproval :=
  { newApproval (commitRequest (.VclusterId "ml")) "ap-1" 0 with
    status := .Approved, approver := some ⟨"bob", .Human, "pact-ops-ml"⟩ }

-- Once the vCluster's policy no longer asks for two persons, the approved request goes through.
theorem approved_request_authorized_relaxed :
    AuthorizedAtOnce .ascii (evaluate none (apply .ascii 0 approvedJournal
      (.SetPolicy "ml" .default)).1 "ap-2" 0 (commitRequest (.VclusterId "ml"))) :=
  (approved_request_authorized_iff .ascii none
    (apply .ascii 0 approvedJournal (.SetPolicy "ml" .default)).1 "ap-2" 0
    (commitRequest (.VclusterId "ml")) "ap-1" approvedCommit (by decide) (by decide) (by decide)
    (by decide) (by decide) (by decide)).1.mpr
    (.Regulated "ml" (by decide) (by decide) (by decide))

-- The approved request is deferred again, with a second pending approval.
theorem approved_request_deferred_again :
    approvedJournal.pendingApprovals.get "ap-1" = some approvedCommit ∧
    approvedCommit.status = .Approved ∧
    ((evaluate none approvedJournal "ap-2" 0 (commitRequest (.VclusterId "ml"))).finish .ascii
        (.Committed 0) approvedJournal).2 =
      .ok ⟨false, "rbac:deferred:commit", none, some ⟨"two_person", "ap-2"⟩⟩ ∧
    ((evaluate none approvedJournal "ap-2" 0 (commitRequest (.VclusterId "ml"))).finish .ascii
        (.Committed 0) approvedJournal).1.pendingApprovals.get "ap-2" =
      some (newApproval (commitRequest (.VclusterId "ml")) "ap-2" 0) := by
  decide

end Pact.Journal.PolicyService
