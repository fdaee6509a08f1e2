import Pact.Policy.Rules

namespace Pact.Policy

open Pact.Library Pact.Common

-- What a call can do to one approval: drop it, leave it, file a new one in its place, resolve it
-- without approving it, or approve it in time and by somebody entitled to.
inductive ApprovalChange (approvalId : String) (before : Option PendingApproval) (step : EngineStep) :
    Option PendingApproval → Prop
  | Dropped : ApprovalChange approvalId before step none
  | Same : ApprovalChange approvalId before step before
  | Unapproved (approval : PendingApproval) (hstatus : approval.status ≠ .Approved) :
      ApprovalChange approvalId before step (some approval)
  | Approved (approval : PendingApproval) (approver : Identity) (now : DateTime)
      (hstep : step = .Approve approvalId approver now) (hbefore : before = some approval)
      (hpending : approval.status = .Pending) (hintime : now ≤ approval.expiresAt)
      (hother : approval.requester.principal ≠ approver.principal)
      (haccess : approverHasAccess approver.role (scopeId approval.scope) = true) :
      ApprovalChange approvalId before step
        (some { approval with status := .Approved, approver := some approver })

section Calls

open DefaultPolicyEngine

variable (engine : DefaultPolicyEngine) (approvalId : String)

theorem store_change (stored : String) (approval : PendingApproval) (step : EngineStep)
    (h : ApprovalChange stored (engine.pendingApprovals.get stored) step (some approval)) :
    ApprovalChange approvalId (engine.pendingApprovals.get approvalId) step
      ((engine.store stored approval).pendingApprovals.get approvalId) := by
  rw [store, Map.get_insert]
  split
  case isTrue heq =>
    subst heq
    exact h
  case isFalse => exact .Same

theorem evaluateSync_change (request : PolicyRequest) (drawn : String) (now : DateTime)
    (step : EngineStep) :
    ApprovalChange approvalId (engine.pendingApprovals.get approvalId) step
      ((engine.evaluateSync request drawn now).1.pendingApprovals.get approvalId) := by
  unfold evaluateSync
  dsimp only
  split
  · exact .Same
  · exact .Same
  · split
    · exact store_change engine approvalId drawn _ step (.Unapproved _ ApprovalStatus.noConfusion)
    · exact .Same

theorem approve_change (decided : String) (approver : Identity) (now : DateTime) :
    ApprovalChange approvalId (engine.pendingApprovals.get approvalId)
      (.Approve decided approver now)
      ((engine.approve decided approver now).1.pendingApprovals.get approvalId) := by
  unfold approve
  cases hget : engine.pendingApprovals.get decided with
  | none => exact .Same
  | some approval =>
    dsimp only
    split_ifs with hlate hresolved hself haccess
    · exact store_change engine approvalId decided _ _ (.Unapproved _ ApprovalStatus.noConfusion)
    · exact .Same
    · exact .Same
    · exact store_change engine approvalId decided _ _
        (.Approved approval approver now rfl hget (not_not.mp hresolved) (not_lt.mp hlate) hself
          haccess)
    · exact .Same

theorem reject_change (decided : String) (rejector : Identity) (step : EngineStep) :
    ApprovalChange approvalId (engine.pendingApprovals.get approvalId) step
      ((engine.reject decided rejector).1.pendingApprovals.get approvalId) := by
  unfold reject
  cases hget : engine.pendingApprovals.get decided with
  | none => exact .Same
  | some approval =>
    dsimp only
    split_ifs
    · exact .Same
    · exact store_change engine approvalId decided _ step
        (.Unapproved _ ApprovalStatus.noConfusion)

theorem expireApprovals_change (now : DateTime) (step : EngineStep) :
    ApprovalChange approvalId (engine.pendingApprovals.get approvalId) step
      ((engine.expireApprovals now).1.pendingApprovals.get approvalId) := by
  rw [expireApprovals, Map.get_mapValues]
  cases engine.pendingApprovals.get approvalId with
  | none => exact .Same
  | some approval =>
    rw [Option.map_some]
    split
    · exact .Unapproved _ ApprovalStatus.noConfusion
    · exact .Same

theorem cleanupResolved_change (step : EngineStep) :
    ApprovalChange approvalId (engine.pendingApprovals.get approvalId) step
      (engine.cleanupResolved.pendingApprovals.get approvalId) := by
  rw [cleanupResolved, Map.get_filter]
  cases engine.pendingApprovals.get approvalId with
  | none => exact .Same
  | some approval =>
    rw [Option.filter_some]
    split
    · exact .Same
    · exact .Dropped

theorem engineNext_change (step : EngineStep) (after : DefaultPolicyEngine)
    (hnext : engineNext engine step = some after) :
    ApprovalChange approvalId (engine.pendingApprovals.get approvalId) step
      (after.pendingApprovals.get approvalId) := by
  cases step with
  | EvaluateSync request drawn now =>
    cases hnext
    exact evaluateSync_change engine approvalId request drawn now _
  | Approve decided approver now =>
    cases hnext
    exact approve_change engine approvalId decided approver now
  | Reject decided rejector =>
    cases hnext
    exact reject_change engine approvalId decided rejector _
  | ExpireApprovals now =>
    cases hnext
    exact expireApprovals_change engine approvalId now _
  | SetPolicy policy =>
    cases hnext
    exact .Same
  | CleanupResolved =>
    cases hnext
    exact cleanupResolved_change engine approvalId _

end Calls

-- One of the calls of the history found the approval pending and in time, and left it as it is.
def ApprovedInTime (start : DefaultPolicyEngine) (calls : List EngineStep) (approvalId : String)
    (approver : Identity) (approval : PendingApproval) : Prop :=
  ∃ before rest now engine pending,
    calls = before ++ .Approve approvalId approver now :: rest ∧
    Run engineNext Unrestricted start before engine ∧
    engine.pendingApprovals.get approvalId = some pending ∧ pending.status = .Pending ∧
    approval = { pending with status := .Approved, approver := some approver } ∧
    now ≤ approval.expiresAt

theorem approved_properly (approvalTimeoutSeconds : Int) (calls : List EngineStep)
    (engine : DefaultPolicyEngine)
    (run : Run engineNext Unrestricted (.new approvalTimeoutSeconds) calls engine)
    (approvalId : String) (approval : PendingApproval)
    (hget : engine.pendingApprovals.get approvalId = some approval)
    (happroved : approval.status = .Approved) :
    ∃ approver, approval.approver = some approver ∧
      approval.requester.principal ≠ approver.principal ∧
      (approver.role = "pact-platform-admin" ∨
        approver.role = "pact-ops-" ++ scopeId approval.scope ∨
        approver.role = "pact-regulated-" ++ scopeId approval.scope) ∧
      ApprovedInTime (.new approvalTimeoutSeconds) calls approvalId approver approval := by
  obtain ⟨before, step, rest, middle, after, hcalls, hbefore, hnot, -, hnext, hafter, -⟩ :=
    run.since (fun engine => engine.pendingApprovals.get approvalId = some approval)
      (by simp [DefaultPolicyEngine.new]) hget
  have hchange := engineNext_change middle approvalId step after hnext
  rw [hafter] at hchange
  generalize hfound : middle.pendingApprovals.get approvalId = found at hchange hnot
  cases hchange with
  | Same => exact absurd rfl hnot
  | Unapproved _ hstatus => exact absurd happroved hstatus
  | Approved pending approver now hstep hpending hstatus hintime hother haccess =>
    subst hstep
    refine ⟨approver, rfl, hother, by simpa [approverHasAccess] using haccess, before, rest, now,
      middle, pending, hcalls, hbefore, hfound.trans hpending, hstatus, rfl, hintime⟩

def regulatedCommit : PolicyRequest :=
  ⟨⟨"alice@example.com", .Human, "pact-regulated-ml"⟩, .VCluster "ml", "commit"⟩

def secondPerson : Identity := ⟨"bob@example.com", .Human, "pact-regulated-ml"⟩

def approvedCalls : List EngineStep :=
  [.SetPolicy { VClusterPolicy.default with vclusterId := "ml", twoPersonApproval := true },
    .EvaluateSync regulatedCommit "a1" 0, .Approve "a1" secondPerson (DateTime.seconds 60)]

def approvedCommit : PendingApproval :=
  ⟨"a1", "commit on ml", "commit", .VCluster "ml", regulatedCommit.identity, some secondPerson,
    .Approved, 0, DateTime.seconds 1800⟩

theorem approved_properly_minute_later : ∃ engine,
    Run engineNext Unrestricted (.new 1800) approvedCalls engine ∧
    engine.pendingApprovals.get "a1" = some approvedCommit ∧
    ∃ approver, approvedCommit.approver = some approver ∧
      ApprovedInTime (.new 1800) approvedCalls "a1" approver approvedCommit := by
  obtain ⟨engine, hrun, hget⟩ : ∃ engine,
      Run engineNext Unrestricted (.new 1800) approvedCalls engine ∧
      engine.pendingApprovals.get "a1" = some approvedCommit :=
    ⟨_, (exec_eq_some_iff engineNext _ _ approvedCalls).mp rfl, by decide +kernel⟩
  obtain ⟨approver, happrover, _, _, hintime⟩ :=
    approved_properly 1800 approvedCalls engine hrun "a1" approvedCommit hget rfl
  exact ⟨engine, hrun, hget, approver, happrover, hintime⟩

def isResolved (approval : PendingApproval) : Bool :=
  approval.status = .Approved ∨ approval.status = .Rejected

def filesApproval (engine : DefaultPolicyEngine) (request : PolicyRequest) (drawn : String)
    (now : DateTime) : Bool :=
  match (engine.evaluateSync request drawn now).2 with
  | .RequireApproval _ _ => true
  | _ => false

-- A decision stands unless a late call to approve comes upon it, or a new approval is filed under
-- its random id.
def DecisionsStand (engine : DefaultPolicyEngine) : EngineStep → Prop
  | .EvaluateSync request drawn now => filesApproval engine request drawn now →
      ∀ approval ∈ engine.pendingApprovals.get drawn, ¬isResolved approval
  | .Approve approvalId _ now => ∀ approval ∈ engine.pendingApprovals.get approvalId,
      isResolved approval → now ≤ approval.expiresAt
  | _ => True

instance (engine : DefaultPolicyEngine) (call : EngineStep) :
    Decidable (DecisionsStand engine call) := by
  cases call <;> unfold DecisionsStand <;> infer_instance

-- The call leaves every resolved approval with its status, or is the cleanup that removes it.
def StatusKept (engine : DefaultPolicyEngine) (call : EngineStep) (after : DefaultPolicyEngine) :
    Prop :=
  ∀ approvalId approval, engine.pendingApprovals.get approvalId = some approval →
    isResolved approval →
    (∃ kept, after.pendingApprovals.get approvalId = some kept ∧ kept.status = approval.status) ∨
      call = .CleanupResolved ∧ after.pendingApprovals.get approvalId = none

section Resolved

open DefaultPolicyEngine

variable (engine : DefaultPolicyEngine)

theorem statusKept_refl (call : EngineStep) : StatusKept engine call engine :=
  fun _ approval hget _ => .inl ⟨approval, hget, rfl⟩

theorem statusKept_store (stored : String) (approval : PendingApproval) (call : EngineStep)
    (hfree : ∀ found ∈ engine.pendingApprovals.get stored, ¬isResolved found) :
    StatusKept engine call (engine.store stored approval) := by
  intro approvalId found hfound hresolved
  refine .inl ⟨found, ?_, rfl⟩
  rw [store, Map.get_insert_of_ne, hfound]
  rintro rfl
  exact hfree found hfound hresolved

theorem statusKept_store_iff (stored : String) (approval : PendingApproval) (call : EngineStep)
    (hcall : call ≠ .CleanupResolved) (hother : ¬isResolved approval) :
    StatusKept engine call (engine.store stored approval) ↔
      ∀ found ∈ engine.pendingApprovals.get stored, ¬isResolved found := by
  refine ⟨?_, statusKept_store engine stored approval call⟩
  intro hkept found hfound hresolved
  rcases hkept stored found hfound hresolved with ⟨kept, hget, hstatus⟩ | ⟨hcleanup, -⟩
  · rw [store, Map.get_insert_self, Option.some.injEq] at hget
    subst hget
    rw [isResolved, hstatus] at hother
    exact hother hresolved
  · exact hcall hcleanup

theorem evaluateSync_statusKept_iff (request : PolicyRequest) (drawn : String) (now : DateTime) :
    StatusKept engine (.EvaluateSync request drawn now) (engine.evaluateSync request drawn now).1 ↔
      DecisionsStand engine (.EvaluateSync request drawn now) := by
  rw [DecisionsStand, filesApproval]
  unfold evaluateSync
  dsimp only
  split
  · simp [statusKept_refl]
  · simp [statusKept_refl]
  · split
    · rw [imp_iff_right rfl]
      exact statusKept_store_iff engine drawn _ _ EngineStep.noConfusion (by simp [isResolved])
    · simp [statusKept_refl]

theorem approve_statusKept_iff (decided : String) (approver : Identity) (now : DateTime) :
    StatusKept engine (.Approve decided approver now) (engine.approve decided approver now).1 ↔
      DecisionsStand engine (.Approve decided approver now) := by
  rw [DecisionsStand]
  unfold approve
  cases hget : engine.pendingApprovals.get decided with
  | none => simp [statusKept_refl]
  | some approval =>
    dsimp only
    simp only [Option.mem_some_iff, forall_eq']
    split_ifs with hlate hresolved hself haccess
    · rw [statusKept_store_iff engine decided _ _ EngineStep.noConfusion (by simp [isResolved]),
        hget]
      simp [not_le.mpr hlate]
    · simp [statusKept_refl, not_lt.mp hlate]
    · simp [statusKept_refl, not_lt.mp hlate]
    · refine iff_of_true (statusKept_store engine decided _ _ ?_) fun _ => not_lt.mp hlate
      simp [hget, isResolved, not_not.mp hresolved]
    · simp [statusKept_refl, not_lt.mp hlate]

theorem reject_statusKept (decided : String) (rejector : Identity) (call : EngineStep) :
    StatusKept engine call (engine.reject decided rejector).1 := by
  unfold reject
  cases hget : engine.pendingApprovals.get decided with
  | none => exact statusKept_refl engine call
  | some approval =>
    dsimp only
    split_ifs with hresolved
    · exact statusKept_refl engine call
    · refine statusKept_store engine decided _ call ?_
      simp [hget, isResolved, not_not.mp hresolved]

theorem expireApprovals_statusKept (now : DateTime) (call : EngineStep) :
    StatusKept engine call (engine.expireApprovals now).1 := by
  intro approvalId approval hget hresolved
  refine .inl ⟨approval, ?_, rfl⟩
  have hnot : isOverdue now approval = false := by
    rw [isResolved, decide_eq_true_iff] at hresolved
    rcases hresolved with h | h <;> simp [isOverdue, h]
  rw [expireApprovals, Map.get_mapValues, hget, Option.map_some, hnot]
  rfl

theorem cleanupResolved_statusKept :
    StatusKept engine .CleanupResolved engine.cleanupResolved := by
  intro approvalId approval hget hresolved
  refine .inr ⟨rfl, ?_⟩
  rw [isResolved, decide_eq_true_iff] at hresolved
  rw [cleanupResolved, Map.get_filter, hget, Option.filter_some]
  rcases hresolved with h | h <;> simp [h]

theorem engineNext_statusKept_iff (call : EngineStep) (after : DefaultPolicyEngine)
    (hnext : engineNext engine call = some after) :
    StatusKept engine call after ↔ DecisionsStand engine call := by
  cases call with
  | EvaluateSync request drawn now =>
    cases hnext
    exact evaluateSync_statusKept_iff engine request drawn now
  | Approve decided approver now =>
    cases hnext
    exact approve_statusKept_iff engine decided approver now
  | Reject decided rejector =>
    cases hnext
    exact iff_of_true (reject_statusKept engine decided rejector _) trivial
  | ExpireApprovals now =>
    cases hnext
    exact iff_of_true (expireApprovals_statusKept engine now _) trivial
  | SetPolicy policy =>
    cases hnext
    exact iff_of_true (fun _ approval hget _ => .inl ⟨approval, hget, rfl⟩) trivial
  | CleanupResolved =>
    cases hnext
    exact iff_of_true (cleanupResolved_statusKept engine) trivial

end Resolved

-- Over a sequence of calls no decision is taken back exactly if no call to approve comes upon one
-- after its deadline, and no random id comes twice: the deadline is checked before the status.
theorem decisions_final_iff (start last : DefaultPolicyEngine) (calls : List EngineStep)
    (run : Run engineNext Unrestricted start calls last) :
    (∀ before call rest engine after, calls = before ++ call :: rest →
      Run engineNext Unrestricted start before engine → engineNext engine call = some after →
      StatusKept engine call after) ↔
    Run engineNext DecisionsStand start calls last :=
  run.steps_iff (fun _ => True) StatusKept (fun _ _ _ _ _ => trivial)
    (fun engine call after _ hnext => engineNext_statusKept_iff engine call after hnext) trivial

def repeatedCalls : List EngineStep :=
  approvedCalls ++ [.Approve "a1" secondPerson (DateTime.seconds 120), .CleanupResolved]

theorem decisions_final_repeated : ∃ last,
    Run engineNext Unrestricted (.new 1800) repeatedCalls last ∧
    ∀ before call rest engine after, repeatedCalls = before ++ call :: rest →
      Run engineNext Unrestricted (.new 1800) before engine →
      engineNext engine call = some after → StatusKept engine call after := by
  obtain ⟨last, hstand⟩ :=
    exists_run_of_execWhere engineNext DecisionsStand (.new 1800) repeatedCalls (by decide +kernel)
  have hrun := hstand.unrestricted
  exact ⟨last, hrun, (decisions_final_iff _ last repeatedCalls hrun).mpr hstand⟩

-- The change is approved after a minute. A second call to approve it, an hour later, is refused
-- and turns the approved change into an expired one.
theorem approved_then_expired : ∃ approved expired,
    Run engineNext Unrestricted (.new 1800) approvedCalls approved ∧
    approved.pendingApprovals.get "a1" = some approvedCommit ∧
    engineNext approved (.Approve "a1" secondPerson (DateTime.seconds 3600)) = some expired ∧
    expired.pendingApprovals.get "a1" = some { approvedCommit with status := .Expired } :=
  ⟨_, _, (exec_eq_some_iff engineNext _ _ approvedCalls).mp rfl, by decide +kernel, rfl,
    by decide +kernel⟩

end Pact.Policy
