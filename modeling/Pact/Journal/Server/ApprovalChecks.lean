import Pact.Journal.Server.Lemmas
import Pact.Policy.Rules

namespace Pact.Journal

open Pact.Library Pact.Common Pact.Policy

section Decisions

variable (platform : Platform) (opaClient : Option PolicyService.OpaClient)

-- An approval that is granted: by whom, and when.
structure Grant where
  now : DateTime
  approvalId : String
  approver : Identity
  approval : PendingApproval
  deriving DecidableEq

-- The grant of a step that applies a decision to approve a pending request of somebody else.
def grant (server : Server) : ServerStep → Option Grant
  | .Commit now index =>
    match (server.submissions[index]?).map Submission.cmd with
    | some (.DecideApproval approvalId approver .Approved) =>
      (server.journal.pendingApprovals.get approvalId).bind fun approval =>
        if approval.status = .Pending ∧ approval.requester.principal ≠ approver.principal then
          some ⟨now, approvalId, approver, approval⟩
        else none
    | _ => none
  | _ => none

def Grant.result (granted : Grant) : PendingApproval :=
  { granted.approval with status := .Approved, approver := some granted.approver }

theorem grant_eq_some_iff (server : Server) (step : ServerStep) (granted : Grant) :
    grant server step = some granted ↔
      ∃ index, step = .Commit granted.now index ∧
        (server.submissions[index]?).map Submission.cmd =
          some (.DecideApproval granted.approvalId granted.approver .Approved) ∧
        server.journal.pendingApprovals.get granted.approvalId = some granted.approval ∧
        granted.approval.status = .Pending ∧
        granted.approval.requester.principal ≠ granted.approver.principal := by
  constructor
  · intro h
    cases step with
    | Commit now index =>
      simp only [grant] at h
      split at h
      case h_1 approvalId approver hcmd =>
        simp only [Option.bind_eq_some_iff, Option.ite_none_right_eq_some,
          Option.some.injEq] at h
        obtain ⟨approval, hget, hopen, rfl⟩ := h
        exact ⟨index, rfl, hcmd, hget, hopen⟩
      case h_2 => cases h
    | _ => cases h
  · rintro ⟨index, rfl, hcmd, hget, hopen⟩
    simp only [grant, hcmd, hget, Option.bind_some, hopen, ne_eq, not_false_eq_true, and_self,
      if_true]

def FiledPending (server : Server) : Prop :=
  ∀ submission ∈ server.submissions, ∀ approval, submission.cmd = .CreateApproval approval →
    approval.status = .Pending

theorem serverNext_filedPending (server : Server) (step : ServerStep) (after : Server)
    (hfiled : FiledPending server) (hnext : serverNext platform opaClient server step = some after) :
    FiledPending after := by
  rcases serverNext_cases platform opaClient server after step hnext with
    ⟨_, _, _, rfl⟩ | ⟨now, rpc, cmd, _, hcmd, rfl⟩ | ⟨_, _, _, _, _, rfl⟩ | ⟨_, _, rfl⟩ |
    ⟨_, _, _, _, rfl⟩
  · exact hfiled
  · intro submission hmem
    rcases List.mem_append.mp hmem with hold | hnew
    · exact hfiled submission hold
    · obtain rfl := List.mem_singleton.mp hnew
      rintro approval rfl
      exact rpc_filedPending platform opaClient server.journal now rpc approval hcmd
  · exact fun submission hmem => hfiled submission (List.mem_of_mem_eraseIdx hmem)
  · exact fun submission hmem => hfiled submission (List.mem_of_mem_eraseIdx hmem)
  · exact hfiled

theorem filedPending_start : FiledPending ⟨.default, []⟩ :=
  fun _ hmem => (List.not_mem_nil hmem).elim

theorem approved_after (server : Server) (step : ServerStep) (after : Server)
    (hfiled : FiledPending server) (hnext : serverNext platform opaClient server step = some after)
    (approvalId : String) (approval : PendingApproval)
    (hget : after.journal.pendingApprovals.get approvalId = some approval)
    (happroved : approval.status = .Approved) :
    server.journal.pendingApprovals.get approvalId = some approval ∨
    ∃ granted, grant server step = some granted ∧ approval = granted.result := by
  rcases serverNext_cases platform opaClient server after step hnext with
    ⟨_, _, _, rfl⟩ | ⟨_, _, _, _, _, rfl⟩ | ⟨now, index, submission, hstep, hsubmission, rfl⟩ |
    ⟨_, _, rfl⟩ | ⟨now, cmd, _, hback, rfl⟩
  · exact .inl hget
  · exact .inl hget
  · rcases apply_approval platform now server.journal submission.cmd approvalId with
      hsame | ⟨created, hcmd, _, hnew⟩ | ⟨pending, approver, decision, hcmd, hold, hpending, hne, hnew⟩
    · exact .inl (hsame ▸ hget)
    · obtain rfl := Option.some.inj (hnew.symm.trans hget)
      have hstatus := hfiled submission (List.mem_of_getElem? hsubmission) created hcmd
      rw [hstatus] at happroved
      cases happroved
    · obtain rfl := Option.some.inj (hnew.symm.trans hget)
      obtain rfl : decision = .Approved := happroved
      refine .inr ⟨⟨now, approvalId, approver, pending⟩, (grant_eq_some_iff server step _).mpr ?_, rfl⟩
      exact ⟨index, hstep, by rw [hsubmission, Option.map_some, hcmd], hold, hpending, hne⟩
  · exact .inl hget
  · rcases apply_approval platform now server.journal cmd approvalId with
      hsame | ⟨_, rfl, _, _⟩ | ⟨_, approver, decision, rfl, _, _, _, hnew⟩
    · exact .inl (hsame ▸ hget)
    · cases hback
    · obtain rfl := Option.some.inj (hnew.symm.trans hget)
      simp [isBackground, show decision = .Approved from happroved] at hback

theorem granted_after (server : Server) (step : ServerStep) (after : Server)
    (hnext : serverNext platform opaClient server step = some after) (granted : Grant)
    (hgrant : grant server step = some granted) :
    after.journal.pendingApprovals.get granted.approvalId = some granted.result := by
  obtain ⟨index, rfl, hcmd, hget, hpending, hne⟩ := (grant_eq_some_iff server step granted).mp hgrant
  obtain ⟨submission, hsubmission, hcmd⟩ := Option.map_eq_some_iff.mp hcmd
  simp only [serverNext, hsubmission, Option.map_some, Option.some.injEq] at hnext
  subst hnext
  simp [apply, decideApproval, hcmd, hget, hpending, hne, Grant.result]

def ServerStep.time : ServerStep → Option DateTime
  | .Receive now _ => some now
  | .Commit now _ => some now
  | .Lose _ => none
  | .Background now _ => some now

-- No approval changes to approved at this step at a time past its expiry.
def NoLateApproval (server : Server) (step : ServerStep) (after : Server) : Prop :=
  ∀ approvalId approval now,
    after.journal.pendingApprovals.get approvalId = some approval → approval.status = .Approved →
    (∀ old, server.journal.pendingApprovals.get approvalId = some old → old.status ≠ .Approved) →
    step.time = some now → now ≤ approval.expiresAt

-- A request past its expiry is no longer pending when the decision to approve it is applied: the
-- sweep has come first.
def SweptBeforeDecision (server : Server) (step : ServerStep) : Prop :=
  ∀ granted ∈ grant server step, granted.now ≤ granted.approval.expiresAt

theorem noLateApproval_iff (server : Server) (step : ServerStep) (after : Server)
    (hfiled : FiledPending server) (hnext : serverNext platform opaClient server step = some after) :
    NoLateApproval server step after ↔ SweptBeforeDecision server step := by
  constructor
  · intro hnone granted hgrant
    have hget := granted_after platform opaClient server step after hnext granted hgrant
    obtain ⟨index, rfl, _, hold, hpending, _⟩ := (grant_eq_some_iff server step granted).mp hgrant
    refine hnone granted.approvalId granted.result granted.now hget rfl ?_ rfl
    intro old hsame
    obtain rfl := Option.some.inj (hold.symm.trans hsame)
    rw [hpending]
    exact ApprovalStatus.noConfusion
  · intro hswept approvalId approval now hget happroved hnot htime
    rcases approved_after platform opaClient server step after hfiled hnext approvalId approval hget
      happroved with hsame | ⟨granted, hgrant, rfl⟩
    · exact absurd happroved (hnot approval hsame)
    · obtain ⟨index, rfl, _⟩ := (grant_eq_some_iff server step granted).mp hgrant
      rw [← Option.some.inj htime]
      exact hswept granted hgrant

instance (server : Server) (step : ServerStep) : Decidable (SweptBeforeDecision server step) := by
  unfold SweptBeforeDecision
  infer_instance

-- Nothing but the sweep keeps approvals from being granted late.
theorem approvals_in_time_iff (steps : List ServerStep) (last : Server)
    (run : Run (serverNext platform opaClient) Unrestricted ⟨.default, []⟩ steps last) :
    (∀ before step rest server after, steps = before ++ step :: rest →
      Run (serverNext platform opaClient) Unrestricted ⟨.default, []⟩ before server →
      serverNext platform opaClient server step = some after →
      NoLateApproval server step after) ↔
    Run (serverNext platform opaClient) SweptBeforeDecision ⟨.default, []⟩ steps last :=
  run.steps_iff FiledPending NoLateApproval (serverNext_filedPending platform opaClient)
    (noLateApproval_iff platform opaClient) filedPending_start

def operatorToken : Option MetadataValue := some (.Text "Bearer token-1")

def twoPersonUpdate : Proto.UpdatePolicyRequest where
  vclusterId := "ml"
  policy := some
    { vclusterId := "ml", policyId := "ml-1", updatedAt := none, driftSensitivity := ⟨0⟩
      baseCommitWindowSeconds := 900, emergencyWindowSeconds := 14400, autoConvergeCategories := []
      requireAckCategories := [], enforcementMode := "enforce", roleBindings := []
      regulated := true, twoPersonApproval := true, auditRetentionDays := 2555
      federationTemplate := none, supervisorBackend := "pact", execWhitelist := []
      shellWhitelist := [], emergencyAllowed := true, aiExecAllowed := false }
  author := some ⟨"root", "human", "pact-platform-admin"⟩
  message := ""

-- Alice asks at midnight to commit to a vCluster under two-person approval, and Bob approves.
def askedSteps : List ServerStep :=
  [.Receive 0 (.UpdatePolicy ⟨operatorToken, twoPersonUpdate⟩), .Commit 0 0,
    .Receive 0 (.Evaluate "ap-1" ⟨operatorToken,
      ⟨some ⟨"alice", "human", "pact-regulated-ml"⟩, some ⟨some (.VclusterId "ml")⟩, "commit", none⟩⟩),
    .Commit 0 0]

def decidedSteps (now : DateTime) (role : String) : List ServerStep :=
  askedSteps ++ [.Receive now (.DecideApproval
    ⟨operatorToken, ⟨"ap-1", some ⟨"bob", "human", role⟩, "approved", none⟩⟩), .Commit now 0]

def decidedServer (now : DateTime) (role : String) : Server :=
  (exec (serverNext .ascii none) ⟨.default, []⟩ (decidedSteps now role)).getD ⟨.default, []⟩

def decidedApproval (role : String) : PendingApproval :=
  ⟨"ap-1", "commit", "commit", .VCluster "ml", ⟨"alice", .Human, "pact-regulated-ml"⟩,
    some ⟨"bob", .Human, role⟩, .Approved, 0, DateTime.hours 24⟩

theorem approvals_in_time_next_hour :
    Run (serverNext .ascii none) Unrestricted ⟨.default, []⟩
        (decidedSteps (DateTime.hours 1) "pact-ops-ml")
        (decidedServer (DateTime.hours 1) "pact-ops-ml") ∧
    ∀ before step rest server after,
      decidedSteps (DateTime.hours 1) "pact-ops-ml" = before ++ step :: rest →
      Run (serverNext .ascii none) Unrestricted ⟨.default, []⟩ before server →
      serverNext .ascii none server step = some after → NoLateApproval server step after := by
  have hrun : Run (serverNext .ascii none) SweptBeforeDecision ⟨.default, []⟩
      (decidedSteps (DateTime.hours 1) "pact-ops-ml")
      (decidedServer (DateTime.hours 1) "pact-ops-ml") :=
    run_of_execWhere _ _ _ _ _ (by decide +kernel)
  exact ⟨hrun.unrestricted, (approvals_in_time_iff .ascii none _ _ hrun.unrestricted).mpr hrun⟩

-- The request of midnight is approved an hour after it expired: no sweep has run by then.
theorem approved_after_expiry :
    (exec (serverNext .ascii none) ⟨.default, []⟩
        (decidedSteps (DateTime.hours 25) "pact-ops-ml")).map
      (fun server => server.journal.pendingApprovals.get "ap-1") =
      some (some (decidedApproval "pact-ops-ml")) ∧
    (exec (serverNext .ascii none) ⟨.default, []⟩ askedSteps).map
      (fun server => (server.journal.pendingApprovals.get "ap-1").map PendingApproval.status) =
      some (some .Pending) ∧
    (decidedApproval "pact-ops-ml").status = .Approved ∧
    (decidedApproval "pact-ops-ml").expiresAt < DateTime.hours 25 := by
  refine ⟨?_, ?_, ?_, ?_⟩ <;> decide +kernel

-- Whoever approved had one of the roles that the policy engine's own `approve` asks for.
def ApproversEntitled (server : Server) : Prop :=
  ∀ approvalId approval, server.journal.pendingApprovals.get approvalId = some approval →
    approval.status = .Approved →
    ∃ approver, approval.approver = some approver ∧
      approverHasAccess approver.role (scopeId approval.scope) = true

def EntitledDecision (server : Server) (step : ServerStep) : Prop :=
  ∀ granted ∈ grant server step,
    approverHasAccess granted.approver.role (scopeId granted.approval.scope) = true

instance (server : Server) (step : ServerStep) : Decidable (EntitledDecision server step) := by
  unfold EntitledDecision
  infer_instance

theorem approversEntitled_iff (server : Server) (step : ServerStep) (after : Server)
    (hfiled : FiledPending server) (hentitled : ApproversEntitled server)
    (hnext : serverNext platform opaClient server step = some after) :
    ApproversEntitled after ↔ EntitledDecision server step := by
  constructor
  · intro hafter granted hgrant
    have hget := granted_after platform opaClient server step after hnext granted hgrant
    obtain ⟨approver, happrover, haccess⟩ := hafter granted.approvalId granted.result hget rfl
    rwa [← Option.some.inj happrover] at haccess
  · intro hdecision approvalId approval hget happroved
    rcases approved_after platform opaClient server step after hfiled hnext approvalId approval hget
      happroved with hsame | ⟨granted, hgrant, rfl⟩
    · exact hentitled approvalId approval hsame happroved
    · exact ⟨granted.approver, rfl, hdecision granted hgrant⟩

theorem approvers_entitled_iff (steps : List ServerStep) (last : Server)
    (run : Run (serverNext platform opaClient) Unrestricted ⟨.default, []⟩ steps last) :
    (∀ before rest server, steps = before ++ rest →
      Run (serverNext platform opaClient) Unrestricted ⟨.default, []⟩ before server →
      ApproversEntitled server) ↔
    Run (serverNext platform opaClient) EntitledDecision ⟨.default, []⟩ steps last := by
  refine run.always_iff_beside FiledPending ApproversEntitled
    (serverNext_filedPending platform opaClient) (approversEntitled_iff platform opaClient)
    filedPending_start ?_
  intro approvalId approval hget
  simp [JournalState.default] at hget

theorem approvers_entitled_operator :
    Run (serverNext .ascii none) Unrestricted ⟨.default, []⟩
        (decidedSteps (DateTime.hours 1) "pact-ops-ml")
        (decidedServer (DateTime.hours 1) "pact-ops-ml") ∧
    ∀ before rest server, decidedSteps (DateTime.hours 1) "pact-ops-ml" = before ++ rest →
      Run (serverNext .ascii none) Unrestricted ⟨.default, []⟩ before server →
      ApproversEntitled server := by
  have hrun : Run (serverNext .ascii none) EntitledDecision ⟨.default, []⟩
      (decidedSteps (DateTime.hours 1) "pact-ops-ml")
      (decidedServer (DateTime.hours 1) "pact-ops-ml") :=
    run_of_execWhere _ _ _ _ _ (by decide +kernel)
  exact ⟨hrun.unrestricted, (approvers_entitled_iff .ascii none _ _ hrun.unrestricted).mpr hrun⟩

-- A viewer of another vCluster approves; the policy engine turns the same approver down.
theorem viewer_approves :
    (exec (serverNext .ascii none) ⟨.default, []⟩
        (decidedSteps (DateTime.hours 1) "pact-viewer-hpc")).map
      (fun server => server.journal.pendingApprovals.get "ap-1") =
      some (some (decidedApproval "pact-viewer-hpc")) ∧
    ((DefaultPolicyEngine.new 1800).store "ap-1"
        { decidedApproval "pact-viewer-hpc" with status := .Pending, approver := none }
      |>.approve "ap-1" ⟨"bob", .Human, "pact-viewer-hpc"⟩ (DateTime.hours 1)).2 =
      .error (.InsufficientPrivileges
        "approver role 'pact-viewer-hpc' does not have ops access to vCluster 'ml'") := by
  refine ⟨?_, ?_⟩ <;> decide +kernel

end Decisions

end Pact.Journal
