import Pact.Journal.Server.Lemmas

namespace Pact.Journal

open Pact.Library Pact.Common

section Traced

-- `validate` stands for the validation of a token: the identity it proves, or none.
variable (platform : Platform) (opaClient : Option PolicyService.OpaClient)
  (validate : String → Option Identity)

-- The evaluation that drew the id of this approval, and filed it, is among these steps. It came
-- with a token of the requester.
def Requested (past : List ServerStep) (approval : PendingApproval) : Prop :=
  ∃ now request token,
    ServerStep.Receive now (.Evaluate approval.approvalId request) ∈ past ∧
    { approval with approver := none, status := .Pending } =
      PolicyService.newApproval request.body approval.approvalId now ∧
    bearerToken request.authorization = some token ∧ validate token = some approval.requester

-- A decision to approve what has this id is among these steps, with a token of this identity.
def Decided (past : List ServerStep) (approvalId : String) (identity : Identity) : Prop :=
  ∃ now request token, ServerStep.Receive now (.DecideApproval request) ∈ past ∧
    request.body.approvalId = approvalId ∧ request.body.decision = "approved" ∧
    bearerToken request.authorization = some token ∧ validate token = some identity

-- A request for an approval, or a decision on one, that names the identity its token proves.
def NamesTokenIdentity (_ : Server) : ServerStep → Prop
  | .Receive _ (.Evaluate _ request) =>
    ∀ token ∈ bearerToken request.authorization,
      validate token = some (PolicyService.requestIdentity request.body)
  | .Receive _ (.DecideApproval request) =>
    ∀ approver ∈ request.body.approver, ∀ token ∈ bearerToken request.authorization,
      validate token = some (PolicyService.protoToIdentity approver)
  | _ => True

instance (server : Server) (step : ServerStep) :
    Decidable (NamesTokenIdentity validate server step) := by
  unfold NamesTokenIdentity
  split <;> infer_instance

structure TracedApproval (past : List ServerStep) (approval : PendingApproval) : Prop where
  requester : Requested validate past approval
  approver : approval.status = .Approved →
    ∃ approver, approval.approver = some approver ∧
      Decided validate past approval.approvalId approver ∧
      approval.requester.principal ≠ approver.principal

structure TracedCommand (past : List ServerStep) (cmd : JournalCommand) : Prop where
  created : ∀ approval, cmd = .CreateApproval approval → TracedApproval validate past approval
  decided : ∀ approvalId approver decision, cmd = .DecideApproval approvalId approver decision →
    decision = .Approved → Decided validate past approvalId approver

structure Traced (past : List ServerStep) (server : Server) : Prop where
  submissions : ∀ submission ∈ server.submissions, TracedCommand validate past submission.cmd
  approvals : ∀ approvalId approval,
    server.journal.pendingApprovals.get approvalId = some approval →
    approval.approvalId = approvalId ∧ TracedApproval validate past approval

variable {validate}

theorem Requested.mono {past : List ServerStep} {approval : PendingApproval}
    (h : Requested validate past approval) (step : ServerStep) :
    Requested validate (past ++ [step]) approval := by
  obtain ⟨now, request, token, hmem, hrest⟩ := h
  exact ⟨now, request, token, List.mem_append_left _ hmem, hrest⟩

theorem Decided.mono {past : List ServerStep} {approvalId : String} {identity : Identity}
    (h : Decided validate past approvalId identity) (step : ServerStep) :
    Decided validate (past ++ [step]) approvalId identity := by
  obtain ⟨now, request, token, hmem, hrest⟩ := h
  exact ⟨now, request, token, List.mem_append_left _ hmem, hrest⟩

theorem TracedApproval.mono {past : List ServerStep} {approval : PendingApproval}
    (h : TracedApproval validate past approval) (step : ServerStep) :
    TracedApproval validate (past ++ [step]) approval := by
  refine ⟨h.requester.mono step, ?_⟩
  intro happroved
  obtain ⟨approver, hname, hdecided, hne⟩ := h.approver happroved
  exact ⟨approver, hname, hdecided.mono step, hne⟩

theorem TracedCommand.mono {past : List ServerStep} {cmd : JournalCommand}
    (h : TracedCommand validate past cmd) (step : ServerStep) :
    TracedCommand validate (past ++ [step]) cmd :=
  ⟨fun approval hcmd => (h.created approval hcmd).mono step,
    fun approvalId approver decision hcmd happroved =>
      (h.decided approvalId approver decision hcmd happroved).mono step⟩

theorem Traced.mono {past : List ServerStep} {server : Server} (h : Traced validate past server)
    (step : ServerStep) : Traced validate (past ++ [step]) server :=
  ⟨fun submission hmem => (h.submissions submission hmem).mono step,
    fun approvalId approval hget =>
      (h.approvals approvalId approval hget).imp_right fun traced => traced.mono step⟩

theorem tracedCommand_background (past : List ServerStep) (cmd : JournalCommand)
    (h : isBackground cmd = true) : TracedCommand validate past cmd := by
  constructor
  · rintro approval rfl
    cases h
  · rintro approvalId approver decision rfl rfl
    simp [isBackground] at h

theorem tracedCommand_apply (past : List ServerStep) (now : DateTime) (s : JournalState)
    (cmd : JournalCommand) (hcmd : TracedCommand validate past cmd)
    (happrovals : ∀ approvalId approval, s.pendingApprovals.get approvalId = some approval →
      approval.approvalId = approvalId ∧ TracedApproval validate past approval)
    (approvalId : String) (approval : PendingApproval)
    (hget : (apply platform now s cmd).1.pendingApprovals.get approvalId = some approval) :
    approval.approvalId = approvalId ∧ TracedApproval validate past approval := by
  rcases apply_approval platform now s cmd approvalId with
    hsame | ⟨created, rfl, hid, hnew⟩ | ⟨old, approver, decision, rfl, hold, _, hne, hnew⟩
  · exact happrovals approvalId approval (hsame ▸ hget)
  · obtain rfl := Option.some.inj (hnew.symm.trans hget)
    exact ⟨hid, hcmd.created created rfl⟩
  · obtain rfl := Option.some.inj (hnew.symm.trans hget)
    obtain ⟨rfl, htraced⟩ := happrovals approvalId old hold
    refine ⟨rfl, htraced.requester, ?_⟩
    intro happroved
    exact ⟨approver, rfl, hcmd.decided old.approvalId approver decision rfl happroved, hne⟩

theorem parseDecision_approved (text : String)
    (h : PolicyService.parseDecision text = .ok .Approved) : text = "approved" := by
  simp only [PolicyService.parseDecision] at h
  split_ifs at h with happroved
  · exact happroved
  · cases h

theorem tracedCommand_receive (past : List ServerStep) (server : Server) (now : DateTime)
    (rpc : Rpc) (cmd : JournalCommand)
    (hnames : NamesTokenIdentity validate server (.Receive now rpc))
    (hcmd : rpc.command platform opaClient server.journal now = some cmd) :
    TracedCommand validate (past ++ [.Receive now rpc]) cmd := by
  rcases rpc_command_cases platform opaClient server.journal now rpc cmd hcmd with
    ⟨entry, rfl⟩ | ⟨vclusterId, policy, rfl⟩ | ⟨drawn, request, rfl, ⟨token, htoken⟩, rfl⟩ |
    ⟨request, approver, decision, rfl, ⟨token, htoken⟩, happrover, hdecision, rfl⟩
  · constructor
    · rintro approval ⟨⟩
    · rintro approvalId approver decision ⟨⟩
  · constructor
    · rintro approval ⟨⟩
    · rintro approvalId approver decision ⟨⟩
  · constructor
    · rintro approval ⟨⟩
      refine ⟨⟨now, request, token, ?_, rfl, htoken, hnames token htoken⟩, ?_⟩
      · exact List.mem_append_right _ List.mem_cons_self
      · intro happroved
        cases happroved
    · rintro approvalId approver decision ⟨⟩
  · constructor
    · rintro approval ⟨⟩
    · rintro approvalId identity status ⟨⟩ rfl
      exact ⟨now, request, token, List.mem_append_right _ List.mem_cons_self, rfl,
        parseDecision_approved _ hdecision, htoken, hnames approver happrover token htoken⟩

theorem serverNext_traced (past : List ServerStep) (server after : Server) (step : ServerStep)
    (htraced : Traced validate past server) (hnames : NamesTokenIdentity validate server step)
    (hnext : serverNext platform opaClient server step = some after) :
    Traced validate (past ++ [step]) after := by
  have hkept := htraced.mono step
  rcases serverNext_cases platform opaClient server after step hnext with
    ⟨now, rpc, rfl, rfl⟩ | ⟨now, rpc, cmd, rfl, hcmd, rfl⟩ | ⟨now, index, submission, rfl, hget, rfl⟩ |
    ⟨index, rfl, rfl⟩ | ⟨now, cmd, rfl, hback, rfl⟩
  · exact hkept
  · refine ⟨?_, hkept.approvals⟩
    intro submission hmem
    rcases List.mem_append.mp hmem with hold | hnew
    · exact hkept.submissions submission hold
    · obtain rfl := List.mem_singleton.mp hnew
      exact tracedCommand_receive platform opaClient past server now rpc cmd hnames hcmd
  · exact ⟨fun other hother => hkept.submissions other (List.mem_of_mem_eraseIdx hother),
      tracedCommand_apply platform _ now server.journal submission.cmd
        (hkept.submissions submission (List.mem_of_getElem? hget)) hkept.approvals⟩
  · exact ⟨fun other hother => hkept.submissions other (List.mem_of_mem_eraseIdx hother),
      hkept.approvals⟩
  · exact ⟨hkept.submissions, tracedCommand_apply platform _ now server.journal cmd
      (tracedCommand_background _ cmd hback) hkept.approvals⟩

theorem run_traced (steps : List ServerStep) (last : Server)
    (run : Run (serverNext platform opaClient) (NamesTokenIdentity validate) ⟨.default, []⟩ steps last) :
    Traced validate steps last := by
  have hstart : Traced validate [] (⟨.default, []⟩ : Server) := by
    refine ⟨fun _ hmem => (List.not_mem_nil hmem).elim, ?_⟩
    intro approvalId approval hget
    simp [JournalState.default] at hget
  exact run.history (Traced validate)
    (fun past server step after htraced hnames hnext =>
      serverNext_traced platform opaClient past server after step htraced hnames hnext) [] hstart

end Traced

end Pact.Journal
