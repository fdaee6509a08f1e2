import Pact.Journal.Server.ApprovalChecks
import Pact.Journal.Services.Lemmas
import Pact.Library.Trace

namespace Pact.Journal

open Pact.Library Pact.Common EnrollmentService

def createdId (submission : Submission) : Option String :=
  match submission.cmd with
  | .CreateApproval approval => some approval.approvalId
  | _ => none

def filedIds (services : Services) : List String := services.submissions.filterMap createdId

def isApprovalCommand : JournalCommand → Bool
  | .CreateApproval _ => true
  | .DecideApproval _ _ _ => true
  | _ => false

-- An evaluation draws an id that nobody has, and the commands of no service are not about
-- approvals.
def FreshApprovals (services : Services) : ServiceStep → Prop
  | .Server (.Receive _ (.Evaluate approvalId _)) =>
    services.journal.pendingApprovals.get approvalId = none ∧ approvalId ∉ filedIds services
  | .Elsewhere _ cmd => isApprovalCommand cmd = false
  | _ => True

instance (services : Services) (step : ServiceStep) : Decidable (FreshApprovals services step) := by
  unfold FreshApprovals
  split <;> infer_instance

-- What may become of the record of an approval between two points in time.
structure Develops (approval later : PendingApproval) : Prop where
  requester : later.requester = approval.requester
  action : later.action = approval.action
  scope : later.scope = approval.scope
  status : later.status = approval.status ∨
    approval.status = .Pending ∧
      (later.status = .Approved ∨ later.status = .Rejected ∨ later.status = .Expired)

theorem Develops.refl (approval : PendingApproval) : Develops approval approval :=
  ⟨rfl, rfl, rfl, .inl rfl⟩

theorem Develops.trans {approval later last : PendingApproval} (first : Develops approval later)
    (second : Develops later last) : Develops approval last := by
  refine ⟨second.requester.trans first.requester, second.action.trans first.action,
    second.scope.trans first.scope, ?_⟩
  rcases first.status with hsame | ⟨hpending, hresolved⟩
  · rw [← hsame]
    exact second.status
  · refine .inr ⟨hpending, ?_⟩
    rcases second.status with hsame | ⟨hopen, _⟩
    · rw [hsame]
      exact hresolved
    · rcases hresolved with h | h | h <;> cases h.symm.trans hopen

-- The requests that a step answers with success. A write that is applied counts as answered,
-- whether or not its answer arrives.
def granted (config : ServiceConfig) (services : Services) :
    ServiceStep → List Proto.DecideApprovalRequest
  | .Server (.Commit now index) =>
    match services.submissions[index]? with
    | some ⟨.DecideApproval request, _⟩ =>
      match ((intercepted PolicyService.decideApproval request).finish config.platform
          (.Committed now) services.journal).2 with
      | .ok response => if response.success then [request.body] else []
      | .error _ => []
    | _ => []
  | _ => []

section Commands

variable {config : ServiceConfig} {services after : Services} {step : ServiceStep}

theorem submitted_create (hsubmitted : Submitted config services) (submission : Submission)
    (hmem : submission ∈ services.submissions) (approval : PendingApproval)
    (hcmd : submission.cmd = .CreateApproval approval) : approval.status = .Pending := by
  obtain ⟨s, now, hcommand⟩ := hsubmitted submission hmem
  rw [hcmd] at hcommand
  exact rpc_filedPending _ _ s now submission.rpc approval hcommand

theorem submitted_decide (hsubmitted : Submitted config services) (submission : Submission)
    (hmem : submission ∈ services.submissions) (approvalId : String) (approver : Identity)
    (decision : ApprovalStatus)
    (hcmd : submission.cmd = .DecideApproval approvalId approver decision) :
    decision = .Approved ∨ decision = .Rejected := by
  obtain ⟨s, now, hcommand⟩ := hsubmitted submission hmem
  rw [hcmd] at hcommand
  rcases rpc_command_cases _ _ s now submission.rpc _ hcommand with
    ⟨_, h⟩ | ⟨_, _, h⟩ | ⟨_, _, _, _, h⟩ | ⟨_, _, _, _, _, _, hparsed, h⟩
  · cases h
  · cases h
  · cases h
  · obtain ⟨_, _, rfl⟩ := JournalCommand.DecideApproval.inj h
    exact parseDecision_ok _ _ hparsed

theorem issued_approval (hfresh : FreshApprovals services step) (cmd : JournalCommand)
    (hissued : Issued config services step cmd) (happroval : isApprovalCommand cmd = true) :
    (∃ now index submission, step = .Server (.Commit now index) ∧
      services.submissions[index]? = some submission ∧ submission.cmd = cmd) ∨
    ∃ approvalId, cmd = .DecideApproval approvalId systemIdentity .Expired := by
  cases hissued with
  | Submitted now index submission hget => exact .inl ⟨now, index, submission, rfl, hget, rfl⟩
  | Expired now committed approvalId => exact .inr ⟨approvalId, rfl⟩
  | Called index draw consensus call _ hget hcommand =>
    cases call <;> cases hcommand <;> cases happroval
  | Assigned index consensus pending hget =>
    cases hcall : pending.call <;> rw [hcall] at happroval <;> cases happroval
  | Elsewhere now =>
    rw [show isApprovalCommand cmd = false from hfresh] at happroval
    cases happroval
  | _ => cases happroval

theorem issued_create (hfresh : FreshApprovals services step) (approval : PendingApproval)
    (hissued : Issued config services step (.CreateApproval approval)) :
    ∃ now index submission, step = .Server (.Commit now index) ∧
      services.submissions[index]? = some submission ∧
      submission.cmd = .CreateApproval approval := by
  rcases issued_approval hfresh _ hissued rfl with hsubmission | ⟨_, hexpired⟩
  · exact hsubmission
  · cases hexpired

theorem issued_decide (hsubmitted : Submitted config services)
    (hfresh : FreshApprovals services step) (approvalId : String) (approver : Identity)
    (decision : ApprovalStatus)
    (hissued : Issued config services step (.DecideApproval approvalId approver decision)) :
    decision = .Approved ∨ decision = .Rejected ∨ decision = .Expired := by
  rcases issued_approval hfresh _ hissued rfl with
    ⟨_, _, submission, _, hget, hcmd⟩ | ⟨_, hexpired⟩
  · have hmem := List.mem_of_getElem? hget
    exact (submitted_decide hsubmitted submission hmem _ _ _ hcmd).imp_right .inl
  · obtain ⟨_, _, rfl⟩ := JournalCommand.DecideApproval.inj hexpired
    exact .inr (.inr rfl)

end Commands

structure Orderly (config : ServiceConfig) (services : Services) : Prop where
  submitted : Submitted config services
  distinct : (filedIds services).Nodup
  unused : ∀ approvalId ∈ filedIds services, services.journal.pendingApprovals.get approvalId = none
  approvers : ∀ approvalId approval,
    services.journal.pendingApprovals.get approvalId = some approval →
    approval.status = .Approved ∨ approval.status = .Rejected →
    ∃ approver, approval.approver = some approver ∧
      approval.requester.principal ≠ approver.principal

inductive ApprovalMove (before : Option PendingApproval) : Option PendingApproval → Prop
  | Same : ApprovalMove before before
  | Filed (approval : PendingApproval) (hbefore : before = none)
      (hpending : approval.status = .Pending) : ApprovalMove before (some approval)
  | Resolved (approval : PendingApproval) (approver : Identity) (decision : ApprovalStatus)
      (hbefore : before = some approval) (hpending : approval.status = .Pending)
      (hdecision : decision = .Approved ∨ decision = .Rejected ∨ decision = .Expired)
      (hother : approval.requester.principal ≠ approver.principal) :
      ApprovalMove before (some { approval with status := decision, approver := some approver })

section Steps

variable {config : ServiceConfig} {services after : Services} {step : ServiceStep}

theorem mem_filedIds (submission : Submission) (approval : PendingApproval)
    (hmem : submission ∈ services.submissions) (hcmd : submission.cmd = .CreateApproval approval) :
    approval.approvalId ∈ filedIds services :=
  List.mem_filterMap.mpr ⟨submission, hmem, by simp [createdId, hcmd]⟩

theorem servicesNext_approval (horderly : Orderly config services)
    (hfresh : FreshApprovals services step) (hnext : servicesNext config services step = some after)
    (approvalId : String) :
    ApprovalMove (services.journal.pendingApprovals.get approvalId)
      (after.journal.pendingApprovals.get approvalId) := by
  rcases servicesNext_writes hnext with hsame | ⟨now, cmd, hissued, hwritten⟩
  · rw [hsame]
    exact .Same
  · rw [hwritten]
    rcases apply_approval config.platform now services.journal cmd approvalId with
      hsame | ⟨approval, rfl, rfl, hfiled⟩ | ⟨approval, approver, decision, rfl, hget, hpending,
        hother, hdecided⟩
    · rw [hsame]
      exact .Same
    · rw [hfiled]
      obtain ⟨_, _, submission, _, hget, hsubmission⟩ := issued_create hfresh approval hissued
      have hmem := List.mem_of_getElem? hget
      exact .Filed approval (horderly.unused _ (mem_filedIds submission approval hmem hsubmission))
        (submitted_create horderly.submitted submission hmem approval hsubmission)
    · rw [hdecided]
      exact .Resolved approval approver decision hget hpending
        (issued_decide horderly.submitted hfresh approvalId approver decision hissued) hother

theorem filedIds_eraseIdx (index : Nat)
    (hrest : after.submissions = services.submissions.eraseIdx index) :
    (filedIds after).Sublist (filedIds services) := by
  rw [filedIds, filedIds, hrest]
  exact (List.eraseIdx_sublist _ _).filterMap _

theorem filedIds_committed (index : Nat) (submission : Submission) (approval : PendingApproval)
    (hdistinct : (filedIds services).Nodup)
    (hget : services.submissions[index]? = some submission)
    (hcmd : submission.cmd = .CreateApproval approval)
    (hrest : after.submissions = services.submissions.eraseIdx index) :
    approval.approvalId ∉ filedIds after := by
  obtain ⟨hindex, hsubmission⟩ := List.getElem?_eq_some_iff.mp hget
  have hid : createdId submission = some approval.approvalId := by simp [createdId, hcmd]
  have hperm := (List.getElem_cons_eraseIdx_perm hindex).filterMap createdId
  rw [hsubmission, List.filterMap_cons_some hid, ← hrest] at hperm
  exact (List.nodup_cons.mp (hperm.nodup_iff.mpr hdistinct)).1

theorem servicesNext_unfiled (hfresh : FreshApprovals services step)
    (hnext : servicesNext config services step = some after) (approvalId : String)
    (hnone : services.journal.pendingApprovals.get approvalId = none)
    (hother : ∀ now index submission approval, step = .Server (.Commit now index) →
      services.submissions[index]? = some submission →
      submission.cmd = .CreateApproval approval → approval.approvalId ≠ approvalId) :
    after.journal.pendingApprovals.get approvalId = none := by
  rcases servicesNext_writes hnext with hsame | ⟨now, cmd, hissued, hwritten⟩
  · rw [hsame]
    exact hnone
  · rw [hwritten]
    rcases apply_approval config.platform now services.journal cmd approvalId with
      hsame | ⟨approval, rfl, hid, _⟩ | ⟨_, _, _, _, hget, _⟩
    · rw [hsame]
      exact hnone
    · obtain ⟨clock, index, submission, hstep, hget, hsubmission⟩ :=
        issued_create hfresh approval hissued
      exact absurd hid (hother clock index submission approval hstep hget hsubmission)
    · rw [hnone] at hget
      cases hget

theorem filedIds_received (now : DateTime) (rpc : Rpc) (cmd : JournalCommand)
    (hfresh : FreshApprovals services (.Server (.Receive now rpc)))
    (hcmd : rpc.command config.platform config.opaClient services.journal now = some cmd)
    (hnew : after.submissions = services.submissions ++ [⟨rpc, cmd⟩]) :
    filedIds after = filedIds services ∨
    ∃ approvalId, filedIds after = filedIds services ++ [approvalId] ∧
      services.journal.pendingApprovals.get approvalId = none ∧ approvalId ∉ filedIds services := by
  simp only [filedIds, hnew, List.filterMap_append]
  rcases rpc_command_cases _ _ services.journal now rpc cmd hcmd with
    ⟨_, rfl⟩ | ⟨_, _, rfl⟩ | ⟨approvalId, request, rfl, _, rfl⟩ | ⟨_, _, _, _, _, _, _, rfl⟩
  · simp [createdId]
  · simp [createdId]
  · exact .inr ⟨approvalId, rfl, hfresh⟩
  · simp [createdId]

theorem servicesNext_filed (horderly : Orderly config services)
    (hfresh : FreshApprovals services step) (hnext : servicesNext config services step = some after) :
    (filedIds after).Nodup ∧
      ∀ approvalId ∈ filedIds after, after.journal.pendingApprovals.get approvalId = none := by
  rcases servicesNext_submissions hnext with
    ⟨hnot, hsame⟩ | ⟨now, rpc, cmd, rfl, hcmd, hjournal, hnew⟩ |
    ⟨now, index, submission, rfl, hget, _, hrest⟩ | ⟨index, rfl, hjournal, hrest⟩
  · have hids : filedIds after = filedIds services := congrArg (List.filterMap createdId) hsame
    rw [hids]
    refine ⟨horderly.distinct, fun approvalId hmem => ?_⟩
    refine servicesNext_unfiled hfresh hnext approvalId (horderly.unused approvalId hmem) ?_
    intro now index _ _ hstep
    exact absurd hstep (hnot now index)
  · rw [hjournal]
    rcases filedIds_received now rpc cmd hfresh hcmd hnew with hids | ⟨drawn, hids, hfree, hnot⟩
    · rw [hids]
      exact ⟨horderly.distinct, horderly.unused⟩
    · rw [hids]
      refine ⟨?_, ?_⟩
      · rw [← List.concat_eq_append]
        exact .concat hnot horderly.distinct
      · intro approvalId hmem
        rcases List.mem_append.mp hmem with hold | hdrawn
        · exact horderly.unused approvalId hold
        · exact List.mem_singleton.mp hdrawn ▸ hfree
  · have hsublist := filedIds_eraseIdx index hrest
    refine ⟨horderly.distinct.sublist hsublist, fun approvalId hmem => ?_⟩
    refine servicesNext_unfiled hfresh hnext approvalId
      (horderly.unused approvalId (hsublist.subset hmem)) ?_
    rintro _ _ other approval ⟨⟩ hother hcmd rfl
    exact filedIds_committed index other approval horderly.distinct hother hcmd hrest hmem
  · have hsublist := filedIds_eraseIdx index hrest
    rw [hjournal]
    exact ⟨horderly.distinct.sublist hsublist,
      fun approvalId hmem => horderly.unused approvalId (hsublist.subset hmem)⟩

theorem servicesNext_orderly (horderly : Orderly config services)
    (hfresh : FreshApprovals services step) (hnext : servicesNext config services step = some after) :
    Orderly config after := by
  obtain ⟨hdistinct, hunused⟩ := servicesNext_filed horderly hfresh hnext
  refine ⟨servicesNext_submitted horderly.submitted hnext, hdistinct, hunused, ?_⟩
  intro approvalId approval hget hresolved
  have hmove := servicesNext_approval horderly hfresh hnext approvalId
  rw [hget] at hmove
  generalize hbefore : services.journal.pendingApprovals.get approvalId = before at hmove
  cases hmove with
  | Same => exact horderly.approvers approvalId approval hbefore hresolved
  | Filed _ _ hpending =>
    rw [hpending] at hresolved
    rcases hresolved with h | h <;> cases h
  | Resolved old approver decision _ _ _ hother => exact ⟨approver, rfl, hother⟩

theorem servicesNext_develops (horderly : Orderly config services)
    (hfresh : FreshApprovals services step) (hnext : servicesNext config services step = some after)
    (approvalId : String) (approval : PendingApproval)
    (hget : services.journal.pendingApprovals.get approvalId = some approval) :
    ∃ later, after.journal.pendingApprovals.get approvalId = some later ∧ Develops approval later := by
  have hmove := servicesNext_approval horderly hfresh hnext approvalId
  rw [hget] at hmove
  generalize after.journal.pendingApprovals.get approvalId = now at hmove ⊢
  cases hmove with
  | Same => exact ⟨approval, rfl, .refl approval⟩
  | Filed _ hbefore => cases hbefore
  | Resolved old approver decision hbefore hpending hdecision _ =>
    obtain rfl := Option.some.inj hbefore
    exact ⟨_, rfl, rfl, rfl, rfl, .inr ⟨hpending, hdecision⟩⟩

theorem run_develops {first second : Services} {steps : List ServiceStep}
    (run : Run (servicesNext config) FreshApprovals first steps second)
    (horderly : Orderly config first) (approvalId : String) (approval : PendingApproval)
    (hget : first.journal.pendingApprovals.get approvalId = some approval) :
    ∃ later, second.journal.pendingApprovals.get approvalId = some later ∧
      Develops approval later := by
  have hboth := run.invariant
    (fun services => Orderly config services ∧ ∃ later,
      services.journal.pendingApprovals.get approvalId = some later ∧ Develops approval later)
    (by
      rintro services step after ⟨hservices, later, hlater, hdevelops⟩ hfresh hnext
      obtain ⟨last, hlast, hmore⟩ :=
        servicesNext_develops hservices hfresh hnext approvalId later hlater
      exact ⟨servicesNext_orderly hservices hfresh hnext, last, hlast, hdevelops.trans hmore⟩)
    ⟨horderly, approval, hget, .refl approval⟩
  exact hboth.2

theorem orderly_start : Orderly config .start :=
  ⟨submitted_start, List.nodup_nil, fun _ hmem => (List.not_mem_nil hmem).elim, by
    intro approvalId approval hget
    simp [Services.start, JournalState.default] at hget⟩

end Steps

section Answers

variable {config : ServiceConfig} {services after : Services} {step : ServiceStep}

theorem apply_decided (platform : Platform) (now : DateTime) (s : JournalState) (approvalId : String)
    (approver : Identity) (decision : ApprovalStatus)
    (hok : (apply platform now s (.DecideApproval approvalId approver decision)).2 = .Ok) :
    ∃ approval, s.pendingApprovals.get approvalId = some approval ∧ approval.status = .Pending ∧
      (apply platform now s (.DecideApproval approvalId approver decision)).1.pendingApprovals.get
        approvalId = some { approval with status := decision, approver := some approver } := by
  have houtcome := apply_outcome platform now s (.DecideApproval approvalId approver decision)
  generalize apply platform now s (.DecideApproval approvalId approver decision) = result
    at houtcome hok ⊢
  cases houtcome with
  | Rejected => cases hok
  | Decided _ _ _ approval hget hpending => exact ⟨approval, hget, hpending, Map.get_insert_self _ _ _⟩
  | Updated _ _ _ _ htarget => cases htarget

def Stands (s : JournalState) (request : Proto.DecideApprovalRequest) : Prop :=
  ∃ approval decision, s.pendingApprovals.get request.approvalId = some approval ∧
    PolicyService.parseDecision request.decision = .ok decision ∧ approval.status = decision

theorem granted_commit (hgranted : granted config services step ≠ []) :
    ∃ now index request cmd response, step = .Server (.Commit now index) ∧
      services.submissions[index]? = some ⟨.DecideApproval request, cmd⟩ ∧
      ((intercepted PolicyService.decideApproval request).finish config.platform (.Committed now)
        services.journal).2 = .ok response ∧
      response.success = true ∧ granted config services step = [request.body] := by
  cases step with
  | Server step =>
    cases step with
    | Commit now index =>
      cases hget : services.submissions[index]? with
      | none => simp [granted, hget] at hgranted
      | some submission =>
        obtain ⟨rpc, cmd⟩ := submission
        cases rpc with
        | DecideApproval request =>
          cases hanswer : ((intercepted PolicyService.decideApproval request).finish
              config.platform (.Committed now) services.journal).2 with
          | error status => simp [granted, hget, hanswer] at hgranted
          | ok response =>
            have hsuccess : response.success = true := by
              simpa [granted, hget, hanswer] using hgranted
            exact ⟨now, index, request, cmd, response, rfl, hget, hanswer, hsuccess,
              by simp [granted, hget, hanswer, hsuccess]⟩
        | _ => simp [granted, hget] at hgranted
    | _ => exact absurd rfl hgranted
  | _ => exact absurd rfl hgranted

theorem decideApproval_success (platform : Platform) (now : DateTime) (s : JournalState)
    (request : Proto.DecideApprovalRequest) (approver : Proto.Identity) (decision : ApprovalStatus)
    (response : Proto.DecideApprovalResponse) (happrover : request.approver = some approver)
    (hparsed : PolicyService.parseDecision request.decision = .ok decision)
    (hanswer : ((PolicyService.decideApproval request).finish platform (.Committed now) s).2 =
      .ok response) (hsuccess : response.success = true) :
    (apply platform now s (.DecideApproval request.approvalId
      (PolicyService.protoToIdentity approver) decision)).2 = .Ok := by
  simp only [PolicyService.decideApproval, happrover, hparsed, finish_committed] at hanswer
  split at hanswer
  · assumption
  · obtain rfl := Except.ok.inj hanswer
    cases hsuccess
  · cases hanswer

theorem granted_stands (hsubmitted : Submitted config services)
    (hnext : servicesNext config services step = some after)
    (hgranted : granted config services step ≠ []) :
    ∃ request approval, granted config services step = [request] ∧
      services.journal.pendingApprovals.get request.approvalId = some approval ∧
      approval.status = .Pending ∧ Stands after.journal request := by
  obtain ⟨now, index, request, cmd, response, rfl, hget, hanswer, hsuccess, heq⟩ :=
    granted_commit hgranted
  obtain ⟨s, clock, hcmd⟩ := hsubmitted _ (List.mem_of_getElem? hget)
  obtain ⟨⟨token, htoken⟩, hhandler⟩ := intercepted_command _ request cmd hcmd
  obtain ⟨approver, decision, happrover, hparsed, rfl⟩ :=
    decideApproval_command request.body cmd hhandler
  rw [intercepted_of_token _ request token htoken] at hanswer
  have hok := decideApproval_success config.platform now services.journal request.body approver
    decision response happrover hparsed hanswer hsuccess
  obtain ⟨approval, hfound, hpending, hdecided⟩ := apply_decided _ _ _ _ _ _ hok
  refine ⟨request.body, approval, heq, hfound, hpending,
    { approval with status := decision, approver := some (PolicyService.protoToIdentity approver) },
    decision, ?_, hparsed, rfl⟩
  rcases servicesNext_submissions hnext with
    ⟨hnot, _⟩ | ⟨_, _, _, h, _⟩ | ⟨_, _, submission, ⟨⟩, hsubmission, hjournal, _⟩ | ⟨_, h, _⟩
  · exact absurd rfl (hnot now index)
  · cases h
  · obtain rfl := Option.some.inj (hget.symm.trans hsubmission)
    rw [hjournal]
    exact hdecided
  · cases h

theorem Stands.not_pending {s : JournalState} {request : Proto.DecideApprovalRequest}
    (hstands : Stands s request) (approval : PendingApproval)
    (hget : s.pendingApprovals.get request.approvalId = some approval) :
    approval.status ≠ .Pending := by
  obtain ⟨_, decision, hfound, hparsed, rfl⟩ := hstands
  obtain rfl := Option.some.inj (hget.symm.trans hfound)
  rcases parseDecision_ok _ _ hparsed with h | h <;> simp [h]

theorem Stands.develops {s later : JournalState} {request : Proto.DecideApprovalRequest}
    (hstands : Stands s request)
    (hdevelops : ∀ approval, s.pendingApprovals.get request.approvalId = some approval →
      ∃ last, later.pendingApprovals.get request.approvalId = some last ∧ Develops approval last) :
    Stands later request := by
  have hresolved := hstands.not_pending
  obtain ⟨approval, decision, hget, hparsed, rfl⟩ := hstands
  obtain ⟨last, hlast, hdevelop⟩ := hdevelops approval hget
  refine ⟨last, approval.status, hlast, hparsed, ?_⟩
  rcases hdevelop.status with hsame | ⟨hpending, _⟩
  · exact hsame
  · exact absurd hpending (hresolved approval hget)

structure Granted (config : ServiceConfig) (past : List Proto.DecideApprovalRequest)
    (services : Services) : Prop where
  orderly : Orderly config services
  once : (past.map Proto.DecideApprovalRequest.approvalId).Nodup
  stands : ∀ request ∈ past, Stands services.journal request

theorem servicesNext_granted (past : List Proto.DecideApprovalRequest)
    (hgranted : Granted config past services) (hfresh : FreshApprovals services step)
    (hnext : servicesNext config services step = some after) :
    Granted config (past ++ granted config services step) after := by
  have horderly := servicesNext_orderly hgranted.orderly hfresh hnext
  have hkept : ∀ request ∈ past, Stands after.journal request := fun request hmem =>
    (hgranted.stands request hmem).develops
      (servicesNext_develops hgranted.orderly hfresh hnext request.approvalId)
  by_cases hnone : granted config services step = []
  · rw [hnone, List.append_nil]
    exact ⟨horderly, hgranted.once, hkept⟩
  · obtain ⟨request, approval, heq, hget, hpending, hstands⟩ :=
      granted_stands hgranted.orderly.submitted hnext hnone
    rw [heq]
    refine ⟨horderly, ?_, ?_⟩
    · rw [List.map_append, List.map_singleton, ← List.concat_eq_append]
      refine .concat (fun hpast => ?_) hgranted.once
      obtain ⟨other, hother, hid⟩ := List.mem_map.mp hpast
      rw [← hid] at hget
      exact (hgranted.stands other hother).not_pending approval hget hpending
    · intro other hmem
      rcases List.mem_append.mp hmem with hold | hnew
      · exact hkept other hold
      · exact List.mem_singleton.mp hnew ▸ hstands

end Answers

-- Whatever the evaluations, decisions, sweeps and other commands do and in which order: the record
-- of an approval is resolved at most once, by the one decision that is answered with success or by
-- the monitor, and not by its requester.
theorem approvals_resolve_once (config : ServiceConfig) (before between : List ServiceStep)
    (first second : Services)
    (hbefore : Run (servicesNext config) FreshApprovals .start before first)
    (hbetween : Run (servicesNext config) FreshApprovals first between second) :
    (∀ approvalId approval, first.journal.pendingApprovals.get approvalId = some approval →
      ∃ later, second.journal.pendingApprovals.get approvalId = some later ∧
        Develops approval later) ∧
    ((trace (servicesNext config) (granted config) .start (before ++ between)).map
      Proto.DecideApprovalRequest.approvalId).Nodup ∧
    (∀ request ∈ trace (servicesNext config) (granted config) .start (before ++ between),
      Stands second.journal request) ∧
    ∀ approvalId approval, second.journal.pendingApprovals.get approvalId = some approval →
      approval.status = .Approved ∨ approval.status = .Rejected →
      ∃ approver, approval.approver = some approver ∧
        approval.requester.principal ≠ approver.principal := by
  have horderly : Orderly config first := hbefore.invariant (Orderly config)
    (fun _ _ _ horderly hfresh hnext => servicesNext_orderly horderly hfresh hnext) orderly_start
  have hgranted := (hbefore.append hbetween).observed (granted config) (Granted config)
    (fun past _ _ _ hgranted hfresh hnext => servicesNext_granted past hgranted hfresh hnext) []
    ⟨orderly_start, List.nodup_nil, fun _ hmem => (List.not_mem_nil hmem).elim⟩
  exact ⟨run_develops hbetween horderly, hgranted.once, hgranted.stands, hgranted.orderly.approvers⟩

def approvalServices : ServiceConfig := ⟨.ascii, sampleConfig, none, 300⟩

def filedSteps : List ServiceStep := askedSteps.map .Server

def racedSteps : List ServiceStep :=
  [.Monitor (.CheckTimeouts (DateTime.hours 25) []),
    .Monitor (.ExpireApprovals (DateTime.hours 25) ["ap-1"]),
    .Server (.Receive (DateTime.hours 25) (.DecideApproval
      ⟨operatorToken, ⟨"ap-1", some ⟨"bob", "human", "pact-ops-ml"⟩, "approved", none⟩⟩)),
    .Server (.Commit (DateTime.hours 25) 0), .Monitor (.ExpireNext (DateTime.hours 25) true)]

def servicesAfter (steps : List ServiceStep) : Services :=
  (exec (servicesNext approvalServices) .start steps).getD .start

theorem approvals_resolve_once_raced :
    Run (servicesNext approvalServices) FreshApprovals .start filedSteps (servicesAfter filedSteps) ∧
    Run (servicesNext approvalServices) FreshApprovals (servicesAfter filedSteps) racedSteps
      (servicesAfter (filedSteps ++ racedSteps)) ∧
    ((servicesAfter filedSteps).journal.pendingApprovals.get "ap-1").map PendingApproval.status =
      some .Pending ∧
    (servicesAfter (filedSteps ++ racedSteps)).journal.pendingApprovals.get "ap-1" =
      some (decidedApproval "pact-ops-ml") ∧
    ∃ approver, (decidedApproval "pact-ops-ml").approver = some approver ∧
      (decidedApproval "pact-ops-ml").requester.principal ≠ approver.principal := by
  have hfiled : Run (servicesNext approvalServices) FreshApprovals .start filedSteps
      (servicesAfter filedSteps) := run_of_execWhere _ _ _ _ _ (by decide +kernel)
  have hraced : Run (servicesNext approvalServices) FreshApprovals (servicesAfter filedSteps)
      racedSteps (servicesAfter (filedSteps ++ racedSteps)) :=
    run_of_execWhere _ _ _ _ _ (by decide +kernel)
  have happroved : (servicesAfter (filedSteps ++ racedSteps)).journal.pendingApprovals.get "ap-1" =
      some (decidedApproval "pact-ops-ml") := by decide +kernel
  obtain ⟨_, _, _, happrovers⟩ := approvals_resolve_once approvalServices filedSteps racedSteps _ _
    hfiled hraced
  exact ⟨hfiled, hraced, by decide +kernel, happroved, happrovers _ _ happroved (.inl rfl)⟩

end Pact.Journal
