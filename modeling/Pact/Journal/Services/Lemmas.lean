import Pact.Journal.EnrollmentService.Theorems
import Pact.Journal.Server.Lemmas
import Pact.Journal.Services

namespace Pact.Journal

open Pact.Library Pact.Common EnrollmentService

variable {config : ServiceConfig} {services after : Services} {step : ServiceStep}

-- The commands that a step can bring into the journal, by the service that issues them.
inductive Issued (config : ServiceConfig) (services : Services) :
    ServiceStep → JournalCommand → Prop
  | Submitted (now : DateTime) (index : Nat) (submission : Submission)
      (hget : services.submissions[index]? = some submission) :
      Issued config services (.Server (.Commit now index)) submission.cmd
  | Called (index : Nat) (draw : Draw) (consensus : Consensus) (call : EnrollmentService.Call)
      (cmd : JournalCommand) (hget : services.calls[index]? = some call)
      (hcmd : call.command = some cmd) :
      Issued config services (.Enrollment (.Write index draw consensus)) cmd
  | Deactivated (now : DateTime) (committed : Bool) (nodeId : NodeId) :
      Issued config services (.Monitor (.DeactivateNext now committed)) (.DeactivateNode nodeId)
  | Expired (now : DateTime) (committed : Bool) (approvalId : String) :
      Issued config services (.Monitor (.ExpireNext now committed))
        (.DecideApproval approvalId systemIdentity .Expired)
  | Registered (step : ServiceStep) (principal : String) (now : DateTime) (nodeId : NodeId)
      (hw : Proto.HardwareIdentity)
      (hstep : (∃ request consensus, step = .RegisterNode now request consensus) ∨
        ∃ index consensus, step = .RegisterNext index now consensus) :
      Issued config services step
        (.RegisterNode (newEnrollment config.enrollment principal now nodeId hw))
  | Assigned (index : Nat) (consensus : Consensus) (pending : PendingAssignment)
      (hget : services.assignments[index]? = some pending) :
      Issued config services (.FinishAssignment index consensus) (pending.call.command pending.seen)
  | Elsewhere (now : DateTime) (cmd : JournalCommand) :
      Issued config services (.Elsewhere now cmd) cmd

def Writes (config : ServiceConfig) (services after : Services) (step : ServiceStep) : Prop :=
  after.journal = services.journal ∨
    ∃ now cmd, Issued config services step cmd ∧
      after.journal = (apply config.platform now services.journal cmd).1

theorem registerNode_command (enrollment : EnrollmentService.Config) (now : DateTime)
    (request : Request Proto.RegisterNodeRequest) (cmd : JournalCommand)
    (h : (EnrollmentService.registerNode enrollment now request).command = some cmd) :
    ∃ principal nodeId hw, cmd = .RegisterNode (newEnrollment enrollment principal now nodeId hw) := by
  unfold EnrollmentService.registerNode at h
  split at h
  · cases h
  · split at h
    · cases h
    · exact ⟨_, _, _, (Option.some.inj h).symm⟩

theorem assignment_command (enrollment : EnrollmentService.Config) (seen : JournalState)
    (call : AssignmentCall) (cmd : JournalCommand)
    (h : (call.handler enrollment seen).command = some cmd) : cmd = call.command seen := by
  by_cases hadmits : ∃ caller, Admits enrollment call caller
  · obtain ⟨caller, hcaller⟩ := hadmits
    obtain ⟨answer, hhandler⟩ := handler_of_admits enrollment seen call caller hcaller
    rw [hhandler] at h
    exact (Option.some.inj h).symm
  · obtain ⟨status, hhandler⟩ := handler_of_not_admits enrollment seen call (not_exists.mp hadmits)
    rw [hhandler] at h
    cases h

theorem servicesNext_server (step : ServerStep)
    (hnext : servicesNext config services (.Server step) = some after) :
    (∀ now cmd, step ≠ .Background now cmd) ∧
    ∃ server, serverNext config.platform config.opaClient
        ⟨services.journal, services.submissions⟩ step = some server ∧
      after = { services with journal := server.journal, submissions := server.submissions } := by
  cases step with
  | Background now cmd => cases hnext
  | _ =>
    obtain ⟨server, hserver, rfl⟩ := Option.map_eq_some_iff.mp hnext
    exact ⟨fun _ _ => ServerStep.noConfusion, server, hserver, rfl⟩

theorem servicesNext_enrollment (step : EnrollmentService.Step)
    (hnext : servicesNext config services (.Enrollment step) = some after) :
    (∀ now cmd, step ≠ .Background now cmd) ∧
    ∃ system, EnrollmentService.next config.platform config.enrollment
        ⟨services.journal, services.calls⟩ step = some system ∧
      after = { services with journal := system.journal, calls := system.calls } := by
  cases step with
  | Background now cmd => cases hnext
  | _ =>
    simp only [servicesNext, Option.map_eq_some_iff] at hnext
    obtain ⟨system, hsystem, rfl⟩ := hnext
    exact ⟨fun _ _ => Step.noConfusion, system, hsystem, rfl⟩

theorem servicesNext_monitor (step : MonitorStep)
    (hnext : servicesNext config services (.Monitor step) = some after) :
    (∀ now cmd, step ≠ .Command now cmd) ∧
    ∃ monitored, monitorNext config.platform config.timeoutSeconds
        ⟨services.journal, services.sweep⟩ step = some monitored ∧
      after = { services with journal := monitored.journal, sweep := monitored.sweep } := by
  cases step with
  | Command now cmd => cases hnext
  | _ =>
    obtain ⟨monitored, hmonitored, rfl⟩ := Option.map_eq_some_iff.mp hnext
    exact ⟨fun _ _ => MonitorStep.noConfusion, monitored, hmonitored, rfl⟩

theorem server_writes (step : ServerStep)
    (hnext : servicesNext config services (.Server step) = some after) :
    Writes config services after (.Server step) := by
  obtain ⟨hown, server, hserver, rfl⟩ := servicesNext_server step hnext
  rcases serverNext_cases config.platform config.opaClient _ server step hserver with
    ⟨_, _, _, rfl⟩ | ⟨_, _, _, _, _, rfl⟩ | ⟨now, index, submission, rfl, hget, rfl⟩ | ⟨_, _, rfl⟩ |
    ⟨now, cmd, rfl, _⟩
  · exact .inl rfl
  · exact .inl rfl
  · exact .inr ⟨now, submission.cmd, .Submitted now index submission hget, rfl⟩
  · exact .inl rfl
  · exact absurd rfl (hown now cmd)

theorem enrollment_writes (step : EnrollmentService.Step)
    (hnext : servicesNext config services (.Enrollment step) = some after) :
    Writes config services after (.Enrollment step) := by
  obtain ⟨hown, system, hsystem, rfl⟩ := servicesNext_enrollment step hnext
  rcases next_cases config.platform config.enrollment _ system step hsystem with
    ⟨_, rfl, _⟩ | ⟨_, _, _, _, _, _, _, rfl⟩ | ⟨index, draw, consensus, call, cmd, rfl, hget, hcmd, rfl⟩ |
    ⟨now, cmd, rfl, _⟩
  · exact .inl rfl
  · exact .inl rfl
  · rcases clientWrite_cases config.platform consensus services.journal cmd with
      hsame | ⟨_, applied, hwritten⟩
    · exact .inl hsame
    · exact .inr ⟨applied, cmd, .Called index draw consensus call cmd hget hcmd, hwritten⟩
  · exact absurd rfl (hown now cmd)

theorem writeIf_writes (committed : Bool) (now : DateTime) (cmd : JournalCommand)
    (hjournal : after.journal = writeIf committed config.platform now services.journal cmd)
    (hissued : Issued config services step cmd) : Writes config services after step := by
  cases committed with
  | false => exact .inl hjournal
  | true => exact .inr ⟨now, cmd, hissued, hjournal⟩

theorem monitor_writes (step : MonitorStep)
    (hnext : servicesNext config services (.Monitor step) = some after) :
    Writes config services after (.Monitor step) := by
  obtain ⟨hown, monitored, hmonitored, rfl⟩ := servicesNext_monitor step hnext
  cases step with
  | Command now cmd => exact absurd rfl (hown now cmd)
  | CheckTimeouts now order =>
    simp only [monitorNext, Option.ite_none_right_eq_some, Option.some.injEq] at hmonitored
    obtain ⟨_, rfl⟩ := hmonitored
    exact .inl rfl
  | ExpireApprovals now order =>
    simp only [monitorNext, Option.ite_none_right_eq_some, Option.some.injEq] at hmonitored
    obtain ⟨_, rfl⟩ := hmonitored
    exact .inl rfl
  | DeactivateNext now committed =>
    simp only [monitorNext] at hmonitored
    split at hmonitored
    · obtain rfl := Option.some.inj hmonitored
      exact writeIf_writes committed now _ rfl (.Deactivated now committed _)
    · cases hmonitored
  | ExpireNext now committed =>
    simp only [monitorNext] at hmonitored
    split at hmonitored
    · obtain rfl := Option.some.inj hmonitored
      exact writeIf_writes committed now _ rfl (.Expired now committed _)
    · cases hmonitored

theorem round_writes (batch changed : Batch) (journal : JournalState) (index : Nat) (now : DateTime)
    (consensus : Consensus)
    (hround : batch.round config.platform config.enrollment now consensus services.journal =
      some (journal, changed)) (hjournal : after.journal = journal) :
    Writes config services after (.RegisterNext index now consensus) := by
  cases hnodes : batch.nodes with
  | nil => simp [Batch.round, hnodes] at hround
  | cons node rest =>
    cases hhw : node.hardwareIdentity with
    | none =>
      simp only [Batch.round, hnodes, hhw, Option.some.injEq, Prod.mk.injEq] at hround
      exact .inl (hjournal.trans hround.1.symm)
    | some hw =>
      simp only [Batch.round, hnodes, hhw, Option.some.injEq, Prod.mk.injEq] at hround
      rw [← hround.1] at hjournal
      rcases clientWrite_cases config.platform consensus services.journal
          (.RegisterNode (newEnrollment config.enrollment batch.principal now node.nodeId hw)) with
        hsame | ⟨_, applied, hwritten⟩
      · exact .inl (hjournal.trans hsame)
      · exact .inr ⟨applied, _, .Registered _ _ now _ _ (.inr ⟨_, _, rfl⟩),
          hjournal.trans hwritten⟩

theorem servicesNext_writes (hnext : servicesNext config services step = some after) :
    Writes config services after step := by
  cases step with
  | Server step => exact server_writes step hnext
  | Enrollment step => exact enrollment_writes step hnext
  | Monitor step => exact monitor_writes step hnext
  | RegisterNode now request consensus =>
    obtain rfl := Option.some.inj hnext
    rcases finish_cases config.platform consensus services.journal
        (EnrollmentService.registerNode config.enrollment now request) with
      hsame | ⟨cmd, applied, hcmd, hwritten⟩
    · exact .inl hsame
    · obtain ⟨principal, nodeId, hw, rfl⟩ := registerNode_command _ now request cmd hcmd
      exact .inr ⟨applied, _, .Registered _ principal now nodeId hw (.inl ⟨_, _, rfl⟩), hwritten⟩
  | BatchRegisterNodes request =>
    simp only [servicesNext] at hnext
    split at hnext <;> obtain rfl := Option.some.inj hnext <;> exact .inl rfl
  | RegisterNext index now consensus =>
    simp only [servicesNext, Option.bind_eq_some_iff, Option.map_eq_some_iff] at hnext
    obtain ⟨batch, hget, ⟨journal, changed⟩, hround, rfl⟩ := hnext
    exact round_writes batch changed journal index now consensus hround rfl
  | Assignment call =>
    obtain rfl := Option.some.inj hnext
    exact .inl rfl
  | FinishAssignment index consensus =>
    simp only [servicesNext, Option.map_eq_some_iff] at hnext
    obtain ⟨pending, hget, rfl⟩ := hnext
    rcases finish_cases config.platform consensus services.journal
        (pending.call.handler config.enrollment pending.seen) with
      hsame | ⟨cmd, applied, hcmd, hwritten⟩
    · exact .inl hsame
    · obtain rfl := assignment_command config.enrollment pending.seen pending.call cmd hcmd
      exact .inr ⟨applied, _, .Assigned index consensus pending hget, hwritten⟩
  | Elsewhere now cmd =>
    obtain rfl := Option.some.inj hnext
    exact .inr ⟨now, cmd, .Elsewhere now cmd, rfl⟩

theorem submissions_kept (hother : ∀ server, step ≠ .Server server)
    (hnext : servicesNext config services step = some after) :
    after.submissions = services.submissions := by
  cases step with
  | Server step => exact absurd rfl (hother step)
  | Enrollment step =>
    obtain ⟨_, system, _, rfl⟩ := servicesNext_enrollment step hnext
    rfl
  | Monitor step =>
    obtain ⟨_, monitored, _, rfl⟩ := servicesNext_monitor step hnext
    rfl
  | BatchRegisterNodes request =>
    simp only [servicesNext] at hnext
    split at hnext <;> obtain rfl := Option.some.inj hnext <;> rfl
  | RegisterNext index now consensus =>
    simp only [servicesNext, Option.bind_eq_some_iff, Option.map_eq_some_iff] at hnext
    obtain ⟨batch, _, ⟨journal, changed⟩, _, rfl⟩ := hnext
    rfl
  | FinishAssignment index consensus =>
    simp only [servicesNext, Option.map_eq_some_iff] at hnext
    obtain ⟨pending, _, rfl⟩ := hnext
    rfl
  | _ =>
    obtain rfl := Option.some.inj hnext
    rfl

theorem servicesNext_submissions (hnext : servicesNext config services step = some after) :
    ((∀ now index, step ≠ .Server (.Commit now index)) ∧
      after.submissions = services.submissions) ∨
    (∃ now rpc cmd, step = .Server (.Receive now rpc) ∧
      rpc.command config.platform config.opaClient services.journal now = some cmd ∧
      after.journal = services.journal ∧
      after.submissions = services.submissions ++ [⟨rpc, cmd⟩]) ∨
    (∃ now index submission, step = .Server (.Commit now index) ∧
      services.submissions[index]? = some submission ∧
      after.journal = (apply config.platform now services.journal submission.cmd).1 ∧
      after.submissions = services.submissions.eraseIdx index) ∨
    ∃ index, step = .Server (.Lose index) ∧ after.journal = services.journal ∧
      after.submissions = services.submissions.eraseIdx index := by
  cases step with
  | Server step =>
    obtain ⟨hown, server, hserver, rfl⟩ := servicesNext_server step hnext
    rcases serverNext_cases config.platform config.opaClient _ server step hserver with
      ⟨_, _, rfl, rfl⟩ | ⟨now, rpc, cmd, rfl, hcmd, rfl⟩ | ⟨now, index, submission, rfl, hget, rfl⟩ |
      ⟨index, rfl, rfl⟩ | ⟨now, cmd, rfl, _⟩
    · exact .inl ⟨fun _ _ => by rintro ⟨⟩, rfl⟩
    · exact .inr (.inl ⟨now, rpc, cmd, rfl, hcmd, rfl, rfl⟩)
    · exact .inr (.inr (.inl ⟨now, index, submission, rfl, hget, rfl, rfl⟩))
    · exact .inr (.inr (.inr ⟨index, rfl, rfl, rfl⟩))
    · exact absurd rfl (hown now cmd)
  | _ =>
    have hkept := submissions_kept (fun _ => ServiceStep.noConfusion) hnext
    exact .inl ⟨fun _ _ => ServiceStep.noConfusion, hkept⟩

-- The config and policy services issue four kinds of commands.
def isServed : JournalCommand → Bool
  | .AppendEntry _ => true
  | .SetPolicy _ _ => true
  | .CreateApproval _ => true
  | .DecideApproval _ _ _ => true
  | _ => false

theorem rpc_served (platform : Platform) (opaClient : Option PolicyService.OpaClient)
    (s : JournalState) (now : DateTime) (rpc : Rpc) (cmd : JournalCommand)
    (hcmd : rpc.command platform opaClient s now = some cmd) : isServed cmd = true := by
  rcases rpc_command_cases platform opaClient s now rpc cmd hcmd with
    ⟨_, rfl⟩ | ⟨_, _, rfl⟩ | ⟨_, _, _, _, rfl⟩ | ⟨_, _, _, _, _, _, _, rfl⟩ <;> rfl

def Submitted (config : ServiceConfig) (services : Services) : Prop :=
  ∀ submission ∈ services.submissions, ∃ s now,
    submission.rpc.command config.platform config.opaClient s now = some submission.cmd

theorem servicesNext_submitted (hsubmitted : Submitted config services)
    (hnext : servicesNext config services step = some after) : Submitted config after := by
  intro submission hmem
  rcases servicesNext_submissions hnext with
    ⟨_, hsame⟩ | ⟨now, rpc, cmd, _, hcmd, _, hnew⟩ | ⟨_, index, _, _, _, _, hrest⟩ |
    ⟨index, _, _, hrest⟩
  · exact hsubmitted submission (hsame ▸ hmem)
  · rw [hnew] at hmem
    rcases List.mem_append.mp hmem with hold | hadded
    · exact hsubmitted submission hold
    · obtain rfl := List.mem_singleton.mp hadded
      exact ⟨services.journal, now, hcmd⟩
  · exact hsubmitted submission (List.mem_of_mem_eraseIdx (hrest ▸ hmem))
  · exact hsubmitted submission (List.mem_of_mem_eraseIdx (hrest ▸ hmem))

theorem submitted_start : Submitted config .start :=
  fun _ hmem => (List.not_mem_nil hmem).elim

end Pact.Journal
