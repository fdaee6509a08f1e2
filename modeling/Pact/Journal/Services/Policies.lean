import Pact.Journal.PolicyService.Reads
import Pact.Journal.Services.Unwritten
import Pact.Library.Register
import Pact.Library.Trace

namespace Pact.Journal

open Pact.Library Pact.Common EnrollmentService PolicyService

-- The policy that a step commits, with the vCluster the request names.
def committedPolicy (services : Services) : ServiceStep → List (VClusterId × Proto.VClusterPolicy)
  | .Server (.Commit _ index) =>
    match services.submissions[index]? with
    | some ⟨.UpdatePolicy request, _⟩ =>
      (request.body.policy.map fun policy => (request.body.vclusterId, policy)).toList
    | _ => []
  | _ => []

-- The policies that a run of the services commits, in the order of the log.
def policyLog (config : ServiceConfig) (steps : List ServiceStep) :
    List (VClusterId × Proto.VClusterPolicy) :=
  trace (servicesNext config) committedPolicy .start steps

section Policies

variable {config : ServiceConfig} {services after : Services} {step : ServiceStep}

theorem issued_leaves_policies (cmd : JournalCommand) (vclusterId : VClusterId)
    (hown : OwnStep services step) (hother : ∀ now index, step ≠ .Server (.Commit now index))
    (hissued : Issued config services step cmd) :
    Cell.Policy vclusterId ∉ cellsOf config.platform cmd := by
  cases hissued with
  | Submitted now index submission hget => exact absurd rfl (hother now index)
  | Called index draw consensus call _ hget hcmd =>
    cases call <;> cases hcmd <;> simp [cellsOf]
  | Deactivated now committed nodeId => simp [cellsOf]
  | Expired => simp [cellsOf]
  | Registered => simp [cellsOf]
  | Assigned index consensus pending hget =>
    obtain ⟨seen, call⟩ := pending
    cases call <;> simp [cellsOf, AssignmentCall.command]
  | Elsewhere now => exact absurd hown id

theorem rpc_policy (platform : Platform) (opaClient : Option OpaClient) (s : JournalState)
    (now : DateTime) (rpc : Rpc) (cmd : JournalCommand)
    (hcmd : rpc.command platform opaClient s now = some cmd) :
    (∃ request policy, rpc = .UpdatePolicy request ∧ request.body.policy = some policy ∧
      cmd = .SetPolicy request.body.vclusterId (protoToVclusterPolicy platform policy)) ∨
    (∀ request, rpc ≠ .UpdatePolicy request) ∧
      ∀ vclusterId, Cell.Policy vclusterId ∉ cellsOf platform cmd := by
  cases rpc with
  | UpdatePolicy request =>
    obtain ⟨_, h⟩ := intercepted_command _ request cmd hcmd
    obtain ⟨policy, hpolicy, rfl⟩ := updatePolicy_command platform request.body cmd h
    exact .inl ⟨request, policy, rfl, hpolicy, rfl⟩
  | AppendEntry request =>
    obtain ⟨_, h⟩ := intercepted_command _ request cmd hcmd
    obtain ⟨_, entry, _, _, rfl⟩ := appendEntry_command now request.body cmd h
    exact .inr ⟨by simp, by simp [cellsOf]⟩
  | Evaluate approvalId request =>
    obtain ⟨_, h⟩ := intercepted_command _ request cmd hcmd
    obtain rfl := evaluate_command opaClient s approvalId now request.body cmd h
    exact .inr ⟨by simp, by simp [cellsOf]⟩
  | DecideApproval request =>
    obtain ⟨_, h⟩ := intercepted_command _ request cmd hcmd
    obtain ⟨_, _, _, _, rfl⟩ := decideApproval_command request.body cmd h
    exact .inr ⟨by simp, by simp [cellsOf]⟩

-- The stored policies are the last ones of the log.
structure Recorded (config : ServiceConfig) (log : List (VClusterId × Proto.VClusterPolicy))
    (services : Services) : Prop where
  submitted : Submitted config services
  policies : ∀ vclusterId, services.journal.policies.get vclusterId =
    (lastWrite vclusterId log).map (protoToVclusterPolicy config.platform)

theorem committedPolicy_of_ne (services : Services) (step : ServiceStep)
    (hother : ∀ now index, step ≠ .Server (.Commit now index)) :
    committedPolicy services step = [] := by
  unfold committedPolicy
  split
  · exact absurd rfl (hother _ _)
  · rfl

theorem servicesNext_recorded (log : List (VClusterId × Proto.VClusterPolicy))
    (hrecorded : Recorded config log services) (hown : OwnStep services step)
    (hnext : servicesNext config services step = some after) :
    Recorded config (log ++ committedPolicy services step) after := by
  refine ⟨servicesNext_submitted hrecorded.submitted hnext, ?_⟩
  intro vclusterId
  have hframe (now : DateTime) (cmd : JournalCommand)
      (hcells : Cell.Policy vclusterId ∉ cellsOf config.platform cmd) :
      (apply config.platform now services.journal cmd).1.policies.get vclusterId =
        services.journal.policies.get vclusterId :=
    Content.Policy.inj (apply_frame config.platform now services.journal cmd _ hcells)
  by_cases hcommit : ∃ now index, step = .Server (.Commit now index)
  · obtain ⟨now, index, rfl⟩ := hcommit
    rcases servicesNext_submissions hnext with
      ⟨hne, _⟩ | ⟨_, _, _, h, _⟩ | ⟨clock, found, submission, h, hget, hjournal, _⟩ | ⟨_, h, _⟩
    · exact absurd rfl (hne now index)
    · cases h
    · cases h
      obtain ⟨s, received, hcmd⟩ := hrecorded.submitted submission (List.mem_of_getElem? hget)
      obtain ⟨rpc, cmd⟩ := submission
      rw [hjournal]
      rcases rpc_policy config.platform config.opaClient s received rpc cmd hcmd with
        ⟨request, policy, rfl, hpolicy, rfl⟩ | ⟨hrpc, hcells⟩
      · have hlog : committedPolicy services (.Server (.Commit now index)) =
            [(request.body.vclusterId, policy)] := by
          simp [committedPolicy, hget, hpolicy]
        rw [hlog, lastWrite_concat]
        dsimp only [apply]
        rw [Map.get_insert]
        by_cases hkey : vclusterId = request.body.vclusterId
        · simp [hkey]
        · rw [if_neg hkey, if_neg (Ne.symm hkey)]
          exact hrecorded.policies vclusterId
      · have hlog : committedPolicy services (.Server (.Commit now index)) = [] := by
          simp only [committedPolicy, hget]
          cases rpc with
          | UpdatePolicy request => exact absurd rfl (hrpc request)
          | _ => rfl
        rw [hlog, List.append_nil, hframe now cmd (hcells vclusterId)]
        exact hrecorded.policies vclusterId
    · cases h
  · have hother : ∀ now index, step ≠ .Server (.Commit now index) :=
      fun now index h => hcommit ⟨now, index, h⟩
    rw [committedPolicy_of_ne services step hother, List.append_nil]
    rcases servicesNext_writes hnext with hsame | ⟨now, cmd, hissued, hwritten⟩
    · rw [hsame]
      exact hrecorded.policies vclusterId
    · rw [hwritten, hframe now cmd (issued_leaves_policies cmd vclusterId hown hother hissued)]
      exact hrecorded.policies vclusterId

end Policies

-- The policy that is read for a vCluster is the last one that was committed for it, whatever else
-- was committed, lost or refused in between. It comes back as it was sent but for the form of its
-- time. Its own vCluster field plays no part.
theorem effective_policy_is_last_committed (config : ServiceConfig) (steps : List ServiceStep)
    (services : Services) (run : Run (servicesNext config) OwnStep .start steps services)
    (vclusterId : VClusterId) :
    getEffectivePolicy services.journal vclusterId =
      match lastWrite vclusterId (policyLog config steps) with
      | some policy =>
        .ok { policy with updatedAt := policy.updatedAt.map (storedTimestamp config.platform) }
      | none => .error ⟨.NotFound, "policy for " ++ vclusterId ++ " not found"⟩ := by
  have hrecorded := run.observed committedPolicy (Recorded config)
    (fun log _ _ _ hrecorded hown hnext => servicesNext_recorded log hrecorded hown hnext) []
    ⟨submitted_start, fun vclusterId => by simp [Services.start, JournalState.default]⟩
  have hstored := hrecorded.policies vclusterId
  rw [List.nil_append] at hstored
  unfold getEffectivePolicy policyLog
  rw [hstored]
  cases lastWrite vclusterId (trace (servicesNext config) committedPolicy .start steps) with
  | none => rfl
  | some policy => exact congrArg Except.ok (vclusterPolicyToProto_stored config.platform policy)

def mlPolicy (policyId : String) : Proto.VClusterPolicy :=
  vclusterPolicyToProto { VClusterPolicy.default with policyId := policyId }

def updateMl (policyId : String) : Rpc :=
  .UpdatePolicy ⟨adminToken, ⟨"ml", some (mlPolicy policyId), none, ""⟩⟩

def crossedUpdates : List ServiceStep :=
  [.Server (.Receive 0 (updateMl "first")), .Server (.Receive 0 (updateMl "second")),
    .Server (.Commit 0 1), .Server (.Commit 0 0)]

theorem effective_policy_is_last_committed_crossed : ∃ services : Services,
    lastWrite "ml" (policyLog adminServices crossedUpdates) = some (mlPolicy "first") ∧
      getEffectivePolicy services.journal "ml" = .ok (mlPolicy "first") := by
  have hlast : lastWrite "ml" (policyLog adminServices crossedUpdates) =
      some (mlPolicy "first") := by
    decide +kernel
  obtain ⟨services, hrun⟩ := exists_run_of_execWhere (servicesNext adminServices) OwnStep .start
    crossedUpdates (by decide +kernel)
  refine ⟨services, hlast, ?_⟩
  rw [effective_policy_is_last_committed adminServices crossedUpdates services hrun "ml", hlast]
  rfl

end Pact.Journal
