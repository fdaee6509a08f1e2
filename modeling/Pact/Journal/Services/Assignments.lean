import Pact.Journal.Services.Lemmas
import Pact.Journal.State.Locality

namespace Pact.Journal

open Pact.Library Pact.Common EnrollmentService

section Views

variable (platform : Platform) (now : DateTime)

def ViewsAgree (s : JournalState) : Prop :=
  ∀ nodeId, s.nodeAssignments.get nodeId = membership s nodeId

-- Every command but the legacy assignment, and the registration of a node with a vCluster.
def ViewSafe (cmd : JournalCommand) : Prop :=
  (∀ nodeId vclusterId, cmd ≠ .AssignNode nodeId vclusterId) ∧
    ∀ enrollment, cmd = .RegisterNode enrollment → enrollment.vclusterId = none

theorem assignmentsAfter_of_ne (assignments : Map NodeId VClusterId) (cmd : JournalCommand)
    (nodeId : NodeId) (htarget : targetNode cmd ≠ some nodeId) :
    (assignmentsAfter assignments cmd).get nodeId = assignments.get nodeId := by
  cases cmd with
  | AssignNodeToVCluster target vclusterId =>
    exact Map.get_insert_of_ne _ _ (by simpa [targetNode, eq_comm] using htarget)
  | UnassignNode target =>
    rw [assignmentsAfter, Map.get_erase, if_neg (by simpa [targetNode, eq_comm] using htarget)]
  | MoveNodeVCluster target fromVclusterId toVclusterId =>
    exact Map.get_insert_of_ne _ _ (by simpa [targetNode, eq_comm] using htarget)
  | _ => rfl

-- A command about a node leaves its assignment where it leaves its record.
theorem assignmentsAfter_record (nodeId : NodeId) (cmd : JournalCommand) (record : NodeEnrollment)
    (assignments : Map NodeId VClusterId) (hagree : assignments.get nodeId = record.vclusterId) :
    (assignmentsAfter assignments cmd).get nodeId =
      (recordAfter platform now nodeId cmd record).vclusterId := by
  have houtcome := recordAfter_outcome platform now nodeId cmd record
  generalize recordAfter platform now nodeId cmd record = changed at houtcome ⊢
  cases houtcome with
  | Untouched _ htarget => rw [assignmentsAfter_of_ne assignments cmd nodeId htarget, hagree]
  | Assigned vclusterId => exact Map.get_insert_self _ _ _
  | Unassigned => simp [assignmentsAfter, Map.get_erase]
  | Moved fromVclusterId toVclusterId => exact Map.get_insert_self _ _ _
  | _ => exact hagree

theorem apply_viewsAgree (s : JournalState) (cmd : JournalCommand) (hagree : ViewsAgree s)
    (hsafe : ViewSafe cmd) : ViewsAgree (apply platform now s cmd).1 := by
  have houtcome := apply_outcome platform now s cmd
  generalize apply platform now s cmd = result at houtcome ⊢
  cases houtcome with
  | Assigned nodeId vclusterId => exact absurd rfl (hsafe.1 nodeId vclusterId)
  | Registered enrollment hnew hfree =>
    intro nodeId
    by_cases hnode : nodeId = enrollment.nodeId
    · subst hnode
      have hbefore := hagree enrollment.nodeId
      rw [membership, hnew] at hbefore
      simpa [membership, hsafe.2 enrollment rfl] using hbefore
    · rw [membership, Map.get_insert_of_ne _ _ hnode]
      exact hagree nodeId
  | Updated _ target record response htarget hget _ =>
    intro nodeId
    by_cases hnode : nodeId = target
    · subst hnode
      have hbefore := hagree nodeId
      rw [membership, hget] at hbefore
      simpa [membership, JournalState.putEnrollment] using
        assignmentsAfter_record platform now nodeId cmd record s.nodeAssignments hbefore
    · have hother : targetNode cmd ≠ some nodeId := by simpa [htarget, eq_comm] using hnode
      rw [membership, JournalState.putEnrollment, Map.get_insert_of_ne _ _ hnode]
      exact (assignmentsAfter_of_ne s.nodeAssignments cmd nodeId hother).trans (hagree nodeId)
  | _ => exact hagree

-- Nothing but the vCluster of one node is different.
structure OnlyMembership (nodeId : NodeId) (before after : JournalState) : Prop where
  assignments : ∀ other, other ≠ nodeId →
    after.nodeAssignments.get other = before.nodeAssignments.get other
  others : ∀ other, other ≠ nodeId → after.enrollments.get other = before.enrollments.get other
  record : ∀ record, before.enrollments.get nodeId = some record →
    ∃ vclusterId, after.enrollments.get nodeId = some { record with vclusterId := vclusterId }
  absent : before.enrollments.get nodeId = none → after.enrollments.get nodeId = none

theorem OnlyMembership.refl (nodeId : NodeId) (s : JournalState) : OnlyMembership nodeId s s :=
  ⟨fun _ _ => rfl, fun _ _ => rfl, fun record hget => ⟨record.vclusterId, hget⟩, id⟩

theorem apply_assignments_of_ne (s : JournalState) (cmd : JournalCommand) (nodeId : NodeId)
    (hassign : ∀ vclusterId, cmd ≠ .AssignNode nodeId vclusterId)
    (htarget : targetNode cmd ≠ some nodeId) :
    (apply platform now s cmd).1.nodeAssignments.get nodeId = s.nodeAssignments.get nodeId := by
  have houtcome := apply_outcome platform now s cmd
  generalize apply platform now s cmd = result at houtcome ⊢
  cases houtcome with
  | Assigned target vclusterId =>
    refine Map.get_insert_of_ne _ _ ?_
    rintro rfl
    exact hassign vclusterId rfl
  | Updated => exact assignmentsAfter_of_ne s.nodeAssignments cmd nodeId htarget
  | _ => rfl

theorem command_onlyMembership (seen s : JournalState) (call : AssignmentCall) :
    OnlyMembership call.nodeId s (apply platform now s (call.command seen)).1 := by
  cases hget : s.enrollments.get call.nodeId with
  | none =>
    rw [apply_target_none platform now s _ _ (command_target seen call) hget]
    exact .refl call.nodeId s
  | some record =>
    obtain ⟨_, henrollments⟩ := command_applied platform seen s call now record hget
    refine ⟨?_, ?_, ?_, ?_⟩
    · intro other hother
      refine apply_assignments_of_ne platform now s _ other ?_ ?_
      · cases call <;> exact fun _ => JournalCommand.noConfusion
      · simpa [command_target seen call, eq_comm] using hother
    · intro other hother
      rw [henrollments, Map.get_insert_of_ne _ _ hother]
    · intro found hfound
      obtain rfl := Option.some.inj (hget.symm.trans hfound)
      exact ⟨call.joins, by rw [henrollments, Map.get_insert_self]⟩
    · intro hnone
      rw [hget] at hnone
      cases hnone

end Views

-- A command that no service issues keeps the two copies of an assignment together.
def KeepsViews (_ : Services) : ServiceStep → Prop
  | .Elsewhere _ cmd => ViewSafe cmd
  | _ => True

section Runs

variable {config : ServiceConfig} {services after : Services} {step : ServiceStep}

theorem viewSafe_of_target (cmd : JournalCommand) (nodeId : NodeId)
    (htarget : targetNode cmd = some nodeId) : ViewSafe cmd := by
  refine ⟨?_, ?_⟩
  · rintro _ _ rfl
    cases htarget
  · rintro _ rfl
    cases htarget

theorem viewSafe_of_served (cmd : JournalCommand) (hserved : isServed cmd = true) :
    ViewSafe cmd := by
  refine ⟨?_, ?_⟩
  · rintro _ _ rfl
    cases hserved
  · rintro _ rfl
    cases hserved

theorem command_viewSafe (call : EnrollmentService.Call) (cmd : JournalCommand)
    (hcmd : call.command = some cmd) : ViewSafe cmd := by
  cases call with
  | Activate nodeId =>
    cases hcmd
    exact viewSafe_of_target _ nodeId rfl
  | RecordEnrollment nodeId =>
    cases hcmd
    exact viewSafe_of_target _ nodeId rfl
  | RecordRenewal nodeId =>
    cases hcmd
    exact viewSafe_of_target _ nodeId rfl
  | Revoke nodeId =>
    cases hcmd
    exact viewSafe_of_target _ nodeId rfl
  | Audit =>
    cases hcmd
    exact ⟨fun _ _ => JournalCommand.noConfusion, fun _ => JournalCommand.noConfusion⟩
  | _ => cases hcmd

theorem issued_viewSafe (cmd : JournalCommand) (hsubmitted : Submitted config services)
    (hkeeps : KeepsViews services step) (hissued : Issued config services step cmd) :
    ViewSafe cmd := by
  cases hissued with
  | Submitted now index submission hget =>
    obtain ⟨s, clock, hcmd⟩ := hsubmitted submission (List.mem_of_getElem? hget)
    exact viewSafe_of_served _ (rpc_served _ _ s clock submission.rpc _ hcmd)
  | Called index draw consensus call _ hget hcmd => exact command_viewSafe call cmd hcmd
  | Deactivated now committed nodeId => exact viewSafe_of_target _ nodeId rfl
  | Expired => exact viewSafe_of_served _ rfl
  | Registered =>
    refine ⟨fun _ _ => JournalCommand.noConfusion, ?_⟩
    rintro enrollment ⟨⟩
    rfl
  | Assigned index consensus pending hget =>
    exact viewSafe_of_target _ _ (command_target pending.seen pending.call)
  | Elsewhere now => exact hkeeps

structure Consistent (config : ServiceConfig) (services : Services) : Prop where
  submitted : Submitted config services
  views : ViewsAgree services.journal

theorem consistent_start : Consistent config .start := by
  refine ⟨submitted_start, fun nodeId => ?_⟩
  simp [Services.start, JournalState.default, membership]

theorem servicesNext_consistent (hconsistent : Consistent config services)
    (hkeeps : KeepsViews services step) (hnext : servicesNext config services step = some after) :
    Consistent config after := by
  refine ⟨servicesNext_submitted hconsistent.submitted hnext, ?_⟩
  rcases servicesNext_writes hnext with hsame | ⟨now, cmd, hissued, hwritten⟩
  · rw [hsame]
    exact hconsistent.views
  · rw [hwritten]
    exact apply_viewsAgree config.platform now services.journal cmd hconsistent.views
      (issued_viewSafe cmd hconsistent.submitted hkeeps hissued)

theorem finishAssignment_onlyMembership (index : Nat) (consensus : Consensus)
    (pending : PendingAssignment) (hget : services.assignments[index]? = some pending)
    (hnext : servicesNext config services (.FinishAssignment index consensus) = some after) :
    OnlyMembership pending.call.nodeId services.journal after.journal := by
  rcases servicesNext_writes hnext with hsame | ⟨now, cmd, hissued, hwritten⟩
  · rw [hsame]
    exact .refl _ services.journal
  · cases hissued with
    | Registered _ principal clock nodeId hw hstep =>
      rcases hstep with ⟨_, _, h⟩ | ⟨_, _, h⟩ <;> cases h
    | Assigned _ _ found hfound =>
      obtain rfl := Option.some.inj (hget.symm.trans hfound)
      rw [hwritten]
      exact command_onlyMembership config.platform now pending.seen services.journal pending.call

end Runs

-- The two copies of an assignment agree in every reachable state, and an assignment changes
-- nothing but the vCluster of the one node.
theorem assignment_views_agree (config : ServiceConfig) (steps : List ServiceStep)
    (services : Services)
    (run : Run (servicesNext config) KeepsViews .start steps services) :
    (∀ nodeId vclusterId, services.journal.nodeAssignments.get nodeId = some vclusterId ↔
      ∃ record, services.journal.enrollments.get nodeId = some record ∧
        record.vclusterId = some vclusterId) ∧
    ∀ index consensus pending after, services.assignments[index]? = some pending →
      servicesNext config services (.FinishAssignment index consensus) = some after →
      OnlyMembership pending.call.nodeId services.journal after.journal := by
  have hconsistent : Consistent config services := run.invariant (Consistent config)
    (fun _ _ _ hconsistent hkeeps hnext => servicesNext_consistent hconsistent hkeeps hnext)
    consistent_start
  refine ⟨?_, ?_⟩
  · intro nodeId vclusterId
    rw [hconsistent.views nodeId, membership, Option.bind_eq_some_iff]
  · intro index consensus pending after hget hnext
    exact finishAssignment_onlyMembership index consensus pending hget hnext

def adminServices : ServiceConfig := ⟨.ascii, sampleConfig, none, 300⟩

def adminToken : Option MetadataValue := some (.Text "Bearer admin-token")

def assignedSteps : List ServiceStep :=
  [.RegisterNode 0 ⟨adminToken, ⟨"node-1", some ⟨"aa:bb", "", .empty⟩⟩⟩ (.Committed 0),
    .Assignment (.Assign ⟨adminToken, ⟨"node-1", "ml"⟩⟩), .FinishAssignment 0 (.Committed 0)]

theorem assignment_views_agree_assigned : ∃ services,
    Run (servicesNext adminServices) KeepsViews .start assignedSteps services ∧
    services.journal.nodeAssignments.get "node-1" = some "ml" ∧
    ∃ record, services.journal.enrollments.get "node-1" = some record ∧
      record.vclusterId = some "ml" := by
  obtain ⟨services, hrun, hassigned⟩ : ∃ services,
      Run (servicesNext adminServices) KeepsViews .start assignedSteps services ∧
      services.journal.nodeAssignments.get "node-1" = some "ml" :=
    ⟨_, .cons trivial rfl (.cons trivial rfl (.single trivial rfl)), by decide +kernel⟩
  exact ⟨services, hrun, hassigned,
    ((assignment_views_agree adminServices assignedSteps services hrun).1 _ _).mp hassigned⟩

-- The vCluster of a node as move_node reports it: the empty id for none.
def shownVcluster (s : JournalState) (nodeId : NodeId) : VClusterId := (membership s nodeId).getD ""

-- The write of a move, which has read the journal `seen`.
def FinishesMove (services : Services) (step : ServiceStep) (consensus : Consensus)
    (seen : JournalState) (request : Request Proto.MoveNodeRequest) : Prop :=
  ∃ index, step = .FinishAssignment index consensus ∧
    services.assignments[index]? = some ⟨seen, .Move request⟩

-- The node is in the source that the command names if the command changes its vCluster, and in
-- the one that the call reports if it succeeds.
def MovesFromSource (config : ServiceConfig) (services : Services) (step : ServiceStep)
    (after : Services) : Prop :=
  ∀ consensus seen request, FinishesMove services step consensus seen request →
    (∀ nodeId fromVclusterId toVclusterId,
      (AssignmentCall.Move request).command seen =
        .MoveNodeVCluster nodeId fromVclusterId toVclusterId →
      membership after.journal nodeId ≠ membership services.journal nodeId →
      fromVclusterId = shownVcluster services.journal nodeId) ∧
    ∀ response, ((AssignmentCall.Move request).finish config.platform config.enrollment consensus
        seen services.journal).2 = .ok (.Moved response) →
      response.fromVclusterId = shownVcluster services.journal response.nodeId

-- The move comes through, or at least changes where the node is.
def TakesEffect (config : ServiceConfig) (services : Services) (consensus : Consensus)
    (request : Request Proto.MoveNodeRequest) : Prop :=
  (∃ caller, Admits config.enrollment (.Move request) caller) ∧
    ∃ record, services.journal.enrollments.get request.body.nodeId = some record ∧
      ((∃ now, consensus = .Committed now) ∨
        consensus.applies = true ∧ record.vclusterId ≠ some request.body.toVclusterId)

-- The node is where it was when the move looked.
def SourceStands (config : ServiceConfig) (services : Services) (step : ServiceStep) : Prop :=
  ∀ consensus seen request, FinishesMove services step consensus seen request →
    TakesEffect config services consensus request →
    shownVcluster seen request.body.nodeId = shownVcluster services.journal request.body.nodeId

section Moves

variable (platform : Platform) (enrollment : EnrollmentService.Config) (consensus : Consensus)
  (seen later : JournalState)

theorem finish_written (call : AssignmentCall)
    (hchanged : (call.finish platform enrollment consensus seen later).1 ≠ later) :
    (∃ caller, Admits enrollment call caller) ∧ consensus.applies = true := by
  by_cases hadmits : ∃ caller, Admits enrollment call caller
  · refine ⟨hadmits, ?_⟩
    obtain ⟨caller, hcaller⟩ := hadmits
    obtain ⟨answer, hhandler⟩ := handler_of_admits enrollment seen call caller hcaller
    rw [AssignmentCall.finish, hhandler] at hchanged
    cases consensus with
    | Committed now => rfl
    | Failed error applied =>
      cases applied with
      | none => exact absurd rfl hchanged
      | some now => rfl
  · obtain ⟨status, hhandler⟩ := handler_of_not_admits enrollment seen call (not_exists.mp hadmits)
    rw [AssignmentCall.finish, hhandler] at hchanged
    exact absurd rfl hchanged

theorem finish_applied (call : AssignmentCall) (caller : Identity) (record : NodeEnrollment)
    (hadmits : Admits enrollment call caller) (happlies : consensus.applies = true)
    (hget : later.enrollments.get call.nodeId = some record) :
    (call.finish platform enrollment consensus seen later).1.enrollments =
      later.enrollments.insert call.nodeId { record with vclusterId := call.joins } := by
  obtain ⟨answer, hhandler⟩ := handler_of_admits enrollment seen call caller hadmits
  rw [AssignmentCall.finish, hhandler]
  cases consensus with
  | Committed now => exact (command_applied platform seen later call now record hget).2
  | Failed error applied =>
    cases applied with
    | none => cases happlies
    | some now => exact (command_applied platform seen later call now record hget).2

theorem answerOk_ok {Answer : Type} (given answer : Answer) (response : JournalResponse)
    (h : answerOk given response = .ok answer) : answer = given := by
  cases response <;> cases h
  rfl

theorem move_answer (request : Request Proto.MoveNodeRequest) (answer : AssignmentAnswer)
    (h : ((AssignmentCall.Move request).finish platform enrollment consensus seen later).2 =
      .ok answer) :
    answer = .Moved ⟨request.body.nodeId, shownVcluster seen request.body.nodeId,
      request.body.toVclusterId⟩ := by
  simp only [AssignmentCall.finish, AssignmentCall.handler, moveNode] at h
  cases hcaller : authenticate enrollment request.authorization with
  | error status =>
    rw [hcaller] at h
    cases h
  | ok caller =>
    rw [hcaller] at h
    simp only [map_write_answerOk] at h
    cases consensus with
    | Committed now => exact answerOk_ok _ answer _ h
    | Failed error applied => cases h

end Moves

section Steps

variable {config : ServiceConfig} {services after : Services}

theorem finishesMove_journal {step : ServiceStep} (consensus : Consensus) (seen : JournalState)
    (request : Request Proto.MoveNodeRequest)
    (hfinishes : FinishesMove services step consensus seen request)
    (hnext : servicesNext config services step = some after) :
    after.journal = ((AssignmentCall.Move request).finish config.platform config.enrollment consensus
      seen services.journal).1 := by
  obtain ⟨index, rfl, hget⟩ := hfinishes
  simp only [servicesNext, hget, Option.map_some, Option.some.injEq] at hnext
  rw [← hnext]

theorem membership_moved (consensus : Consensus) (seen : JournalState)
    (request : Request Proto.MoveNodeRequest) (caller : Identity) (record : NodeEnrollment)
    (hadmits : Admits config.enrollment (.Move request) caller) (happlies : consensus.applies = true)
    (hget : services.journal.enrollments.get request.body.nodeId = some record) :
    membership ((AssignmentCall.Move request).finish config.platform config.enrollment consensus seen
      services.journal).1 request.body.nodeId = some request.body.toVclusterId := by
  rw [membership, finish_applied config.platform config.enrollment consensus seen services.journal
    (.Move request) caller record hadmits happlies hget, AssignmentCall.nodeId, Map.get_insert_self]
  rfl

theorem takesEffect_of_changed {step : ServiceStep} (consensus : Consensus) (seen : JournalState)
    (request : Request Proto.MoveNodeRequest)
    (hfinishes : FinishesMove services step consensus seen request)
    (hnext : servicesNext config services step = some after)
    (hchanged : membership after.journal request.body.nodeId ≠
      membership services.journal request.body.nodeId) :
    TakesEffect config services consensus request := by
  have hjournal := finishesMove_journal consensus seen request hfinishes hnext
  obtain ⟨⟨caller, hcaller⟩, happlies⟩ := finish_written config.platform config.enrollment consensus
    seen services.journal (.Move request) (by
      intro hsame
      rw [hjournal, hsame] at hchanged
      exact hchanged rfl)
  cases hget : services.journal.enrollments.get request.body.nodeId with
  | none =>
    obtain ⟨index, rfl, hpending⟩ := hfinishes
    have habsent := (finishAssignment_onlyMembership index consensus _ hpending hnext).absent hget
    rw [membership, membership, hget] at hchanged
    exact absurd (by rw [AssignmentCall.nodeId] at habsent; rw [habsent]) hchanged
  | some record =>
    refine ⟨⟨caller, hcaller⟩, record, hget, .inr ⟨happlies, ?_⟩⟩
    intro hthere
    rw [hjournal, membership_moved consensus seen request caller record hcaller happlies hget,
      membership, hget] at hchanged
    exact hchanged hthere.symm

theorem movesFromSource_iff (step : ServiceStep)
    (hnext : servicesNext config services step = some after) :
    MovesFromSource config services step after ↔ SourceStands config services step := by
  constructor
  · rintro hmoves consensus seen request hfinishes ⟨⟨caller, hcaller⟩, record, hget, heffect⟩
    obtain ⟨hcommand, hanswered⟩ := hmoves consensus seen request hfinishes
    rcases heffect with ⟨now, rfl⟩ | ⟨happlies, hnot⟩
    · obtain ⟨⟨answer, hanswer⟩, _⟩ := finish_admitted config.platform config.enrollment seen
        services.journal (.Move request) caller now record hcaller hget
      obtain rfl := move_answer _ _ _ _ _ request answer hanswer
      exact hanswered _ hanswer
    · refine hcommand _ _ _ rfl ?_
      rw [finishesMove_journal consensus seen request hfinishes hnext,
        membership_moved consensus seen request caller record hcaller happlies hget, membership, hget]
      exact fun h => hnot h.symm
  · intro hstands consensus seen request hfinishes
    refine ⟨?_, ?_⟩
    · rintro nodeId fromVclusterId toVclusterId hcmd hchanged
      obtain ⟨rfl, rfl, rfl⟩ := JournalCommand.MoveNodeVCluster.inj hcmd
      exact hstands consensus seen request hfinishes
        (takesEffect_of_changed consensus seen request hfinishes hnext hchanged)
    · intro response hanswer
      obtain ⟨caller, now, record, hcaller, hcommitted, hget⟩ := finish_ok config.platform
        config.enrollment consensus seen services.journal (.Move request) _ hanswer
      obtain rfl := AssignmentAnswer.Moved.inj (move_answer _ _ _ _ _ request _ hanswer)
      exact hstands consensus seen request hfinishes
        ⟨⟨caller, hcaller⟩, record, hget, .inl ⟨now, hcommitted⟩⟩

end Steps

-- All moves of a run leave the vCluster that they name and report exactly if each one that takes
-- effect finds the node where it was when the move looked. The command does not read its source.
theorem moves_from_source_iff (config : ServiceConfig) (start last : Services)
    (steps : List ServiceStep) (run : Run (servicesNext config) Unrestricted start steps last) :
    (∀ before step rest services after, steps = before ++ step :: rest →
      Run (servicesNext config) Unrestricted start before services →
      servicesNext config services step = some after →
      MovesFromSource config services step after) ↔
    Run (servicesNext config) (SourceStands config) start steps last :=
  run.steps_iff (fun _ => True) (MovesFromSource config) (fun _ _ _ _ _ => trivial)
    (fun _ step _ _ hnext => movesFromSource_iff step hnext) trivial

-- No command that is written says where the node belongs.
def LeavesMembership (config : ServiceConfig) (nodeId : NodeId) (services : Services)
    (step : ServiceStep) : Prop :=
  KeepsViews services step ∧ ∀ cmd, Issued config services step cmd →
    Cell.Assignment nodeId ∉ cellsOf config.platform cmd

-- So the source stands if no other write about the node comes between the read and the write of
-- the move.
theorem shownVcluster_between (config : ServiceConfig) (nodeId : NodeId)
    (before between : List ServiceStep) (services later : Services)
    (hbefore : Run (servicesNext config) KeepsViews .start before services)
    (hbetween : Run (servicesNext config) (LeavesMembership config nodeId) services between later) :
    shownVcluster later.journal nodeId = shownVcluster services.journal nodeId := by
  have hstart : Consistent config services := hbefore.invariant (Consistent config)
    (fun _ _ _ h hkeeps hnext => servicesNext_consistent h hkeeps hnext) consistent_start
  have hkept : Consistent config later ∧
      later.journal.nodeAssignments.get nodeId = services.journal.nodeAssignments.get nodeId := by
    refine hbetween.invariant (fun state => Consistent config state ∧
      state.journal.nodeAssignments.get nodeId = services.journal.nodeAssignments.get nodeId) ?_
      ⟨hstart, rfl⟩
    rintro state step after ⟨hstate, hsame⟩ ⟨hkeeps, hleaves⟩ hnext
    refine ⟨servicesNext_consistent hstate hkeeps hnext, Eq.trans ?_ hsame⟩
    rcases servicesNext_writes hnext with hjournal | ⟨now, cmd, hissued, hwritten⟩
    · rw [hjournal]
    · rw [hwritten]
      exact Content.Assignment.inj (apply_frame config.platform now state.journal cmd
        (.Assignment nodeId) (hleaves cmd hissued))
  rw [shownVcluster, shownVcluster, ← hkept.1.views, ← hstart.views, hkept.2]

theorem sourceStands_of_ne (config : ServiceConfig) (services : Services) (step : ServiceStep)
    (hother : ∀ index consensus, step ≠ .FinishAssignment index consensus) :
    SourceStands config services step := by
  rintro consensus seen request ⟨index, rfl, _⟩
  exact absurd rfl (hother index consensus)

theorem sourceStands_of_shown (config : ServiceConfig) (services : Services) (index : Nat)
    (consensus : Consensus) (pending : PendingAssignment)
    (hget : services.assignments[index]? = some pending)
    (hshown : shownVcluster pending.seen pending.call.nodeId =
      shownVcluster services.journal pending.call.nodeId) :
    SourceStands config services (.FinishAssignment index consensus) := by
  rintro _ seen request ⟨_, ⟨⟩, hfound⟩ _
  obtain rfl := Option.some.inj (hget.symm.trans hfound)
  exact hshown

def moveTo (toVclusterId : VClusterId) : AssignmentCall := .Move ⟨adminToken, ⟨"node-1", toVclusterId⟩⟩

def movedSteps : List ServiceStep :=
  assignedSteps ++ [.Assignment (moveTo "dev"), .FinishAssignment 0 (.Committed 0)]

theorem moves_from_source_moved : ∃ last,
    Run (servicesNext adminServices) Unrestricted .start movedSteps last ∧
    membership last.journal "node-1" = some "dev" ∧
    ∀ before step rest services after, movedSteps = before ++ step :: rest →
      Run (servicesNext adminServices) Unrestricted .start before services →
      servicesNext adminServices services step = some after →
      MovesFromSource adminServices services step after := by
  obtain ⟨last, hstands, hmoved⟩ : ∃ last,
      Run (servicesNext adminServices) (SourceStands adminServices) .start movedSteps last ∧
      membership last.journal "node-1" = some "dev" := by
    refine ⟨_, .cons (sourceStands_of_ne _ _ _ fun _ _ => ServiceStep.noConfusion) rfl
      (.cons (sourceStands_of_ne _ _ _ fun _ _ => ServiceStep.noConfusion) rfl
      (.cons (sourceStands_of_shown _ _ _ _ _ rfl (by decide +kernel)) rfl
      (.cons (sourceStands_of_ne _ _ _ fun _ _ => ServiceStep.noConfusion) rfl
      (.single (sourceStands_of_shown _ _ _ _ _ rfl (by decide +kernel)) rfl)))), by decide +kernel⟩
  have hrun : Run (servicesNext adminServices) Unrestricted .start movedSteps last :=
    hstands.unrestricted
  exact ⟨last, hrun, hmoved, (moves_from_source_iff adminServices _ last movedSteps hrun).mpr hstands⟩

-- Two admins move the node at the same time. The second write finds it in dev, takes it to prod
-- and reports that it left ml.
theorem racing_move_misreports : ∃ services after pending,
    Run (servicesNext adminServices) Unrestricted .start
      (assignedSteps ++ [.Assignment (moveTo "dev"), .Assignment (moveTo "prod"),
        .FinishAssignment 0 (.Committed 0)]) services ∧
    services.assignments[0]? = some pending ∧
    servicesNext adminServices services (.FinishAssignment 0 (.Committed 0)) = some after ∧
    membership services.journal "node-1" = some "dev" ∧
    membership after.journal "node-1" = some "prod" ∧
    pending.call.command pending.seen = .MoveNodeVCluster "node-1" "ml" "prod" ∧
    (pending.call.finish .ascii sampleConfig (.Committed 0) pending.seen services.journal).2 =
      .ok (.Moved ⟨"node-1", "ml", "prod"⟩) :=
  ⟨_, _, _, (exec_eq_some_iff (servicesNext adminServices) _ _ _).mp rfl, rfl, rfl, by decide +kernel,
    by decide +kernel, by decide +kernel, by decide +kernel⟩

end Pact.Journal
