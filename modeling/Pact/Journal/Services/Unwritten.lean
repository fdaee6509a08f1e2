import Pact.Journal.Services.Assignments
import Pact.Journal.State.Locality

namespace Pact.Journal

open Pact.Library Pact.Common EnrollmentService

def OwnStep (_ : Services) : ServiceStep → Prop
  | .Elsewhere _ _ => False
  | _ => True

instance (services : Services) : (step : ServiceStep) → Decidable (OwnStep services step)
  | .Elsewhere _ _ => .isFalse id
  | .Server _ | .Enrollment _ | .Monitor _ | .RegisterNode _ _ _ | .BatchRegisterNodes _
  | .RegisterNext _ _ _ | .Assignment _ | .FinishAssignment _ _ => .isTrue trivial

-- The commands that some service issues. A node is registered without anything having been seen
-- of it.
def isIssued : JournalCommand → Bool
  | .UpdateNodeState _ _ => false
  | .SetOverlay _ _ => false
  | .AssignNode _ _ => false
  | .UpdateNodeLastSeen _ _ => false
  | .RegisterNode enrollment =>
    enrollment.state = .Registered ∧ enrollment.lastSeen = none ∧ enrollment.activeSessions = 0
  | _ => true

def certifiedNode : JournalCommand → Option NodeId
  | .ActivateNode nodeId _ _ => some nodeId
  | .UpdateNodeCert nodeId _ _ => some nodeId
  | _ => none

section Records

variable (platform : Platform) (now : DateTime) (nodeId : NodeId) (cmd : JournalCommand)
  (record : NodeEnrollment)

theorem recordAfter_activeSessions :
    (recordAfter platform now nodeId cmd record).activeSessions = record.activeSessions := by
  have houtcome := recordAfter_outcome platform now nodeId cmd record
  generalize recordAfter platform now nodeId cmd record = changed at houtcome ⊢
  cases houtcome <;> rfl

-- A node becomes active by its certificate, and nothing that is issued forgets when it was seen.
theorem recordAfter_seen (hissued : isIssued cmd = true)
    (h : record.state = .Active → record.lastSeen.isSome = true) :
    (recordAfter platform now nodeId cmd record).state = .Active →
      (recordAfter platform now nodeId cmd record).lastSeen.isSome = true := by
  have houtcome := recordAfter_outcome platform now nodeId cmd record
  generalize recordAfter platform now nodeId cmd record = changed at houtcome ⊢
  cases houtcome with
  | Activated => exact fun _ => rfl
  | Certified => exact fun _ => rfl
  | Deactivated => exact fun hstate => by cases hstate
  | Revoked => exact fun hstate => by cases hstate
  | Seen => cases hissued
  | _ => exact h

theorem recordAfter_lastSeen (hissued : isIssued cmd = true)
    (huncertified : certifiedNode cmd ≠ some nodeId) :
    (recordAfter platform now nodeId cmd record).lastSeen = record.lastSeen := by
  have houtcome := recordAfter_outcome platform now nodeId cmd record
  generalize recordAfter platform now nodeId cmd record = changed at houtcome ⊢
  cases houtcome with
  | Activated => exact absurd rfl huncertified
  | Certified => exact absurd rfl huncertified
  | Seen => cases hissued
  | _ => rfl

end Records

-- What the services leave out of the journal in every state they reach.
structure Bare (s : JournalState) : Prop where
  keyed : Keyed s
  overlays : ∀ vclusterId, s.overlays.get vclusterId = none
  nodeStates : ∀ nodeId, s.nodeStates.get nodeId = none
  sessions : ∀ nodeId record, s.enrollments.get nodeId = some record → record.activeSessions = 0
  seen : ∀ nodeId record, s.enrollments.get nodeId = some record → record.state = .Active →
    record.lastSeen.isSome = true

theorem apply_bare (platform : Platform) (now : DateTime) (s : JournalState) (cmd : JournalCommand)
    (hbare : Bare s) (hissued : isIssued cmd = true) : Bare (apply platform now s cmd).1 := by
  have hregistered (added : NodeEnrollment) (hadded : cmd = .RegisterNode added) :
      added.state = .Registered ∧ added.activeSessions = 0 := by
    rw [hadded] at hissued
    have hnew := of_decide_eq_true hissued
    exact ⟨hnew.1, hnew.2.2⟩
  refine ⟨apply_keyed platform now s cmd hbare.keyed, ?_, ?_, ?_, ?_⟩
  · intro vclusterId
    have hframe := apply_frame platform now s cmd (.Overlay vclusterId) (by
      cases cmd <;> simp_all [isIssued, cellsOf])
    exact (Content.Overlay.inj hframe).trans (hbare.overlays vclusterId)
  · intro nodeId
    have hframe := apply_frame platform now s cmd (.NodeState nodeId) (by
      cases cmd <;> simp_all [isIssued, cellsOf])
    exact (Content.NodeState.inj hframe).trans (hbare.nodeStates nodeId)
  · intro nodeId changed hchanged
    rcases apply_enrolled platform now s cmd nodeId changed hchanged with
      ⟨record, hget, rfl⟩ | ⟨hadded, _, _, _⟩
    · rw [recordAfter_activeSessions]
      exact hbare.sessions nodeId record hget
    · exact (hregistered changed hadded).2
  · intro nodeId changed hchanged
    rcases apply_enrolled platform now s cmd nodeId changed hchanged with
      ⟨record, hget, rfl⟩ | ⟨hadded, _, _, _⟩
    · exact recordAfter_seen platform now nodeId cmd record hissued (hbare.seen nodeId record hget)
    · intro hactive
      rw [(hregistered changed hadded).1] at hactive
      cases hactive

section Steps

variable {config : ServiceConfig} {services after : Services} {step : ServiceStep}

theorem issued_of_served (cmd : JournalCommand) (h : isServed cmd = true) : isIssued cmd = true := by
  cases cmd <;> first | rfl | cases h

theorem issued_isIssued (cmd : JournalCommand) (hsubmitted : Submitted config services)
    (hown : OwnStep services step) (hissued : Issued config services step cmd) :
    isIssued cmd = true := by
  cases hissued with
  | Submitted now index submission hget =>
    obtain ⟨s, clock, hcmd⟩ := hsubmitted submission (List.mem_of_getElem? hget)
    exact issued_of_served _ (rpc_served _ _ s clock submission.rpc _ hcmd)
  | Called index draw consensus call _ hget hcmd =>
    cases call <;> cases hcmd <;> rfl
  | Deactivated now committed nodeId => rfl
  | Expired => rfl
  | Registered => simp [isIssued, newEnrollment]
  | Assigned index consensus pending hget =>
    obtain ⟨seen, call⟩ := pending
    cases call <;> rfl
  | Elsewhere now => exact absurd hown id

structure Served (config : ServiceConfig) (services : Services) : Prop where
  submitted : Submitted config services
  bare : Bare services.journal

theorem served_start : Served config .start := by
  refine ⟨submitted_start, ?_, ?_, ?_, ?_, ?_⟩
  all_goals
    intros
    simp_all [Services.start, JournalState.default, Keyed]

theorem servicesNext_served (hserved : Served config services) (hown : OwnStep services step)
    (hnext : servicesNext config services step = some after) : Served config after := by
  refine ⟨servicesNext_submitted hserved.submitted hnext, ?_⟩
  rcases servicesNext_writes hnext with hsame | ⟨now, cmd, hissued, hwritten⟩
  · rw [hsame]
    exact hserved.bare
  · rw [hwritten]
    exact apply_bare config.platform now services.journal cmd hserved.bare
      (issued_isIssued cmd hserved.submitted hown hissued)

theorem run_served (steps : List ServiceStep)
    (run : Run (servicesNext config) OwnStep .start steps services) : Served config services :=
  run.invariant (Served config) (fun _ _ _ hserved hown => servicesNext_served hserved hown)
    served_start

end Steps

-- An administrator registers a node, and the node enrolls.
def enrolledSteps : List ServiceStep :=
  [.RegisterNode 0 ⟨adminToken, ⟨"node-1", some ⟨"aa:bb", "", .empty⟩⟩⟩ (.Committed 0),
    .Enrollment (.Enroll true ⟨0, "placeholder-1"⟩ ⟨some ⟨"aa:bb", "", .empty⟩, []⟩),
    .Enrollment (.Write 0 ⟨0, ""⟩ (.Committed 0))]

theorem exists_enrolled : ∃ services record,
    Run (servicesNext adminServices) OwnStep .start enrolledSteps services ∧
      services.journal.enrollments.get "node-1" = some record ∧ record.state = .Active ∧
      record.lastSeen = some 0 := by
  have hexec : (execWhere (servicesNext adminServices) OwnStep .start enrolledSteps).any
      (fun services => (services.journal.enrollments.get "node-1").any fun record =>
        record.state = .Active ∧ record.lastSeen = some 0) = true := by
    decide +kernel
  obtain ⟨services, hservices, hnode⟩ := (Option.any_eq_true _ _).mp hexec
  obtain ⟨record, hget, hrecord⟩ := (Option.any_eq_true _ _).mp hnode
  obtain ⟨hactive, hseen⟩ := of_decide_eq_true hrecord
  exact ⟨services, record, run_of_execWhere _ _ _ _ _ hservices, hget, hactive, hseen⟩

end Pact.Journal
