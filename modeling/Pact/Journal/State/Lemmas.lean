import Pact.Journal.State
import Pact.Library.Run

namespace Pact.Journal

open Pact.Library Pact.Common

-- The node a command is about, for the commands that change an existing enrollment.
def targetNode : JournalCommand → Option NodeId
  | .ActivateNode nodeId _ _ => some nodeId
  | .DeactivateNode nodeId => some nodeId
  | .RevokeNode nodeId => some nodeId
  | .AssignNodeToVCluster nodeId _ => some nodeId
  | .UnassignNode nodeId => some nodeId
  | .MoveNodeVCluster nodeId _ _ => some nodeId
  | .UpdateNodeLastSeen nodeId _ => some nodeId
  | .UpdateNodeCert nodeId _ _ => some nodeId
  | _ => none

theorem withEnrollment_some (s : JournalState) (nodeId : NodeId) (enrollment : NodeEnrollment)
    (update : NodeEnrollment → JournalState × JournalResponse)
    (h : s.enrollments.get nodeId = some enrollment) :
    withEnrollment s nodeId update = update enrollment := by
  simp only [withEnrollment, h]

theorem withEnrollment_none (s : JournalState) (nodeId : NodeId)
    (update : NodeEnrollment → JournalState × JournalResponse)
    (h : s.enrollments.get nodeId = none) :
    withEnrollment s nodeId update = (s, .ValidationError ("NODE_NOT_ENROLLED: " ++ nodeId)) := by
  simp only [withEnrollment, h]

-- The effect of a command on the enrollment record of one node that is already enrolled.
def recordAfter (platform : Platform) (now : DateTime) (nodeId : NodeId) (cmd : JournalCommand)
    (record : NodeEnrollment) : NodeEnrollment :=
  if targetNode cmd = some nodeId then
    match cmd with
    | .ActivateNode _ serial expires =>
      if record.state = .Revoked ∨ record.state = .Active then record
      else
        { record with
          state := .Active
          certSerial := some serial
          certExpiresAt := platform.parseFromRfc3339 expires
          lastSeen := some now }
    | .DeactivateNode _ => { record with state := .Inactive }
    | .RevokeNode _ => { record with state := .Revoked }
    | .AssignNodeToVCluster _ vclusterId => { record with vclusterId := some vclusterId }
    | .UnassignNode _ => { record with vclusterId := none }
    | .MoveNodeVCluster _ _ vclusterId => { record with vclusterId := some vclusterId }
    | .UpdateNodeLastSeen _ timestamp =>
      { record with lastSeen := platform.parseFromRfc3339 timestamp }
    | .UpdateNodeCert _ serial expires =>
      { record with
        certSerial := some serial
        certExpiresAt := platform.parseFromRfc3339 expires
        lastSeen := some now }
    | _ => record
  else record

theorem recordAfter_of_ne (platform : Platform) (now : DateTime) (nodeId : NodeId)
    (cmd : JournalCommand) (record : NodeEnrollment) (h : targetNode cmd ≠ some nodeId) :
    recordAfter platform now nodeId cmd record = record :=
  if_neg h

-- What a command can make of the record of an enrolled node: it is left alone, or it changes in
-- the fields of the one command that is about it.
inductive RecordOutcome (platform : Platform) (now : DateTime) (nodeId : NodeId)
    (record : NodeEnrollment) : JournalCommand → NodeEnrollment → Prop
  | Untouched (cmd : JournalCommand) (htarget : targetNode cmd ≠ some nodeId) :
      RecordOutcome platform now nodeId record cmd record
  | Refused (serial expires : String)
      (hclosed : record.state = .Revoked ∨ record.state = .Active) :
      RecordOutcome platform now nodeId record (.ActivateNode nodeId serial expires) record
  | Activated (serial expires : String)
      (hopen : ¬(record.state = .Revoked ∨ record.state = .Active)) :
      RecordOutcome platform now nodeId record (.ActivateNode nodeId serial expires)
        { record with
          state := .Active
          certSerial := some serial
          certExpiresAt := platform.parseFromRfc3339 expires
          lastSeen := some now }
  | Deactivated :
      RecordOutcome platform now nodeId record (.DeactivateNode nodeId)
        { record with state := .Inactive }
  | Revoked :
      RecordOutcome platform now nodeId record (.RevokeNode nodeId) { record with state := .Revoked }
  | Assigned (vclusterId : VClusterId) :
      RecordOutcome platform now nodeId record (.AssignNodeToVCluster nodeId vclusterId)
        { record with vclusterId := some vclusterId }
  | Unassigned :
      RecordOutcome platform now nodeId record (.UnassignNode nodeId)
        { record with vclusterId := none }
  | Moved (fromVclusterId toVclusterId : VClusterId) :
      RecordOutcome platform now nodeId record
        (.MoveNodeVCluster nodeId fromVclusterId toVclusterId)
        { record with vclusterId := some toVclusterId }
  | Seen (timestamp : String) :
      RecordOutcome platform now nodeId record (.UpdateNodeLastSeen nodeId timestamp)
        { record with lastSeen := platform.parseFromRfc3339 timestamp }
  | Certified (serial expires : String) :
      RecordOutcome platform now nodeId record (.UpdateNodeCert nodeId serial expires)
        { record with
          certSerial := some serial
          certExpiresAt := platform.parseFromRfc3339 expires
          lastSeen := some now }

theorem recordAfter_outcome (platform : Platform) (now : DateTime) (nodeId : NodeId)
    (cmd : JournalCommand) (record : NodeEnrollment) :
    RecordOutcome platform now nodeId record cmd (recordAfter platform now nodeId cmd record) := by
  by_cases htarget : targetNode cmd = some nodeId
  · cases cmd <;> simp only [targetNode, Option.some.injEq, reduceCtorEq] at htarget <;>
      subst htarget <;> simp only [recordAfter, targetNode, reduceIte]
    case ActivateNode serial expires =>
      split_ifs with hclosed
      · exact .Refused serial expires hclosed
      · exact .Activated serial expires hclosed
    all_goals constructor
  · rw [recordAfter_of_ne platform now nodeId cmd record htarget]
    exact .Untouched cmd htarget

def assignmentsAfter (assignments : Map NodeId VClusterId) :
    JournalCommand → Map NodeId VClusterId
  | .AssignNodeToVCluster nodeId vclusterId => assignments.insert nodeId vclusterId
  | .UnassignNode nodeId => assignments.erase nodeId
  | .MoveNodeVCluster nodeId _ toVclusterId => assignments.insert nodeId toVclusterId
  | _ => assignments

-- All that a command can do: it is rejected and the journal stays as it was, or it makes the one
-- change that belongs to it.
inductive Outcome (platform : Platform) (now : DateTime) (s : JournalState) :
    JournalCommand → JournalState × JournalResponse → Prop
  | Rejected (cmd : JournalCommand) (reason : String)
      (hkept : ∀ nodeId record, s.enrollments.get nodeId = some record →
        recordAfter platform now nodeId cmd record = record) :
      Outcome platform now s cmd (s, .ValidationError reason)
  | Appended (entry : ConfigEntry) (haccepted : entryRejection s entry = none) :
      Outcome platform now s (.AppendEntry entry)
        ({ s with
            entries := s.entries.insert s.nextSequence { entry with sequence := s.nextSequence }
            nextSequence := s.nextSequence + 1 },
          .EntryAppended s.nextSequence)
  | NodeState (nodeId : NodeId) (state : ConfigState) :
      Outcome platform now s (.UpdateNodeState nodeId state)
        ({ s with nodeStates := s.nodeStates.insert nodeId state }, .Ok)
  | Policy (vclusterId : VClusterId) (policy : VClusterPolicy) :
      Outcome platform now s (.SetPolicy vclusterId policy)
        ({ s with policies := s.policies.insert vclusterId policy }, .Ok)
  | Overlay (vclusterId : VClusterId) (overlay : BootOverlay) :
      Outcome platform now s (.SetOverlay vclusterId overlay)
        ({ s with overlays := s.overlays.insert vclusterId overlay }, .Ok)
  | Recorded (operation : AdminOperation) :
      Outcome platform now s (.RecordOperation operation)
        ({ s with auditLog := capLog auditLogMax (s.auditLog ++ [operation]) }, .Ok)
  | Assigned (nodeId : NodeId) (vclusterId : VClusterId) :
      Outcome platform now s (.AssignNode nodeId vclusterId)
        ({ s with nodeAssignments := s.nodeAssignments.insert nodeId vclusterId }, .Ok)
  | Created (approval : PendingApproval) :
      Outcome platform now s (.CreateApproval approval)
        ({ s with pendingApprovals := s.pendingApprovals.insert approval.approvalId approval }, .Ok)
  | Decided (approvalId : String) (approver : Identity) (decision : ApprovalStatus)
      (approval : PendingApproval) (hget : s.pendingApprovals.get approvalId = some approval)
      (hpending : approval.status = .Pending)
      (hother : approval.requester.principal ≠ approver.principal) :
      Outcome platform now s (.DecideApproval approvalId approver decision)
        ({ s with
            pendingApprovals := s.pendingApprovals.insert approvalId
              { approval with status := decision, approver := some approver } }, .Ok)
  | Registered (enrollment : NodeEnrollment)
      (hnew : s.enrollments.get enrollment.nodeId = none)
      (hfree : s.hwIndex.get (hwCanonicalKey platform enrollment.hardwareIdentity) = none) :
      Outcome platform now s (.RegisterNode enrollment)
        ({ s with
            hwIndex := s.hwIndex.insert (hwCanonicalKey platform enrollment.hardwareIdentity)
              enrollment.nodeId
            enrollments := s.enrollments.insert enrollment.nodeId enrollment },
          .EnrollmentResult enrollment.nodeId .Registered none)
  | Updated (cmd : JournalCommand) (nodeId : NodeId) (record : NodeEnrollment)
      (response : JournalResponse) (htarget : targetNode cmd = some nodeId)
      (hget : s.enrollments.get nodeId = some record)
      (hresponse : response = .Ok ∨ response = .EnrollmentResult nodeId .Active record.vclusterId) :
      Outcome platform now s cmd
        ({ s.putEnrollment nodeId (recordAfter platform now nodeId cmd record) with
            nodeAssignments := assignmentsAfter s.nodeAssignments cmd }, response)

section Applied

variable (platform : Platform) (now : DateTime) (s : JournalState) (cmd : JournalCommand)

theorem rejected_of_no_target (reason : String) (h : targetNode cmd = none) :
    Outcome platform now s cmd (s, .ValidationError reason) :=
  .Rejected cmd reason fun nodeId record _ =>
    recordAfter_of_ne platform now nodeId cmd record (by simp [h])

theorem apply_target_none (nodeId : NodeId) (hnode : targetNode cmd = some nodeId)
    (hrecord : s.enrollments.get nodeId = none) :
    apply platform now s cmd = (s, .ValidationError ("NODE_NOT_ENROLLED: " ++ nodeId)) := by
  cases cmd <;> simp only [targetNode, Option.some.injEq, reduceCtorEq] at hnode <;> subst hnode <;>
    exact withEnrollment_none s _ _ hrecord

theorem apply_target_outcome (nodeId : NodeId) (record : NodeEnrollment)
    (hnode : targetNode cmd = some nodeId) (hget : s.enrollments.get nodeId = some record) :
    Outcome platform now s cmd (apply platform now s cmd) := by
  have hupdated : ∀ response,
      response = .Ok ∨ response = .EnrollmentResult nodeId .Active record.vclusterId →
      Outcome platform now s cmd
        ({ s.putEnrollment nodeId (recordAfter platform now nodeId cmd record) with
            nodeAssignments := assignmentsAfter s.nodeAssignments cmd }, response) :=
    fun response => .Updated cmd nodeId record response hnode hget
  cases cmd <;> simp only [targetNode, Option.some.injEq, reduceCtorEq] at hnode <;> subst hnode <;>
    simp only [recordAfter, targetNode, reduceIte, assignmentsAfter] at hupdated
  case ActivateNode nodeId serial expires =>
    have hkept : record.state = .Revoked ∨ record.state = .Active → ∀ other stored,
        s.enrollments.get other = some stored →
        recordAfter platform now other (.ActivateNode nodeId serial expires) stored = stored := by
      intro hclosed other stored hstored
      by_cases hother : other = nodeId
      · subst hother
        obtain rfl := Option.some.inj (hget.symm.trans hstored)
        simp only [recordAfter, targetNode, hclosed, reduceIte]
      · exact recordAfter_of_ne platform now other _ stored (by simpa [targetNode] using Ne.symm hother)
    rw [apply, activateNode, withEnrollment_some s nodeId record _ hget]
    split_ifs with hrevoked hactive
    · exact .Rejected _ _ (hkept (.inl hrevoked))
    · exact .Rejected _ _ (hkept (.inr hactive))
    · simp only [hrevoked, hactive, or_self, reduceIte] at hupdated
      exact hupdated _ (.inr rfl)
  all_goals
    simp only [apply, deactivateNode, revokeNode, assignNodeToVCluster, unassignNode,
      moveNodeVCluster, updateNodeLastSeen, updateNodeCert, withEnrollment_some s _ record _ hget]
    exact hupdated _ (.inl rfl)

theorem apply_outcome : Outcome platform now s cmd (apply platform now s cmd) := by
  cases hn : targetNode cmd with
  | some nodeId =>
    cases hget : s.enrollments.get nodeId with
    | some record => exact apply_target_outcome platform now s cmd nodeId record hn hget
    | none =>
      rw [apply_target_none platform now s cmd nodeId hn hget]
      refine .Rejected _ _ fun other record hstored => ?_
      refine recordAfter_of_ne platform now other cmd record ?_
      rw [hn]
      rintro ⟨⟩
      rw [hget] at hstored
      cases hstored
  | none =>
    cases cmd <;> simp only [targetNode, reduceCtorEq] at hn
    case AppendEntry entry =>
      simp only [apply, appendEntry]
      split
      · exact rejected_of_no_target platform now s _ _ rfl
      · exact .Appended entry ‹_›
    case SetOverlay vclusterId overlay =>
      simp only [apply, setOverlay]
      split_ifs
      · exact rejected_of_no_target platform now s _ _ rfl
      · exact rejected_of_no_target platform now s _ _ rfl
      · exact .Overlay vclusterId overlay
    case DecideApproval approvalId approver decision =>
      simp only [apply, decideApproval]
      split
      · rename_i approval hget
        split_ifs with hstatus hself
        · exact rejected_of_no_target platform now s _ _ rfl
        · exact rejected_of_no_target platform now s _ _ rfl
        · exact .Decided approvalId approver decision approval hget (not_not.mp hstatus) hself
      · exact rejected_of_no_target platform now s _ _ rfl
    case RegisterNode enrollment =>
      simp only [apply, registerNode]
      split_ifs with henrolled
      · exact rejected_of_no_target platform now s _ _ rfl
      · split
        · exact rejected_of_no_target platform now s _ _ rfl
        · exact .Registered enrollment (by simpa using henrolled) ‹_›
    case UpdateNodeState nodeId state => exact .NodeState nodeId state
    case SetPolicy vclusterId policy => exact .Policy vclusterId policy
    case RecordOperation operation => exact .Recorded operation
    case AssignNode nodeId vclusterId => exact .Assigned nodeId vclusterId
    case CreateApproval approval => exact .Created approval

theorem apply_entries :
    ((apply platform now s cmd).1.entries = s.entries ∧
      (apply platform now s cmd).1.nextSequence = s.nextSequence) ∨
    ∃ entry, cmd = .AppendEntry entry ∧ entryRejection s entry = none ∧
      (apply platform now s cmd).1.entries =
        s.entries.insert s.nextSequence { entry with sequence := s.nextSequence } ∧
      (apply platform now s cmd).1.nextSequence = s.nextSequence + 1 := by
  have houtcome := apply_outcome platform now s cmd
  generalize apply platform now s cmd = result at houtcome ⊢
  cases houtcome with
  | Appended entry haccepted => exact .inr ⟨entry, rfl, haccepted, rfl, rfl⟩
  | _ => exact .inl ⟨rfl, rfl⟩

theorem apply_appended (sequence : Nat) (h : (apply platform now s cmd).2 = .EntryAppended sequence) :
    ∃ entry, (apply platform now s cmd).1.entries.get sequence = some entry := by
  have houtcome := apply_outcome platform now s cmd
  generalize apply platform now s cmd = result at houtcome h ⊢
  cases houtcome with
  | Appended entry haccepted =>
    obtain rfl := JournalResponse.EntryAppended.inj h
    exact ⟨_, Map.get_insert_self _ _ _⟩
  | Updated _ nodeId record response htarget hget hresponse =>
    rcases hresponse with rfl | rfl <;> cases h
  | _ => cases h

theorem apply_record (nodeId : NodeId) (record : NodeEnrollment)
    (hrecord : s.enrollments.get nodeId = some record) :
    (apply platform now s cmd).1.enrollments.get nodeId =
      some (recordAfter platform now nodeId cmd record) := by
  have houtcome := apply_outcome platform now s cmd
  generalize apply platform now s cmd = result at houtcome ⊢
  cases houtcome with
  | Rejected _ reason hkept =>
    rw [hkept nodeId record hrecord]
    exact hrecord
  | Registered enrollment hnew hfree =>
    have hne : nodeId ≠ enrollment.nodeId := by
      rintro rfl
      rw [hrecord] at hnew
      cases hnew
    exact (Map.get_insert_of_ne _ _ hne).trans hrecord
  | Updated _ other stored response htarget hget hresponse =>
    by_cases hother : nodeId = other
    · subst hother
      obtain rfl := Option.some.inj (hget.symm.trans hrecord)
      exact Map.get_insert_self _ _ _
    · rw [recordAfter_of_ne platform now nodeId cmd record (by simpa [htarget] using Ne.symm hother)]
      exact (Map.get_insert_of_ne _ _ hother).trans hrecord
  | _ => exact hrecord

theorem apply_unenrolled (nodeId : NodeId) (hrecord : s.enrollments.get nodeId = none) :
    (apply platform now s cmd).1.enrollments.get nodeId = none ∨
    ∃ enrollment, cmd = .RegisterNode enrollment ∧ enrollment.nodeId = nodeId ∧
      s.hwIndex.get (hwCanonicalKey platform enrollment.hardwareIdentity) = none ∧
      (apply platform now s cmd).1.enrollments.get nodeId = some enrollment := by
  have houtcome := apply_outcome platform now s cmd
  generalize apply platform now s cmd = result at houtcome ⊢
  cases houtcome with
  | Registered enrollment hnew hfree =>
    by_cases hid : nodeId = enrollment.nodeId
    · exact .inr ⟨enrollment, rfl, hid.symm, hfree, hid ▸ Map.get_insert_self _ _ _⟩
    · exact .inl ((Map.get_insert_of_ne _ _ hid).trans hrecord)
  | Updated _ other stored response htarget hget hresponse =>
    have hne : nodeId ≠ other := by
      rintro rfl
      rw [hrecord] at hget
      cases hget
    exact .inl ((Map.get_insert_of_ne _ _ hne).trans hrecord)
  | _ => exact .inl hrecord

theorem apply_enrolled (nodeId : NodeId) (changed : NodeEnrollment)
    (h : (apply platform now s cmd).1.enrollments.get nodeId = some changed) :
    (∃ record, s.enrollments.get nodeId = some record ∧
      changed = recordAfter platform now nodeId cmd record) ∨
    (cmd = .RegisterNode changed ∧ changed.nodeId = nodeId ∧ s.enrollments.get nodeId = none ∧
      s.hwIndex.get (hwCanonicalKey platform changed.hardwareIdentity) = none) := by
  cases hget : s.enrollments.get nodeId with
  | none =>
    rcases apply_unenrolled platform now s cmd nodeId hget with
      hnone | ⟨added, hcmd, hid, hfree, hadded⟩
    · rw [hnone] at h
      cases h
    · obtain rfl := Option.some.inj (hadded.symm.trans h)
      exact .inr ⟨hcmd, hid, rfl, hfree⟩
  | some record =>
    rw [apply_record platform now s cmd nodeId record hget] at h
    exact .inl ⟨record, rfl, (Option.some.inj h).symm⟩

-- Approvals change in two ways: a new one is stored under its own id, or a pending one is
-- decided by somebody other than its requester.
theorem apply_approval (approvalId : String) :
    (apply platform now s cmd).1.pendingApprovals.get approvalId =
      s.pendingApprovals.get approvalId ∨
    (∃ approval, cmd = .CreateApproval approval ∧ approval.approvalId = approvalId ∧
      (apply platform now s cmd).1.pendingApprovals.get approvalId = some approval) ∨
    ∃ approval approver decision, cmd = .DecideApproval approvalId approver decision ∧
      s.pendingApprovals.get approvalId = some approval ∧ approval.status = .Pending ∧
      approval.requester.principal ≠ approver.principal ∧
      (apply platform now s cmd).1.pendingApprovals.get approvalId =
        some { approval with status := decision, approver := some approver } := by
  have houtcome := apply_outcome platform now s cmd
  generalize apply platform now s cmd = result at houtcome ⊢
  cases houtcome with
  | Created approval =>
    by_cases hid : approvalId = approval.approvalId
    · exact .inr (.inl ⟨approval, rfl, hid.symm, hid ▸ Map.get_insert_self _ _ _⟩)
    · exact .inl (Map.get_insert_of_ne _ _ hid)
  | Decided other approver decision approval hget hpending hother =>
    by_cases hid : approvalId = other
    · subst hid
      exact .inr (.inr ⟨approval, approver, decision, rfl, hget, hpending, hother,
        Map.get_insert_self _ _ _⟩)
    · exact .inl (Map.get_insert_of_ne _ _ hid)
  | _ => exact .inl rfl

end Applied

theorem replay_cons (platform : Platform) (s : JournalState) (applied : Applied)
    (rest : List Applied) :
    replay platform s (applied :: rest) =
      ((replay platform (apply platform applied.now s applied.command).1 rest).1,
        (apply platform applied.now s applied.command).2 ::
          (replay platform (apply platform applied.now s applied.command).1 rest).2) := rfl

theorem replay_run (platform : Platform) (s : JournalState) (commands : List Applied) :
    Run (journalNext platform) Unrestricted s commands (replay platform s commands).1 := by
  induction commands generalizing s with
  | nil => exact .nil s
  | cons applied rest ih => exact .cons trivial rfl (ih _)

end Pact.Journal
