import Pact.Journal.State.Lemmas
import Pact.Library.Locality

namespace Pact.Journal

open Pact.Library Pact.Common

-- The parts of the journal that commands read and write independently of each other.
inductive Cell
  | Entries
  | NodeState (nodeId : NodeId)
  | Policy (vclusterId : VClusterId)
  | Overlay (vclusterId : VClusterId)
  | Audit
  | Assignment (nodeId : NodeId)
  | Approval (approvalId : String)
  | Enrollment (nodeId : NodeId)
  | Hardware (key : String)
  | RevokedSerials
  deriving DecidableEq

inductive Content
  | Entries (entries : Map Nat ConfigEntry) (nextSequence : Nat)
  | NodeState (state : Option ConfigState)
  | Policy (policy : Option VClusterPolicy)
  | Overlay (overlay : Option BootOverlay)
  | Audit (log : List AdminOperation)
  | Assignment (vclusterId : Option VClusterId)
  | Approval (approval : Option PendingApproval)
  | Enrollment (enrollment : Option NodeEnrollment)
  | Hardware (nodeId : Option NodeId)
  | RevokedSerials (serials : Finset String)

def JournalState.content (s : JournalState) : Cell → Content
  | .Entries => .Entries s.entries s.nextSequence
  | .NodeState nodeId => .NodeState (s.nodeStates.get nodeId)
  | .Policy vclusterId => .Policy (s.policies.get vclusterId)
  | .Overlay vclusterId => .Overlay (s.overlays.get vclusterId)
  | .Audit => .Audit s.auditLog
  | .Assignment nodeId => .Assignment (s.nodeAssignments.get nodeId)
  | .Approval approvalId => .Approval (s.pendingApprovals.get approvalId)
  | .Enrollment nodeId => .Enrollment (s.enrollments.get nodeId)
  | .Hardware key => .Hardware (s.hwIndex.get key)
  | .RevokedSerials => .RevokedSerials s.revokedSerials

-- A registration is about a node and about its hardware; a change of vCluster is about the
-- record of the node and about the table of assignments.
def cellsOf (platform : Platform) : JournalCommand → List Cell
  | .AppendEntry _ => [.Entries]
  | .UpdateNodeState nodeId _ => [.NodeState nodeId]
  | .SetPolicy vclusterId _ => [.Policy vclusterId]
  | .SetOverlay vclusterId _ => [.Overlay vclusterId]
  | .RecordOperation _ => [.Audit]
  | .AssignNode nodeId _ => [.Assignment nodeId]
  | .CreateApproval approval => [.Approval approval.approvalId]
  | .DecideApproval approvalId _ _ => [.Approval approvalId]
  | .RegisterNode enrollment =>
    [.Enrollment enrollment.nodeId, .Hardware (hwCanonicalKey platform enrollment.hardwareIdentity)]
  | .ActivateNode nodeId _ _ => [.Enrollment nodeId]
  | .DeactivateNode nodeId => [.Enrollment nodeId]
  | .RevokeNode nodeId => [.Enrollment nodeId]
  | .AssignNodeToVCluster nodeId _ => [.Enrollment nodeId, .Assignment nodeId]
  | .UnassignNode nodeId => [.Enrollment nodeId, .Assignment nodeId]
  | .MoveNodeVCluster nodeId _ _ => [.Enrollment nodeId, .Assignment nodeId]
  | .UpdateNodeLastSeen nodeId _ => [.Enrollment nodeId]
  | .UpdateNodeCert nodeId _ _ => [.Enrollment nodeId]

def touches (platform : Platform) (cell : Cell) (applied : Applied) : Bool :=
  cell ∈ cellsOf platform applied.command

def applyStep (platform : Platform) (s : JournalState) (applied : Applied) :
    JournalState × JournalResponse :=
  apply platform applied.now s applied.command

section Cells

variable (platform : Platform) (now : DateTime) (s other : JournalState) (cmd : JournalCommand)

theorem content_ext (h : ∀ cell, s.content cell = other.content cell) : s = other := by
  have hentries := h .Entries
  have haudit := h .Audit
  have hrevoked := h .RevokedSerials
  simp only [JournalState.content, Content.Entries.injEq, Content.Audit.injEq,
    Content.RevokedSerials.injEq] at hentries haudit hrevoked
  have hnodes := Map.ext fun nodeId => Content.NodeState.inj (h (.NodeState nodeId))
  have hpolicies := Map.ext fun vclusterId => Content.Policy.inj (h (.Policy vclusterId))
  have hoverlays := Map.ext fun vclusterId => Content.Overlay.inj (h (.Overlay vclusterId))
  have hassignments := Map.ext fun nodeId => Content.Assignment.inj (h (.Assignment nodeId))
  have happrovals := Map.ext fun approvalId => Content.Approval.inj (h (.Approval approvalId))
  have henrollments := Map.ext fun nodeId => Content.Enrollment.inj (h (.Enrollment nodeId))
  have hhardware := Map.ext fun key => Content.Hardware.inj (h (.Hardware key))
  cases s
  cases other
  simp_all

theorem assignmentsAfter_get (assignments : Map NodeId VClusterId) (nodeId : NodeId)
    (h : Cell.Assignment nodeId ∉ cellsOf platform cmd) :
    (assignmentsAfter assignments cmd).get nodeId = assignments.get nodeId := by
  cases cmd <;> simp_all [assignmentsAfter, cellsOf, Map.get_insert_of_ne, Map.get_erase, eq_comm]

theorem enrollment_mem_cellsOf {nodeId : NodeId} (h : targetNode cmd = some nodeId) :
    Cell.Enrollment nodeId ∈ cellsOf platform cmd := by
  cases cmd <;> simp_all [targetNode, cellsOf]

theorem apply_frame (cell : Cell) (h : cell ∉ cellsOf platform cmd) :
    (apply platform now s cmd).1.content cell = s.content cell := by
  have houtcome := apply_outcome platform now s cmd
  generalize apply platform now s cmd = result at houtcome ⊢
  cases houtcome with
  | Rejected => rfl
  | Updated cmd nodeId record response htarget hget hresponse =>
    have henrollment := enrollment_mem_cellsOf platform cmd htarget
    cases cell with
    | Enrollment other =>
      have hne : nodeId ≠ other := by
        rintro rfl
        exact h henrollment
      exact congrArg Content.Enrollment (Map.get_insert_of_ne _ _ hne.symm)
    | Assignment other =>
      exact congrArg Content.Assignment (assignmentsAfter_get platform cmd _ other h)
    | _ => rfl
  | _ =>
    cases cell <;> simp_all [JournalState.content, cellsOf, Map.get_insert_of_ne, eq_comm]

-- What a command answers and leaves in its own cells depends on those cells only.
def Agrees (cmd : JournalCommand) (result reference : JournalState × JournalResponse) : Prop :=
  result.2 = reference.2 ∧
    ∀ cell ∈ cellsOf platform cmd, result.1.content cell = reference.1.content cell

theorem appendEntry_agrees (entry : ConfigEntry) (hentries : s.entries = other.entries)
    (hnext : s.nextSequence = other.nextSequence) :
    Agrees platform (.AppendEntry entry) (appendEntry s entry) (appendEntry other entry) := by
  have hrejection : entryRejection s entry = entryRejection other entry := by
    simp [entryRejection, hnext]
  simp only [appendEntry, hrejection]
  split
  · simp [Agrees, cellsOf, JournalState.content, hentries, hnext]
  · simp [Agrees, cellsOf, JournalState.content, hentries, hnext]

theorem setOverlay_agrees (vclusterId : VClusterId) (overlay : BootOverlay)
    (h : s.overlays.get vclusterId = other.overlays.get vclusterId) :
    Agrees platform (.SetOverlay vclusterId overlay) (setOverlay platform s vclusterId overlay)
      (setOverlay platform other vclusterId overlay) := by
  simp only [setOverlay]
  split_ifs <;> simp [Agrees, cellsOf, JournalState.content, h]

theorem decideApproval_agrees (approvalId : String) (approver : Identity)
    (decision : ApprovalStatus)
    (h : s.pendingApprovals.get approvalId = other.pendingApprovals.get approvalId) :
    Agrees platform (.DecideApproval approvalId approver decision)
      (decideApproval s approvalId approver decision)
      (decideApproval other approvalId approver decision) := by
  simp only [decideApproval, h]
  split
  · split_ifs <;> simp [Agrees, cellsOf, JournalState.content, h]
  · simp [Agrees, cellsOf, JournalState.content, h]

theorem registerNode_agrees (enrollment : NodeEnrollment)
    (hnode : s.enrollments.get enrollment.nodeId = other.enrollments.get enrollment.nodeId)
    (hkey : s.hwIndex.get (hwCanonicalKey platform enrollment.hardwareIdentity) =
      other.hwIndex.get (hwCanonicalKey platform enrollment.hardwareIdentity)) :
    Agrees platform (.RegisterNode enrollment) (registerNode platform s enrollment)
      (registerNode platform other enrollment) := by
  simp only [registerNode, hnode, hkey]
  split_ifs
  · simp [Agrees, cellsOf, JournalState.content, hnode, hkey]
  · split <;> simp [Agrees, cellsOf, JournalState.content, hnode, hkey]

theorem target_agrees {nodeId : NodeId} (htarget : targetNode cmd = some nodeId)
    (h : ∀ cell ∈ cellsOf platform cmd, s.content cell = other.content cell) :
    Agrees platform cmd (apply platform now s cmd) (apply platform now other cmd) := by
  have hnode : s.enrollments.get nodeId = other.enrollments.get nodeId :=
    Content.Enrollment.inj (h _ (enrollment_mem_cellsOf platform cmd htarget))
  cases hget : other.enrollments.get nodeId with
  | none =>
    rw [apply_target_none platform now s cmd nodeId htarget (hnode.trans hget),
      apply_target_none platform now other cmd nodeId htarget hget]
    exact ⟨rfl, h⟩
  | some record =>
    have hmine := hnode.trans hget
    cases cmd <;> simp only [targetNode, Option.some.injEq, reduceCtorEq] at htarget <;>
      subst htarget <;>
      simp only [apply, activateNode, deactivateNode, revokeNode, assignNodeToVCluster,
        unassignNode, moveNodeVCluster, updateNodeLastSeen, updateNodeCert,
        withEnrollment_some s _ record _ hmine, withEnrollment_some other _ record _ hget]
    case ActivateNode nodeId serial expires =>
      split_ifs <;> simp [Agrees, cellsOf, JournalState.content, JournalState.putEnrollment, hnode]
    all_goals
      simp [Agrees, cellsOf, JournalState.content, JournalState.putEnrollment, Map.get_erase]

theorem apply_agrees (h : ∀ cell ∈ cellsOf platform cmd, s.content cell = other.content cell) :
    Agrees platform cmd (apply platform now s cmd) (apply platform now other cmd) := by
  cases htarget : targetNode cmd with
  | some nodeId => exact target_agrees platform now s other cmd htarget h
  | none =>
    cases cmd <;> simp only [targetNode, reduceCtorEq] at htarget <;>
      simp only [cellsOf, List.forall_mem_cons, List.mem_singleton, forall_eq,
        JournalState.content, Content.Entries.injEq,
        Content.NodeState.injEq, Content.Policy.injEq, Content.Overlay.injEq, Content.Audit.injEq,
        Content.Assignment.injEq, Content.Approval.injEq, Content.Enrollment.injEq,
        Content.Hardware.injEq] at h
    case AppendEntry entry => exact appendEntry_agrees platform s other entry h.1 h.2
    case SetOverlay vclusterId overlay =>
      exact setOverlay_agrees platform s other vclusterId overlay h
    case DecideApproval approvalId approver decision =>
      exact decideApproval_agrees platform s other approvalId approver decision h
    case RegisterNode enrollment =>
      exact registerNode_agrees platform s other enrollment h.1 h.2
    case RecordOperation operation =>
      simp [Agrees, cellsOf, apply, recordOperation, JournalState.content, h]
    all_goals simp [Agrees, cellsOf, apply, JournalState.content]

end Cells

theorem applyStep_local (platform : Platform) :
    Local (applyStep platform) (touches platform) JournalState.content where
  ext s other h := content_ext s other h
  frame s applied cell h :=
    apply_frame platform applied.now s applied.command cell (of_decide_eq_false h)
  depends s other applied h := by
    obtain ⟨hanswer, hcells⟩ := apply_agrees platform applied.now s other applied.command
      fun cell hcell => h cell (decide_eq_true hcell)
    exact ⟨hanswer, fun cell hcell => hcells cell (of_decide_eq_true hcell)⟩

theorem exists_touches (platform : Platform) (applied : Applied) :
    ∃ cell, touches platform cell applied = true := by
  have hcells : cellsOf platform applied.command ≠ [] := by
    cases applied.command <;> simp [cellsOf]
  obtain ⟨cell, hcell⟩ := List.exists_mem_of_ne_nil _ hcells
  exact ⟨cell, decide_eq_true hcell⟩

theorem replay_eq (platform : Platform) (s : JournalState) (commands : List Applied) :
    (replay platform s commands).1 = finalState (applyStep platform) s commands ∧
      commands.zip (replay platform s commands).2 = answers (applyStep platform) s commands := by
  induction commands generalizing s with
  | nil => exact ⟨rfl, rfl⟩
  | cons applied rest ih =>
    obtain ⟨hfinal, hanswers⟩ := ih (apply platform applied.now s applied.command).1
    rw [replay_cons]
    exact ⟨hfinal, congrArg _ hanswers⟩

-- Two logs in which every part of the journal sees the same commands in the same order lead to
-- the same journal and answer every command alike, however the two mix commands about different
-- parts.
theorem replay_determined_by_cells (platform : Platform) (s : JournalState)
    (commands others : List Applied)
    (h : ∀ cell, commands.filter (touches platform cell) = others.filter (touches platform cell)) :
    (replay platform s commands).1 = (replay platform s others).1 ∧
      ∀ cell, answersAt (touches platform) cell (commands.zip (replay platform s commands).2) =
        answersAt (touches platform) cell (others.zip (replay platform s others).2) := by
  obtain ⟨hfinal, hanswers⟩ := replay_eq platform s commands
  obtain ⟨hotherFinal, hotherAnswers⟩ := replay_eq platform s others
  rw [hfinal, hanswers, hotherFinal, hotherAnswers]
  exact (applyStep_local platform).determined (exists_touches platform) s commands others h

def policyChange : Applied := ⟨0, .SetPolicy "ml" .default⟩

def stateChange (state : ConfigState) : Applied := ⟨0, .UpdateNodeState "n1" state⟩

def changes : List Applied := [stateChange .Drifted, policyChange, stateChange .Committed]

def swappedChanges : List Applied := [policyChange, stateChange .Drifted, stateChange .Committed]

theorem replay_determined_by_cells_swapped :
    (replay .ascii .default changes).2 = [.Ok, .Ok, .Ok] ∧
      (replay .ascii .default changes).1 = (replay .ascii .default swappedChanges).1 ∧
      ∀ cell, answersAt (touches .ascii) cell (changes.zip (replay .ascii .default changes).2) =
        answersAt (touches .ascii) cell
          (swappedChanges.zip (replay .ascii .default swappedChanges).2) := by
  refine ⟨by decide +kernel, replay_determined_by_cells .ascii .default _ _ fun cell => ?_⟩
  by_cases hpolicy : cell = .Policy "ml"
  · subst hpolicy
    rfl
  · have hnot : touches .ascii cell policyChange = false := by
      simp [touches, cellsOf, policyChange, hpolicy]
    simp [changes, swappedChanges, List.filter_cons, hnot]

end Pact.Journal
