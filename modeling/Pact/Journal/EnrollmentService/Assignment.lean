import Pact.Journal.EnrollmentService
import Pact.Journal.State.Lemmas

namespace Pact.Journal.EnrollmentService

open Pact.Library Pact.Common

def requireOpsFor (config : Config) (authorization : Option MetadataValue)
    (vclusterId : VClusterId) : Except Status Identity :=
  match authenticate config authorization with
  | .error status => .error status
  | .ok identity =>
    if identity.role ≠ "pact-platform-admin" ∧ identity.role ≠ "pact-ops-" ++ vclusterId then
      .error ⟨.PermissionDenied, "requires platform-admin or ops role"⟩
    else .ok identity

-- How the three calls below turn the response of the state machine into their answer.
def answerOk {Answer : Type} (answer : Answer) : JournalResponse → Except Status Answer
  | .Ok => .ok answer
  | .ValidationError reason => .error ⟨.FailedPrecondition, reason⟩
  | _ => .error ⟨.Internal, "unexpected response"⟩

def assignNode (config : Config) (request : Request Proto.AssignNodeRequest) :
    Handler Proto.AssignNodeResponse :=
  match requireOpsFor config request.authorization request.body.vclusterId with
  | .error status => .Return (.error status)
  | .ok _ =>
    .Write (.AssignNodeToVCluster request.body.nodeId request.body.vclusterId)
      (answerOk ⟨request.body.nodeId, request.body.vclusterId⟩)

def unassignNode (config : Config) (request : Request Proto.UnassignNodeRequest) :
    Handler Proto.UnassignNodeResponse :=
  match authenticate config request.authorization with
  | .error status => .Return (.error status)
  | .ok _ => .Write (.UnassignNode request.body.nodeId) (answerOk ⟨request.body.nodeId⟩)

-- The vCluster the node is in now, which is what move_node reports as the one it left.
def moveNode (config : Config) (s : JournalState) (request : Request Proto.MoveNodeRequest) :
    Handler Proto.MoveNodeResponse :=
  match authenticate config request.authorization with
  | .error status => .Return (.error status)
  | .ok _ =>
    let fromVclusterId :=
      ((s.enrollments.get request.body.nodeId).bind NodeEnrollment.vclusterId).getD ""
    .Write (.MoveNodeVCluster request.body.nodeId fromVclusterId request.body.toVclusterId)
      (answerOk ⟨request.body.nodeId, fromVclusterId, request.body.toVclusterId⟩)

inductive AssignmentCall
  | Assign (request : Request Proto.AssignNodeRequest)
  | Unassign (request : Request Proto.UnassignNodeRequest)
  | Move (request : Request Proto.MoveNodeRequest)
  deriving DecidableEq

inductive AssignmentAnswer
  | Assigned (response : Proto.AssignNodeResponse)
  | Unassigned (response : Proto.UnassignNodeResponse)
  | Moved (response : Proto.MoveNodeResponse)
  deriving DecidableEq

def AssignmentCall.handler (config : Config) (s : JournalState) :
    AssignmentCall → Handler AssignmentAnswer
  | .Assign request => (assignNode config request).map .Assigned
  | .Unassign request => (unassignNode config request).map .Unassigned
  | .Move request => (moveNode config s request).map .Moved

-- A whole call: `seen` is the journal it reads and `later` the one its write finds.
def AssignmentCall.finish (platform : Platform) (config : Config) (consensus : Consensus)
    (seen later : JournalState) (call : AssignmentCall) :
    JournalState × Except Status AssignmentAnswer :=
  (call.handler config seen).finish platform consensus later

def AssignmentCall.authorization : AssignmentCall → Option MetadataValue
  | .Assign request => request.authorization
  | .Unassign request => request.authorization
  | .Move request => request.authorization

def AssignmentCall.nodeId : AssignmentCall → NodeId
  | .Assign request => request.body.nodeId
  | .Unassign request => request.body.nodeId
  | .Move request => request.body.nodeId

def AssignmentCall.joins : AssignmentCall → Option VClusterId
  | .Assign request => some request.body.vclusterId
  | .Unassign _ => none
  | .Move request => some request.body.toVclusterId

def AssignmentCall.command (s : JournalState) : AssignmentCall → JournalCommand
  | .Assign request => .AssignNodeToVCluster request.body.nodeId request.body.vclusterId
  | .Unassign request => .UnassignNode request.body.nodeId
  | .Move request =>
    .MoveNodeVCluster request.body.nodeId
      (((s.enrollments.get request.body.nodeId).bind NodeEnrollment.vclusterId).getD "")
      request.body.toVclusterId

section Authority

variable (platform : Platform) (config : Config) (consensus : Consensus)

def membership (s : JournalState) (nodeId : NodeId) : Option VClusterId :=
  (s.enrollments.get nodeId).bind NodeEnrollment.vclusterId

-- Some node is in the vCluster before the step and not after it, or the other way round.
def ChangesMembers (before after : JournalState) (vclusterId : VClusterId) : Prop :=
  ∃ nodeId, ¬(membership before nodeId = some vclusterId ↔
    membership after nodeId = some vclusterId)

def Governs (caller : Identity) (vclusterId : VClusterId) : Prop :=
  caller.role = "pact-platform-admin" ∨ caller.role = "pact-ops-" ++ vclusterId

-- The caller of a call that succeeds governs every vCluster whose members it changes.
def Authorized (seen later : JournalState) (call : AssignmentCall) : Prop :=
  ∀ answer, (call.finish platform config consensus seen later).2 = .ok answer →
    ∃ caller, authenticate config call.authorization = .ok caller ∧
      ∀ vclusterId,
        ChangesMembers later (call.finish platform config consensus seen later).1 vclusterId →
        Governs caller vclusterId

-- What the checks of a call ask of its caller.
def Admits (call : AssignmentCall) (caller : Identity) : Prop :=
  authenticate config call.authorization = .ok caller ∧
    match call with
    | .Assign request => Governs caller request.body.vclusterId
    | .Unassign _ => True
    | .Move _ => True

-- The caller is entitled to what becomes of a node that is in this vCluster.
def Covered (caller : Identity) (current : Option VClusterId) : AssignmentCall → Prop
  | .Assign request =>
    caller.role = "pact-platform-admin" ∨ current = none ∨
      current = some request.body.vclusterId
  | .Unassign _ => ∀ vclusterId, current = some vclusterId → Governs caller vclusterId
  | .Move request =>
    current = some request.body.toVclusterId ∨
      (Governs caller request.body.toVclusterId ∧
        ∀ vclusterId, current = some vclusterId → Governs caller vclusterId)

theorem requireOpsFor_ok_iff (authorization : Option MetadataValue) (vclusterId : VClusterId)
    (caller : Identity) :
    requireOpsFor config authorization vclusterId = .ok caller ↔
      authenticate config authorization = .ok caller ∧ Governs caller vclusterId := by
  cases hauth : authenticate config authorization with
  | error status => simp [requireOpsFor, hauth]
  | ok identity =>
    by_cases hrole : Governs identity vclusterId
    · have hpass : ¬(identity.role ≠ "pact-platform-admin" ∧
          identity.role ≠ "pact-ops-" ++ vclusterId) := by
        rintro ⟨hadmin, hops⟩
        exact hrole.elim hadmin hops
      simp only [requireOpsFor, hauth, if_neg hpass, Except.ok.injEq]
      constructor
      · rintro rfl
        exact ⟨rfl, hrole⟩
      · exact fun h => h.1
    · have hdenied : identity.role ≠ "pact-platform-admin" ∧
          identity.role ≠ "pact-ops-" ++ vclusterId := not_or.mp hrole
      simp only [requireOpsFor, hauth, if_pos hdenied, reduceCtorEq, Except.ok.injEq, false_iff]
      rintro ⟨rfl, hgoverns⟩
      exact hrole hgoverns

theorem answerOk_map {Answer Other : Type} (f : Answer → Other) (answer : Answer)
    (response : JournalResponse) : (answerOk answer response).map f = answerOk (f answer) response := by
  cases response <;> rfl

theorem map_write_answerOk {Answer Other : Type} (f : Answer → Other) (cmd : JournalCommand)
    (answer : Answer) :
    (Handler.Write cmd (answerOk answer)).map f = .Write cmd (answerOk (f answer)) := by
  simp only [Handler.map, answerOk_map]

theorem handler_of_admits (s : JournalState) (call : AssignmentCall) (caller : Identity)
    (h : Admits config call caller) :
    ∃ answer, call.handler config s = .Write (call.command s) (answerOk answer) := by
  cases call with
  | Assign request =>
    have hcaller := (requireOpsFor_ok_iff config request.authorization _ caller).mpr h
    simp only [AssignmentCall.handler, assignNode, hcaller, map_write_answerOk]
    exact ⟨_, rfl⟩
  | Unassign request =>
    have hcaller : authenticate config request.authorization = .ok caller := h.1
    simp only [AssignmentCall.handler, unassignNode, hcaller, map_write_answerOk]
    exact ⟨_, rfl⟩
  | Move request =>
    have hcaller : authenticate config request.authorization = .ok caller := h.1
    simp only [AssignmentCall.handler, moveNode, hcaller, map_write_answerOk]
    exact ⟨_, rfl⟩

theorem handler_of_not_admits (s : JournalState) (call : AssignmentCall)
    (h : ∀ caller, ¬Admits config call caller) :
    ∃ status, call.handler config s = .Return (.error status) := by
  cases call with
  | Assign request =>
    cases hcaller : requireOpsFor config request.authorization request.body.vclusterId with
    | error status => exact ⟨status, by simp only [AssignmentCall.handler, assignNode, hcaller]; rfl⟩
    | ok caller => exact absurd ((requireOpsFor_ok_iff config _ _ caller).mp hcaller) (h caller)
  | Unassign request =>
    cases hcaller : authenticate config request.authorization with
    | error status =>
      exact ⟨status, by simp only [AssignmentCall.handler, unassignNode, hcaller]; rfl⟩
    | ok caller => exact absurd ⟨hcaller, trivial⟩ (h caller)
  | Move request =>
    cases hcaller : authenticate config request.authorization with
    | error status => exact ⟨status, by simp only [AssignmentCall.handler, moveNode, hcaller]; rfl⟩
    | ok caller => exact absurd ⟨hcaller, trivial⟩ (h caller)

theorem command_target (s : JournalState) (call : AssignmentCall) :
    targetNode (call.command s) = some call.nodeId := by
  cases call <;> rfl

theorem command_applied (seen later : JournalState) (call : AssignmentCall) (now : DateTime)
    (record : NodeEnrollment) (hget : later.enrollments.get call.nodeId = some record) :
    (apply platform now later (call.command seen)).2 = .Ok ∧
    (apply platform now later (call.command seen)).1.enrollments =
      later.enrollments.insert call.nodeId { record with vclusterId := call.joins } := by
  cases call with
  | Assign request =>
    simp only [AssignmentCall.nodeId] at hget
    simp only [AssignmentCall.command, apply, assignNodeToVCluster,
      withEnrollment_some _ _ _ _ hget]
    exact ⟨trivial, rfl⟩
  | Unassign request =>
    simp only [AssignmentCall.nodeId] at hget
    simp only [AssignmentCall.command, apply, Journal.unassignNode,
      withEnrollment_some _ _ _ _ hget]
    exact ⟨trivial, rfl⟩
  | Move request =>
    simp only [AssignmentCall.nodeId] at hget
    simp only [AssignmentCall.command, apply, moveNodeVCluster, withEnrollment_some _ _ _ _ hget]
    exact ⟨trivial, rfl⟩

theorem finish_ok (seen later : JournalState) (call : AssignmentCall) (answer : AssignmentAnswer)
    (h : (call.finish platform config consensus seen later).2 = .ok answer) :
    ∃ caller now record, Admits config call caller ∧ consensus = .Committed now ∧
      later.enrollments.get call.nodeId = some record := by
  by_cases hadmits : ∃ caller, Admits config call caller
  · obtain ⟨caller, hcaller⟩ := hadmits
    obtain ⟨given, hhandler⟩ := handler_of_admits config seen call caller hcaller
    rw [AssignmentCall.finish, hhandler] at h
    cases consensus with
    | Failed error applied => simp [Handler.finish, clientWrite] at h
    | Committed now =>
      cases hget : later.enrollments.get call.nodeId with
      | some record => exact ⟨caller, now, record, hcaller, rfl, rfl⟩
      | none =>
        have hnone := apply_target_none platform now later _ _ (command_target seen call) hget
        simp [Handler.finish, clientWrite, hnone, answerOk] at h
  · obtain ⟨status, hhandler⟩ := handler_of_not_admits config seen call (not_exists.mp hadmits)
    rw [AssignmentCall.finish, hhandler] at h
    cases h

theorem finish_admitted (seen later : JournalState) (call : AssignmentCall) (caller : Identity)
    (now : DateTime) (record : NodeEnrollment) (hadmits : Admits config call caller)
    (hget : later.enrollments.get call.nodeId = some record) :
    (∃ answer, (call.finish platform config (.Committed now) seen later).2 = .ok answer) ∧
    (call.finish platform config (.Committed now) seen later).1.enrollments =
      later.enrollments.insert call.nodeId { record with vclusterId := call.joins } := by
  obtain ⟨given, hhandler⟩ := handler_of_admits config seen call caller hadmits
  obtain ⟨hresponse, henrollments⟩ := command_applied platform seen later call now record hget
  simp only [AssignmentCall.finish, hhandler, Handler.finish, clientWrite, hresponse, henrollments]
  exact ⟨⟨given, rfl⟩, trivial⟩

theorem changesMembers_insert_iff (before after : JournalState) (nodeId : NodeId)
    (record : NodeEnrollment) (joins : Option VClusterId) (vclusterId : VClusterId)
    (hget : before.enrollments.get nodeId = some record)
    (hafter : after.enrollments =
      before.enrollments.insert nodeId { record with vclusterId := joins }) :
    ChangesMembers before after vclusterId ↔
      ¬(record.vclusterId = some vclusterId ↔ joins = some vclusterId) := by
  have hself : membership before nodeId = record.vclusterId ∧ membership after nodeId = joins := by
    simp [membership, hget, hafter]
  constructor
  · rintro ⟨other, hchanged⟩
    by_cases hother : other = nodeId
    · subst hother
      rwa [hself.1, hself.2] at hchanged
    · rw [membership, membership, hafter, Map.get_insert_of_ne _ _ hother] at hchanged
      exact absurd Iff.rfl hchanged
  · intro hchanged
    refine ⟨nodeId, ?_⟩
    rwa [hself.1, hself.2]

theorem governs_other (caller : Identity) (vclusterId other : VClusterId)
    (h : caller.role = "pact-ops-" ++ vclusterId) (hother : Governs caller other) :
    other = vclusterId := by
  rcases hother with hadmin | hops
  · exact absurd (h.symm.trans hadmin) (append_ne "pact-ops-" vclusterId _ (by decide))
  · exact (String.append_right_inj _).mp (hops.symm.trans h)

-- The vClusters a node leaves and joins are governed by the caller exactly where they are covered.
theorem governs_changed_iff (call : AssignmentCall) (caller : Identity)
    (current : Option VClusterId) (hadmits : Admits config call caller) :
    (∀ vclusterId, ¬(current = some vclusterId ↔ call.joins = some vclusterId) →
      Governs caller vclusterId) ↔ Covered caller current call := by
  cases call with
  | Assign request =>
    rcases hadmits.2 with hadmin | hops
    · exact ⟨fun _ => .inl hadmin, fun _ _ _ => .inl hadmin⟩
    · constructor
      · intro hall
        refine .inr ?_
        cases current with
        | none => exact .inl rfl
        | some left =>
          by_cases hsame : left = request.body.vclusterId
          · exact .inr (congrArg some hsame)
          · have hgoverns := hall left (by simpa [AssignmentCall.joins] using Ne.symm hsame)
            exact absurd (governs_other caller _ left hops hgoverns) hsame
      · rintro (hadmin | rfl | rfl) vclusterId hchanged
        · exact .inl hadmin
        · have hjoined : request.body.vclusterId = vclusterId := by
            simpa [AssignmentCall.joins] using hchanged
          exact .inr (hjoined ▸ hops)
        · exact absurd Iff.rfl hchanged
  | Unassign request => simp [AssignmentCall.joins, Covered]
  | Move request =>
    constructor
    · intro hall
      by_cases hstays : current = some request.body.toVclusterId
      · exact .inl hstays
      · refine .inr ⟨hall _ (by simpa [AssignmentCall.joins] using hstays), ?_⟩
        rintro left rfl
        refine hall left ?_
        simpa [AssignmentCall.joins, eq_comm] using hstays
    · rintro (rfl | ⟨hjoined, hleft⟩) vclusterId hchanged
      · exact absurd Iff.rfl hchanged
      · by_cases hcurrent : current = some vclusterId
        · exact hleft vclusterId hcurrent
        · have hjoins : request.body.toVclusterId = vclusterId := by
            simpa [AssignmentCall.joins, hcurrent] using hchanged
          exact hjoins ▸ hjoined

-- A call keeps to the authority of its caller exactly where its write, if it comes through, finds
-- the node in a vCluster that covers the caller. Nothing of this is checked for a node that leaves
-- a vCluster, and nothing at all in unassign_node and move_node.
theorem assignment_authorized_iff (seen later : JournalState) (call : AssignmentCall) :
    Authorized platform config consensus seen later call ↔
      ∀ caller now record, Admits config call caller → consensus = .Committed now →
        later.enrollments.get call.nodeId = some record →
        Covered caller record.vclusterId call := by
  constructor
  · rintro hauthorized caller now record hadmits rfl hget
    obtain ⟨⟨answer, hanswer⟩, hafter⟩ :=
      finish_admitted platform config seen later call caller now record hadmits hget
    obtain ⟨validated, hvalidated, hgoverns⟩ := hauthorized answer hanswer
    obtain rfl := Except.ok.inj (hadmits.1.symm.trans hvalidated)
    rw [← governs_changed_iff config call caller record.vclusterId hadmits]
    intro vclusterId hchanged
    refine hgoverns vclusterId ?_
    rwa [changesMembers_insert_iff later _ call.nodeId record call.joins vclusterId hget hafter]
  · intro hcovered answer hanswer
    obtain ⟨caller, now, record, hadmits, rfl, hget⟩ :=
      finish_ok platform config consensus seen later call answer hanswer
    obtain ⟨_, hafter⟩ :=
      finish_admitted platform config seen later call caller now record hadmits hget
    refine ⟨caller, hadmits.1, ?_⟩
    intro vclusterId hchanged
    rw [changesMembers_insert_iff later _ call.nodeId record call.joins vclusterId hget hafter]
      at hchanged
    exact (governs_changed_iff config call caller record.vclusterId hadmits).mpr
      (hcovered caller now record hadmits rfl hget) vclusterId hchanged

end Authority

def devViewerConfig : Config where
  domainId := "default"
  validate token :=
    if token = "viewer" then .ok ⟨"eve", .Human, "pact-viewer-dev"⟩ else .error "unknown token"

def assignedJournal : JournalState :=
  (replay .ascii .default
    [⟨0, .RegisterNode (.sample "node-1" "aa:bb")⟩, ⟨0, .AssignNodeToVCluster "node-1" "prod"⟩]).1

def viewerMoves : AssignmentCall := .Move ⟨some (.Text "Bearer viewer"), ⟨"node-1", "dev"⟩⟩

-- A viewer moves a node out of a vCluster that has nothing to do with their role.
theorem viewer_moves_node :
    (viewerMoves.finish .ascii devViewerConfig (.Committed 0) assignedJournal assignedJournal).2 =
      .ok (.Moved ⟨"node-1", "prod", "dev"⟩) ∧
    ¬Authorized .ascii devViewerConfig (.Committed 0) assignedJournal assignedJournal viewerMoves := by
  have hmoved :
      (viewerMoves.finish .ascii devViewerConfig (.Committed 0) assignedJournal assignedJournal).2 =
        .ok (.Moved ⟨"node-1", "prod", "dev"⟩) := by decide +kernel
  refine ⟨hmoved, ?_⟩
  intro hauthorized
  obtain ⟨caller, hcaller, hgoverns⟩ := hauthorized _ hmoved
  have heve : caller = ⟨"eve", .Human, "pact-viewer-dev"⟩ := by
    have hvalid : authenticate devViewerConfig viewerMoves.authorization =
        .ok ⟨"eve", .Human, "pact-viewer-dev"⟩ := by decide +kernel
    exact (Except.ok.inj (hvalid.symm.trans hcaller)).symm
  have hleft : ChangesMembers assignedJournal
      (viewerMoves.finish .ascii devViewerConfig (.Committed 0) assignedJournal assignedJournal).1
      "prod" := ⟨"node-1", by decide +kernel⟩
  rcases hgoverns "prod" hleft with hadmin | hops
  · rw [heve] at hadmin
    exact absurd hadmin (by decide)
  · rw [heve] at hops
    exact absurd hops (by decide)

end Pact.Journal.EnrollmentService
