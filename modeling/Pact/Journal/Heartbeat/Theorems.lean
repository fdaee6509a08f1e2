import Pact.Journal.Heartbeat
import Pact.Journal.State.Lemmas

namespace Pact.Journal

open Pact.Library Pact.Common

-- A step that takes a node out of the Revoked state.
def Deactivates (nodeId : NodeId) (m : Monitored) : MonitorStep → Prop
  | .Command _ cmd => cmd = .DeactivateNode nodeId
  | .DeactivateNext _ committed =>
    committed = true ∧ ∃ rest, m.sweep = .Deactivating (nodeId :: rest)
  | _ => False

def Spares (nodeId : NodeId) (m : Monitored) (step : MonitorStep) : Prop :=
  ¬Deactivates nodeId m step

def Decommissioned (platform : Platform) (s : JournalState) (nodeId : NodeId) : Prop :=
  Revoked s nodeId ∧ ∀ now serial expires, ∃ reason,
    (apply platform now s (.ActivateNode nodeId serial expires)).2 = .ValidationError reason

theorem recordAfter_revoked_iff (platform : Platform) (now : DateTime) (nodeId : NodeId)
    (cmd : JournalCommand) (record : NodeEnrollment) (h : record.state = .Revoked) :
    (recordAfter platform now nodeId cmd record).state = .Revoked ↔ cmd ≠ .DeactivateNode nodeId := by
  have houtcome := recordAfter_outcome platform now nodeId cmd record
  generalize recordAfter platform now nodeId cmd record = changed at houtcome ⊢
  cases houtcome with
  | Untouched _ htarget =>
    have hne : cmd ≠ .DeactivateNode nodeId := by
      rintro rfl
      exact htarget rfl
    simp [h, hne]
  | Activated serial expires hopen => exact absurd (.inl h) hopen
  | _ => simp [h]

theorem apply_revoked_iff (platform : Platform) (now : DateTime) (s : JournalState)
    (cmd : JournalCommand) (nodeId : NodeId) (h : Revoked s nodeId) :
    Revoked (apply platform now s cmd).1 nodeId ↔ cmd ≠ .DeactivateNode nodeId := by
  obtain ⟨record, hget, hstate⟩ := h
  rw [← recordAfter_revoked_iff platform now nodeId cmd record hstate]
  simp [Revoked, apply_record platform now s cmd nodeId record hget]

theorem decommissioned_of_revoked (platform : Platform) (s : JournalState) (nodeId : NodeId)
    (h : Revoked s nodeId) : Decommissioned platform s nodeId := by
  refine ⟨h, ?_⟩
  intro now serial expires
  obtain ⟨record, hget, hstate⟩ := h
  refine ⟨"NODE_REVOKED: " ++ nodeId, ?_⟩
  simp [apply, activateNode, withEnrollment_some _ _ _ _ hget, hstate]

theorem writeIf_revoked_iff (committed : Bool) (platform : Platform) (now : DateTime)
    (s : JournalState) (cmd : JournalCommand) (nodeId : NodeId) (h : Revoked s nodeId) :
    Revoked (writeIf committed platform now s cmd) nodeId ↔
      ¬(committed = true ∧ cmd = .DeactivateNode nodeId) := by
  cases committed with
  | false => simp [writeIf, h]
  | true => simp [writeIf, apply_revoked_iff platform now s cmd nodeId h]

theorem monitorNext_revoked_iff (platform : Platform) (timeoutSeconds : Nat)
    (m after : Monitored) (step : MonitorStep) (nodeId : NodeId) (h : Revoked m.journal nodeId)
    (hnext : monitorNext platform timeoutSeconds m step = some after) :
    Revoked after.journal nodeId ↔ Spares nodeId m step := by
  cases step with
  | Command now cmd =>
    obtain rfl := Option.some.inj hnext
    exact apply_revoked_iff platform now m.journal cmd nodeId h
  | CheckTimeouts now order =>
    simp only [monitorNext] at hnext
    split_ifs at hnext
    obtain rfl := Option.some.inj hnext
    simp [h, Spares, Deactivates]
  | DeactivateNext now committed =>
    simp only [monitorNext] at hnext
    split at hnext
    · rename_i target rest hsweep
      obtain rfl := Option.some.inj hnext
      simp [writeIf_revoked_iff committed platform now m.journal _ nodeId h, Spares, Deactivates,
        hsweep]
    · cases hnext
  | ExpireApprovals now order =>
    simp only [monitorNext] at hnext
    split_ifs at hnext
    obtain rfl := Option.some.inj hnext
    simp [h, Spares, Deactivates]
  | ExpireNext now committed =>
    simp only [monitorNext] at hnext
    split at hnext
    · obtain rfl := Option.some.inj hnext
      simp [writeIf_revoked_iff committed platform now m.journal _ nodeId h, Spares, Deactivates]
    · cases hnext

-- Once revoked, a node stays revoked exactly along the runs in which no step deactivates it.
theorem revocation_final_iff (platform : Platform) (timeoutSeconds : Nat) (m last : Monitored)
    (steps : List MonitorStep) (nodeId : NodeId) (hrevoked : Revoked m.journal nodeId)
    (run : Run (monitorNext platform timeoutSeconds) Unrestricted m steps last) :
    (∀ before after middle, steps = before ++ after →
      Run (monitorNext platform timeoutSeconds) Unrestricted m before middle →
      Decommissioned platform middle.journal nodeId) ↔
    Run (monitorNext platform timeoutSeconds) (Spares nodeId) m steps last := by
  rw [← run.always_iff (fun m => Revoked m.journal nodeId)
    (fun m step after h hnext =>
      monitorNext_revoked_iff platform timeoutSeconds m after step nodeId h hnext) hrevoked]
  constructor
  · intro hall before after middle hsplit hrun
    exact (hall before after middle hsplit hrun).1
  · intro hall before after middle hsplit hrun
    exact decommissioned_of_revoked platform middle.journal nodeId
      (hall before after middle hsplit hrun)

def decommissionedNode : JournalState :=
  (replay .ascii .default [⟨0, .RegisterNode (.sample "node-1" "aa:bb:cc:dd:ee:ff")⟩,
    ⟨0, .RevokeNode "node-1"⟩]).1

-- A sweep that starts after the revocation finds nothing, and a later activation fails.
theorem revocation_final_later_sweep :
    Decommissioned .ascii decommissionedNode "node-1" := by
  have hactivate : Run (monitorNext .ascii 300) (Spares "node-1")
      ⟨decommissionedNode, .Deactivating []⟩
      [.Command (DateTime.hours 1) (.ActivateNode "node-1" "serial-1" "1970-01-04T00:00:00Z")]
      ⟨decommissionedNode, .Deactivating []⟩ :=
    .single (by simp [Spares, Deactivates]) (by decide)
  have hspares : Run (monitorNext .ascii 300) (Spares "node-1")
      ⟨decommissionedNode, .Expiring []⟩
      [.CheckTimeouts (DateTime.hours 1) [],
        .Command (DateTime.hours 1) (.ActivateNode "node-1" "serial-1" "1970-01-04T00:00:00Z")]
      ⟨decommissionedNode, .Deactivating []⟩ :=
    .cons (by simp [Spares, Deactivates]) (by decide) hactivate
  have hrun := hspares.weaken (fun _ _ _ => trivial)
  exact (revocation_final_iff .ascii 300 _ _ _ "node-1" (by decide) hrun).mpr hspares _ [] _
    (List.append_nil _).symm hrun

def registerActivateRevoke : List MonitorStep :=
  [.Command 0 (.RegisterNode (.sample "node-1" "aa:bb:cc:dd:ee:ff")),
    .Command 0 (.ActivateNode "node-1" "serial-1" "1970-01-04T00:00:00Z"),
    .CheckTimeouts (DateTime.hours 1) ["node-1"],
    .Command (DateTime.hours 1) (.RevokeNode "node-1")]

def revokedDuringSweep : Monitored :=
  ⟨(replay .ascii .default [⟨0, .RegisterNode (.sample "node-1" "aa:bb:cc:dd:ee:ff")⟩,
    ⟨0, .ActivateNode "node-1" "serial-1" "1970-01-04T00:00:00Z"⟩, ⟨0, .RevokeNode "node-1"⟩]).1,
    .Deactivating ["node-1"]⟩

-- The monitor reads the node as Active, the node is revoked, and the write of the monitor makes
-- it Inactive: the next activation is accepted.
theorem stale_sweep_undoes_revocation :
    ∃ after, Run (monitorNext .ascii 300) Unrestricted ⟨.default, .Expiring []⟩
        registerActivateRevoke revokedDuringSweep ∧
      Revoked revokedDuringSweep.journal "node-1" ∧
      Run (monitorNext .ascii 300) Unrestricted revokedDuringSweep
        [.DeactivateNext (DateTime.hours 1) true] after ∧
      ¬Revoked after.journal "node-1" ∧
      (apply .ascii (DateTime.hours 1) after.journal
        (.ActivateNode "node-1" "serial-2" "1970-01-04T00:00:00Z")).2 =
          .EnrollmentResult "node-1" .Active none := by
  refine ⟨⟨(apply .ascii 0 revokedDuringSweep.journal (.DeactivateNode "node-1")).1,
    .Deactivating []⟩, ?_, ?_, ?_, ?_, ?_⟩
  · exact (exec_eq_some_iff _ _ _ _).mp (by decide +kernel)
  · decide
  · exact (exec_eq_some_iff _ _ _ _).mp (by decide +kernel)
  · decide
  · decide

end Pact.Journal
