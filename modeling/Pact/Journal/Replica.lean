import Pact.Journal.State.Lemmas

namespace Pact.Journal

open Pact.Library Pact.Common

-- Replicas apply the same commands in the same order, each with clock readings of its own.
def ReplicasAgree (platform : Platform) (s : JournalState) (commands : List JournalCommand) : Prop :=
  ∀ first second : List Applied, first.map Applied.command = commands →
    second.map Applied.command = commands → replay platform s first = replay platform s second

-- The command writes the local clock into the record of the node.
def Stamps (s : JournalState) (nodeId : NodeId) : JournalCommand → Prop
  | .ActivateNode target _ _ => target = nodeId ∧ ∃ record,
      s.enrollments.get nodeId = some record ∧ record.state ≠ .Revoked ∧ record.state ≠ .Active
  | .UpdateNodeCert target _ _ => target = nodeId ∧ ∃ record, s.enrollments.get nodeId = some record
  | _ => False

-- Every clock reading that enters a record is overwritten by a reading that the commands carry.
def StampsRefreshed (platform : Platform) (s : JournalState) (commands : List JournalCommand) : Prop :=
  ∀ (before : List Applied) (stamp : JournalCommand) (after : List JournalCommand) (nodeId : NodeId),
    before.map Applied.command ++ stamp :: after = commands →
    Stamps (replay platform s before).1 nodeId stamp →
    ∃ timestamp, JournalCommand.UpdateNodeLastSeen nodeId timestamp ∈ after

def unclockedRecord (record : NodeEnrollment) : NodeEnrollment := { record with lastSeen := none }

-- The journal without the one field that a local clock is written to.
def JournalState.unclocked (s : JournalState) : JournalState :=
  { s with enrollments := s.enrollments.mapValues unclockedRecord }

def JournalState.lastSeen (s : JournalState) (nodeId : NodeId) : Option (Option DateTime) :=
  (s.enrollments.get nodeId).map NodeEnrollment.lastSeen

theorem unclocked_get (s : JournalState) (nodeId : NodeId) :
    s.unclocked.enrollments.get nodeId = (s.enrollments.get nodeId).map unclockedRecord :=
  Map.get_mapValues _ _ _

theorem unclocked_enrollments_idem (enrollments : Map NodeId NodeEnrollment) :
    (enrollments.mapValues unclockedRecord).mapValues unclockedRecord =
      enrollments.mapValues unclockedRecord := by
  apply Map.ext
  intro nodeId
  simp only [Map.get_mapValues, Option.map_map]
  rfl

theorem eq_of_unclocked_eq (s other : JournalState) (h : s.unclocked = other.unclocked)
    (hseen : ∀ nodeId, s.lastSeen nodeId = other.lastSeen nodeId) : s = other := by
  have henrollments : s.enrollments = other.enrollments := by
    apply Map.ext
    intro nodeId
    have hrecord : s.unclocked.enrollments.get nodeId = other.unclocked.enrollments.get nodeId := by
      rw [h]
    have hlast := hseen nodeId
    rw [unclocked_get, unclocked_get] at hrecord
    unfold JournalState.lastSeen at hlast
    cases hs : s.enrollments.get nodeId with
    | none =>
      cases ho : other.enrollments.get nodeId with
      | none => rfl
      | some record => simp [hs, ho] at hrecord
    | some record =>
      cases ho : other.enrollments.get nodeId with
      | none => simp [hs, ho] at hrecord
      | some stored =>
        simp only [hs, ho, Option.map_some, Option.some.injEq, unclockedRecord] at hrecord hlast
        cases record
        cases stored
        simp_all
  cases s
  cases other
  simp only [JournalState.unclocked, JournalState.mk.injEq] at h henrollments ⊢
  simp_all

theorem withEnrollment_unclocked (s : JournalState) (nodeId : NodeId)
    (update blind : NodeEnrollment → JournalState × JournalResponse)
    (h : ∀ record, (update record).2 = (blind (unclockedRecord record)).2 ∧
      (update record).1.unclocked = (blind (unclockedRecord record)).1.unclocked) :
    (withEnrollment s nodeId update).2 = (withEnrollment s.unclocked nodeId blind).2 ∧
    (withEnrollment s nodeId update).1.unclocked =
      (withEnrollment s.unclocked nodeId blind).1.unclocked := by
  cases hget : s.enrollments.get nodeId with
  | none =>
    have hblind : s.unclocked.enrollments.get nodeId = none := by rw [unclocked_get, hget]; rfl
    rw [withEnrollment_none s nodeId update hget, withEnrollment_none _ nodeId blind hblind]
    simp [JournalState.unclocked, unclocked_enrollments_idem]
  | some record =>
    have hblind : s.unclocked.enrollments.get nodeId = some (unclockedRecord record) := by
      rw [unclocked_get, hget]; rfl
    rw [withEnrollment_some s nodeId record update hget,
      withEnrollment_some _ nodeId _ blind hblind]
    exact h record

-- The unclocked journal is a state machine of its own, and no clock reaches it or the answers.
theorem apply_unclocked (platform : Platform) (now other : DateTime) (s : JournalState)
    (cmd : JournalCommand) :
    (apply platform now s cmd).2 = (apply platform other s.unclocked cmd).2 ∧
    (apply platform now s cmd).1.unclocked = (apply platform other s.unclocked cmd).1.unclocked := by
  cases cmd
  case AppendEntry entry =>
    have hr : entryRejection s.unclocked entry = entryRejection s entry := rfl
    simp only [apply, appendEntry, hr]
    split <;> simp [JournalState.unclocked, unclocked_enrollments_idem]
  case SetOverlay vclusterId overlay =>
    simp only [apply, setOverlay]
    split_ifs <;> simp [JournalState.unclocked, unclocked_enrollments_idem]
  case DecideApproval approvalId approver decision =>
    simp only [apply, decideApproval, JournalState.unclocked]
    split
    · split_ifs <;> simp [unclocked_enrollments_idem]
    · simp [unclocked_enrollments_idem]
  case RegisterNode enrollment =>
    have hi : (s.unclocked.enrollments.get enrollment.nodeId).isSome =
        (s.enrollments.get enrollment.nodeId).isSome := by
      rw [unclocked_get, Option.isSome_map]
    simp only [apply, registerNode, hi]
    split_ifs
    · simp [JournalState.unclocked, unclocked_enrollments_idem]
    · simp only [JournalState.unclocked]
      split <;> simp [unclocked_enrollments_idem, Map.mapValues_insert]
  case ActivateNode nodeId serial expires =>
    apply withEnrollment_unclocked
    intro record
    by_cases hr : record.state = .Revoked
    · simp [hr, unclockedRecord, JournalState.unclocked, unclocked_enrollments_idem]
    · by_cases ha : record.state = .Active
      · simp [ha, unclockedRecord, JournalState.unclocked, unclocked_enrollments_idem]
      · simp [hr, ha, JournalState.unclocked, JournalState.putEnrollment,
          unclocked_enrollments_idem, Map.mapValues_insert, unclockedRecord]
  -- The other updates of a record are the same on both sides once the last-seen field is gone.
  case DeactivateNode | RevokeNode | AssignNodeToVCluster | UnassignNode | MoveNodeVCluster |
      UpdateNodeLastSeen | UpdateNodeCert =>
    apply withEnrollment_unclocked
    intro record
    simp [JournalState.unclocked, JournalState.putEnrollment, unclocked_enrollments_idem,
      Map.mapValues_insert, unclockedRecord]
  all_goals simp [apply, recordOperation, JournalState.unclocked, unclocked_enrollments_idem]

theorem apply_twin (platform : Platform) (now later : DateTime) (s other : JournalState)
    (cmd : JournalCommand) (h : s.unclocked = other.unclocked) :
    (apply platform now s cmd).2 = (apply platform later other cmd).2 ∧
    (apply platform now s cmd).1.unclocked = (apply platform later other cmd).1.unclocked := by
  obtain ⟨hresponse, hstate⟩ := apply_unclocked platform now 0 s cmd
  obtain ⟨hresponse', hstate'⟩ := apply_unclocked platform later 0 other cmd
  rw [h] at hresponse hstate
  exact ⟨hresponse.trans hresponse'.symm, hstate.trans hstate'.symm⟩

theorem lastSeen_eq_some (s : JournalState) (nodeId : NodeId) (record : NodeEnrollment)
    (h : s.enrollments.get nodeId = some record) : s.lastSeen nodeId = some record.lastSeen := by
  rw [JournalState.lastSeen, h]; rfl

theorem apply_lastSeen_stamp (platform : Platform) (now : DateTime) (s : JournalState)
    (cmd : JournalCommand) (nodeId : NodeId) (h : Stamps s nodeId cmd) :
    (apply platform now s cmd).1.lastSeen nodeId = some (some now) := by
  cases cmd <;> simp only [Stamps] at h
  case ActivateNode target serial expires =>
    obtain ⟨rfl, record, hget, hrevoked, hactive⟩ := h
    rw [lastSeen_eq_some _ _ _ (apply_record platform now s _ target record hget)]
    simp [recordAfter, targetNode, hrevoked, hactive]
  case UpdateNodeCert target serial expires =>
    obtain ⟨rfl, record, hget⟩ := h
    rw [lastSeen_eq_some _ _ _ (apply_record platform now s _ target record hget)]
    simp [recordAfter, targetNode]

theorem apply_lastSeen_refresh (platform : Platform) (now : DateTime) (s : JournalState)
    (nodeId : NodeId) (timestamp : String) (record : NodeEnrollment)
    (hget : s.enrollments.get nodeId = some record) :
    (apply platform now s (.UpdateNodeLastSeen nodeId timestamp)).1.lastSeen nodeId =
      some (platform.parseFromRfc3339 timestamp) := by
  rw [lastSeen_eq_some _ _ _ (apply_record platform now s _ nodeId record hget)]
  simp [recordAfter, targetNode]

theorem apply_lastSeen_kept (platform : Platform) (now : DateTime) (s : JournalState)
    (cmd : JournalCommand) (nodeId : NodeId) (record : NodeEnrollment)
    (hget : s.enrollments.get nodeId = some record) (hstamp : ¬Stamps s nodeId cmd)
    (hrefresh : ∀ timestamp, cmd ≠ .UpdateNodeLastSeen nodeId timestamp) :
    (apply platform now s cmd).1.lastSeen nodeId = s.lastSeen nodeId := by
  rw [lastSeen_eq_some _ _ _ (apply_record platform now s cmd nodeId record hget),
    lastSeen_eq_some _ _ _ hget]
  have houtcome := recordAfter_outcome platform now nodeId cmd record
  generalize recordAfter platform now nodeId cmd record = changed at houtcome ⊢
  cases houtcome with
  | Activated serial expires hopen =>
    obtain ⟨hrevoked, hactive⟩ := not_or.mp hopen
    exact absurd ⟨rfl, record, hget, hrevoked, hactive⟩ hstamp
  | Seen timestamp => exact absurd rfl (hrefresh timestamp)
  | Certified serial expires => exact absurd ⟨rfl, record, hget⟩ hstamp
  | _ => rfl

theorem isSome_of_unclocked_eq (s other : JournalState) (h : s.unclocked = other.unclocked)
    (nodeId : NodeId) :
    (s.enrollments.get nodeId).isSome = (other.enrollments.get nodeId).isSome := by
  have hget : s.unclocked.enrollments.get nodeId = other.unclocked.enrollments.get nodeId := by rw [h]
  rw [unclocked_get, unclocked_get] at hget
  simpa using congrArg Option.isSome hget

theorem stamps_of_unclocked_eq (s other : JournalState) (h : s.unclocked = other.unclocked)
    (nodeId : NodeId) (cmd : JournalCommand) (hstamp : Stamps other nodeId cmd) :
    Stamps s nodeId cmd := by
  have hget : (s.enrollments.get nodeId).map unclockedRecord =
      (other.enrollments.get nodeId).map unclockedRecord := by
    rw [← unclocked_get, ← unclocked_get, h]
  have hmatch : ∀ record, other.enrollments.get nodeId = some record →
      ∃ twin, s.enrollments.get nodeId = some twin ∧ twin.state = record.state := by
    intro record hrecord
    rw [hrecord, Option.map_some] at hget
    obtain ⟨twin, htwin, he⟩ := Option.map_eq_some_iff.mp hget
    exact ⟨twin, htwin, by simpa [unclockedRecord] using congrArg NodeEnrollment.state he⟩
  cases cmd <;> simp only [Stamps] at hstamp ⊢
  case ActivateNode target serial expires =>
    obtain ⟨htarget, record, hrecord, hopen⟩ := hstamp
    obtain ⟨twin, htwin, hstate⟩ := hmatch record hrecord
    exact ⟨htarget, twin, htwin, hstate ▸ hopen⟩
  case UpdateNodeCert target serial expires =>
    obtain ⟨htarget, record, hrecord⟩ := hstamp
    obtain ⟨twin, htwin, _⟩ := hmatch record hrecord
    exact ⟨htarget, twin, htwin⟩

theorem apply_lastSeen_unenrolled (platform : Platform) (now later : DateTime)
    (s other : JournalState) (cmd : JournalCommand) (nodeId : NodeId)
    (hblind : s.unclocked = other.unclocked) (hs : s.enrollments.get nodeId = none)
    (ho : other.enrollments.get nodeId = none) :
    (apply platform now s cmd).1.lastSeen nodeId = (apply platform later other cmd).1.lastSeen nodeId := by
  have hsome := isSome_of_unclocked_eq _ _ (apply_twin platform now later s other cmd hblind).2 nodeId
  unfold JournalState.lastSeen
  rcases apply_unenrolled platform now s cmd nodeId hs with hn | ⟨enrollment, rfl, _, _, hnew⟩
  · rw [hn] at hsome ⊢
    cases hother : (apply platform later other cmd).1.enrollments.get nodeId with
    | none => rfl
    | some record => simp [hother] at hsome
  · rcases apply_unenrolled platform later other (.RegisterNode enrollment) nodeId ho with
      hn | ⟨again, heq, _, _, hnew'⟩
    · simp [hn, hnew] at hsome
    · rw [hnew, hnew', JournalCommand.RegisterNode.inj heq]

theorem replay_append (platform : Platform) (s : JournalState) (first second : List Applied) :
    replay platform s (first ++ second) =
      ((replay platform (replay platform s first).1 second).1,
        (replay platform s first).2 ++ (replay platform (replay platform s first).1 second).2) := by
  induction first generalizing s with
  | nil => rfl
  | cons applied rest ih => simp only [List.cons_append, replay_cons, ih]

theorem stampsRefreshed_tail (platform : Platform) (s : JournalState) (applied : Applied)
    (rest : List JournalCommand)
    (h : StampsRefreshed platform s (applied.command :: rest)) :
    StampsRefreshed platform (apply platform applied.now s applied.command).1 rest := by
  intro before stamp after nodeId hsplit hstamp
  apply h (applied :: before) stamp after nodeId
  · rw [← hsplit]; rfl
  · exact hstamp

-- One step keeps the agreement on a node's last-seen field, unless the node waits for a
-- refreshing command that is still to come.
theorem lastSeen_step (platform : Platform) (now later : DateTime) (s other : JournalState)
    (cmd : JournalCommand) (rest : List JournalCommand) (nodeId : NodeId)
    (hblind : s.unclocked = other.unclocked)
    (hrefreshed : StampsRefreshed platform s (cmd :: rest))
    (hseen : s.lastSeen nodeId = other.lastSeen nodeId ∨
      ∃ timestamp, JournalCommand.UpdateNodeLastSeen nodeId timestamp ∈ cmd :: rest) :
    (apply platform now s cmd).1.lastSeen nodeId = (apply platform later other cmd).1.lastSeen nodeId ∨
      ∃ timestamp, JournalCommand.UpdateNodeLastSeen nodeId timestamp ∈ rest := by
  have hsome := isSome_of_unclocked_eq s other hblind nodeId
  cases hs : s.enrollments.get nodeId with
  | none =>
    have ho : other.enrollments.get nodeId = none := by simpa [hs] using hsome.symm
    exact .inl (apply_lastSeen_unenrolled platform now later s other cmd nodeId hblind hs ho)
  | some record =>
    obtain ⟨stored, ho⟩ : ∃ stored, other.enrollments.get nodeId = some stored := by
      rw [hs] at hsome
      exact Option.isSome_iff_exists.mp hsome.symm
    by_cases hrefresh : ∃ timestamp, cmd = .UpdateNodeLastSeen nodeId timestamp
    · obtain ⟨timestamp, rfl⟩ := hrefresh
      left
      rw [apply_lastSeen_refresh platform now s nodeId timestamp record hs,
        apply_lastSeen_refresh platform later other nodeId timestamp stored ho]
    · push Not at hrefresh
      by_cases hstamp : Stamps s nodeId cmd
      · exact .inr (hrefreshed [] cmd rest nodeId rfl hstamp)
      · have hstamp' : ¬Stamps other nodeId cmd := fun h =>
          hstamp (stamps_of_unclocked_eq s other hblind nodeId cmd h)
        rcases hseen with hequal | ⟨timestamp, hmem⟩
        · left
          rw [apply_lastSeen_kept platform now s cmd nodeId record hs hstamp hrefresh,
            apply_lastSeen_kept platform later other cmd nodeId stored ho hstamp' hrefresh, hequal]
        · rcases List.mem_cons.mp hmem with he | hrest
          · exact absurd he.symm (hrefresh timestamp)
          · exact .inr ⟨timestamp, hrest⟩

theorem replay_eq_of_refreshed (platform : Platform) (first second : List Applied)
    (s other : JournalState)
    (hcommands : first.map Applied.command = second.map Applied.command)
    (hblind : s.unclocked = other.unclocked)
    (hrefreshed : StampsRefreshed platform s (first.map Applied.command))
    (hseen : ∀ nodeId, s.lastSeen nodeId = other.lastSeen nodeId ∨
      ∃ timestamp, JournalCommand.UpdateNodeLastSeen nodeId timestamp ∈
        first.map Applied.command) :
    replay platform s first = replay platform other second := by
  induction first generalizing second s other with
  | nil =>
    obtain rfl : second = [] := by simpa using hcommands.symm
    have hequal : s = other := by
      apply eq_of_unclocked_eq s other hblind
      intro nodeId
      simpa using hseen nodeId
    rw [hequal]
  | cons applied rest ih =>
    cases second with
    | nil => cases hcommands
    | cons twin others =>
      simp only [List.map_cons, List.cons.injEq] at hcommands hrefreshed hseen
      obtain ⟨hcommand, hrest⟩ := hcommands
      obtain ⟨hresponse, hstate⟩ :=
        apply_twin platform applied.now twin.now s other applied.command hblind
      have htail := ih others _ _ hrest hstate
        (stampsRefreshed_tail platform s applied _ hrefreshed)
        (fun nodeId => lastSeen_step platform applied.now twin.now s other applied.command _
          nodeId hblind hrefreshed (hseen nodeId))
      rw [replay_cons, replay_cons, ← hcommand, hresponse, htail]

-- With one clock reading for all commands, a stamp that nothing refreshes is what remains.
theorem replay_lastSeen_stamped (platform : Platform) (now : DateTime) (s : JournalState)
    (commands : List JournalCommand) (nodeId : NodeId)
    (hseen : s.lastSeen nodeId = some (some now))
    (hnone : ∀ timestamp, JournalCommand.UpdateNodeLastSeen nodeId timestamp ∉ commands) :
    (replay platform s (commands.map fun cmd => ⟨now, cmd⟩)).1.lastSeen nodeId = some (some now) := by
  induction commands generalizing s with
  | nil => exact hseen
  | cons cmd rest ih =>
    obtain ⟨record, hget⟩ : ∃ record, s.enrollments.get nodeId = some record := by
      unfold JournalState.lastSeen at hseen
      obtain ⟨record, hget, _⟩ := Option.map_eq_some_iff.mp hseen
      exact ⟨record, hget⟩
    rw [List.map_cons, replay_cons]
    apply ih
    · by_cases hstamp : Stamps s nodeId cmd
      · exact apply_lastSeen_stamp platform now s cmd nodeId hstamp
      · rw [apply_lastSeen_kept platform now s cmd nodeId record hget hstamp
          (fun timestamp he => hnone timestamp (he ▸ List.mem_cons_self)), hseen]
    · intro timestamp hmem
      exact hnone timestamp (List.mem_cons_of_mem _ hmem)

theorem stampsRefreshed_of_agree (platform : Platform) (s : JournalState)
    (commands : List JournalCommand) (hagree : ReplicasAgree platform s commands) :
    StampsRefreshed platform s commands := by
  intro before stamp after nodeId hsplit hstamp
  by_contra hnone
  push Not at hnone
  have hseen : ∀ now, (replay platform s
      (before ++ (stamp :: after).map fun cmd => ⟨now, cmd⟩)).1.lastSeen nodeId = some (some now) := by
    intro now
    rw [replay_append, List.map_cons, replay_cons]
    exact replay_lastSeen_stamped platform now _ after nodeId
      (apply_lastSeen_stamp platform now _ stamp nodeId hstamp) hnone
  have hcommands : ∀ now : DateTime,
      (before ++ (stamp :: after).map fun cmd => Applied.mk now cmd).map Applied.command =
        commands := by
    intro now
    rw [← hsplit, List.map_append, List.map_map]
    simp [Function.comp_def]
  have hequal := hagree _ _ (hcommands 0) (hcommands 1)
  have hzero := hseen 0
  rw [hequal, hseen 1] at hzero
  simp at hzero

-- Replicas end in equal states, with equal answers, exactly when no reading of a local clock
-- survives to the end of the sequence.
theorem replicasAgree_iff_stampsRefreshed (platform : Platform) (s : JournalState)
    (commands : List JournalCommand) :
    ReplicasAgree platform s commands ↔ StampsRefreshed platform s commands := by
  constructor
  · exact stampsRefreshed_of_agree platform s commands
  · rintro hrefreshed first second rfl hsecond
    exact replay_eq_of_refreshed platform first second s s hsecond.symm rfl hrefreshed
      (fun _ => .inl rfl)

def registeredNode : JournalState :=
  (apply .ascii 0 .default (.RegisterNode (.sample "node-1" "aa:bb:cc:dd:ee:ff"))).1

-- Two replicas activate the node one nanosecond apart and store different last-seen times.
theorem activation_splits_replicas : ¬ReplicasAgree .ascii registeredNode
    [.ActivateNode "node-1" "serial-1" "1970-01-04T00:00:00Z"] := by
  intro hagree
  have hequal := hagree [⟨0, .ActivateNode "node-1" "serial-1" "1970-01-04T00:00:00Z"⟩]
    [⟨1, .ActivateNode "node-1" "serial-1" "1970-01-04T00:00:00Z"⟩] rfl rfl
  have hseen := congrArg (fun r => r.1.lastSeen "node-1") hequal
  revert hseen
  decide

end Pact.Journal
