import Pact.Journal.EnrollmentService.Theorems

namespace Pact.Journal.EnrollmentService

open Pact.Library Pact.Common

-- The serial of every revoked node is on the list of revoked serials.
def SerialsListed (s : JournalState) : Prop :=
  ∀ nodeId record serial, s.enrollments.get nodeId = some record → record.state = .Revoked →
    record.certSerial = some serial → serial ∈ s.revokedSerials

-- The command leaves no node both revoked and with a certificate.
def RevokesUncertified (platform : Platform) (s : JournalState) (applied : Applied) : Prop :=
  match applied.command with
  | .RevokeNode nodeId =>
    ∀ record, s.enrollments.get nodeId = some record → record.certSerial = none
  | .UpdateNodeCert nodeId _ _ => ¬Revoked s nodeId
  | .RegisterNode enrollment =>
    s.enrollments.get enrollment.nodeId = none →
    s.hwIndex.get (hwCanonicalKey platform enrollment.hardwareIdentity) = none →
    enrollment.state = .Revoked → enrollment.certSerial = none
  | _ => True

theorem apply_revokedSerials (platform : Platform) (now : DateTime) (s : JournalState)
    (cmd : JournalCommand) : (apply platform now s cmd).1.revokedSerials = s.revokedSerials := by
  have houtcome := apply_outcome platform now s cmd
  generalize apply platform now s cmd = result at houtcome ⊢
  cases houtcome <;> rfl

theorem replay_revokedSerials (platform : Platform) (s : JournalState) (commands : List Applied) :
    (replay platform s commands).1.revokedSerials = s.revokedSerials :=
  (replay_run platform s commands).invariant
    (fun reached => reached.revokedSerials = s.revokedSerials)
    (fun reached applied after h _ hnext => by
      obtain rfl := Option.some.inj hnext
      rw [apply_revokedSerials, h])
    rfl

theorem serialsListed_iff (s : JournalState) (h : s.revokedSerials = ∅) :
    SerialsListed s ↔ ∀ nodeId record, s.enrollments.get nodeId = some record →
      record.state = .Revoked → record.certSerial = none := by
  simp only [SerialsListed, h, Finset.notMem_empty, imp_false, Option.eq_none_iff_forall_ne_some]
  exact ⟨fun hall nodeId record hget hstate serial => hall nodeId record serial hget hstate,
    fun hall nodeId record serial hget hstate => hall nodeId record hget hstate serial⟩

theorem recordAfter_uncertified_iff (platform : Platform) (now : DateTime) (nodeId : NodeId)
    (cmd : JournalCommand) (record : NodeEnrollment)
    (h : record.state = .Revoked → record.certSerial = none) :
    ((recordAfter platform now nodeId cmd record).state = .Revoked →
      (recordAfter platform now nodeId cmd record).certSerial = none) ↔
    (cmd = .RevokeNode nodeId → record.certSerial = none) ∧
      ∀ serial expires, cmd = .UpdateNodeCert nodeId serial expires → record.state ≠ .Revoked := by
  have houtcome := recordAfter_outcome platform now nodeId cmd record
  generalize recordAfter platform now nodeId cmd record = changed at houtcome ⊢
  cases houtcome with
  | Untouched _ htarget =>
    have hrevoke : cmd ≠ .RevokeNode nodeId := by
      rintro rfl
      exact htarget rfl
    have hupdate : ∀ serial expires, cmd ≠ .UpdateNodeCert nodeId serial expires := by
      rintro serial expires rfl
      exact htarget rfl
    simpa [hrevoke, hupdate] using h
  | Activated | Deactivated | Revoked | Certified => simp
  | _ => simpa using h

theorem apply_serialsListed_iff (platform : Platform) (s : JournalState) (applied : Applied)
    (hempty : s.revokedSerials = ∅) (hlisted : SerialsListed s) :
    SerialsListed (apply platform applied.now s applied.command).1 ↔
      RevokesUncertified platform s applied := by
  obtain ⟨now, cmd⟩ := applied
  rw [serialsListed_iff s hempty] at hlisted
  rw [serialsListed_iff _ ((apply_revokedSerials platform now s cmd).trans hempty)]
  constructor
  · intro hafter
    have hrecord : ∀ nodeId record, s.enrollments.get nodeId = some record →
        (cmd = .RevokeNode nodeId → record.certSerial = none) ∧
        ∀ serial expires, cmd = .UpdateNodeCert nodeId serial expires →
          record.state ≠ .Revoked := by
      intro nodeId record hget
      rw [← recordAfter_uncertified_iff platform now nodeId cmd record (hlisted nodeId record hget)]
      exact hafter nodeId _ (apply_record platform now s cmd nodeId record hget)
    cases cmd with
    | RevokeNode nodeId => exact fun record hget => (hrecord nodeId record hget).1 rfl
    | UpdateNodeCert nodeId serial expires =>
      rintro ⟨record, hget, hstate⟩
      exact (hrecord nodeId record hget).2 serial expires rfl hstate
    | RegisterNode enrollment =>
      intro hnew hfree hstate
      refine hafter enrollment.nodeId enrollment ?_ hstate
      simp [apply, Journal.registerNode, hnew, hfree]
    | _ => trivial
  · intro hallowed nodeId changed hchanged
    rcases apply_enrolled platform now s cmd nodeId changed hchanged with
      ⟨record, hget, rfl⟩ | ⟨rfl, rfl, hnew, hfree⟩
    · refine (recordAfter_uncertified_iff platform now nodeId cmd record
        (hlisted nodeId record hget)).mpr ⟨?_, ?_⟩
      · rintro rfl
        exact hallowed record hget
      · rintro serial expires rfl hstate
        exact hallowed ⟨record, hget, hstate⟩
    · exact hallowed hnew hfree

structure Decommissions (config : Config) (s : JournalState)
    (request : Request Proto.DecommissionNodeRequest) (consensus : Consensus) (serial : String) :
    Prop where
  admin : ∃ identity, requirePlatformAdmin config request.authorization = .ok identity
  record : ∃ record, s.enrollments.get request.body.nodeId = some record ∧
    record.certSerial = some serial ∧ (record.activeSessions = 0 ∨ request.body.force = true)
  committed : ∃ now, consensus = .Committed now

theorem write_revokedSerials (platform : Platform) (config : Config) (draw : Draw)
    (consensus : Consensus) (journal : JournalState) (call : Call) :
    (call.write platform config draw consensus journal).1.revokedSerials =
      journal.revokedSerials := by
  simp only [Call.write]
  split
  · rfl
  · rename_i cmd _
    rcases clientWrite_cases platform consensus journal cmd with heq | ⟨_, now, heq⟩
    · exact congrArg JournalState.revokedSerials heq
    · exact (congrArg JournalState.revokedSerials heq).trans
        (apply_revokedSerials platform now journal cmd)

theorem decommissionNode_revoke (config : Config) (s : JournalState)
    (request : Request Proto.DecommissionNodeRequest) (consensus : Consensus) (serial : String)
    (h : Decommissions config s request consensus serial) :
    decommissionNode config s request = .Revoke request.body.nodeId serial := by
  obtain ⟨⟨identity, hadmin⟩, ⟨record, hget, hserial, hsessions⟩, _⟩ := h
  have hadmitted : ¬(record.activeSessions > 0 ∧ request.body.force = false) := by
    rintro ⟨hpositive, hforce⟩
    rcases hsessions with hnone | hforced
    · omega
    · rw [hforced] at hforce
      cases hforce
  simp only [decommissionNode, hadmin, hget, hserial, if_neg hadmitted, Option.getD_some]

-- The answer gives the serial that was read, whatever the journal holds when the write lands.
theorem write_revoke_ok (platform : Platform) (config : Config) (draw : Draw) (now : DateTime)
    (later : JournalState) (nodeId : NodeId) (serial : String) (record : NodeEnrollment)
    (hget : later.enrollments.get nodeId = some record) :
    ((Call.Revoke nodeId serial).write platform config draw (.Committed now) later).2 =
      .Finished (.Decommissioned (.ok ⟨nodeId, "Revoked", 0, serial⟩)) := by
  simp [Call.write, Call.command, clientWrite, apply, revokeNode,
    withEnrollment_some later nodeId record _ hget, Call.resume]

theorem write_revoke_answer (platform : Platform) (config : Config) (draw : Draw)
    (consensus : Consensus) (later : JournalState) (nodeId : NodeId) (serial : String)
    (response : Proto.DecommissionNodeResponse)
    (h : ((Call.Revoke nodeId serial).write platform config draw consensus later).2 =
      .Finished (.Decommissioned (.ok response))) :
    response.certSerialRevoked = serial ∧ ∃ now, consensus = .Committed now := by
  cases consensus with
  | Failed error applied => simp [Call.write, Call.command, clientWrite, Call.resume] at h
  | Committed now =>
    refine ⟨?_, now, rfl⟩
    simp only [Call.write, Call.command, Call.resume] at h
    split at h
    · simp at h
    · simp only [Call.Finished.injEq, Answer.Decommissioned.injEq, Except.ok.injEq] at h
      rw [← h]
    · simp at h
    · simp at h

theorem decommissionNode_cases (config : Config) (s : JournalState)
    (request : Request Proto.DecommissionNodeRequest) :
    (∃ status, decommissionNode config s request = .Finished (.Decommissioned (.error status))) ∨
    ∃ identity serial, requirePlatformAdmin config request.authorization = .ok identity ∧
      decommissionNode config s request = .Revoke request.body.nodeId serial ∧
      (serial ≠ "" → ∃ record, s.enrollments.get request.body.nodeId = some record ∧
        record.certSerial = some serial ∧
        (record.activeSessions = 0 ∨ request.body.force = true)) := by
  cases hadmin : requirePlatformAdmin config request.authorization with
  | error status => exact .inl ⟨status, by simp [decommissionNode, hadmin]⟩
  | ok identity =>
    cases hget : s.enrollments.get request.body.nodeId with
    | none =>
      refine .inr ⟨identity, "", rfl, by simp [decommissionNode, hadmin, hget], ?_⟩
      exact fun hserial => absurd rfl hserial
    | some record =>
      by_cases hsessions : record.activeSessions > 0 ∧ request.body.force = false
      · exact .inl (by simp [decommissionNode, hadmin, hget, hsessions])
      · refine .inr ⟨identity, record.certSerial.getD "", rfl, ?_, ?_⟩
        · simp only [decommissionNode, hadmin, hget, if_neg hsessions]
        · intro hserial
          refine ⟨record, rfl, ?_, ?_⟩
          · cases hcert : record.certSerial with
            | none => simp [hcert] at hserial
            | some serial => rfl
          · rw [not_and_or, Nat.not_lt, Nat.le_zero, Bool.not_eq_false] at hsessions
            exact hsessions

theorem decommissions_of_answer (platform : Platform) (config : Config) (draw : Draw)
    (consensus : Consensus) (s later : JournalState)
    (request : Request Proto.DecommissionNodeRequest) (response : Proto.DecommissionNodeResponse)
    (h : ((decommissionNode config s request).write platform config draw consensus later).2 =
      .Finished (.Decommissioned (.ok response)))
    (hserial : response.certSerialRevoked ≠ "") :
    Decommissions config s request consensus response.certSerialRevoked := by
  rcases decommissionNode_cases config s request with
    ⟨status, hcall⟩ | ⟨identity, serial, hadmin, hcall, hrecord⟩
  · rw [hcall] at h
    simp [Call.write, Call.command] at h
  · rw [hcall] at h
    obtain ⟨rfl, hcommitted⟩ := write_revoke_answer platform config draw consensus later _ serial
      response h
    exact ⟨⟨identity, hadmin⟩, hrecord hserial, hcommitted⟩

theorem replay_enrolled (platform : Platform) (s : JournalState) (commands : List Applied)
    (nodeId : NodeId) (h : ∃ record, s.enrollments.get nodeId = some record) :
    ∃ record, (replay platform s commands).1.enrollments.get nodeId = some record :=
  (replay_run platform s commands).invariant
    (fun reached => ∃ record, reached.enrollments.get nodeId = some record)
    (fun reached applied after h _ hnext => by
      obtain rfl := Option.some.inj hnext
      obtain ⟨record, hget⟩ := h
      exact ⟨_, apply_record platform applied.now reached applied.command nodeId record hget⟩)
    h

theorem decommission_listed_iff (platform : Platform) (config : Config) (draw : Draw)
    (consensus : Consensus) (s : JournalState) (hempty : s.revokedSerials = ∅)
    (meanwhile : List Applied) (request : Request Proto.DecommissionNodeRequest) :
    (∀ response,
      ((decommissionNode config s request).write platform config draw consensus
        (replay platform s meanwhile).1).2 = .Finished (.Decommissioned (.ok response)) →
      response.certSerialRevoked ≠ "" →
      response.certSerialRevoked ∈ ((decommissionNode config s request).write platform config draw
        consensus (replay platform s meanwhile).1).1.revokedSerials) ↔
    ∀ serial, Decommissions config s request consensus serial → serial = "" := by
  rw [write_revokedSerials, replay_revokedSerials, hempty]
  constructor
  · intro hlisted serial hdecommissions
    by_contra hserial
    obtain ⟨record, hget, _⟩ := hdecommissions.record
    obtain ⟨now, rfl⟩ := hdecommissions.committed
    obtain ⟨stored, hstored⟩ := replay_enrolled platform s meanwhile _ ⟨record, hget⟩
    have hanswer := write_revoke_ok platform config draw now (replay platform s meanwhile).1
      request.body.nodeId serial stored hstored
    rw [← decommissionNode_revoke config s request _ serial hdecommissions] at hanswer
    exact Finset.notMem_empty serial (hlisted _ hanswer hserial)
  · intro hnone response hanswer hserial
    exact absurd (hnone _ (decommissions_of_answer platform config draw consensus s _ request response
      hanswer hserial)) hserial

-- The list is kept up to date exactly along the runs that revoke no node with a certificate, and
-- what a decommission reports as revoked is on it exactly when it reports no serial.
theorem revoked_serials_listed_iff (platform : Platform) (config : Config)
    (commands : List Applied) :
    ((∀ before rest, commands = before ++ rest →
      SerialsListed (replay platform .default before).1) ↔
    Run (journalNext platform) (RevokesUncertified platform) .default commands
      (replay platform .default commands).1) ∧
    ∀ draw consensus meanwhile request,
      ((∀ response,
        ((decommissionNode config (replay platform .default commands).1 request).write platform
          config draw consensus (replay platform .default (commands ++ meanwhile)).1).2 =
            .Finished (.Decommissioned (.ok response)) →
        response.certSerialRevoked ≠ "" →
        response.certSerialRevoked ∈
          ((decommissionNode config (replay platform .default commands).1 request).write platform
            config draw consensus
            (replay platform .default (commands ++ meanwhile)).1).1.revokedSerials) ↔
      ∀ serial, Decommissions config (replay platform .default commands).1 request consensus
        serial → serial = "") := by
  have hrun := replay_run platform .default commands
  refine ⟨?_, ?_⟩
  · rw [← hrun.always_iff (fun s => s.revokedSerials = ∅ ∧ SerialsListed s)
      (fun s applied after h hnext => by
        obtain rfl := Option.some.inj hnext
        rw [← apply_serialsListed_iff platform s applied h.1 h.2, apply_revokedSerials]
        simp [h.1])
      ⟨rfl, fun nodeId record serial hget => by simp [JournalState.default] at hget⟩]
    constructor
    · intro hall before rest middle hsplit hbefore
      obtain rfl := hbefore.unique (replay_run platform .default before)
      exact ⟨replay_revokedSerials platform .default before, hall before rest hsplit⟩
    · intro hall before rest hsplit
      exact (hall before rest _ hsplit (replay_run platform .default before)).2
  · intro draw consensus meanwhile request
    have hlater : (replay platform .default (commands ++ meanwhile)).1 =
        (replay platform (replay platform .default commands).1 meanwhile).1 :=
      (replay_run platform .default (commands ++ meanwhile)).unique
        (hrun.append (replay_run platform _ meanwhile))
    rw [hlater]
    exact decommission_listed_iff platform config draw consensus _
      (replay_revokedSerials platform .default commands) meanwhile request

def certifiedNode : List Applied :=
  [⟨0, .RegisterNode (.sample "node-1" "aa:bb:cc:dd:ee:ff")⟩,
    ⟨0, .ActivateNode "node-1" "serial-1" "1970-01-04T00:00:00Z"⟩]

-- An enrolled node is revoked, and a decommission reports its serial as revoked, while the list
-- stays empty.
theorem revoked_serial_not_listed :
    ((replay .ascii .default (certifiedNode ++ [⟨0, .RevokeNode "node-1"⟩])).1.enrollments.get
      "node-1").map (fun record => (record.state, record.certSerial)) =
        some (.Revoked, some "serial-1") ∧
    (replay .ascii .default (certifiedNode ++ [⟨0, .RevokeNode "node-1"⟩])).1.revokedSerials = ∅ ∧
    ((decommissionNode sampleConfig (replay .ascii .default certifiedNode).1
      ⟨some (.Text "Bearer admin-token"), ⟨"node-1", false⟩⟩).write .ascii sampleConfig ⟨0, ""⟩
        (.Committed 0) (replay .ascii .default certifiedNode).1).2 =
      .Finished (.Decommissioned (.ok ⟨"node-1", "Revoked", 0, "serial-1"⟩)) ∧
    ((decommissionNode sampleConfig (replay .ascii .default certifiedNode).1
      ⟨some (.Text "Bearer admin-token"), ⟨"node-1", false⟩⟩).write .ascii sampleConfig ⟨0, ""⟩
        (.Committed 0) (replay .ascii .default certifiedNode).1).1.revokedSerials = ∅ := by
  refine ⟨by decide, by decide, by decide +kernel, by decide +kernel⟩

end Pact.Journal.EnrollmentService
