import Pact.Journal.Ca.Theorems
import Pact.Journal.EnrollmentService.Theorems

namespace Pact.Journal.EnrollmentService

open Pact.Library Pact.Common Pact.Journal.Ca

-- All that an enroll call takes from outside the journal.
structure EnrollWorld where
  acquired : Bool
  draw : Draw
  activation : Consensus
  signing : SignDraw
  recording : Consensus
  auditDraw : Draw
  audit : Consensus

section EnrollAlone

variable (platform : Platform) (config : Config) (library : CertificateLibrary) (ca : CaKeyManager)
  (world : EnrollWorld) (s : JournalState) (req : Proto.EnrollRequest)

-- The next effect of an enroll call, with nobody else at work. A finished call stays as it is.
def Call.advance : JournalState × Call → JournalState × Call
  | (journal, .Activate nodeId csr placeholderSerial placeholderExpires) =>
    (Call.Activate nodeId csr placeholderSerial placeholderExpires).write platform config
      world.draw world.activation journal
  | (journal, .SignEnrollment nodeId csr vclusterId) =>
    (journal, ((Call.SignEnrollment nodeId csr vclusterId).sign
      (ca.signCsr platform library world.signing csr nodeId config.domainId)).getD
      (.SignEnrollment nodeId csr vclusterId))
  | (journal, .RecordEnrollment nodeId vclusterId signed) =>
    (Call.RecordEnrollment nodeId vclusterId signed).write platform config world.auditDraw
      world.recording journal
  | (journal, .Audit operation answer) =>
    (Call.Audit operation answer).write platform config world.auditDraw world.audit journal
  | finished => finished

-- A whole enroll call by itself: activation, signature, recording and audit.
def enrollAlone : JournalState × Call :=
  (Call.advance platform config library ca world)^[4]
    (s, enroll platform s world.acquired world.draw req)

-- The request gets past the checks of enroll, to the record of this node.
structure Enrollable (nodeId : NodeId) (record : NodeEnrollment) : Prop where
  acquired : world.acquired = true
  hardware : ∃ hw, req.hardwareIdentity = some hw ∧
    s.hwIndex.get (hwCanonicalKey platform (protoHwToDomain hw)) = some nodeId
  enrolled : s.enrollments.get nodeId = some record
  inactive : record.state = .Registered ∨ record.state = .Inactive

-- The activation takes effect, and its answer is lost or the request cannot be signed.
def Strands : Prop :=
  ∃ nodeId record, Enrollable platform world s req nodeId record ∧
    ((∃ error now, world.activation = .Failed error (some now)) ∨
      ((∃ now, world.activation = .Committed now) ∧
        ∃ error, ca.signCsr platform library world.signing req.csr nodeId config.domainId =
          .error error))

theorem advance_run (journal : JournalState) (call : Call) :
    ∃ steps, Run (next platform config) Unrestricted ⟨journal, [call]⟩ steps
      ⟨(Call.advance platform config library ca world (journal, call)).1,
        [(Call.advance platform config library ca world (journal, call)).2]⟩ := by
  cases call with
  | Activate nodeId csr serial expires =>
    exact ⟨[.Write 0 world.draw world.activation], .single trivial rfl⟩
  | SignEnrollment nodeId csr vclusterId =>
    refine ⟨[.Sign 0 (ca.signCsr platform library world.signing csr nodeId config.domainId)],
      .single trivial ?_⟩
    simp only [next, Call.advance, Call.sign]
    cases ca.signCsr platform library world.signing csr nodeId config.domainId <;> rfl
  | RecordEnrollment nodeId vclusterId signed =>
    exact ⟨[.Write 0 world.auditDraw world.recording], .single trivial rfl⟩
  | Audit operation answer =>
    exact ⟨[.Write 0 world.auditDraw world.audit], .single trivial rfl⟩
  | _ => exact ⟨[], .nil _⟩

theorem enrollAlone_run :
    ∃ steps, Run (next platform config) Unrestricted ⟨s, []⟩ steps
      ⟨(enrollAlone platform config library ca world s req).1,
        [(enrollAlone platform config library ca world s req).2]⟩ := by
  have hiterate : ∀ count, ∃ steps, Run (next platform config) Unrestricted ⟨s, []⟩ steps
      ⟨((Call.advance platform config library ca world)^[count]
          (s, enroll platform s world.acquired world.draw req)).1,
        [((Call.advance platform config library ca world)^[count]
          (s, enroll platform s world.acquired world.draw req)).2]⟩ := by
    intro count
    induction count with
    | zero => exact ⟨[.Enroll world.acquired world.draw req], .single trivial rfl⟩
    | succ count ih =>
      obtain ⟨steps, run⟩ := ih
      obtain ⟨more, hmore⟩ := advance_run platform config library ca world _ _
      rw [Function.iterate_succ_apply']
      exact ⟨steps ++ more, run.append hmore⟩
  exact hiterate 4

theorem enroll_of_enrollable (nodeId : NodeId) (record : NodeEnrollment)
    (h : Enrollable platform world s req nodeId record) :
    enroll platform s world.acquired world.draw req =
      .Activate nodeId req.csr world.draw.uuid
        (platform.toRfc3339 (world.draw.now + DateTime.hours 72)) := by
  obtain ⟨hacquired, ⟨hw, hhw, hindex⟩, hrecord, hstate⟩ := h
  rcases hstate with hstate | hstate <;> simp [enroll, hacquired, hhw, hindex, hrecord, hstate]

theorem enroll_cases :
    (∃ status, enroll platform s world.acquired world.draw req =
      .Finished (.Enrolled (.error status))) ∨
    (∃ operation status, enroll platform s world.acquired world.draw req =
      .Audit operation (.error status)) ∨
    ∃ nodeId record serial expires, Enrollable platform world s req nodeId record ∧
      enroll platform s world.acquired world.draw req =
        .Activate nodeId req.csr serial expires := by
  simp only [enroll]
  split_ifs with hacquired
  · exact .inl ⟨_, rfl⟩
  · split
    · exact .inl ⟨_, rfl⟩
    · rename_i hw hhw
      split
      · exact .inr (.inl ⟨_, _, rfl⟩)
      · rename_i nodeId hindex
        split
        · exact .inl ⟨_, rfl⟩
        · rename_i record hrecord
          rw [Bool.not_eq_false] at hacquired
          split
          · exact .inr (.inl ⟨_, _, rfl⟩)
          · exact .inr (.inl ⟨_, _, rfl⟩)
          all_goals
            exact .inr (.inr ⟨nodeId, record, _, _,
              ⟨hacquired, ⟨hw, hhw, hindex⟩, hrecord, by simp [*]⟩, rfl⟩)

theorem advance_finished (count : Nat) (journal : JournalState) (answer : Answer) :
    (Call.advance platform config library ca world)^[count] (journal, .Finished answer) =
      (journal, .Finished answer) :=
  Function.iterate_fixed rfl count

theorem enrollAlone_of_finished (answer : Answer)
    (h : enroll platform s world.acquired world.draw req = .Finished answer) :
    enrollAlone platform config library ca world s req = (s, .Finished answer) := by
  rw [enrollAlone, h, advance_finished]

theorem enrollAlone_of_audit (operation : AdminOperation)
    (answer : Except Status Proto.EnrollResponse)
    (h : enroll platform s world.acquired world.draw req = .Audit operation answer) :
    enrollAlone platform config library ca world s req =
      ((clientWrite platform world.audit s (.RecordOperation operation)).1,
        .Finished (.Enrolled answer)) := by
  rw [enrollAlone, h]
  exact advance_finished platform config library ca world 3 _ _

-- The answer to an activation that fails says nothing about whether it was applied.
theorem enrollAlone_of_failed (nodeId : NodeId) (serial expires error : String)
    (applied : Option DateTime)
    (h : enroll platform s world.acquired world.draw req = .Activate nodeId req.csr serial expires)
    (hactivation : world.activation = .Failed error applied) :
    enrollAlone platform config library ca world s req =
      (applied.elim s fun now => (apply platform now s (.ActivateNode nodeId serial expires)).1,
        .Finished (.Enrolled (.error (raftFailed error)))) := by
  have hwrite : Call.advance platform config library ca world
      (s, .Activate nodeId req.csr serial expires) =
      (applied.elim s fun now => (apply platform now s (.ActivateNode nodeId serial expires)).1,
        .Finished (.Enrolled (.error (raftFailed error)))) := by
    simp only [Call.advance, hactivation]
    rfl
  rw [enrollAlone, h, Function.iterate_succ_apply, hwrite, advance_finished]

theorem activateNode_inactive (now : DateTime) (nodeId : NodeId) (serial expires : String)
    (record : NodeEnrollment) (hget : s.enrollments.get nodeId = some record)
    (hstate : record.state = .Registered ∨ record.state = .Inactive) :
    ((apply platform now s (.ActivateNode nodeId serial expires)).1.enrollments.get nodeId).map
        NodeEnrollment.state = some .Active ∧
      (apply platform now s (.ActivateNode nodeId serial expires)).2 =
        .EnrollmentResult nodeId .Active record.vclusterId := by
  rcases hstate with hstate | hstate <;>
    simp [apply, activateNode, withEnrollment_some _ _ _ _ hget, hstate, JournalState.putEnrollment]

-- After an accepted activation the answer is an error exactly if the signature fails, and the
-- activation is not taken back.
theorem enrollAlone_of_committed (nodeId : NodeId) (serial expires : String) (now : DateTime)
    (record : NodeEnrollment) (henrollable : Enrollable platform world s req nodeId record)
    (h : enroll platform s world.acquired world.draw req = .Activate nodeId req.csr serial expires)
    (hactivation : world.activation = .Committed now) :
    match ca.signCsr platform library world.signing req.csr nodeId config.domainId with
    | .error error => enrollAlone platform config library ca world s req =
        ((apply platform now s (.ActivateNode nodeId serial expires)).1,
          .Finished (.Enrolled (.error (signingFailed error))))
    | .ok signed => (enrollAlone platform config library ca world s req).2 =
        .Finished (.Enrolled (.ok (enrollResponse config nodeId record.vclusterId signed))) := by
  have hwrite : Call.advance platform config library ca world
      (s, .Activate nodeId req.csr serial expires) =
      ((apply platform now s (.ActivateNode nodeId serial expires)).1,
        .SignEnrollment nodeId req.csr record.vclusterId) := by
    simp only [Call.advance, hactivation, Call.write, Call.command, clientWrite, Call.resume,
      (activateNode_inactive platform s now nodeId serial expires record henrollable.enrolled
        henrollable.inactive).2]
  rw [enrollAlone, h, Function.iterate_succ_apply, hwrite, Function.iterate_succ_apply]
  cases hsign : ca.signCsr platform library world.signing req.csr nodeId config.domainId with
  | error error =>
    simp only [Call.advance, Call.sign, hsign, Option.getD_some]
    exact advance_finished platform config library ca world 2 _ _
  | ok signed =>
    simp only [Call.advance, Call.sign, hsign, Option.getD_some]
    rfl

theorem enrollAlone_answers : ∃ result, (enrollAlone platform config library ca world s req).2 =
    .Finished (.Enrolled result) := by
  rcases enroll_cases platform world s req with
    ⟨status, hcall⟩ | ⟨operation, status, hcall⟩ |
    ⟨nodeId, record, serial, expires, henrollable, hcall⟩
  · rw [enrollAlone_of_finished platform config library ca world s req _ hcall]
    exact ⟨_, rfl⟩
  · rw [enrollAlone_of_audit platform config library ca world s req operation _ hcall]
    exact ⟨_, rfl⟩
  · cases hactivation : world.activation with
    | Failed error applied =>
      rw [enrollAlone_of_failed platform config library ca world s req nodeId serial expires
        error applied hcall hactivation]
      exact ⟨_, rfl⟩
    | Committed now =>
      have halone := enrollAlone_of_committed platform config library ca world s req nodeId
        serial expires now record henrollable hcall hactivation
      split at halone
      · rw [halone]
        exact ⟨_, rfl⟩
      · exact ⟨_, halone⟩

theorem enrollAlone_stranded (h : Strands platform config library ca world s req) :
    (∃ status, (enrollAlone platform config library ca world s req).2 =
      .Finished (.Enrolled (.error status))) ∧
    ∃ nodeId, (enrollAlone platform config library ca world s req).1.enrollments.get nodeId ≠
      s.enrollments.get nodeId := by
  obtain ⟨nodeId, record, henrollable, hfails⟩ := h
  have hchanged : ∀ now serial expires,
      (apply platform now s (.ActivateNode nodeId serial expires)).1.enrollments.get nodeId ≠
        s.enrollments.get nodeId := by
    intro now serial expires heq
    have hactive := (activateNode_inactive platform s now nodeId serial expires record
      henrollable.enrolled henrollable.inactive).1
    rw [heq, henrollable.enrolled, Option.map_some, Option.some.injEq] at hactive
    simpa [hactive] using henrollable.inactive
  have hcall := enroll_of_enrollable platform world s req nodeId record henrollable
  rcases hfails with ⟨error, now, hactivation⟩ | ⟨⟨now, hactivation⟩, error, hsign⟩
  · rw [enrollAlone_of_failed platform config library ca world s req nodeId _ _ error (some now)
      hcall hactivation]
    exact ⟨⟨_, rfl⟩, nodeId, hchanged now _ _⟩
  · have halone := enrollAlone_of_committed platform config library ca world s req nodeId _ _ now
      record henrollable hcall hactivation
    simp only [hsign] at halone
    rw [halone]
    exact ⟨⟨_, rfl⟩, nodeId, hchanged now _ _⟩

theorem enrollAlone_kept (hnot : ¬Strands platform config library ca world s req) (status : Status)
    (h : (enrollAlone platform config library ca world s req).2 =
      .Finished (.Enrolled (.error status))) :
    (enrollAlone platform config library ca world s req).1.enrollments = s.enrollments ∧
      (enrollAlone platform config library ca world s req).1.hwIndex = s.hwIndex := by
  rcases enroll_cases platform world s req with
    ⟨other, hcall⟩ | ⟨operation, other, hcall⟩ |
    ⟨nodeId, record, serial, expires, henrollable, hcall⟩
  · rw [enrollAlone_of_finished platform config library ca world s req _ hcall]
    exact ⟨rfl, rfl⟩
  · rw [enrollAlone_of_audit platform config library ca world s req operation _ hcall]
    rcases clientWrite_cases platform world.audit s (.RecordOperation operation) with
      heq | ⟨_, now, heq⟩ <;> rw [heq] <;> exact ⟨rfl, rfl⟩
  · cases hactivation : world.activation with
    | Failed error applied =>
      cases applied with
      | none =>
        rw [enrollAlone_of_failed platform config library ca world s req nodeId serial expires
          error none hcall hactivation]
        exact ⟨rfl, rfl⟩
      | some now =>
        exact absurd ⟨nodeId, record, henrollable, .inl ⟨error, now, hactivation⟩⟩ hnot
    | Committed now =>
      have halone := enrollAlone_of_committed platform config library ca world s req nodeId
        serial expires now record henrollable hcall hactivation
      cases hsign : ca.signCsr platform library world.signing req.csr nodeId config.domainId with
      | error error =>
        exact absurd ⟨nodeId, record, henrollable, .inr ⟨⟨now, hactivation⟩, error, hsign⟩⟩ hnot
      | ok signed =>
        simp only [hsign] at halone
        rw [halone] at h
        cases h

-- An enroll call that fails leaves every record, and what a later enroll call meets, as they were,
-- exactly if no activation of it takes effect.
theorem failed_enroll_keeps_iff :
    (∀ status, (enrollAlone platform config library ca world s req).2 =
        .Finished (.Enrolled (.error status)) →
      (∀ nodeId, (enrollAlone platform config library ca world s req).1.enrollments.get nodeId =
        s.enrollments.get nodeId) ∧
      ∀ draw later,
        enroll platform (enrollAlone platform config library ca world s req).1 true draw later =
          enroll platform s true draw later) ↔
    ¬Strands platform config library ca world s req := by
  constructor
  · intro hkeeps hstrands
    obtain ⟨⟨status, hanswer⟩, nodeId, hchanged⟩ :=
      enrollAlone_stranded platform config library ca world s req hstrands
    exact hchanged ((hkeeps status hanswer).1 nodeId)
  · intro hnot status hanswer
    obtain ⟨henrollments, hindex⟩ :=
      enrollAlone_kept platform config library ca world s req hnot status hanswer
    refine ⟨fun nodeId => by rw [henrollments], fun draw later => ?_⟩
    simp only [enroll, henrollments, hindex]

end EnrollAlone

def sampleWorld (activation : Consensus) : EnrollWorld where
  acquired := true
  draw := ⟨0, "placeholder-1"⟩
  activation := activation
  signing := sampleDraw
  recording := .Committed 0
  auditDraw := ⟨0, "op-1"⟩
  audit := .Committed 0

def sampleEnroll (csr : List UInt8) : Proto.EnrollRequest :=
  ⟨some ⟨"aa:bb:cc:dd:ee:ff", "", .empty⟩, csr⟩

-- A registered node sends bytes that are no request, or the answer to its activation is lost. The
-- node stays active under the placeholder serial, and a correct request is refused.
theorem failed_enroll_strands_node :
    (enrollAlone .ascii sampleConfig sampleLibrary sampleCa (sampleWorld (.Committed 0))
      registeredSystem.journal (sampleEnroll [9])).2 = .Finished (.Enrolled (.error
        ⟨.Internal, "CSR signing failed: CSR parsing failed: invalid request"⟩)) ∧
    (enrollAlone .ascii sampleConfig sampleLibrary sampleCa
      (sampleWorld (.Failed "leader lost" (some 0))) registeredSystem.journal (sampleEnroll [1])).2 =
        .Finished (.Enrolled (.error ⟨.Internal, "Raft write failed: leader lost"⟩)) ∧
    (registeredSystem.journal.enrollments.get "node-1").map (fun record =>
      (record.state, record.certSerial)) = some (.Registered, none) ∧
    ∀ failed ∈ [((.Committed 0 : Consensus), [(9 : UInt8)]), (.Failed "leader lost" (some 0), [1])],
      ((enrollAlone .ascii sampleConfig sampleLibrary sampleCa (sampleWorld failed.1)
        registeredSystem.journal (sampleEnroll failed.2)).1.enrollments.get "node-1").map
          (fun record => (record.state, record.certSerial)) =
            some (.Active, some "placeholder-1") ∧
      enroll .ascii (enrollAlone .ascii sampleConfig sampleLibrary sampleCa (sampleWorld failed.1)
        registeredSystem.journal (sampleEnroll failed.2)).1 true ⟨0, "op-2"⟩ (sampleEnroll [1]) =
          .Audit (enrollmentOperation ⟨0, "op-2"⟩ .NodeEnroll "node-1" "REJECTED: ALREADY_ACTIVE")
            (.error ⟨.AlreadyExists, "ALREADY_ACTIVE"⟩) := by
  refine ⟨by decide +kernel, by decide +kernel, by decide +kernel, ?_⟩
  simp only [List.forall_mem_cons, List.not_mem_nil, false_imp_iff, implies_true, and_true]
  refine ⟨⟨by decide +kernel, by decide +kernel⟩, by decide +kernel, by decide +kernel⟩

end Pact.Journal.EnrollmentService
