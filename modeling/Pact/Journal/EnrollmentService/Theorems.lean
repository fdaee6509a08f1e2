import Pact.Journal.EnrollmentService
import Pact.Journal.State.Lemmas

namespace Pact.Journal.EnrollmentService

open Pact.Library Pact.Common

-- The node that a call will sign or record a certificate for without another look at its state.
def Call.committedTo : Call → Option NodeId
  | .SignEnrollment nodeId _ _ => some nodeId
  | .RecordEnrollment nodeId _ _ => some nodeId
  | .SignRenewal nodeId _ => some nodeId
  | .RecordRenewal nodeId _ => some nodeId
  | _ => none

-- The step signs a CSR for the node, or gives its record another certificate serial.
def Issues (system after : System) (step : Step) (nodeId : NodeId) : Prop :=
  (∃ index call signed, step = .Sign index (.ok signed) ∧ system.calls[index]? = some call ∧
    call.committedTo = some nodeId) ∨
  ∃ record changed, system.journal.enrollments.get nodeId = some record ∧
    after.journal.enrollments.get nodeId = some changed ∧ changed.certSerial ≠ record.certSerial

-- No revocation takes effect while a call is committed to the node, and no renewal whose token
-- passes finds a revoked node.
def RevokesBetweenCalls (config : Config) (system : System) : Step → Prop
  | .Write index _ consensus => ∀ nodeId certSerial,
      system.calls[index]? = some (.Revoke nodeId certSerial) → consensus.applies = true →
      ∀ call ∈ system.calls, call.committedTo ≠ some nodeId
  | .RenewCert (some nodeId) request =>
    ∀ caller, authenticate config request.authorization = .ok caller →
      ¬Revoked system.journal nodeId
  | _ => True

def Unrevoked (s : JournalState) (nodeId : NodeId) : Prop :=
  ∃ record, s.enrollments.get nodeId = some record ∧ record.state ≠ .Revoked

theorem Unrevoked.not_revoked {s : JournalState} {nodeId : NodeId} (h : Unrevoked s nodeId) :
    ¬Revoked s nodeId := by
  obtain ⟨record, hget, hstate⟩ := h
  rintro ⟨other, hother, hrevoked⟩
  rw [hget] at hother
  obtain rfl := Option.some.inj hother
  exact hstate hrevoked

def Keyed (s : JournalState) : Prop :=
  ∀ key record, s.enrollments.get key = some record → record.nodeId = key

structure Sound (system : System) : Prop where
  keyed : Keyed system.journal
  committed : ∀ call ∈ system.calls, ∀ nodeId, call.committedTo = some nodeId →
    Unrevoked system.journal nodeId

section Records

variable (platform : Platform) (now : DateTime)

theorem recordAfter_nodeId (nodeId : NodeId) (cmd : JournalCommand) (record : NodeEnrollment) :
    (recordAfter platform now nodeId cmd record).nodeId = record.nodeId := by
  have houtcome := recordAfter_outcome platform now nodeId cmd record
  generalize recordAfter platform now nodeId cmd record = changed at houtcome ⊢
  cases houtcome <;> rfl

theorem apply_keyed (s : JournalState) (cmd : JournalCommand) (h : Keyed s) :
    Keyed (apply platform now s cmd).1 := by
  intro key changed hchanged
  rcases apply_enrolled platform now s cmd key changed hchanged with
    ⟨record, hget, rfl⟩ | ⟨_, hid, _, _⟩
  · rw [recordAfter_nodeId]
    exact h key record hget
  · exact hid

theorem recordAfter_unrevoked (nodeId : NodeId) (cmd : JournalCommand) (record : NodeEnrollment)
    (hstate : record.state ≠ .Revoked) (hcmd : cmd ≠ .RevokeNode nodeId) :
    (recordAfter platform now nodeId cmd record).state ≠ .Revoked := by
  have houtcome := recordAfter_outcome platform now nodeId cmd record
  generalize recordAfter platform now nodeId cmd record = changed at houtcome ⊢
  cases houtcome with
  | Revoked => exact absurd rfl hcmd
  | Activated | Deactivated => simp
  | _ => exact hstate

theorem apply_unrevoked (s : JournalState) (cmd : JournalCommand) (nodeId : NodeId)
    (h : Unrevoked s nodeId) (hcmd : cmd ≠ .RevokeNode nodeId) :
    Unrevoked (apply platform now s cmd).1 nodeId := by
  obtain ⟨record, hget, hstate⟩ := h
  exact ⟨_, apply_record platform now s cmd nodeId record hget,
    recordAfter_unrevoked platform now nodeId cmd record hstate hcmd⟩

theorem recordAfter_certSerial (nodeId : NodeId) (cmd : JournalCommand) (record : NodeEnrollment)
    (h : (recordAfter platform now nodeId cmd record).certSerial ≠ record.certSerial) :
    (∃ serial expires, cmd = .UpdateNodeCert nodeId serial expires) ∨
    ((∃ serial expires, cmd = .ActivateNode nodeId serial expires) ∧ record.state ≠ .Revoked) := by
  have houtcome := recordAfter_outcome platform now nodeId cmd record
  generalize recordAfter platform now nodeId cmd record = changed at houtcome h
  cases houtcome with
  | Certified serial expires => exact .inl ⟨serial, expires, rfl⟩
  | Activated serial expires hopen =>
    exact .inr ⟨⟨serial, expires, rfl⟩, fun hrevoked => hopen (.inl hrevoked)⟩
  | _ => exact absurd rfl h

theorem activateNode_open (s : JournalState) (nodeId other : NodeId) (serial expires : String)
    (state : EnrollmentState) (vclusterId : Option VClusterId)
    (h : (apply platform now s (.ActivateNode nodeId serial expires)).2 =
      .EnrollmentResult other state vclusterId) :
    ∃ record, s.enrollments.get nodeId = some record ∧
      ¬(record.state = .Revoked ∨ record.state = .Active) := by
  cases hget : s.enrollments.get nodeId with
  | none =>
    rw [apply_target_none platform now s (.ActivateNode nodeId serial expires) nodeId rfl hget] at h
    cases h
  | some record =>
    refine ⟨record, rfl, ?_⟩
    rintro (hstate | hstate) <;>
      simp [apply, activateNode, withEnrollment_some _ _ _ _ hget, hstate] at h

theorem activateNode_accepted (s : JournalState) (nodeId other : NodeId) (serial expires : String)
    (state : EnrollmentState) (vclusterId : Option VClusterId)
    (h : (apply platform now s (.ActivateNode nodeId serial expires)).2 =
      .EnrollmentResult other state vclusterId) :
    Unrevoked (apply platform now s (.ActivateNode nodeId serial expires)).1 nodeId := by
  obtain ⟨record, hget, hopen⟩ := activateNode_open _ _ _ _ _ _ _ _ _ h
  refine ⟨_, apply_record platform now s _ nodeId record hget, ?_⟩
  apply recordAfter_unrevoked
  · exact fun hrevoked => hopen (.inl hrevoked)
  · rintro ⟨⟩

end Records

theorem clientWrite_cases (platform : Platform) (consensus : Consensus) (s : JournalState)
    (cmd : JournalCommand) :
    (clientWrite platform consensus s cmd).1 = s ∨
    (consensus.applies = true ∧
      ∃ now, (clientWrite platform consensus s cmd).1 = (apply platform now s cmd).1) := by
  cases consensus with
  | Committed now => exact .inr ⟨rfl, now, rfl⟩
  | Failed error applied =>
    cases applied with
    | none => exact .inl rfl
    | some now => exact .inr ⟨rfl, now, rfl⟩

theorem enroll_committedTo (platform : Platform) (s : JournalState) (acquired : Bool) (draw : Draw)
    (req : Proto.EnrollRequest) : (enroll platform s acquired draw req).committedTo = none := by
  simp only [enroll]
  split_ifs
  · rfl
  · split
    · rfl
    · split
      · rfl
      · split
        · rfl
        · split <;> rfl

theorem renewCert_committedTo (config : Config) (found : Option NodeId)
    (request : Request Proto.RenewCertRequest) (nodeId : NodeId)
    (h : (renewCert config found request).committedTo = some nodeId) :
    found = some nodeId ∧ ∃ caller, authenticate config request.authorization = .ok caller := by
  simp only [renewCert] at h
  split at h
  · cases h
  · rename_i caller hcaller
    split at h
    · cases h
    · exact ⟨h, caller, hcaller⟩

theorem decommissionNode_committedTo (config : Config) (s : JournalState)
    (request : Request Proto.DecommissionNodeRequest) :
    (decommissionNode config s request).committedTo = none := by
  simp only [decommissionNode]
  split
  · rfl
  · split
    · split_ifs <;> rfl
    · rfl

theorem sign_committedTo (outcome : Except String SignedCertResult) (call signed : Call)
    (nodeId : NodeId) (hsign : call.sign outcome = some signed)
    (h : signed.committedTo = some nodeId) : call.committedTo = some nodeId := by
  cases call <;> simp only [Call.sign, reduceCtorEq] at hsign
  all_goals
    split at hsign
    · obtain rfl := Option.some.inj hsign
      cases h
    · obtain rfl := Option.some.inj hsign
      exact h

theorem resume_committedTo (config : Config) (draw : Draw) (result : Except String JournalResponse)
    (call : Call) (cmd : JournalCommand) (nodeId : NodeId) (hcmd : call.command = some cmd)
    (h : (call.resume config draw result).committedTo = some nodeId) :
    ∃ serial expires other state vclusterId, cmd = .ActivateNode nodeId serial expires ∧
      result = .ok (.EnrollmentResult other state vclusterId) := by
  cases call with
  | Activate target csr serial expires =>
    obtain rfl := Option.some.inj hcmd
    simp only [Call.resume] at h
    split at h
    · cases h
    · rename_i other state vclusterId
      obtain rfl := Option.some.inj h
      exact ⟨serial, expires, other, state, vclusterId, rfl, rfl⟩
    · cases h
    · cases h
  | RecordRenewal target signed =>
    simp only [Call.resume] at h
    split at h <;> cases h
  | Revoke target serial =>
    simp only [Call.resume] at h
    split at h <;> cases h
  | RecordEnrollment target vclusterId signed => cases h
  | Audit operation answer => cases h
  | SignEnrollment target csr vclusterId => cases hcmd
  | SignRenewal target csr => cases hcmd
  | Finished answer => cases hcmd

theorem command_revokeNode (call : Call) (nodeId : NodeId)
    (h : call.command = some (.RevokeNode nodeId)) :
    ∃ certSerial, call = .Revoke nodeId certSerial := by
  cases call with
  | Revoke target certSerial =>
    obtain rfl := JournalCommand.RevokeNode.inj (Option.some.inj h)
    exact ⟨certSerial, rfl⟩
  | _ => cases h

theorem command_updateNodeCert (call : Call) (nodeId : NodeId) (serial expires : String)
    (h : call.command = some (.UpdateNodeCert nodeId serial expires)) :
    call.committedTo = some nodeId := by
  cases call with
  | RecordEnrollment target vclusterId signed =>
    obtain ⟨rfl, _⟩ := JournalCommand.UpdateNodeCert.inj (Option.some.inj h)
    rfl
  | RecordRenewal target signed =>
    obtain ⟨rfl, _⟩ := JournalCommand.UpdateNodeCert.inj (Option.some.inj h)
    rfl
  | _ => cases h

theorem next_cases (platform : Platform) (config : Config) (system after : System) (step : Step)
    (h : next platform config system step = some after) :
    (∃ call, after = system.arrive call ∧ ∀ nodeId, call.committedTo = some nodeId →
      ∃ request caller, step = .RenewCert (some nodeId) request ∧
        authenticate config request.authorization = .ok caller ∧
        nodeId ∈ renewable system.journal request.body.currentCertSerial) ∨
    (∃ index outcome call signed, step = .Sign index outcome ∧
      system.calls[index]? = some call ∧ call.sign outcome = some signed ∧
      after = { system with calls := system.calls.set index signed }) ∨
    (∃ index draw consensus call cmd, step = .Write index draw consensus ∧
      system.calls[index]? = some call ∧ call.command = some cmd ∧
      after = ⟨(clientWrite platform consensus system.journal cmd).1, system.calls.set index
        (call.resume config draw (clientWrite platform consensus system.journal cmd).2)⟩) ∨
    ∃ now cmd, step = .Background now cmd ∧ isElsewhere cmd = true ∧
      after = { system with journal := (apply platform now system.journal cmd).1 } := by
  cases step with
  | Enroll acquired draw req =>
    refine .inl ⟨_, (Option.some.inj h).symm, ?_⟩
    intro nodeId hcommitted
    rw [enroll_committedTo] at hcommitted
    cases hcommitted
  | RenewCert found request =>
    simp only [next] at h
    split_ifs at h with hfound
    refine .inl ⟨_, (Option.some.inj h).symm, ?_⟩
    intro nodeId hcommitted
    obtain ⟨rfl, caller, hcaller⟩ := renewCert_committedTo config found request nodeId hcommitted
    exact ⟨request, caller, rfl, hcaller, by simpa [findsRenewable] using hfound⟩
  | DecommissionNode request =>
    refine .inl ⟨_, (Option.some.inj h).symm, ?_⟩
    intro nodeId hcommitted
    rw [decommissionNode_committedTo] at hcommitted
    cases hcommitted
  | Sign index outcome =>
    simp only [next, Option.map_eq_some_iff, Option.bind_eq_some_iff] at h
    obtain ⟨signed, ⟨call, hget, hsign⟩, rfl⟩ := h
    exact .inr (.inl ⟨index, outcome, call, signed, rfl, hget, hsign, rfl⟩)
  | Write index draw consensus =>
    simp only [next, Option.map_eq_some_iff, Option.bind_eq_some_iff] at h
    obtain ⟨call, hget, cmd, hcmd, rfl⟩ := h
    exact .inr (.inr (.inl ⟨index, draw, consensus, call, cmd, rfl, hget, hcmd, rfl⟩))
  | Background now cmd =>
    simp only [next] at h
    split_ifs at h with helsewhere
    exact .inr (.inr (.inr ⟨now, cmd, rfl, helsewhere, (Option.some.inj h).symm⟩))

theorem mem_renewable_iff (s : JournalState) (certSerial : String) (nodeId : NodeId)
    (hkeyed : Keyed s) :
    nodeId ∈ renewable s certSerial ↔
      ∃ record, s.enrollments.get nodeId = some record ∧ record.certSerial = some certSerial := by
  simp only [renewable, List.mem_map, List.mem_filter, Map.mem_values_iff, decide_eq_true_eq]
  constructor
  · rintro ⟨record, ⟨⟨key, hget⟩, hserial⟩, rfl⟩
    rw [hkeyed key record hget]
    exact ⟨record, hget, hserial⟩
  · rintro ⟨record, hget, hserial⟩
    exact ⟨record, ⟨⟨nodeId, hget⟩, hserial⟩, hkeyed nodeId record hget⟩

theorem unrevoked_of_not_revoked (s : JournalState) (nodeId : NodeId) (record : NodeEnrollment)
    (hget : s.enrollments.get nodeId = some record) (h : ¬Revoked s nodeId) : Unrevoked s nodeId :=
  ⟨record, hget, fun hstate => h ⟨record, hget, hstate⟩⟩

theorem clientWrite_keyed (platform : Platform) (consensus : Consensus) (s : JournalState)
    (cmd : JournalCommand) (h : Keyed s) : Keyed (clientWrite platform consensus s cmd).1 := by
  rcases clientWrite_cases platform consensus s cmd with heq | ⟨_, now, heq⟩
  · rwa [heq]
  · rw [heq]
    exact apply_keyed platform now s cmd h

theorem clientWrite_unrevoked (platform : Platform) (consensus : Consensus) (s : JournalState)
    (cmd : JournalCommand) (nodeId : NodeId) (h : Unrevoked s nodeId)
    (hcmd : consensus.applies = true → cmd ≠ .RevokeNode nodeId) :
    Unrevoked (clientWrite platform consensus s cmd).1 nodeId := by
  rcases clientWrite_cases platform consensus s cmd with heq | ⟨happlies, now, heq⟩
  · rwa [heq]
  · rw [heq]
    exact apply_unrevoked platform now s cmd nodeId h (hcmd happlies)

theorem clientWrite_activated (platform : Platform) (consensus : Consensus) (s : JournalState)
    (nodeId other : NodeId) (serial expires : String) (state : EnrollmentState)
    (vclusterId : Option VClusterId)
    (h : (clientWrite platform consensus s (.ActivateNode nodeId serial expires)).2 =
      .ok (.EnrollmentResult other state vclusterId)) :
    Unrevoked (clientWrite platform consensus s (.ActivateNode nodeId serial expires)).1 nodeId := by
  cases consensus with
  | Committed now =>
    exact activateNode_accepted platform now s nodeId other serial expires state vclusterId
      (Except.ok.inj h)
  | Failed error applied => cases h

theorem next_sound (platform : Platform) (config : Config) (system after : System) (step : Step)
    (hsound : Sound system) (hallowed : RevokesBetweenCalls config system step)
    (hnext : next platform config system step = some after) : Sound after := by
  rcases next_cases platform config system after step hnext with
    ⟨call, rfl, hcall⟩ | ⟨index, outcome, call, signed, rfl, hget, hsign, rfl⟩ |
    ⟨index, draw, consensus, call, cmd, rfl, hget, hcmd, rfl⟩ | ⟨now, cmd, rfl, helsewhere, rfl⟩
  · refine ⟨hsound.keyed, ?_⟩
    intro other hmem nodeId hcommitted
    rcases List.mem_append.mp hmem with hold | hnew
    · exact hsound.committed other hold nodeId hcommitted
    · obtain rfl := List.mem_singleton.mp hnew
      obtain ⟨request, caller, rfl, hcaller, hfound⟩ := hcall nodeId hcommitted
      obtain ⟨record, hrecord, _⟩ := (mem_renewable_iff _ _ nodeId hsound.keyed).mp hfound
      exact unrevoked_of_not_revoked _ nodeId record hrecord (hallowed caller hcaller)
  · refine ⟨hsound.keyed, ?_⟩
    intro other hmem nodeId hcommitted
    rcases List.mem_or_eq_of_mem_set hmem with hold | rfl
    · exact hsound.committed other hold nodeId hcommitted
    · exact hsound.committed call (List.mem_of_getElem? hget) nodeId
        (sign_committedTo outcome call other nodeId hsign hcommitted)
  · refine ⟨clientWrite_keyed platform consensus _ cmd hsound.keyed, ?_⟩
    intro other hmem nodeId hcommitted
    rcases List.mem_or_eq_of_mem_set hmem with hold | rfl
    · apply clientWrite_unrevoked platform consensus _ cmd nodeId
        (hsound.committed other hold nodeId hcommitted)
      rintro happlies rfl
      obtain ⟨certSerial, rfl⟩ := command_revokeNode call nodeId hcmd
      exact hallowed nodeId certSerial hget happlies other hold hcommitted
    · obtain ⟨serial, expires, target, state, vclusterId, rfl, hresult⟩ :=
        resume_committedTo config draw _ call cmd nodeId hcmd hcommitted
      exact clientWrite_activated platform consensus _ nodeId target serial expires state vclusterId
        hresult
  · refine ⟨apply_keyed platform now _ cmd hsound.keyed, ?_⟩
    intro other hmem nodeId hcommitted
    apply apply_unrevoked platform now _ cmd nodeId (hsound.committed other hmem nodeId hcommitted)
    rintro rfl
    cases helsewhere

theorem apply_serialChanged (platform : Platform) (now : DateTime) (s : JournalState)
    (cmd : JournalCommand) (nodeId : NodeId) (record changed : NodeEnrollment)
    (hrecord : s.enrollments.get nodeId = some record)
    (hchanged : (apply platform now s cmd).1.enrollments.get nodeId = some changed)
    (hserial : changed.certSerial ≠ record.certSerial) :
    (∃ serial expires, cmd = .UpdateNodeCert nodeId serial expires) ∨
    ((∃ serial expires, cmd = .ActivateNode nodeId serial expires) ∧ Unrevoked s nodeId) := by
  rw [apply_record platform now s cmd nodeId record hrecord] at hchanged
  obtain rfl := Option.some.inj hchanged
  rcases recordAfter_certSerial platform now nodeId cmd record hserial with h | ⟨h, hstate⟩
  · exact .inl h
  · exact .inr ⟨h, record, hrecord, hstate⟩

theorem sound_issues (platform : Platform) (config : Config) (system after : System) (step : Step)
    (nodeId : NodeId) (hsound : Sound system)
    (hnext : next platform config system step = some after)
    (hissues : Issues system after step nodeId) : Unrevoked system.journal nodeId := by
  rcases hissues with ⟨_, call, _, rfl, hget, hcommitted⟩ | ⟨record, changed, hrecord, hchanged, hserial⟩
  · exact hsound.committed call (List.mem_of_getElem? hget) nodeId hcommitted
  · have hmoved : after.journal ≠ system.journal := by
      intro hjournal
      rw [hjournal, hrecord] at hchanged
      exact hserial (congrArg NodeEnrollment.certSerial (Option.some.inj hchanged)).symm
    rcases next_cases platform config system after step hnext with
      ⟨call, rfl, _⟩ | ⟨index, outcome, call, signed, rfl, _, _, rfl⟩ |
      ⟨index, draw, consensus, call, cmd, rfl, hget, hcmd, rfl⟩ | ⟨now, cmd, rfl, helsewhere, rfl⟩
    · exact absurd rfl hmoved
    · exact absurd rfl hmoved
    · rcases clientWrite_cases platform consensus system.journal cmd with heq | ⟨_, now, heq⟩
      · exact absurd heq hmoved
      · dsimp only at hchanged
        rw [heq] at hchanged
        rcases apply_serialChanged platform now system.journal cmd nodeId record changed hrecord
          hchanged hserial with ⟨serial, expires, rfl⟩ | ⟨_, hunrevoked⟩
        · exact hsound.committed call (List.mem_of_getElem? hget) nodeId
            (command_updateNodeCert call nodeId serial expires hcmd)
        · exact hunrevoked
    · rcases apply_serialChanged platform now system.journal cmd nodeId record changed hrecord
        hchanged hserial with ⟨serial, expires, rfl⟩ | ⟨_, hunrevoked⟩
      · cases helsewhere
      · exact hunrevoked

theorem sound_start : Sound ⟨.default, []⟩ := by
  refine ⟨?_, fun _ hmem => (List.not_mem_nil hmem).elim⟩
  intro key record hget
  simp [JournalState.default] at hget

-- In a run whose revocations fall between the calls for their node, and whose renewals find no
-- revoked node unless they are turned down, no step issues a certificate for a revoked node.
theorem certificates_not_for_revoked (platform : Platform) (config : Config) (steps : List Step)
    (system after : System) (step : Step) (nodeId : NodeId)
    (run : Run (next platform config) (RevokesBetweenCalls config) ⟨.default, []⟩ steps system)
    (hnext : next platform config system step = some after)
    (hissues : Issues system after step nodeId) : ¬Revoked system.journal nodeId := by
  have hsound : Sound system := run.invariant Sound
    (fun system step after hsound hallowed hnext =>
      next_sound platform config system after step hsound hallowed hnext) sound_start
  exact (sound_issues platform config system after step nodeId hsound hnext hissues).not_revoked

def sampleConfig : Config where
  domainId := "default"
  validate token :=
    if token = "admin-token" then .ok ⟨"admin", .Human, "pact-platform-admin"⟩
    else .error "unknown token"

def sampleCert : SignedCertResult :=
  ⟨"cert", "ca", "serial-1", "1970-01-04T00:00:00+00:00"⟩

def enrollSteps : List Step :=
  [.Background 0 (.RegisterNode (.sample "node-1" "aa:bb:cc:dd:ee:ff")),
    .Enroll true ⟨0, "placeholder-1"⟩ ⟨some ⟨"aa:bb:cc:dd:ee:ff", "", .empty⟩, []⟩,
    .Write 0 ⟨0, ""⟩ (.Committed 0)]

def registeredSystem : System :=
  ⟨(apply .ascii 0 .default (.RegisterNode (.sample "node-1" "aa:bb:cc:dd:ee:ff"))).1, []⟩

def activatingSystem : System :=
  registeredSystem.arrive (.Activate "node-1" [] "placeholder-1" "1970-01-04T00:00:00+00:00")

def activatedSystem : System :=
  ⟨(apply .ascii 0 registeredSystem.journal
    (.ActivateNode "node-1" "placeholder-1" "1970-01-04T00:00:00+00:00")).1,
    [.SignEnrollment "node-1" [] none]⟩

theorem certificates_not_for_revoked_enrollment : ¬Revoked activatedSystem.journal "node-1" := by
  have hactivate : Run (next .ascii sampleConfig) (RevokesBetweenCalls sampleConfig) activatingSystem
      [.Write 0 ⟨0, ""⟩ (.Committed 0)] activatedSystem := by
    refine .single ?_ (by decide +kernel)
    intro nodeId certSerial hcall
    simp [activatingSystem, registeredSystem, System.arrive] at hcall
  have henroll : Run (next .ascii sampleConfig) (RevokesBetweenCalls sampleConfig) registeredSystem
      [.Enroll true ⟨0, "placeholder-1"⟩ ⟨some ⟨"aa:bb:cc:dd:ee:ff", "", .empty⟩, []⟩,
        .Write 0 ⟨0, ""⟩ (.Committed 0)] activatedSystem :=
    .cons trivial (by decide +kernel) hactivate
  have hrun : Run (next .ascii sampleConfig) (RevokesBetweenCalls sampleConfig) ⟨.default, []⟩ enrollSteps
      activatedSystem := .cons trivial rfl henroll
  exact certificates_not_for_revoked .ascii sampleConfig enrollSteps activatedSystem
    { activatedSystem with calls := [.RecordEnrollment "node-1" none sampleCert] }
    (.Sign 0 (.ok sampleCert)) "node-1" hrun rfl (.inl ⟨0, _, sampleCert, rfl, rfl, rfl⟩)

-- An administrator decommissions the node while its enrollment is in flight.
def revokeSteps : List Step :=
  [.DecommissionNode ⟨some (.Text "Bearer admin-token"), ⟨"node-1", false⟩⟩,
    .Write 1 ⟨0, ""⟩ (.Committed 0)]

def revokedSystem : System :=
  ⟨(apply .ascii 0 activatedSystem.journal (.RevokeNode "node-1")).1,
    [.SignEnrollment "node-1" [] none,
      .Finished (.Decommissioned (.ok ⟨"node-1", "Revoked", 0, "placeholder-1"⟩))]⟩

def signedSystem : System :=
  { revokedSystem with calls := revokedSystem.calls.set 0 (.RecordEnrollment "node-1" none sampleCert) }

def recordedSystem : System :=
  ⟨(apply .ascii 0 revokedSystem.journal
    (.UpdateNodeCert "node-1" "serial-1" "1970-01-04T00:00:00+00:00")).1,
    revokedSystem.calls.set 0 (.Audit (enrollmentOperation ⟨0, "op-1"⟩ .NodeEnroll "node-1"
      "SUCCESS: node activated, cert_serial=serial-1")
      (.ok (enrollResponse sampleConfig "node-1" none sampleCert)))⟩

-- The enrollment then signs for the revoked node and records the new serial.
theorem certificate_for_revoked_node :
    exec (next .ascii sampleConfig) ⟨.default, []⟩ (enrollSteps ++ revokeSteps) =
      some revokedSystem ∧
    Revoked revokedSystem.journal "node-1" ∧
    next .ascii sampleConfig revokedSystem (.Sign 0 (.ok sampleCert)) = some signedSystem ∧
    Issues revokedSystem signedSystem (.Sign 0 (.ok sampleCert)) "node-1" ∧
    Revoked signedSystem.journal "node-1" ∧
    next .ascii sampleConfig signedSystem (.Write 0 ⟨0, "op-1"⟩ (.Committed 0)) =
      some recordedSystem ∧
    Issues signedSystem recordedSystem (.Write 0 ⟨0, "op-1"⟩ (.Committed 0)) "node-1" := by
  refine ⟨by decide +kernel, by decide, rfl, .inl ⟨0, _, sampleCert, rfl, rfl, rfl⟩, by decide,
    by decide +kernel, .inr ?_⟩
  exact ⟨_, _, rfl, rfl, by decide⟩

end Pact.Journal.EnrollmentService
