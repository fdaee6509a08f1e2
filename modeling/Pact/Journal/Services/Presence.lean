import Pact.Journal.Services.Unwritten

namespace Pact.Journal

open Pact.Library Pact.Common EnrollmentService

-- When a write is applied, if it is.
def Consensus.time : Consensus → Option DateTime
  | .Committed now => some now
  | .Failed _ applied => applied

theorem clientWrite_time (platform : Platform) (consensus : Consensus) (s : JournalState)
    (cmd : JournalCommand) :
    (clientWrite platform consensus s cmd).1 =
      consensus.time.elim s fun now => (apply platform now s cmd).1 := by
  cases consensus <;> rfl

theorem apply_certified (platform : Platform) (now : DateTime) (s : JournalState)
    (cmd : JournalCommand) (nodeId : NodeId) (record : NodeEnrollment)
    (hget : s.enrollments.get nodeId = some record) (hcmd : certifiedNode cmd = some nodeId) :
    ((∃ reason, (apply platform now s cmd).2 = .ValidationError reason) ∧
      recordAfter platform now nodeId cmd record = record) ∨
    (∀ reason, (apply platform now s cmd).2 ≠ .ValidationError reason) ∧
      (recordAfter platform now nodeId cmd record).lastSeen = some now := by
  cases cmd with
  | ActivateNode other serial expires =>
    obtain rfl := Option.some.inj hcmd
    by_cases hrevoked : record.state = .Revoked
    · simp [apply, activateNode, withEnrollment, recordAfter, targetNode, hget, hrevoked]
    · by_cases hactive : record.state = .Active
      · simp [apply, activateNode, withEnrollment, recordAfter, targetNode, hget, hactive]
      · simp [apply, activateNode, withEnrollment, recordAfter, targetNode, hget, hrevoked, hactive]
  | UpdateNodeCert other serial expires =>
    obtain rfl := Option.some.inj hcmd
    simp [apply, updateNodeCert, withEnrollment, recordAfter, targetNode, hget]
  | _ => cases hcmd

section Presence

variable (config : ServiceConfig) (nodeId : NodeId)

-- The step commits a certificate of this node at this time, and the journal takes it.
def Certifies (services : Services) (step : ServiceStep) (seen : DateTime) : Prop :=
  ∃ index draw consensus call cmd, step = .Enrollment (.Write index draw consensus) ∧
    services.calls[index]? = some call ∧ call.command = some cmd ∧
    certifiedNode cmd = some nodeId ∧ consensus.time = some seen ∧
    ∀ reason, (apply config.platform seen services.journal cmd).2 ≠ .ValidationError reason

def Uncertified (services : Services) (step : ServiceStep) : Prop :=
  OwnStep services step ∧ ∀ seen, ¬Certifies config nodeId services step seen

-- The last certificate of the node in this run was committed at this time.
def LastCertified (steps : List ServiceStep) (services : Services) (seen : DateTime) : Prop :=
  ∃ before step rest earlier later, steps = before ++ step :: rest ∧
    Run (servicesNext config) OwnStep .start before earlier ∧
    Certifies config nodeId earlier step seen ∧ servicesNext config earlier step = some later ∧
    Run (servicesNext config) (Uncertified config nodeId) later rest services

section Step

variable {config} {nodeId} {services after : Services} {step : ServiceStep}

theorem certifiedNode_of_served (cmd : JournalCommand) (h : isServed cmd = true) :
    certifiedNode cmd = none := by
  cases cmd <;> first | rfl | cases h

theorem certified_called (cmd : JournalCommand) (hsubmitted : Submitted config services)
    (hown : OwnStep services step) (hissued : Issued config services step cmd)
    (hcmd : certifiedNode cmd = some nodeId) :
    ∃ index draw consensus call, step = .Enrollment (.Write index draw consensus) ∧
      services.calls[index]? = some call ∧ call.command = some cmd := by
  cases hissued with
  | Called index draw consensus call _ hget hcall =>
    exact ⟨index, draw, consensus, call, rfl, hget, hcall⟩
  | Submitted now index submission hget =>
    obtain ⟨s, clock, hrpc⟩ := hsubmitted submission (List.mem_of_getElem? hget)
    rw [certifiedNode_of_served _ (rpc_served _ _ s clock submission.rpc _ hrpc)] at hcmd
    cases hcmd
  | Assigned index consensus pending hget =>
    obtain ⟨seen, call⟩ := pending
    cases call <;> cases hcmd
  | Elsewhere now => exact absurd hown id
  | _ => cases hcmd

section Write

variable {index : Nat} {draw : Draw} {consensus : Consensus} {call : EnrollmentService.Call}
  {cmd : JournalCommand} (hindex : services.calls[index]? = some call)
  (hcmd : call.command = some cmd)

include hindex hcmd

theorem servicesNext_written
    (hnext : servicesNext config services (.Enrollment (.Write index draw consensus)) = some after) :
    after.journal = (clientWrite config.platform consensus services.journal cmd).1 := by
  simp only [servicesNext, EnrollmentService.next, hindex, hcmd, Option.bind_some, Option.map_some,
    Option.some.injEq] at hnext
  rw [← hnext]

theorem certifies_write_iff (hnode : certifiedNode cmd = some nodeId) (seen : DateTime) :
    Certifies config nodeId services (.Enrollment (.Write index draw consensus)) seen ↔
      consensus.time = some seen ∧ ∀ reason,
        (apply config.platform seen services.journal cmd).2 ≠ .ValidationError reason := by
  constructor
  · rintro ⟨_, _, _, other, _, heq, hother, hcommand, _, htime, htaken⟩
    cases heq
    obtain rfl := Option.some.inj (hindex.symm.trans hother)
    obtain rfl := Option.some.inj (hcmd.symm.trans hcommand)
    exact ⟨htime, htaken⟩
  · rintro ⟨htime, htaken⟩
    exact ⟨index, draw, consensus, call, cmd, rfl, hindex, hcmd, hnode, htime, htaken⟩

theorem write_seen (record : NodeEnrollment) (hnode : certifiedNode cmd = some nodeId)
    (hget : services.journal.enrollments.get nodeId = some record)
    (hnext : servicesNext config services (.Enrollment (.Write index draw consensus)) = some after) :
    ∃ kept, after.journal.enrollments.get nodeId = some kept ∧
      ((∃ seen, Certifies config nodeId services (.Enrollment (.Write index draw consensus)) seen ∧
          kept.lastSeen = some seen) ∨
        (∀ seen, ¬Certifies config nodeId services (.Enrollment (.Write index draw consensus)) seen) ∧
          kept.lastSeen = record.lastSeen) := by
  have hwritten := servicesNext_written hindex hcmd hnext
  simp only [certifies_write_iff hindex hcmd hnode]
  rw [clientWrite_time] at hwritten
  cases htime : consensus.time with
  | none =>
    rw [htime, Option.elim_none] at hwritten
    exact ⟨record, hwritten ▸ hget, .inr ⟨by simp, rfl⟩⟩
  | some now =>
    rw [htime, Option.elim_some] at hwritten
    refine ⟨recordAfter config.platform now nodeId cmd record, ?_, ?_⟩
    · rw [hwritten]
      exact apply_record config.platform now services.journal cmd nodeId record hget
    · rcases apply_certified config.platform now services.journal cmd nodeId record hget hnode with
        ⟨⟨reason, hreason⟩, hkept⟩ | ⟨htaken, hseen⟩
      · refine .inr ⟨?_, congrArg NodeEnrollment.lastSeen hkept⟩
        rintro seen ⟨hsame, htaken⟩
        obtain rfl := Option.some.inj hsame
        exact htaken reason hreason
      · exact .inl ⟨now, ⟨rfl, htaken⟩, hseen⟩

end Write

theorem servicesNext_seen (record : NodeEnrollment) (hserved : Served config services)
    (hget : services.journal.enrollments.get nodeId = some record)
    (hown : OwnStep services step) (hnext : servicesNext config services step = some after) :
    ∃ kept, after.journal.enrollments.get nodeId = some kept ∧
      ((∃ seen, Certifies config nodeId services step seen ∧ kept.lastSeen = some seen) ∨
        Uncertified config nodeId services step ∧ kept.lastSeen = record.lastSeen) := by
  by_cases hcall : ∃ index draw consensus call cmd,
      step = .Enrollment (.Write index draw consensus) ∧ services.calls[index]? = some call ∧
        call.command = some cmd ∧ certifiedNode cmd = some nodeId
  · obtain ⟨index, draw, consensus, call, cmd, rfl, hindex, hcmd, hnode⟩ := hcall
    obtain ⟨kept, hkept, hstep⟩ := write_seen hindex hcmd record hnode hget hnext
    exact ⟨kept, hkept, hstep.imp_right (And.imp_left fun hnot => ⟨hown, hnot⟩)⟩
  · have huncertified : Uncertified config nodeId services step := by
      refine ⟨hown, ?_⟩
      rintro _ ⟨index, draw, consensus, call, cmd, heq, hindex, hcmd, hnode, _⟩
      exact hcall ⟨index, draw, consensus, call, cmd, heq, hindex, hcmd, hnode⟩
    rcases servicesNext_writes hnext with hsame | ⟨now, cmd, hissued, hwritten⟩
    · exact ⟨record, hsame ▸ hget, .inr ⟨huncertified, rfl⟩⟩
    · refine ⟨recordAfter config.platform now nodeId cmd record, ?_, .inr ⟨huncertified, ?_⟩⟩
      · rw [hwritten]
        exact apply_record config.platform now services.journal cmd nodeId record hget
      · refine recordAfter_lastSeen config.platform now nodeId cmd record
          (issued_isIssued cmd hserved.submitted hown hissued) fun hnode => hcall ?_
        obtain ⟨index, draw, consensus, call, heq, hindex, hcmd⟩ :=
          certified_called cmd hserved.submitted hown hissued hnode
        exact ⟨index, draw, consensus, call, cmd, heq, hindex, hcmd, hnode⟩

theorem servicesNext_new (record : NodeEnrollment) (hserved : Served config services)
    (hnone : services.journal.enrollments.get nodeId = none)
    (hown : OwnStep services step) (hnext : servicesNext config services step = some after)
    (hget : after.journal.enrollments.get nodeId = some record) : record.lastSeen = none := by
  rcases servicesNext_writes hnext with hsame | ⟨now, cmd, hissued, hwritten⟩
  · rw [hsame, hnone] at hget
    cases hget
  · rw [hwritten] at hget
    rcases apply_enrolled config.platform now services.journal cmd nodeId record hget with
      ⟨_, hold, _⟩ | ⟨rfl, _⟩
    · cases hnone.symm.trans hold
    · exact (of_decide_eq_true (issued_isIssued _ hserved.submitted hown hissued)).2.1

end Step

-- By induction on the run from its end.
theorem run_lastCertified (steps : List ServiceStep) (services : Services)
    (record : NodeEnrollment) (seen : DateTime)
    (run : Run (servicesNext config) OwnStep .start steps services)
    (hget : services.journal.enrollments.get nodeId = some record)
    (hseen : record.lastSeen = some seen) : LastCertified config nodeId steps services seen := by
  induction steps using List.reverseRecOn generalizing services record with
  | nil =>
    cases run
    simp [Services.start, JournalState.default] at hget
  | append_singleton steps step ih =>
    obtain ⟨earlier, hbefore, hown, hnext⟩ := run.snoc_cases
    have hserved := run_served steps hbefore
    cases hold : earlier.journal.enrollments.get nodeId with
    | none =>
      rw [servicesNext_new record hserved hold hown hnext hget] at hseen
      cases hseen
    | some old =>
      obtain ⟨kept, hkept, hstep⟩ := servicesNext_seen old hserved hold hown hnext
      obtain rfl := Option.some.inj (hkept.symm.trans hget)
      rcases hstep with ⟨time, hcertifies, htime⟩ | ⟨huncertified, hsame⟩
      · obtain rfl := Option.some.inj (htime.symm.trans hseen)
        exact ⟨steps, step, [], earlier, services, rfl, hbefore, hcertifies, hnext, .nil services⟩
      · obtain ⟨before, certifying, rest, first, later, rfl, hrun, hcertifies, hlater, hrest⟩ :=
          ih earlier old hbefore hold (hsame.symm.trans hseen)
        exact ⟨before, certifying, rest ++ [step], first, later, by simp, hrun, hcertifies, hlater,
          hrest.append (.single huncertified hnext)⟩

theorem run_lastSeen (services last : Services) (steps : List ServiceStep) (record : NodeEnrollment)
    (hserved : Served config services)
    (hget : services.journal.enrollments.get nodeId = some record)
    (run : Run (servicesNext config) (Uncertified config nodeId) services steps last) :
    Served config last ∧ ∃ kept, last.journal.enrollments.get nodeId = some kept ∧
      kept.lastSeen = record.lastSeen := by
  refine run.invariant (fun state => Served config state ∧
    ∃ kept, state.journal.enrollments.get nodeId = some kept ∧ kept.lastSeen = record.lastSeen)
    ?_ ⟨hserved, record, hget, rfl⟩
  rintro state step after ⟨hstate, kept, hkept, hseen⟩ huncertified hnext
  obtain ⟨later, hlater, ⟨time, hcertifies, _⟩ | ⟨_, hsame⟩⟩ :=
    servicesNext_seen kept hstate hkept huncertified.1 hnext
  · exact absurd hcertifies (huncertified.2 time)
  · exact ⟨servicesNext_served hstate huncertified.1 hnext, later, hlater, hsame.trans hseen⟩

theorem mem_timedOut (s : JournalState) (now : DateTime) (timeoutSeconds : Nat)
    (record : NodeEnrollment) (seen : DateTime) (hkeyed : Keyed s)
    (hget : s.enrollments.get nodeId = some record) (hactive : record.state = .Active)
    (hseen : record.lastSeen = some seen) (hlate : seen + DateTime.seconds timeoutSeconds < now) :
    nodeId ∈ timedOut s now timeoutSeconds := by
  have hvalue : record ∈ s.enrollments.values :=
    List.mem_map.mpr ⟨(nodeId, record), (Map.mem_toList_iff _ _ _).mpr hget, rfl⟩
  refine List.mem_map.mpr ⟨record, List.mem_filter.mpr ⟨hvalue, ?_⟩, hkeyed nodeId record hget⟩
  have hpassed : now - seen > DateTime.seconds timeoutSeconds := Int.lt_sub_left_of_add_lt hlate
  simp [hactive, hseen, hpassed]

-- An active node was seen when its last certificate was committed, and nothing that it does
-- afterwards counts as a sign of life. Unless it gets another certificate, it is among the nodes
-- that have timed out once the time since then is over.
theorem presence_is_the_certificate (steps : List ServiceStep) (services : Services)
    (record : NodeEnrollment)
    (run : Run (servicesNext config) OwnStep .start steps services)
    (hget : services.journal.enrollments.get nodeId = some record)
    (hactive : record.state = .Active) :
    ∃ seen, record.lastSeen = some seen ∧ LastCertified config nodeId steps services seen ∧
      ∀ more last, Run (servicesNext config) (Uncertified config nodeId) services more last →
        ∃ kept, last.journal.enrollments.get nodeId = some kept ∧ kept.lastSeen = some seen ∧
          ∀ now, seen + DateTime.seconds config.timeoutSeconds < now → kept.state = .Active →
            nodeId ∈ timedOut last.journal now config.timeoutSeconds := by
  have hserved := run_served steps run
  obtain ⟨seen, hseen⟩ := Option.isSome_iff_exists.mp (hserved.bare.seen nodeId record hget hactive)
  refine ⟨seen, hseen, run_lastCertified config nodeId steps services record seen run hget hseen, ?_⟩
  intro more last hmore
  obtain ⟨hlast, kept, hkept, hsame⟩ :=
    run_lastSeen config nodeId services last more record hserved hget hmore
  rw [hseen] at hsame
  refine ⟨kept, hkept, hsame, ?_⟩
  intro now hlate hstill
  exact mem_timedOut nodeId last.journal now config.timeoutSeconds kept seen hlast.bare.keyed hkept
    hstill hsame hlate

end Presence

theorem presence_is_the_certificate_enrolled : ∃ (services : Services) (record : NodeEnrollment),
    services.journal.enrollments.get "node-1" = some record ∧ record.state = .Active ∧
      LastCertified adminServices "node-1" enrolledSteps services 0 ∧
      "node-1" ∈ timedOut services.journal (DateTime.seconds 301) 300 := by
  obtain ⟨services, record, hrun, hget, hactive, hseen⟩ := exists_enrolled
  obtain ⟨seen, hfound, hcertified, hlater⟩ := presence_is_the_certificate adminServices "node-1"
    enrolledSteps services record hrun hget hactive
  obtain ⟨kept, hkept, _, htimedOut⟩ := hlater [] services (.nil services)
  obtain rfl := Option.some.inj (hkept.symm.trans hget)
  obtain rfl := Option.some.inj (hfound.symm.trans hseen)
  exact ⟨services, kept, hget, hactive, hcertified, htimedOut _ (by decide) hactive⟩

-- Nobody counts the sessions on a node, so the refusal to decommission one in use is never given
-- and force makes no difference.
theorem force_makes_no_difference (config : ServiceConfig) (steps : List ServiceStep)
    (services : Services)
    (run : Run (servicesNext config) OwnStep .start steps services)
    (request : Request Proto.DecommissionNodeRequest) :
    decommissionNode config.enrollment services.journal request =
      decommissionNode config.enrollment services.journal
        { request with body := { request.body with force := true } } := by
  have hserved := run_served steps run
  unfold decommissionNode
  cases requirePlatformAdmin config.enrollment request.authorization with
  | error status => rfl
  | ok identity =>
    dsimp only
    cases hget : services.journal.enrollments.get request.body.nodeId with
    | none => rfl
    | some record =>
      have hsessions := hserved.bare.sessions request.body.nodeId record hget
      simp [hsessions]

theorem force_makes_no_difference_enrolled : ∃ services : Services,
    (services.journal.enrollments.get "node-1").isSome = true ∧
      decommissionNode sampleConfig services.journal ⟨adminToken, ⟨"node-1", false⟩⟩ =
        decommissionNode sampleConfig services.journal ⟨adminToken, ⟨"node-1", true⟩⟩ := by
  obtain ⟨services, record, hrun, hget, _, _⟩ := exists_enrolled
  exact ⟨services, by rw [hget]; rfl, force_makes_no_difference adminServices enrolledSteps services
    hrun ⟨adminToken, ⟨"node-1", false⟩⟩⟩

end Pact.Journal
