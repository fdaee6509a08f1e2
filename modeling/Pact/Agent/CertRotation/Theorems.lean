import Pact.Agent.CertRotation
import Pact.Journal.EnrollmentService.HardwareIndex

namespace Pact.Agent.CertRotation

open Pact.Library Pact.Common Pact.Journal Pact.Journal.EnrollmentService Pact.Journal.Ca

section Rotation

variable (platform : Platform) (config : Config) (library : CertificateLibrary) (ca : CaKeyManager)

-- The new certificate of the attempt is recorded for this node in the journal.
structure Takes (rotation : Rotation) (attempt : Attempt) (csrDer : List UInt8) (nodeId : NodeId)
    (signing : SignDraw) (signed : SignedCertResult) : Prop where
  key : ∃ newKeyPem, attempt.newKeyPem = .ok newKeyPem
  request : attempt.csrDer = .ok csrDer
  active : connectFirst attempt.active
    ⟨rotation.manager.caCertPem, rotation.manager.currentCertPem, rotation.manager.currentKeyPem⟩
    rotation.manager.journalEndpoints = .ok ()
  token : ∃ identity, config.validate "renewal-token" = .ok identity
  signs : ca.signCsr platform library signing csrDer nodeId config.domainId = .ok signed
  served : ∃ draw consensus lostReply, consensus.applies = true ∧
    attempt.rpc = .Served (some nodeId) signing draw consensus lostReply

-- The answer arrives at the agent, and the passive channel comes up with the new certificate.
def Completes (rotation : Rotation) (attempt : Attempt) (signed : SignedCertResult) : Prop :=
  (∃ found signing draw now, attempt.rpc = .Served found signing draw (.Committed now) none) ∧
  ∃ newKeyPem, attempt.newKeyPem = .ok newKeyPem ∧
    connectFirst attempt.passive ⟨rotation.manager.caCertPem, signed.certPem, newKeyPem⟩
      rotation.manager.journalEndpoints = .ok ()

theorem authenticate_renewalRequest (manager : DualChannelManager) (csrDer : List UInt8)
    (identity : Identity) :
    authenticate config (renewalRequest manager csrDer).authorization = .ok identity ↔
      config.validate "renewal-token" = .ok identity := by
  have htoken : stripPrefix "Bearer renewal-token" "Bearer " = some "renewal-token" := by decide
  simp only [authenticate, extractToken, renewalRequest, htoken]
  cases config.validate "renewal-token" <;> simp

-- All that an attempt can do: leave journal and agent as they are, have a certificate recorded
-- that the agent does not take over, or have the agent switch to it.
inductive Outcome (rotation : Rotation) (attempt : Attempt) : Rotation → Prop
  | Untouched
      (hnot : ∀ csrDer nodeId signing signed,
        ¬Takes platform config library ca rotation attempt csrDer nodeId signing signed) :
      Outcome rotation attempt rotation
  | Unswitched (csrDer : List UInt8) (nodeId : NodeId) (signing : SignDraw)
      (signed : SignedCertResult) (now : DateTime)
      (htakes : Takes platform config library ca rotation attempt csrDer nodeId signing signed)
      (hnot : ¬Completes rotation attempt signed) :
      Outcome rotation attempt
        ⟨(apply platform now rotation.journal
          (.UpdateNodeCert nodeId signed.certSerial signed.certExpiresAt)).1, rotation.manager⟩
  | Switched (csrDer : List UInt8) (nodeId : NodeId) (signing : SignDraw)
      (signed : SignedCertResult) (now : DateTime) (manager : DualChannelManager)
      (htakes : Takes platform config library ca rotation attempt csrDer nodeId signing signed)
      (hcompletes : Completes rotation attempt signed)
      (hserial : manager.currentCertSerial = signed.certSerial) :
      Outcome rotation attempt
        ⟨(apply platform now rotation.journal
          (.UpdateNodeCert nodeId signed.certSerial signed.certExpiresAt)).1, manager⟩

section Served

variable (rotation : Rotation) (attempt : Attempt) (newKeyPem : String) (csrDer : List UInt8)
  (found : Option NodeId) (signing : SignDraw) (draw : Draw) (consensus : Consensus)
  (lostReply : Option String)

theorem takes_served
    (hkey : attempt.newKeyPem = .ok newKeyPem) (hcsr : attempt.csrDer = .ok csrDer)
    (hactive : connectFirst attempt.active
      ⟨rotation.manager.caCertPem, rotation.manager.currentCertPem, rotation.manager.currentKeyPem⟩
      rotation.manager.journalEndpoints = .ok ())
    (hrpc : attempt.rpc = .Served found signing draw consensus lostReply)
    (nodeId : NodeId) (identity : Identity) (signed : SignedCertResult)
    (hfound : found = some nodeId)
    (hauth : authenticate config (renewalRequest rotation.manager csrDer).authorization =
      .ok identity)
    (hsigns : ca.signCsr platform library signing csrDer nodeId config.domainId = .ok signed)
    (happlies : consensus.applies = true) :
    Takes platform config library ca rotation attempt csrDer nodeId signing signed := by
  subst hfound
  have hvalid := (authenticate_renewalRequest config rotation.manager csrDer identity).mp hauth
  exact ⟨⟨newKeyPem, hkey⟩, hcsr, hactive, ⟨identity, hvalid⟩, hsigns, draw, consensus, lostReply,
    happlies, hrpc⟩

theorem not_takes_refused (hcsr : attempt.csrDer = .ok csrDer)
    (hrpc : attempt.rpc = .Served found signing draw consensus lostReply)
    (hnot : ∀ nodeId identity signed, found = some nodeId →
      authenticate config (renewalRequest rotation.manager csrDer).authorization = .ok identity →
      ca.signCsr platform library signing csrDer nodeId config.domainId = .ok signed →
      consensus.applies = false)
    (sent : List UInt8) (nodeId : NodeId) (drawn : SignDraw) (signed : SignedCertResult) :
    ¬Takes platform config library ca rotation attempt sent nodeId drawn signed := by
  intro htakes
  obtain rfl := Except.ok.inj (hcsr.symm.trans htakes.request)
  obtain ⟨identity, hvalid⟩ := htakes.token
  obtain ⟨_, _, _, happlies, hserved⟩ := htakes.served
  rw [hrpc, Rpc.Served.injEq] at hserved
  obtain ⟨hfound, rfl, _, rfl, _⟩ := hserved
  have hauth := (authenticate_renewalRequest config rotation.manager csrDer identity).mpr hvalid
  rw [hnot nodeId identity signed hfound hauth htakes.signs] at happlies
  cases happlies

theorem renew_served
    (hkey : attempt.newKeyPem = .ok newKeyPem) (hcsr : attempt.csrDer = .ok csrDer)
    (hactive : connectFirst attempt.active
      ⟨rotation.manager.caCertPem, rotation.manager.currentCertPem, rotation.manager.currentKeyPem⟩
      rotation.manager.journalEndpoints = .ok ())
    (hrpc : attempt.rpc = .Served found signing draw consensus lostReply) :
    Outcome platform config library ca rotation attempt
      (renew platform config library ca rotation attempt).1 := by
  have houtcome := renewThrough_outcome platform config library ca signing draw consensus
    rotation.journal found (renewalRequest rotation.manager csrDer)
  have htakes := takes_served platform config library ca rotation attempt newKeyPem csrDer found
    signing draw consensus lostReply hkey hcsr hactive hrpc
  simp only [renew, hkey, hcsr, hactive, hrpc, callRenewCert]
  generalize renewThrough platform config library ca signing draw consensus rotation.journal found
    (renewalRequest rotation.manager csrDer) = result at houtcome ⊢
  cases houtcome with
  | Refused status hnot =>
    have huntouched := Outcome.Untouched (not_takes_refused platform config library ca rotation
      attempt csrDer found signing draw consensus lostReply hcsr hrpc hnot)
    cases lostReply <;> exact huntouched
  | Unanswered nodeId identity signed now error hfound hauth hsigns hconsensus =>
    subst hconsensus
    have hunswitched := Outcome.Unswitched csrDer nodeId signing signed now
      (htakes nodeId identity signed hfound hauth hsigns rfl) (by simp [Completes, hrpc])
    cases lostReply <;> exact hunswitched
  | Granted nodeId identity signed now hfound hauth hsigns hconsensus =>
    subst hconsensus
    have htaken := htakes nodeId identity signed hfound hauth hsigns rfl
    cases lostReply with
    | some error =>
      exact .Unswitched csrDer nodeId signing signed now htaken (by simp [Completes, hrpc])
    | none =>
      cases hpassive : connectFirst attempt.passive
          ⟨rotation.manager.caCertPem, signed.certPem, newKeyPem⟩
          rotation.manager.journalEndpoints with
      | error error =>
        simp only [hpassive]
        exact .Unswitched csrDer nodeId signing signed now htaken
          (by simp [Completes, hkey, hpassive])
      | ok done =>
        simp only [hpassive]
        exact .Switched csrDer nodeId signing signed now _ htaken
          ⟨⟨_, _, _, _, hrpc⟩, newKeyPem, hkey, hpassive⟩ rfl

end Served

theorem renew_outcome (rotation : Rotation) (attempt : Attempt) :
    Outcome platform config library ca rotation attempt
      (renew platform config library ca rotation attempt).1 := by
  cases hkey : attempt.newKeyPem with
  | error error =>
    simp only [renew, hkey]
    exact .Untouched fun _ _ _ _ htakes => by simpa [hkey] using htakes.key
  | ok newKeyPem =>
    cases hcsr : attempt.csrDer with
    | error error =>
      simp only [renew, hkey, hcsr]
      exact .Untouched fun _ _ _ _ htakes => by simpa [hcsr] using htakes.request
    | ok csrDer =>
      cases hactive : connectFirst attempt.active ⟨rotation.manager.caCertPem,
          rotation.manager.currentCertPem, rotation.manager.currentKeyPem⟩
          rotation.manager.journalEndpoints with
      | error error =>
        simp only [renew, hkey, hcsr, hactive]
        exact .Untouched fun _ _ _ _ htakes => by simpa [hactive] using htakes.active
      | ok done =>
        cases hrpc : attempt.rpc with
        | Lost error =>
          simp only [renew, hkey, hcsr, hactive, hrpc, callRenewCert]
          exact .Untouched fun _ _ _ _ htakes => by simpa [hrpc] using htakes.served
        | Served found signing draw consensus lostReply =>
          exact renew_served platform config library ca rotation attempt newKeyPem csrDer
            found signing draw consensus lostReply hkey hcsr hactive hrpc

theorem takes_unique (rotation : Rotation) (attempt : Attempt) (csrDer otherDer : List UInt8)
    (nodeId other : NodeId) (signing drawn : SignDraw) (signed result : SignedCertResult)
    (h : Takes platform config library ca rotation attempt csrDer nodeId signing signed)
    (hother : Takes platform config library ca rotation attempt otherDer other drawn result) :
    nodeId = other ∧ signed = result := by
  obtain rfl := Except.ok.inj (h.request.symm.trans hother.request)
  obtain ⟨_, _, _, _, hserved⟩ := h.served
  obtain ⟨_, _, _, _, hserved'⟩ := hother.served
  rw [hserved, Rpc.Served.injEq, Option.some.injEq] at hserved'
  obtain ⟨rfl, rfl, _⟩ := hserved'
  exact ⟨rfl, Except.ok.inj (h.signs.symm.trans hother.signs)⟩

-- The journal holds the serial of the agent for its node.
def Accepted (nodeId : NodeId) (rotation : Rotation) : Prop :=
  nodeId ∈ renewable rotation.journal rotation.manager.currentCertSerial

instance (nodeId : NodeId) (rotation : Rotation) : Decidable (Accepted nodeId rotation) :=
  inferInstanceAs (Decidable (_ ∈ _))

-- A certificate is recorded for the node exactly by the attempts that the agent completes, or has
-- the serial of the old one.
def KeepsUp (nodeId : NodeId) (rotation : Rotation) (attempt : Attempt) : Prop :=
  ∀ csrDer recordedFor signing signed,
    Takes platform config library ca rotation attempt csrDer recordedFor signing signed →
    (recordedFor = nodeId ↔ Completes rotation attempt signed) ∨
      signed.certSerial = rotation.manager.currentCertSerial

theorem keepsUp_of_takes (nodeId recordedFor : NodeId) (rotation : Rotation) (attempt : Attempt)
    (csrDer : List UInt8) (signing : SignDraw) (signed : SignedCertResult)
    (h : Takes platform config library ca rotation attempt csrDer recordedFor signing signed) :
    KeepsUp platform config library ca nodeId rotation attempt ↔
      (recordedFor = nodeId ↔ Completes rotation attempt signed) ∨
        signed.certSerial = rotation.manager.currentCertSerial := by
  constructor
  · intro hkeeps
    exact hkeeps csrDer recordedFor signing signed h
  · intro hkeeps otherDer other drawn result hother
    obtain ⟨rfl, rfl⟩ := takes_unique platform config library ca rotation attempt csrDer otherDer
      recordedFor other signing drawn signed result h hother
    exact hkeeps

theorem mem_renewable_updateNodeCert (now : DateTime) (s : JournalState)
    (nodeId recordedFor : NodeId) (serial expires current wanted : String) (hkeyed : Keyed s)
    (hcurrent : nodeId ∈ renewable s current) :
    nodeId ∈ renewable (apply platform now s (.UpdateNodeCert recordedFor serial expires)).1 wanted ↔
      (if recordedFor = nodeId then serial else current) = wanted := by
  obtain ⟨record, hget, hserial⟩ := (mem_renewable_iff s current nodeId hkeyed).mp hcurrent
  rw [mem_renewable_iff _ wanted nodeId (apply_keyed platform now s _ hkeyed),
    apply_record platform now s _ nodeId record hget]
  by_cases hnode : recordedFor = nodeId
  · simp [recordAfter, targetNode, hnode]
  · simp [recordAfter, targetNode, hnode, hserial]

theorem renew_keyed (rotation : Rotation) (attempt : Attempt) (h : Keyed rotation.journal) :
    Keyed (renew platform config library ca rotation attempt).1.journal := by
  have houtcome := renew_outcome platform config library ca rotation attempt
  generalize (renew platform config library ca rotation attempt).1 = after at houtcome ⊢
  cases houtcome with
  | Untouched => exact h
  | Unswitched => exact apply_keyed platform _ _ _ h
  | Switched => exact apply_keyed platform _ _ _ h

theorem renew_accepted_iff (nodeId : NodeId) (rotation : Rotation) (attempt : Attempt)
    (hkeyed : Keyed rotation.journal) (haccepted : Accepted nodeId rotation) :
    Accepted nodeId (renew platform config library ca rotation attempt).1 ↔
      KeepsUp platform config library ca nodeId rotation attempt := by
  have houtcome := renew_outcome platform config library ca rotation attempt
  generalize (renew platform config library ca rotation attempt).1 = after at houtcome ⊢
  cases houtcome with
  | Untouched hnot =>
    refine ⟨fun _ csrDer recordedFor signing signed htakes => ?_, fun _ => haccepted⟩
    exact absurd htakes (hnot csrDer recordedFor signing signed)
  | Unswitched csrDer recordedFor signing signed now htakes hnot =>
    rw [keepsUp_of_takes platform config library ca nodeId recordedFor rotation attempt csrDer
      signing signed htakes, Accepted, mem_renewable_updateNodeCert platform now rotation.journal
      nodeId recordedFor _ _ _ _ hkeyed haccepted]
    by_cases hnode : recordedFor = nodeId <;> simp [hnot, hnode]
  | Switched csrDer recordedFor signing signed now manager htakes hcompletes hserial =>
    rw [keepsUp_of_takes platform config library ca nodeId recordedFor rotation attempt csrDer
      signing signed htakes, Accepted, mem_renewable_updateNodeCert platform now rotation.journal
      nodeId recordedFor _ _ _ _ hkeyed haccepted]
    by_cases hnode : recordedFor = nodeId <;> simp [hcompletes, hnode, hserial, eq_comm]

theorem loopNext_run (rotation after : Rotation) (tick : DateTime × Attempt)
    (h : loopNext platform config library ca rotation tick = some after) :
    ∃ attempts, Run (rotationNext platform config library ca) Unrestricted rotation attempts
      after := by
  unfold loopNext at h
  split_ifs at h
  · exact ⟨[tick.2], .single trivial h⟩
  · obtain rfl := Option.some.inj h
    exact ⟨[], .nil _⟩

theorem loop_run (rotation last : Rotation) (ticks : List (DateTime × Attempt))
    (run : Run (loopNext platform config library ca) Unrestricted rotation ticks last) :
    ∃ attempts, Run (rotationNext platform config library ca) Unrestricted rotation attempts
      last := by
  induction run with
  | nil rotation => exact ⟨[], .nil rotation⟩
  | cons _ hnext _ ih =>
    obtain ⟨first, hfirst⟩ := loopNext_run platform config library ca _ _ _ hnext
    obtain ⟨rest, hrest⟩ := ih
    exact ⟨first ++ rest, hfirst.append hrest⟩

-- With a serial that the journal holds for its node, the agent gets through as soon as nothing
-- goes wrong.
theorem renew_succeeds (nodeId : NodeId) (rotation : Rotation) (attempt : Attempt)
    (csrDer : List UInt8) (signing : SignDraw) (signed : SignedCertResult)
    (haccepted : Accepted nodeId rotation)
    (htakes : Takes platform config library ca rotation attempt csrDer nodeId signing signed)
    (hcompletes : Completes rotation attempt signed) :
    rotationNext platform config library ca rotation attempt =
        some (renew platform config library ca rotation attempt).1 ∧
      (renew platform config library ca rotation attempt).2 = .ok () := by
  obtain ⟨⟨newKeyPem, hkey⟩, hcsr, hactive, ⟨identity, hvalid⟩, hsigns, _, _, _, _, hserved⟩ := htakes
  obtain ⟨⟨found, drawn, draw, now, hrpc⟩, other, hother, hpassive⟩ := hcompletes
  obtain rfl := Except.ok.inj (hkey.symm.trans hother)
  rw [hrpc, Rpc.Served.injEq] at hserved
  obtain ⟨rfl, rfl, _⟩ := hserved
  constructor
  · exact if_pos (by simpa [Attempt.possible, hrpc, findsRenewable, Accepted] using haccepted)
  · have hauth := (authenticate_renewalRequest config rotation.manager csrDer identity).mpr hvalid
    have houtcome := renewThrough_outcome platform config library ca drawn draw (.Committed now)
      rotation.journal (some nodeId) (renewalRequest rotation.manager csrDer)
    simp only [renew, hkey, hcsr, hactive, hrpc, callRenewCert]
    generalize renewThrough platform config library ca drawn draw (.Committed now) rotation.journal
      (some nodeId) (renewalRequest rotation.manager csrDer) = result at houtcome ⊢
    cases houtcome with
    | Refused status hnot => cases hnot nodeId identity signed rfl hauth hsigns
    | Unanswered _ _ _ _ _ _ _ _ hconsensus => cases hconsensus
    | Granted recordedFor caller granted _ hfound _ hgranted _ =>
      obtain rfl := Option.some.inj hfound
      obtain rfl := Except.ok.inj (hgranted.symm.trans hsigns)
      simp only [hpassive]

-- Along a sequence of attempts the journal keeps accepting the serial of the agent exactly if
-- every certificate it records for the node is one that the agent takes over; and then a further
-- attempt can succeed.
theorem rotation_accepted_iff (commands : List Applied) (manager : DualChannelManager)
    (nodeId : NodeId) (attempts : List Attempt) (last : Rotation)
    (haccepted : Accepted nodeId ⟨(replay platform .default commands).1, manager⟩)
    (run : Run (rotationNext platform config library ca) Unrestricted
      ⟨(replay platform .default commands).1, manager⟩ attempts last) :
    ((∀ before rest middle, attempts = before ++ rest →
      Run (rotationNext platform config library ca) Unrestricted
        ⟨(replay platform .default commands).1, manager⟩ before middle →
      Accepted nodeId middle) ↔
    Run (rotationNext platform config library ca) (KeepsUp platform config library ca nodeId)
      ⟨(replay platform .default commands).1, manager⟩ attempts last) ∧
    ∀ rotation attempt csrDer signing signed, Accepted nodeId rotation →
      Takes platform config library ca rotation attempt csrDer nodeId signing signed →
      Completes rotation attempt signed →
      rotationNext platform config library ca rotation attempt =
          some (renew platform config library ca rotation attempt).1 ∧
        (renew platform config library ca rotation attempt).2 = .ok () := by
  refine ⟨?_, renew_succeeds platform config library ca nodeId⟩
  have hkeyed := (replay_hardwareIndexed platform commands).keyed
  have hnextKeyed : ∀ rotation attempt after, Keyed rotation.journal →
      rotationNext platform config library ca rotation attempt = some after →
      Keyed after.journal := by
    intro rotation attempt after hkeyed hnext
    unfold rotationNext at hnext
    split_ifs at hnext
    obtain rfl := Option.some.inj hnext
    exact renew_keyed platform config library ca rotation attempt hkeyed
  rw [← run.always_iff (fun rotation => Keyed rotation.journal ∧ Accepted nodeId rotation)
    (fun rotation attempt after h hnext => by
      have hkept := hnextKeyed rotation attempt after h.1 hnext
      unfold rotationNext at hnext
      split_ifs at hnext
      obtain rfl := Option.some.inj hnext
      rw [← renew_accepted_iff platform config library ca nodeId rotation attempt h.1 h.2]
      exact and_iff_right hkept)
    ⟨hkeyed, haccepted⟩]
  constructor
  · intro hall before rest middle hsplit hbefore
    exact ⟨hbefore.invariant (fun rotation => Keyed rotation.journal)
      (fun rotation attempt after h _ hnext => hnextKeyed rotation attempt after h hnext) hkeyed,
      hall before rest middle hsplit hbefore⟩
  · intro hall before rest middle hsplit hbefore
    exact (hall before rest middle hsplit hbefore).2

end Rotation

def renewalConfig : Config where
  domainId := "default"
  validate token :=
    if token = "renewal-token" then .ok ⟨"agent-node-1", .Service, "pact-service-agent"⟩
    else .error "unknown token"

def enrolledCommands : List Applied :=
  [⟨0, .RegisterNode (.sample "node-1" "aa:bb:cc:dd:ee:ff")⟩,
    ⟨0, .ActivateNode "node-1" "serial-1" "1970-01-04T00:00:00Z"⟩]

def enrolledRotation : Rotation where
  journal := (replay printingPlatform .default enrolledCommands).1
  manager := ⟨"serial-1", "1970-01-04T00:00:00Z", 43200, ["journal:9443"], "ca", "key-1", "cert-1"⟩

def dials (reachable : Bool) : Dial :=
  ⟨fun _ => .ok (), fun _ => .ok (), fun _ _ => reachable⟩

def sampleAttempt (lostReply : Option String) (passive : Bool) : Attempt where
  newKeyPem := .ok "key-2"
  csrDer := .ok [1]
  active := dials true
  rpc := .Served (some "node-1") sampleDraw ⟨0, ""⟩ (.Committed 0) lostReply
  passive := dials passive

theorem rotation_accepted_undisturbed :
    Accepted "node-1" (renew printingPlatform renewalConfig sampleLibrary sampleCa enrolledRotation
      (sampleAttempt none true)).1 := by
  have hstep : rotationNext printingPlatform renewalConfig sampleLibrary sampleCa enrolledRotation
      (sampleAttempt none true) = some (renew printingPlatform renewalConfig sampleLibrary sampleCa
        enrolledRotation (sampleAttempt none true)).1 := by
    decide +kernel
  have htakes : Takes printingPlatform renewalConfig sampleLibrary sampleCa enrolledRotation
      (sampleAttempt none true) [1] "node-1" sampleDraw sampleSigned :=
    ⟨⟨_, rfl⟩, rfl, by decide +kernel, ⟨_, rfl⟩, by decide +kernel, _, _, _, rfl, rfl⟩
  have hcompletes : Completes enrolledRotation (sampleAttempt none true) sampleSigned :=
    ⟨⟨_, _, _, _, rfl⟩, _, rfl, by decide +kernel⟩
  have hkeeps : KeepsUp printingPlatform renewalConfig sampleLibrary sampleCa "node-1"
      enrolledRotation (sampleAttempt none true) :=
    (keepsUp_of_takes _ _ _ _ "node-1" "node-1" _ _ _ _ _ htakes).mpr (.inl (by simp [hcompletes]))
  have hrun : Run (rotationNext printingPlatform renewalConfig sampleLibrary sampleCa) Unrestricted
      enrolledRotation [sampleAttempt none true] _ := .single trivial hstep
  exact (rotation_accepted_iff printingPlatform renewalConfig sampleLibrary sampleCa
    enrolledCommands enrolledRotation.manager "node-1" _ _ (by decide +kernel) hrun).1.mpr
    (.single hkeeps hstep) _ [] _ (List.append_nil _).symm hrun

def interruptedRotation : Rotation where
  journal := (apply printingPlatform 0 enrolledRotation.journal (.UpdateNodeCert "node-1"
    sampleSigned.certSerial sampleSigned.certExpiresAt)).1
  manager := enrolledRotation.manager

-- The reply is lost, or the passive channel does not come up, after the journal has recorded the
-- new serial. The agent keeps the old one, and its next attempt finds no enrollment.
theorem interrupted_renewal_strands_agent :
    Accepted "node-1" enrolledRotation ∧
    rotationNext printingPlatform renewalConfig sampleLibrary sampleCa enrolledRotation
      (sampleAttempt (some "connection reset") true) = some interruptedRotation ∧
    rotationNext printingPlatform renewalConfig sampleLibrary sampleCa enrolledRotation
      (sampleAttempt none false) = some interruptedRotation ∧
    ¬Accepted "node-1" interruptedRotation ∧
    renewable interruptedRotation.journal interruptedRotation.manager.currentCertSerial = [] ∧
    (renew printingPlatform renewalConfig sampleLibrary sampleCa interruptedRotation
      { sampleAttempt none true with
        rpc := .Served none sampleDraw ⟨0, ""⟩ (.Committed 0) none }).2 =
      .error (.Rpc ⟨.NotFound, "no enrollment for this certificate serial"⟩) := by
  refine ⟨by decide +kernel, by decide +kernel, by decide +kernel, by decide +kernel,
    by decide +kernel, by decide +kernel⟩

end Pact.Agent.CertRotation
