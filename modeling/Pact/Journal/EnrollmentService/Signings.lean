import Pact.Journal.EnrollmentService.Theorems
import Pact.Library.Trace

namespace Pact.Journal.EnrollmentService

open Pact.Library Pact.Common

-- The service next to writers of the journal that are free in what they write.
def openNext (platform : Platform) (config : Config) (system : System) : Step → Option System
  | .Background now cmd => some { system with journal := (apply platform now system.journal cmd).1 }
  | step => next platform config system step

inductive Event
  | Applied (cmd : JournalCommand) (response : JournalResponse)
  | EnrollmentSigned (nodeId : NodeId)

-- A command that reaches the state machine, also where its caller hears of a failure.
def appliedBy (platform : Platform) (s : JournalState) (cmd : JournalCommand) :
    Consensus → List Event
  | .Committed now => [.Applied cmd (apply platform now s cmd).2]
  | .Failed _ (some now) => [.Applied cmd (apply platform now s cmd).2]
  | .Failed _ none => []

def observe (platform : Platform) (system : System) : Step → List Event
  | .Sign index (.ok _) =>
    match system.calls[index]? with
    | some (.SignEnrollment nodeId _ _) => [.EnrollmentSigned nodeId]
    | _ => []
  | .Write index _ consensus =>
    match (system.calls[index]?).bind Call.command with
    | some cmd => appliedBy platform system.journal cmd consensus
    | none => []
  | .Background now cmd => [.Applied cmd (apply platform now system.journal cmd).2]
  | _ => []

def Event.signs (nodeId : NodeId) : Event → Bool
  | .EnrollmentSigned target => target = nodeId
  | .Applied _ _ => false

def Event.activates (nodeId : NodeId) : Event → Bool
  | .Applied (.ActivateNode target _ _) (.EnrollmentResult _ _ _) => target = nodeId
  | _ => false

def Event.deactivates (nodeId : NodeId) : Event → Bool
  | .Applied (.DeactivateNode target) _ => target = nodeId
  | _ => false

def Call.aboutToSign (nodeId : NodeId) : Call → Bool
  | .SignEnrollment target _ _ => target = nodeId
  | _ => false

theorem aboutToSign_committedTo (call : Call) (nodeId : NodeId)
    (h : call.aboutToSign nodeId = true) : call.committedTo = some nodeId := by
  cases call with
  | SignEnrollment target csr vclusterId =>
    obtain rfl : target = nodeId := by simpa [Call.aboutToSign] using h
    rfl
  | _ => cases h

theorem aboutToSign_of_uncommitted (call : Call) (nodeId : NodeId) (h : call.committedTo = none) :
    call.aboutToSign nodeId = false := by
  cases call with
  | SignEnrollment target csr vclusterId => cases h
  | _ => rfl

theorem sign_aboutToSign (outcome : Except String SignedCertResult) (call signed : Call)
    (nodeId : NodeId) (h : call.sign outcome = some signed) : signed.aboutToSign nodeId = false := by
  cases call <;> simp only [Call.sign, reduceCtorEq] at h
  all_goals
    split at h <;> obtain rfl := Option.some.inj h <;> rfl

theorem observe_sign (platform : Platform) (system : System) (index : Nat)
    (outcome : Except String SignedCertResult) (call : Call) (nodeId : NodeId)
    (hget : system.calls[index]? = some call) :
    (observe platform system (.Sign index outcome)).countP (Event.signs nodeId) ≤
      (call.aboutToSign nodeId).toNat := by
  cases outcome with
  | error error => simp [observe]
  | ok signed =>
    cases call with
    | SignEnrollment target csr vclusterId =>
      by_cases htarget : target = nodeId <;>
        simp [observe, hget, Event.signs, Call.aboutToSign, htarget]
    | _ => simp [observe, hget]

theorem observe_write (platform : Platform) (system : System) (index : Nat) (draw : Draw)
    (consensus : Consensus) (call : Call) (cmd : JournalCommand)
    (hget : system.calls[index]? = some call) (hcmd : call.command = some cmd) :
    observe platform system (.Write index draw consensus) =
      appliedBy platform system.journal cmd consensus := by
  simp [observe, hget, hcmd]

theorem appliedBy_signs (platform : Platform) (s : JournalState) (cmd : JournalCommand)
    (consensus : Consensus) (nodeId : NodeId) :
    (appliedBy platform s cmd consensus).countP (Event.signs nodeId) = 0 := by
  unfold appliedBy
  split <;> rfl

theorem resume_aboutToSign (platform : Platform) (config : Config) (draw : Draw)
    (consensus : Consensus) (s : JournalState) (call : Call) (cmd : JournalCommand)
    (nodeId : NodeId) (hcmd : call.command = some cmd) :
    ((call.resume config draw (clientWrite platform consensus s cmd).2).aboutToSign nodeId).toNat ≤
      (appliedBy platform s cmd consensus).countP (Event.activates nodeId) := by
  cases hsigns : (call.resume config draw (clientWrite platform consensus s cmd).2).aboutToSign
      nodeId with
  | false => exact Nat.zero_le _
  | true =>
    obtain ⟨serial, expires, other, state, vclusterId, rfl, hresult⟩ :=
      resume_committedTo config draw _ call cmd nodeId hcmd
        (aboutToSign_committedTo _ nodeId hsigns)
    cases consensus with
    | Failed error applied => cases hresult
    | Committed now =>
      have hresponse : (apply platform now s (.ActivateNode nodeId serial expires)).2 =
          .EnrollmentResult other state vclusterId := Except.ok.inj hresult
      simp [appliedBy, hresponse, Event.activates]

theorem renewCert_aboutToSign (config : Config) (found : Option NodeId)
    (request : Request Proto.RenewCertRequest) (nodeId : NodeId) :
    (renewCert config found request).aboutToSign nodeId = false := by
  simp only [renewCert]
  split
  · rfl
  · split <;> rfl

theorem countP_arrive (system : System) (call : Call) (nodeId : NodeId)
    (h : call.aboutToSign nodeId = false) :
    (system.arrive call).calls.countP (Call.aboutToSign nodeId) =
      system.calls.countP (Call.aboutToSign nodeId) := by
  simp [System.arrive, h]

theorem countP_set_add (calls : List Call) (index : Nat) (call changed : Call) (nodeId : NodeId)
    (hget : calls[index]? = some call) :
    (calls.set index changed).countP (Call.aboutToSign nodeId) + (call.aboutToSign nodeId).toNat =
      calls.countP (Call.aboutToSign nodeId) + (changed.aboutToSign nodeId).toNat := by
  obtain ⟨hlt, rfl⟩ := List.getElem?_eq_some_iff.mp hget
  rw [List.countP_set hlt]
  cases hold : calls[index].aboutToSign nodeId with
  | false => cases changed.aboutToSign nodeId <;> simp
  | true =>
    have hpos : 0 < calls.countP (Call.aboutToSign nodeId) :=
      List.countP_pos_iff.mpr ⟨_, List.getElem_mem hlt, hold⟩
    cases changed.aboutToSign nodeId <;> simp <;> omega

-- A step signs for a node only in a call that stood before the signature, and a call gets there
-- only by an accepted activation.
theorem openNext_signings (platform : Platform) (config : Config) (system after : System)
    (step : Step) (nodeId : NodeId) (h : openNext platform config system step = some after) :
    (observe platform system step).countP (Event.signs nodeId) +
        after.calls.countP (Call.aboutToSign nodeId) ≤
      system.calls.countP (Call.aboutToSign nodeId) +
        (observe platform system step).countP (Event.activates nodeId) := by
  cases step with
  | Enroll acquired draw req =>
    obtain rfl := Option.some.inj h
    rw [countP_arrive _ _ _ (aboutToSign_of_uncommitted _ nodeId
      (enroll_committedTo platform system.journal acquired draw req))]
    simp [observe]
  | RenewCert found request =>
    simp only [openNext, next] at h
    split_ifs at h
    obtain rfl := Option.some.inj h
    rw [countP_arrive _ _ _ (renewCert_aboutToSign config found request nodeId)]
    simp [observe]
  | DecommissionNode request =>
    obtain rfl := Option.some.inj h
    rw [countP_arrive _ _ _ (aboutToSign_of_uncommitted _ nodeId
      (decommissionNode_committedTo config system.journal request))]
    simp [observe]
  | Sign index outcome =>
    simp only [openNext, next, Option.map_eq_some_iff, Option.bind_eq_some_iff] at h
    obtain ⟨signed, ⟨call, hget, hsign⟩, rfl⟩ := h
    have hcount := countP_set_add system.calls index call signed nodeId hget
    have hobserve := observe_sign platform system index outcome call nodeId hget
    rw [sign_aboutToSign outcome call signed nodeId hsign, Bool.toNat_false] at hcount
    dsimp only
    omega
  | Write index draw consensus =>
    simp only [openNext, next, Option.map_eq_some_iff, Option.bind_eq_some_iff] at h
    obtain ⟨call, hget, cmd, hcmd, rfl⟩ := h
    have hcount := countP_set_add system.calls index call
      (call.resume config draw (clientWrite platform consensus system.journal cmd).2) nodeId hget
    have hresume := resume_aboutToSign platform config draw consensus system.journal call cmd
      nodeId hcmd
    rw [observe_write platform system index draw consensus call cmd hget hcmd, appliedBy_signs]
    dsimp only
    omega
  | Background now cmd =>
    obtain rfl := Option.some.inj h
    simp [observe, Event.signs]

-- No activation of the node is accepted in this state.
def Settled (s : JournalState) (nodeId : NodeId) : Prop :=
  ∃ record, s.enrollments.get nodeId = some record ∧
    (record.state = .Revoked ∨ record.state = .Active)

theorem apply_settled (platform : Platform) (now : DateTime) (s : JournalState)
    (cmd : JournalCommand) (nodeId : NodeId) (h : Settled s nodeId)
    (hcmd : cmd ≠ .DeactivateNode nodeId) : Settled (apply platform now s cmd).1 nodeId := by
  obtain ⟨record, hget, hstate⟩ := h
  refine ⟨_, apply_record platform now s cmd nodeId record hget, ?_⟩
  have houtcome := recordAfter_outcome platform now nodeId cmd record
  generalize recordAfter platform now nodeId cmd record = changed at houtcome ⊢
  cases houtcome with
  | Activated serial expires hopen => exact absurd hstate hopen
  | Deactivated => exact absurd rfl hcmd
  | Revoked => exact .inl rfl
  | _ => exact hstate

theorem activateNode_settles (platform : Platform) (now : DateTime) (s : JournalState)
    (nodeId other : NodeId) (serial expires : String) (state : EnrollmentState)
    (vclusterId : Option VClusterId)
    (h : (apply platform now s (.ActivateNode nodeId serial expires)).2 =
      .EnrollmentResult other state vclusterId) :
    ¬Settled s nodeId ∧
      Settled (apply platform now s (.ActivateNode nodeId serial expires)).1 nodeId := by
  obtain ⟨record, hget, hopen⟩ := activateNode_open _ _ _ _ _ _ _ _ _ h
  refine ⟨?_, _, apply_record platform now s _ nodeId record hget, ?_⟩
  · rintro ⟨stored, hstored, hstate⟩
    obtain rfl := Option.some.inj (hget.symm.trans hstored)
    exact hopen hstate
  · simp [recordAfter, targetNode, hopen]

def Activates (nodeId : NodeId) (event : Event) : Prop := event.activates nodeId = true

def Deactivated (nodeId : NodeId) (event : Event) : Prop := event.deactivates nodeId = true

-- Activations are told apart by deactivations, and the node is settled since the last one.
structure Alternating (nodeId : NodeId) (past : List Event) (s : JournalState) : Prop where
  separated : Separated (Activates nodeId) (Deactivated nodeId) past
  settled : Unclosed (Activates nodeId) (Deactivated nodeId) past → Settled s nodeId

theorem activates_applied (cmd : JournalCommand) (response : JournalResponse) (nodeId : NodeId)
    (h : Activates nodeId (.Applied cmd response)) :
    ∃ serial expires other state vclusterId, cmd = .ActivateNode nodeId serial expires ∧
      response = .EnrollmentResult other state vclusterId := by
  unfold Activates Event.activates at h
  split at h
  · rename_i heq
    obtain ⟨rfl, rfl⟩ := Event.Applied.inj heq
    obtain rfl := of_decide_eq_true h
    exact ⟨_, _, _, _, _, rfl, rfl⟩
  · cases h

theorem apply_alternating (platform : Platform) (now : DateTime) (s : JournalState)
    (cmd : JournalCommand) (nodeId : NodeId) (past : List Event) (h : Alternating nodeId past s) :
    Alternating nodeId (past ++ [.Applied cmd (apply platform now s cmd).2])
      (apply platform now s cmd).1 := by
  constructor
  · refine separated_snoc h.separated ?_
    intro hactivates hunclosed
    obtain ⟨serial, expires, other, state, vclusterId, rfl, hresponse⟩ :=
      activates_applied cmd _ nodeId hactivates
    exact (activateNode_settles platform now s nodeId other serial expires state vclusterId
      hresponse).1 (h.settled hunclosed)
  · intro hunclosed
    rcases unclosed_snoc hunclosed with hactivates | ⟨hnot, hpast⟩
    · obtain ⟨serial, expires, other, state, vclusterId, rfl, hresponse⟩ :=
        activates_applied cmd _ nodeId hactivates
      exact (activateNode_settles platform now s nodeId other serial expires state vclusterId
        hresponse).2
    · refine apply_settled platform now s cmd nodeId (h.settled hpast) ?_
      rintro rfl
      exact hnot (by simp [Deactivated, Event.deactivates])

theorem write_alternating (platform : Platform) (consensus : Consensus) (s : JournalState)
    (cmd : JournalCommand) (nodeId : NodeId) (past : List Event) (h : Alternating nodeId past s) :
    Alternating nodeId (past ++ appliedBy platform s cmd consensus)
      (clientWrite platform consensus s cmd).1 := by
  cases consensus with
  | Committed now => exact apply_alternating platform now s cmd nodeId past h
  | Failed error applied =>
    cases applied with
    | none => simpa [appliedBy, clientWrite] using h
    | some now => exact apply_alternating platform now s cmd nodeId past h

theorem signed_alternating (s : JournalState) (nodeId signed : NodeId) (past : List Event)
    (h : Alternating nodeId past s) : Alternating nodeId (past ++ [.EnrollmentSigned signed]) s := by
  have hnot : ¬Activates nodeId (.EnrollmentSigned signed) := by simp [Activates, Event.activates]
  refine ⟨separated_snoc h.separated fun hactivates => absurd hactivates hnot, ?_⟩
  intro hunclosed
  rcases unclosed_snoc hunclosed with hactivates | ⟨_, hpast⟩
  · exact absurd hactivates hnot
  · exact h.settled hpast

theorem openNext_alternating (platform : Platform) (config : Config) (system after : System)
    (step : Step) (nodeId : NodeId) (past : List Event)
    (hinv : Alternating nodeId past system.journal)
    (h : openNext platform config system step = some after) :
    Alternating nodeId (past ++ observe platform system step) after.journal := by
  cases step with
  | Enroll acquired draw req =>
    obtain rfl := Option.some.inj h
    simpa [observe, System.arrive] using hinv
  | RenewCert found request =>
    simp only [openNext, next] at h
    split_ifs at h
    obtain rfl := Option.some.inj h
    simpa [observe, System.arrive] using hinv
  | DecommissionNode request =>
    obtain rfl := Option.some.inj h
    simpa [observe, System.arrive] using hinv
  | Sign index outcome =>
    simp only [openNext, next, Option.map_eq_some_iff, Option.bind_eq_some_iff] at h
    obtain ⟨signed, ⟨call, hget, hsign⟩, rfl⟩ := h
    cases outcome with
    | error error => simpa [observe] using hinv
    | ok cert =>
      simp only [observe, hget]
      split
      · exact signed_alternating system.journal nodeId _ past hinv
      · simpa using hinv
  | Write index draw consensus =>
    simp only [openNext, next, Option.map_eq_some_iff, Option.bind_eq_some_iff] at h
    obtain ⟨call, hget, cmd, hcmd, rfl⟩ := h
    rw [observe_write platform system index draw consensus call cmd hget hcmd]
    exact write_alternating platform consensus system.journal cmd nodeId past hinv
  | Background now cmd =>
    obtain rfl := Option.some.inj h
    exact apply_alternating platform now system.journal cmd nodeId past hinv

-- However calls and other writers interleave, enroll signs for a node at most once per accepted
-- activation, and a node is deactivated between any two of its accepted activations.
theorem enrollments_signed_le_activations (platform : Platform) (config : Config)
    (journal : JournalState) (steps : List Step) (nodeId : NodeId) :
    (trace (openNext platform config) (observe platform) ⟨journal, []⟩ steps).countP
        (Event.signs nodeId) ≤
      (trace (openNext platform config) (observe platform) ⟨journal, []⟩ steps).countP
        (Event.activates nodeId) ∧
    ∀ before between rest first second,
      trace (openNext platform config) (observe platform) ⟨journal, []⟩ steps =
        before ++ first :: between ++ second :: rest →
      first.activates nodeId = true → second.activates nodeId = true →
      ∃ event ∈ between, event.deactivates nodeId = true := by
  constructor
  · obtain ⟨last, hlast⟩ := trace_invariant (openNext platform config) (observe platform)
      (fun past (system : System) => past.countP (Event.signs nodeId) +
        system.calls.countP (Call.aboutToSign nodeId) ≤ past.countP (Event.activates nodeId))
      (fun past system step after hinv hnext => by
        have hstep := openNext_signings platform config system after step nodeId hnext
        rw [List.countP_append, List.countP_append]
        omega)
      steps [] ⟨journal, []⟩ (Nat.zero_le _)
    exact Nat.le_of_add_right_le hlast
  · obtain ⟨last, hlast⟩ := trace_invariant (openNext platform config) (observe platform)
      (fun past (system : System) => Alternating nodeId past system.journal)
      (fun past system step after hinv hnext =>
        openNext_alternating platform config system after step nodeId past hinv hnext)
      steps [] ⟨journal, []⟩ ⟨separated_nil, fun hunclosed => absurd hunclosed not_unclosed_nil⟩
    exact hlast.separated

end Pact.Journal.EnrollmentService
