import Pact.Journal.EnrollmentService.Theorems
import Pact.Library.Custody

namespace Pact.Journal.EnrollmentService

open Pact.Library Pact.Common

def recordedSerial (s : JournalState) (nodeId : NodeId) : Option String :=
  (s.enrollments.get nodeId).bind NodeEnrollment.certSerial

-- A renewal that is answered with success: the serial that its request named, the one that was
-- recorded for the node when the write was applied, and the new one.
structure Renewal where
  nodeId : NodeId
  renewed : String
  recorded : Option String
  issued : String
  deriving DecidableEq

-- The service together with what is known about its past: for each call, in the same place, the
-- serial that its request names if it is a renewal, all serials drawn so far, and the renewals.
structure Ledger where
  system : System
  named : List (Option String)
  drawn : List String
  renewals : List Renewal
  deriving DecidableEq

def Ledger.start : Ledger := ⟨⟨.default, []⟩, [], [], []⟩

def drawnBy : Step → List String
  | .Enroll _ draw _ => [draw.uuid]
  | .Sign _ (.ok signed) => [signed.certSerial]
  | _ => []

-- Serials are random ids, so that no two are the same, and nodes are registered without one.
def Fresh (ledger : Ledger) (step : Step) : Prop :=
  (∀ serial ∈ drawnBy step, serial ∉ ledger.drawn) ∧
    match step with
    | .Background _ (.RegisterNode enrollment) => enrollment.certSerial = none
    | _ => True

instance (ledger : Ledger) (step : Step) : Decidable (Fresh ledger step) := by
  unfold Fresh
  have : Decidable (match step with
      | .Background _ (.RegisterNode enrollment) => enrollment.certSerial = none
      | _ => True) := by split <;> infer_instance
  infer_instance

def namedBy : Step → List (Option String)
  | .Enroll _ _ _ => [none]
  | .RenewCert _ request => [some request.body.currentCertSerial]
  | .DecommissionNode _ => [none]
  | _ => []

def renewedBy (ledger : Ledger) : Step → List Renewal
  | .Write index _ (.Committed _) =>
    match ledger.system.calls[index]?, ledger.named[index]? with
    | some (.RecordRenewal nodeId signed), some (some serial) =>
      [⟨nodeId, serial, recordedSerial ledger.system.journal nodeId, signed.certSerial⟩]
    | _, _ => []
  | _ => []

def ledgerNext (platform : Platform) (config : Config) (ledger : Ledger) (step : Step) :
    Option Ledger :=
  if Fresh ledger step then
    (next platform config ledger.system step).map fun system =>
      ⟨system, ledger.named ++ namedBy step, ledger.drawn ++ drawnBy step,
        ledger.renewals ++ renewedBy ledger step⟩
  else none

-- Each certificate was obtained by renewing the one recorded before it, and no certificate was
-- renewed twice.
structure Unforked (ledger : Ledger) : Prop where
  chained : ∀ renewal ∈ ledger.renewals, renewal.recorded = some renewal.renewed
  once : (ledger.renewals.map Renewal.renewed).Nodup

-- The serial that a renewal is for is still the recorded one when its write is applied.
def StillRecorded (ledger : Ledger) (step : Step) : Prop :=
  ∀ renewal ∈ renewedBy ledger step, renewal.recorded = some renewal.renewed

instance (ledger : Ledger) (step : Step) : Decidable (StillRecorded ledger step) := by
  unfold StillRecorded
  infer_instance

inductive Holder
  | Record (nodeId : NodeId)
  | Call (index : Nat)
  deriving DecidableEq

def Call.holds : Call → Option String
  | .Activate _ _ placeholderSerial _ => some placeholderSerial
  | .RecordEnrollment _ _ signed => some signed.certSerial
  | .RecordRenewal _ signed => some signed.certSerial
  | _ => none

def held (system : System) : Holder → Option String
  | .Record nodeId => recordedSerial system.journal nodeId
  | .Call index => (system.calls[index]?).bind Call.holds

section Calls

variable (platform : Platform) (config : Config)

theorem enroll_holds (s : JournalState) (acquired : Bool) (draw : Draw) (req : Proto.EnrollRequest) :
    (enroll platform s acquired draw req).holds = none ∨
      (enroll platform s acquired draw req).holds = some draw.uuid := by
  unfold enroll
  repeat' split
  all_goals simp [Call.holds]

theorem renewCert_holds (found : Option NodeId) (request : Request Proto.RenewCertRequest) :
    (renewCert config found request).holds = none := by
  unfold renewCert
  repeat' split
  all_goals rfl

theorem decommissionNode_holds (s : JournalState)
    (request : Request Proto.DecommissionNodeRequest) :
    (decommissionNode config s request).holds = none := by
  unfold decommissionNode
  repeat' split
  all_goals rfl

theorem sign_holds (outcome : Except String SignedCertResult) (call after : Call)
    (h : call.sign outcome = some after) :
    after.holds = none ∨ ∃ signed, outcome = .ok signed ∧ after.holds = some signed.certSerial := by
  cases call <;> simp only [Call.sign, reduceCtorEq] at h <;> split at h <;>
    obtain rfl := Option.some.inj h
  · exact .inl rfl
  · exact .inr ⟨_, rfl, rfl⟩
  · exact .inl rfl
  · exact .inr ⟨_, rfl, rfl⟩

theorem resume_holds (draw : Draw) (result : Except String JournalResponse) (call : Call)
    (cmd : JournalCommand) (hcmd : call.command = some cmd) :
    (call.resume config draw result).holds = none := by
  cases call with
  | Activate nodeId csr serial expires =>
    simp only [Call.resume]
    split <;> rfl
  | RecordEnrollment nodeId vclusterId signed => rfl
  | Audit operation answer => rfl
  | RecordRenewal nodeId signed =>
    simp only [Call.resume]
    split <;> rfl
  | Revoke nodeId serial =>
    simp only [Call.resume]
    split <;> rfl
  | _ => cases hcmd

theorem held_arrive (system : System) (call : Call) (holder : Holder) :
    held (system.arrive call) holder =
      if holder = .Call system.calls.length then call.holds else held system holder := by
  cases holder with
  | Record nodeId => rfl
  | Call index =>
    by_cases hindex : index = system.calls.length
    · simp [held, System.arrive, hindex]
    · simp only [held, System.arrive, Holder.Call.injEq, hindex, reduceIte]
      rcases Nat.lt_or_gt_of_ne hindex with hless | hmore
      · rw [List.getElem?_append_left hless]
      · rw [List.getElem?_eq_none (by simp; omega), List.getElem?_eq_none (by omega)]

theorem held_set (system : System) (journal : JournalState) (index : Nat) (call after : Call)
    (hget : system.calls[index]? = some call) (other : Nat) :
    held ⟨journal, system.calls.set index after⟩ (.Call other) =
      if other = index then after.holds else held system (.Call other) := by
  obtain ⟨hindex, _⟩ := List.getElem?_eq_some_iff.mp hget
  by_cases hother : other = index
  · simp [held, hother, hindex]
  · simp [held, hother, List.getElem?_set_ne (Ne.symm hother)]

end Calls

section Records

variable (platform : Platform) (now : DateTime) (s : JournalState)

theorem apply_recordedSerial (cmd : JournalCommand) (nodeId : NodeId) :
    recordedSerial (apply platform now s cmd).1 nodeId = recordedSerial s nodeId ∨
    (∃ serial expires, (cmd = .ActivateNode nodeId serial expires ∨
        cmd = .UpdateNodeCert nodeId serial expires) ∧
      recordedSerial (apply platform now s cmd).1 nodeId = some serial) ∨
    ∃ enrollment, cmd = .RegisterNode enrollment ∧ recordedSerial s nodeId = none ∧
      recordedSerial (apply platform now s cmd).1 nodeId = enrollment.certSerial := by
  cases hget : s.enrollments.get nodeId with
  | none =>
    rcases apply_unenrolled platform now s cmd nodeId hget with hnone | ⟨enrollment, hcmd, _, _, hadded⟩
    · exact .inl (by rw [recordedSerial, recordedSerial, hnone, hget])
    · exact .inr (.inr ⟨enrollment, hcmd, by rw [recordedSerial, hget]; rfl,
        by rw [recordedSerial, hadded]; rfl⟩)
  | some record =>
    have hafter := apply_record platform now s cmd nodeId record hget
    have houtcome := recordAfter_outcome platform now nodeId cmd record
    simp only [recordedSerial, hafter, hget, Option.bind_some]
    generalize recordAfter platform now nodeId cmd record = changed at houtcome ⊢
    cases houtcome with
    | Activated serial expires => exact .inr (.inl ⟨serial, expires, .inl rfl, rfl⟩)
    | Certified serial expires => exact .inr (.inl ⟨serial, expires, .inr rfl, rfl⟩)
    | _ => exact .inl rfl

theorem recordedSerial_updated (nodeId : NodeId) (serial expires : String) (recorded : String)
    (hrecorded : recordedSerial s nodeId = some recorded) :
    recordedSerial (apply platform now s (.UpdateNodeCert nodeId serial expires)).1 nodeId =
      some serial := by
  obtain ⟨record, hget, _⟩ := Option.bind_eq_some_iff.mp hrecorded
  rw [recordedSerial, apply_record platform now s _ nodeId record hget]
  simp [recordAfter, targetNode]

theorem command_recordedSerial (call : Call) (cmd : JournalCommand) (hcmd : call.command = some cmd)
    (nodeId : NodeId) :
    recordedSerial (apply platform now s cmd).1 nodeId = recordedSerial s nodeId ∨
    targetNode cmd = some nodeId ∧
      recordedSerial (apply platform now s cmd).1 nodeId = call.holds := by
  rcases apply_recordedSerial platform now s cmd nodeId with
    hsame | ⟨serial, expires, hset, hserial⟩ | ⟨enrollment, rfl, _⟩
  · exact .inl hsame
  · right
    rw [hserial]
    rcases hset with rfl | rfl <;> cases call <;> cases hcmd <;> exact ⟨rfl, rfl⟩
  · cases call <;> cases hcmd

end Records

section Steps

variable {platform : Platform} {config : Config} {ledger : Ledger} {system after : System}
  {drawn new : List String}

theorem arrive_rearranged (call : Call)
    (hcall : call.holds = none ∨ ∃ serial, call.holds = some serial ∧ serial ∉ drawn ∧ serial ∈ new) :
    Rearranged (held system) (held (system.arrive call)) drawn new := by
  refine .of_drawn (.Call system.calls.length) ?_ fun holder hholder => ?_
  · rwa [held_arrive, if_pos rfl]
  · rw [held_arrive, if_neg hholder]

theorem held_set_of_ne (journal : JournalState) (index : Nat) (call changed : Call)
    (hget : system.calls[index]? = some call)
    (hjournal : ∀ nodeId, recordedSerial journal nodeId = recordedSerial system.journal nodeId)
    (holder : Holder) (hholder : holder ≠ .Call index) :
    held ⟨journal, system.calls.set index changed⟩ holder = held system holder := by
  cases holder with
  | Record nodeId => exact hjournal nodeId
  | Call other => rw [held_set system journal index call changed hget, if_neg (by simpa using hholder)]

theorem sign_rearranged (index : Nat) (call signed : Call)
    (hget : system.calls[index]? = some call)
    (hcall : signed.holds = none ∨
      ∃ serial, signed.holds = some serial ∧ serial ∉ drawn ∧ serial ∈ new) :
    Rearranged (held system) (held { system with calls := system.calls.set index signed })
      drawn new := by
  refine .of_drawn (.Call index) ?_ (held_set_of_ne _ index call signed hget fun _ => rfl)
  rwa [held_set system system.journal index call signed hget, if_pos rfl]

theorem write_rearranged (index : Nat) (draw : Draw) (consensus : Consensus) (call : Call)
    (cmd : JournalCommand) (hget : system.calls[index]? = some call)
    (hcmd : call.command = some cmd) :
    Rearranged (held system)
      (held ⟨(clientWrite platform consensus system.journal cmd).1, system.calls.set index
        (call.resume config draw (clientWrite platform consensus system.journal cmd).2)⟩)
      drawn new := by
  generalize (clientWrite platform consensus system.journal cmd).2 = result
  have hgiver : ∀ journal, held ⟨journal, system.calls.set index (call.resume config draw result)⟩
      (.Call index) = none := by
    intro journal
    rw [held_set system journal index call _ hget, if_pos rfl]
    exact resume_holds config draw result call cmd hcmd
  have hgiven : held system (.Call index) = call.holds := by simp [held, hget]
  rcases clientWrite_cases platform consensus system.journal cmd with hsame | ⟨_, now, hwritten⟩
  · rw [hsame]
    exact .of_drawn (.Call index) (.inl (hgiver _)) (held_set_of_ne _ index call _ hget fun _ => rfl)
  · rw [hwritten]
    have hrecord := command_recordedSerial platform now system.journal call cmd hcmd
    refine .of_passed (.Call index) (.Record ((targetNode cmd).getD "")) (hgiver _) ?_ ?_
    · rw [hgiven]
      exact (hrecord _).imp_right And.right
    · intro holder hcall hnode
      cases holder with
      | Record nodeId =>
        refine (hrecord nodeId).resolve_right ?_
        rintro ⟨htarget, _⟩
        rw [htarget] at hnode
        exact hnode rfl
      | Call other =>
        rw [held_set system _ index call _ hget, if_neg (by simpa using hcall)]

theorem background_rearranged (now : DateTime) (cmd : JournalCommand)
    (helsewhere : isElsewhere cmd = true)
    (hregister : ∀ enrollment, cmd = .RegisterNode enrollment → enrollment.certSerial = none) :
    Rearranged (held system)
      (held { system with journal := (apply platform now system.journal cmd).1 }) drawn new := by
  refine .Kept fun holder serial hholder => ?_
  cases holder with
  | Call index => exact hholder
  | Record nodeId =>
    rcases apply_recordedSerial platform now system.journal cmd nodeId with
      hsame | ⟨_, _, hset, _⟩ | ⟨enrollment, hcmd, _, hadded⟩
    · exact hsame.symm.trans hholder
    · rcases hset with rfl | rfl <;> cases helsewhere
    · rw [held, hadded, hregister enrollment hcmd] at hholder
      cases hholder

theorem next_rearranged (step : Step) (hfresh : Fresh ledger step)
    (hnext : next platform config ledger.system step = some after) :
    Rearranged (held ledger.system) (held after) ledger.drawn (drawnBy step) := by
  cases step with
  | Enroll acquired draw req =>
    obtain rfl := Option.some.inj hnext
    refine arrive_rearranged _ ?_
    rcases enroll_holds platform ledger.system.journal acquired draw req with hnone | hholds
    · exact .inl hnone
    · exact .inr ⟨draw.uuid, hholds, hfresh.1 _ List.mem_cons_self, List.mem_cons_self⟩
  | RenewCert found request =>
    simp only [next, Option.ite_none_right_eq_some, Option.some.injEq] at hnext
    obtain ⟨_, rfl⟩ := hnext
    exact arrive_rearranged _ (.inl (renewCert_holds config found request))
  | DecommissionNode request =>
    obtain rfl := Option.some.inj hnext
    exact arrive_rearranged _ (.inl (decommissionNode_holds config ledger.system.journal request))
  | Sign index outcome =>
    simp only [next, Option.map_eq_some_iff, Option.bind_eq_some_iff] at hnext
    obtain ⟨signed, ⟨call, hget, hsign⟩, rfl⟩ := hnext
    refine sign_rearranged index call signed hget ?_
    rcases sign_holds outcome call signed hsign with hnone | ⟨cert, rfl, hholds⟩
    · exact .inl hnone
    · exact .inr ⟨cert.certSerial, hholds, hfresh.1 _ List.mem_cons_self, List.mem_cons_self⟩
  | Write index draw consensus =>
    simp only [next, Option.map_eq_some_iff, Option.bind_eq_some_iff] at hnext
    obtain ⟨call, hget, cmd, hcmd, rfl⟩ := hnext
    exact write_rearranged index draw consensus call cmd hget hcmd
  | Background now cmd =>
    simp only [next, Option.ite_none_right_eq_some, Option.some.injEq] at hnext
    obtain ⟨helsewhere, rfl⟩ := hnext
    refine background_rearranged now cmd helsewhere ?_
    rintro enrollment rfl
    exact hfresh.2

end Steps

def Spent (ledger : Ledger) : Prop :=
  ∀ renewal ∈ ledger.renewals, renewal.renewed ∈ ledger.drawn ∧
    ∀ holder, held ledger.system holder ≠ some renewal.renewed

structure Accounted (ledger : Ledger) : Prop where
  exclusive : Exclusive (held ledger.system) ledger.drawn
  spent : Unforked ledger → Spent ledger

section Runs

variable {platform : Platform} {config : Config} {ledger after : Ledger} {step : Step}

theorem ledgerNext_cases (hnext : ledgerNext platform config ledger step = some after) :
    Fresh ledger step ∧ ∃ system, next platform config ledger.system step = some system ∧
      after = ⟨system, ledger.named ++ namedBy step, ledger.drawn ++ drawnBy step,
        ledger.renewals ++ renewedBy ledger step⟩ := by
  simp only [ledgerNext, Option.ite_none_right_eq_some, Option.map_eq_some_iff] at hnext
  obtain ⟨hfresh, system, hsystem, rfl⟩ := hnext
  exact ⟨hfresh, system, hsystem, rfl⟩

theorem renewedBy_cases (renewal : Renewal) (hmem : renewal ∈ renewedBy ledger step) :
    ∃ index draw now signed, step = .Write index draw (.Committed now) ∧
      ledger.system.calls[index]? = some (.RecordRenewal renewal.nodeId signed) ∧
      renewal.recorded = recordedSerial ledger.system.journal renewal.nodeId ∧
      renewedBy ledger step = [renewal] := by
  unfold renewedBy at hmem ⊢
  split at hmem
  case h_1 index draw now =>
    split at hmem
    case h_1 nodeId signed serial hget hnamed =>
      obtain rfl := List.mem_singleton.mp hmem
      exact ⟨index, draw, now, signed, rfl, hget, rfl, rfl⟩
    case h_2 => cases hmem
  case h_2 => cases hmem

theorem renewed_gone (hexclusive : Exclusive (held ledger.system) ledger.drawn) (renewal : Renewal)
    (hmem : renewal ∈ renewedBy ledger step) (hrecorded : renewal.recorded = some renewal.renewed)
    (system : System) (hsystem : next platform config ledger.system step = some system)
    (holder : Holder) : held system holder ≠ some renewal.renewed := by
  obtain ⟨index, draw, now, signed, rfl, hget, hrecord, _⟩ := renewedBy_cases renewal hmem
  simp only [next, hget, Option.bind_some, Call.command, Option.map_some, Option.some.injEq] at hsystem
  subst hsystem
  have hnode : held ledger.system (.Record renewal.nodeId) = some renewal.renewed :=
    hrecord.symm.trans hrecorded
  have hcall : held ledger.system (.Call index) = some signed.certSerial := by
    simp [held, hget, Call.holds]
  intro hholder
  cases holder with
  | Call other =>
    rw [held_set ledger.system _ index _ _ hget] at hholder
    split_ifs at hholder
    · cases hholder
    · cases hexclusive.unique _ _ _ hholder hnode
  | Record nodeId =>
    by_cases hother : nodeId = renewal.nodeId
    · -- The node now has the new serial, which nobody but the call has had.
      have hupdated := recordedSerial_updated platform now ledger.system.journal renewal.nodeId
        signed.certSerial signed.certExpiresAt renewal.renewed hnode
      subst hother
      rw [Option.some.inj (hupdated.symm.trans hholder)] at hcall
      cases hexclusive.unique _ _ _ hcall hnode
    · have hsame := (command_recordedSerial platform now ledger.system.journal
        (.RecordRenewal renewal.nodeId signed) _ rfl nodeId).resolve_right (by
          rintro ⟨htarget, _⟩
          exact hother (Option.some.inj htarget).symm)
      cases hexclusive.unique (.Record nodeId) _ _ (hsame.symm.trans hholder) hnode
      exact hother rfl

theorem Unforked.before (hunforked : Unforked after)
    (hrenewals : after.renewals = ledger.renewals ++ renewedBy ledger step) : Unforked ledger := by
  refine ⟨fun renewal hmem => hunforked.chained renewal ?_, ?_⟩
  · rw [hrenewals]
    exact List.mem_append_left _ hmem
  · have honce := hunforked.once
    rw [hrenewals, List.map_append] at honce
    exact honce.sublist (List.sublist_append_left _ _)

theorem ledgerNext_accounted (haccounted : Accounted ledger)
    (hnext : ledgerNext platform config ledger step = some after) : Accounted after := by
  obtain ⟨hfresh, system, hsystem, rfl⟩ := ledgerNext_cases hnext
  have hstep := next_rearranged step hfresh hsystem
  refine ⟨haccounted.exclusive.rearranged hstep, ?_⟩
  intro hunforked renewal hmem
  rcases List.mem_append.mp hmem with hold | hnew
  · obtain ⟨hdrawn, hgone⟩ := haccounted.spent (hunforked.before rfl) renewal hold
    exact ⟨List.mem_append_left _ hdrawn, hstep.gone hdrawn hgone⟩
  · have hrecorded := hunforked.chained renewal hmem
    refine ⟨List.mem_append_left _ ?_, ?_⟩
    · obtain ⟨_, _, _, _, _, _, hrecord, _⟩ := renewedBy_cases renewal hnew
      exact haccounted.exclusive.drawn (.Record renewal.nodeId) _ (hrecord.symm.trans hrecorded)
    · exact renewed_gone haccounted.exclusive renewal hnew hrecorded system hsystem

theorem unforked_iff (haccounted : Accounted ledger) (hunforked : Unforked ledger)
    (hnext : ledgerNext platform config ledger step = some after) :
    Unforked after ↔ StillRecorded ledger step := by
  obtain ⟨_, system, _, rfl⟩ := ledgerNext_cases hnext
  constructor
  · intro hafter renewal hmem
    exact hafter.chained renewal (List.mem_append_right _ hmem)
  · intro hstill
    refine ⟨fun renewal hmem => ?_, ?_⟩
    · rcases List.mem_append.mp hmem with hold | hnew
      · exact hunforked.chained renewal hold
      · exact hstill renewal hnew
    · by_cases hnone : renewedBy ledger step = []
      · simpa [hnone] using hunforked.once
      · obtain ⟨renewal, hmem⟩ := List.exists_mem_of_ne_nil _ hnone
        obtain ⟨_, _, _, _, _, _, hrecord, heq⟩ := renewedBy_cases renewal hmem
        rw [heq, List.map_append, List.map_singleton, ← List.concat_eq_append]
        refine .concat (fun hpast => ?_) hunforked.once
        obtain ⟨other, hother, hsame⟩ := List.mem_map.mp hpast
        have hgone := (haccounted.spent hunforked other hother).2 (.Record renewal.nodeId)
        rw [hsame] at hgone
        exact hgone (hrecord.symm.trans (hstill renewal hmem))

theorem accounted_start : Accounted .start := by
  have hnone : ∀ holder, held Ledger.start.system holder = none := by
    intro holder
    cases holder <;> simp [held, Ledger.start, recordedSerial, JournalState.default]
  refine ⟨⟨?_, ?_⟩, fun _ _ hmem => (List.not_mem_nil hmem).elim⟩
  · intro holder other token hholder
    rw [hnone] at hholder
    cases hholder
  · intro holder token hholder
    rw [hnone] at hholder
    cases hholder

end Runs

-- The renewals of a run are a single chain exactly if each write finds the serial that its call
-- looked up still recorded. Nothing checks this between the lookup and the write.
theorem renewals_unforked_iff (platform : Platform) (config : Config) (steps : List Step)
    (last : Ledger) (run : Run (ledgerNext platform config) Unrestricted .start steps last) :
    (∀ before rest ledger, steps = before ++ rest →
      Run (ledgerNext platform config) Unrestricted .start before ledger → Unforked ledger) ↔
    Run (ledgerNext platform config) StillRecorded .start steps last :=
  run.always_iff_beside Accounted Unforked
    (fun _ _ _ haccounted hnext => ledgerNext_accounted haccounted hnext)
    (fun _ _ _ haccounted hunforked hnext => unforked_iff haccounted hunforked hnext)
    accounted_start ⟨fun _ hmem => (List.not_mem_nil hmem).elim, List.nodup_nil⟩

-- The step does not write about the node for any call.
def LeavesNode (nodeId : NodeId) (system : System) : Step → Prop
  | .Write index _ _ => ∀ call ∈ system.calls[index]?, ∀ cmd ∈ call.command,
      targetNode cmd ≠ some nodeId
  | _ => True

-- So what a renewal has looked up is still recorded if no other write about the node comes between
-- the lookup and the write.
theorem recordedSerial_between (platform : Platform) (config : Config) (system looked later : System)
    (nodeId : NodeId) (request : Request Proto.RenewCertRequest) (between : List Step)
    (hkeyed : Keyed system.journal)
    (hlooked : next platform config system (.RenewCert (some nodeId) request) = some looked)
    (hbetween : Run (next platform config) (LeavesNode nodeId) looked between later) :
    recordedSerial later.journal nodeId = some request.body.currentCertSerial := by
  simp only [next, Option.ite_none_right_eq_some, Option.some.injEq] at hlooked
  obtain ⟨hfound, rfl⟩ := hlooked
  obtain ⟨record, hrecord, hserial⟩ := (mem_renewable_iff _ _ nodeId hkeyed).mp
    (by simpa [findsRenewable] using hfound)
  have hstart : recordedSerial system.journal nodeId = some request.body.currentCertSerial := by
    rw [recordedSerial, hrecord]
    exact hserial
  refine hbetween.invariant (fun state => recordedSerial state.journal nodeId =
    some request.body.currentCertSerial) ?_ hstart
  intro state step after hrecorded hleaves hnext
  rcases next_cases platform config state after step hnext with
    ⟨call, rfl, _⟩ | ⟨_, _, _, _, _, _, _, rfl⟩ |
    ⟨index, draw, consensus, call, cmd, rfl, hget, hcmd, rfl⟩ | ⟨now, cmd, _, helsewhere, rfl⟩
  · exact hrecorded
  · exact hrecorded
  · rcases clientWrite_cases platform consensus state.journal cmd with hsame | ⟨_, now, hwritten⟩
    · exact (congrArg (recordedSerial · nodeId) hsame).trans hrecorded
    · refine (congrArg (recordedSerial · nodeId) hwritten).trans (Eq.trans ?_ hrecorded)
      exact (command_recordedSerial platform now state.journal call cmd hcmd nodeId).resolve_right
        fun h => hleaves call hget cmd hcmd h.1
  · rcases apply_recordedSerial platform now state.journal cmd nodeId with
      hsame | ⟨_, _, hset, _⟩ | ⟨_, _, hnone, _⟩
    · exact hsame.trans hrecorded
    · rcases hset with rfl | rfl <;> cases helsewhere
    · cases hnone.symm.trans hrecorded

def enrolledSteps : List Step :=
  enrollSteps ++ [.Sign 0 (.ok sampleCert), .Write 0 ⟨0, ""⟩ (.Committed 0)]

def renewStep (serial : String) : Step :=
  .RenewCert (some "node-1") ⟨some (.Text "Bearer admin-token"), ⟨serial, []⟩⟩

def signStep (index : Nat) (serial : String) : Step :=
  .Sign index (.ok { sampleCert with certSerial := serial })

def writeStep (index : Nat) : Step := .Write index ⟨0, ""⟩ (.Committed 0)

def chainedSteps : List Step :=
  enrolledSteps ++ [renewStep "serial-1", signStep 1 "serial-2", writeStep 1, renewStep "serial-2",
    signStep 2 "serial-3", writeStep 2]

theorem renewals_unforked_chained : ∃ last,
    Run (ledgerNext .ascii sampleConfig) Unrestricted .start chainedSteps last ∧
    ∀ before rest ledger, chainedSteps = before ++ rest →
      Run (ledgerNext .ascii sampleConfig) Unrestricted .start before ledger → Unforked ledger := by
  obtain ⟨last, hstill⟩ := exists_run_of_execWhere (ledgerNext .ascii sampleConfig) StillRecorded
    .start chainedSteps (by decide +kernel)
  have hrun := hstill.unrestricted
  exact ⟨last, hrun, (renewals_unforked_iff .ascii sampleConfig chainedSteps last hrun).mpr hstill⟩

-- Two calls look serial-1 up before either of them writes, and both succeed.
def forkedSteps : List Step :=
  enrolledSteps ++ [renewStep "serial-1", renewStep "serial-1", signStep 1 "serial-2",
    signStep 2 "serial-3", writeStep 1, writeStep 2]

theorem serial_renewed_twice : ∃ last,
    Run (ledgerNext .ascii sampleConfig) Unrestricted .start forkedSteps last ∧
    last.renewals = [⟨"node-1", "serial-1", some "serial-1", "serial-2"⟩,
      ⟨"node-1", "serial-1", some "serial-2", "serial-3"⟩] ∧
    last.system.calls.drop 1 =
      [.Finished (.Renewed (.ok ⟨"cert", "ca", "serial-2", "1970-01-04T00:00:00+00:00"⟩)),
        .Finished (.Renewed (.ok ⟨"cert", "ca", "serial-3", "1970-01-04T00:00:00+00:00"⟩))] ∧
    ¬Unforked last := by
  refine ⟨_, (exec_eq_some_iff (ledgerNext .ascii sampleConfig) _ _ forkedSteps).mp rfl,
    by decide +kernel, by decide +kernel, ?_⟩
  intro hunforked
  exact absurd hunforked.once (by decide +kernel)

end Pact.Journal.EnrollmentService
