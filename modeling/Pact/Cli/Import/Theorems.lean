import Pact.Cli.Import
import Pact.Journal.EnrollmentService.RevokedSerials
import Pact.Journal.Server.Lemmas

namespace Pact.Cli.Import

open Pact.Library Pact.Common Pact.Journal

def Holds (journal : JournalState) (nodeId : NodeId) : Prop :=
  ∃ record, journal.enrollments.get nodeId = some record

def Step.held (step : Step) : Bool := (step.found.enrollments.get step.nodeId).isSome

-- The key under which the journal looks for the hardware of a node.
def hardwareKey (platform : Platform) (mac : String) : String :=
  hwCanonicalKey platform (EnrollmentService.protoHwToDomain ⟨mac, "", .empty⟩)

inductive Verdict
  | Enrolled
  | AlreadyEnrolled
  | Failed
  deriving DecidableEq

def Step.verdict (step : Step) : Verdict :=
  match step.answer with
  | .ok _ => .Enrolled
  | .error status => if mentionsEnrolled status.message then .AlreadyEnrolled else .Failed

def Step.refused (step : Step) : Bool := ¬step.answer.isOk

-- An answer that does not come from the state of the journal: the caller is not let in, or the
-- call or its write fails on the way.
def outsideRefusal (target : Target) (delivery : Delivery) : Option Status :=
  match authorize target.library target.token with
  | .error status => some status
  | .ok authorization =>
    match delivery with
    | .Unreachable status => some status
    | .Served _ _ consensus lostReply =>
      match lostReply with
      | some status => some status
      | none =>
        match EnrollmentService.requirePlatformAdmin target.config authorization with
        | .error status => some status
        | .ok _ =>
          match consensus with
          | .Failed error _ => some ⟨.Internal, "Raft write failed: " ++ error⟩
          | .Committed _ => none

def journalAnswer (platform : Platform) (found : JournalState) (nodeId : NodeId) (mac : String) :
    Except Status Proto.RegisterNodeResponse :=
  if (found.enrollments.get nodeId).isSome then
    .error ⟨.FailedPrecondition, "NODE_ALREADY_ENROLLED: " ++ nodeId⟩
  else
    match found.hwIndex.get (hardwareKey platform mac) with
    | some existing =>
      .error ⟨.FailedPrecondition,
        "HARDWARE_IDENTITY_CONFLICT: hardware already registered to " ++ existing⟩
    | none => .ok ⟨nodeId, "Registered"⟩

-- The client gets a call right: a refusal from outside speaks of an enrollment exactly where there
-- is one, and the journal refuses only nodes it has under an id that itself does so.
def Step.Told (target : Target) (step : Step) : Prop :=
  match outsideRefusal target step.delivery with
  | some status => mentionsEnrolled status.message = true ↔ step.held = true
  | none =>
    if step.held then mentionsEnrolled step.nodeId = true
    else step.found.hwIndex.get (hardwareKey target.platform step.mac) = none

def countOf (verdict : Verdict) (steps : List Step) : Nat :=
  steps.countP fun step => step.verdict = verdict

-- What the report of an import promises, with a second import of the same nodes after it.
structure Reports (steps again : List Step) : Prop where
  already : ∀ step ∈ steps, step.verdict = .AlreadyEnrolled ↔ step.held = true
  failed : ∀ step ∈ steps,
    step.verdict = .Failed ↔ step.refused = true ∧ step.held = false
  sum : (tally steps).enrolled + (tally steps).alreadyEnrolled + (tally steps).failed = steps.length
  repeated : ∀ step ∈ again,
    (∃ earlier ∈ steps, earlier.nodeId = step.nodeId ∧ earlier.verdict = .Enrolled) →
    step.verdict ≠ .Failed

structure ReportFits (target : Target) (steps again : List Step) : Prop where
  told : ∀ step ∈ steps, step.Told target
  counters : ∀ verdict, countOf verdict steps < 2 ^ 32
  repeated : ∀ step ∈ again,
    (∃ earlier ∈ steps, earlier.nodeId = step.nodeId ∧ earlier.verdict = .Enrolled) →
    step.Told target

-- A text cannot begin within a head that lacks its first character.
theorem infix_append_of_not_mem (head text rest : List Char) (first : Char) (h : first ∉ head) :
    first :: rest <:+: head ++ text ↔ first :: rest <:+: text := by
  induction head with
  | nil => rfl
  | cons c chars ih =>
    rw [List.mem_cons, not_or] at h
    rw [List.cons_append, List.infix_cons_iff, List.cons_prefix_cons, ih h.2]
    simp only [h.1, false_and, false_or]

theorem mentionsEnrolled_append (head text : String) (h : 'a' ∉ head.toList) :
    mentionsEnrolled (head ++ text) = mentionsEnrolled text := by
  have hcontains : ∀ part : String, ∀ rest, part.toList = 'a' :: rest →
      contains (head ++ text) part = contains text part := by
    intro part rest hpart
    simp only [contains, String.toList_append, hpart, infix_append_of_not_mem _ _ rest 'a' h]
  simp only [mentionsEnrolled, hcontains "already enrolled" _ rfl,
    hcontains "already registered" _ rfl]

theorem mentionsEnrolled_conflict (existing : NodeId) :
    mentionsEnrolled ("HARDWARE_IDENTITY_CONFLICT: hardware already registered to " ++ existing) =
      true := by
  have hcontains : contains
      ("HARDWARE_IDENTITY_CONFLICT: hardware already registered to " ++ existing)
      "already registered" = true := by
    rw [contains_iff]
    exact ⟨"HARDWARE_IDENTITY_CONFLICT: hardware ", " to " ++ existing, by
      rw [← String.append_assoc]
      rfl⟩
  simp only [mentionsEnrolled, hcontains, or_true, decide_true]

theorem registerNode_response (platform : Platform) (found : JournalState)
    (enrollment : NodeEnrollment) (mac : String)
    (hmac : enrollment.hardwareIdentity = EnrollmentService.protoHwToDomain ⟨mac, "", .empty⟩) :
    (match (registerNode platform found enrollment).2 with
      | .EnrollmentResult nodeId state _ => .ok ⟨nodeId, EnrollmentService.debugState state⟩
      | .ValidationError reason => .error ⟨.FailedPrecondition, reason⟩
      | _ => .error ⟨.Internal, "unexpected Raft response"⟩) =
      journalAnswer platform found enrollment.nodeId mac := by
  unfold registerNode journalAnswer
  rw [hmac]
  by_cases hheld : (found.enrollments.get enrollment.nodeId).isSome = true
  · simp only [if_pos hheld]
  · simp only [if_neg hheld, hardwareKey]
    cases found.hwIndex.get (hwCanonicalKey platform
      (EnrollmentService.protoHwToDomain ⟨mac, "", .empty⟩)) <;> rfl

theorem journalAnswer_ok (platform : Platform) (found : JournalState) (nodeId : NodeId)
    (mac : String) (response : Proto.RegisterNodeResponse)
    (h : journalAnswer platform found nodeId mac = .ok response) :
    ¬(found.enrollments.get nodeId).isSome = true ∧
      found.hwIndex.get (hardwareKey platform mac) = none := by
  by_cases hheld : (found.enrollments.get nodeId).isSome = true
  · rw [journalAnswer, if_pos hheld] at h
    cases h
  · refine ⟨hheld, ?_⟩
    cases hfree : found.hwIndex.get (hardwareKey platform mac) with
    | none => rfl
    | some existing =>
      simp only [journalAnswer, if_neg hheld, hfree] at h
      cases h

section Calls

variable (target : Target)

section Registration

variable (journal : JournalState) (delivery : Delivery) (nodeId : NodeId)

theorem register_cases (mac : String) :
    (∃ status, outsideRefusal target delivery = some status ∧
      (register target journal delivery nodeId mac).2 = .error status) ∨
    (outsideRefusal target delivery = none ∧ ∃ enrollment : NodeEnrollment,
      enrollment.nodeId = nodeId ∧
      enrollment.hardwareIdentity = EnrollmentService.protoHwToDomain ⟨mac, "", .empty⟩ ∧
      register target journal delivery nodeId mac =
        ((registerNode target.platform (delivery.finds target.platform journal) enrollment).1,
          journalAnswer target.platform (delivery.finds target.platform journal) nodeId mac)) := by
  simp only [outsideRefusal, register]
  cases authorize target.library target.token with
  | error status => exact .inl ⟨status, rfl, rfl⟩
  | ok authorization =>
    cases delivery with
    | Unreachable status => exact .inl ⟨status, rfl, rfl⟩
    | Served others now consensus lostReply =>
      cases lostReply with
      | some status => exact .inl ⟨status, rfl, rfl⟩
      | none =>
        simp only [EnrollmentService.registerNode, registerRequest]
        cases EnrollmentService.requirePlatformAdmin target.config authorization with
        | error status => exact .inl ⟨status, rfl, rfl⟩
        | ok admin =>
          cases consensus with
          | Failed error applied => exact .inl ⟨_, rfl, rfl⟩
          | Committed applied =>
            refine .inr ⟨rfl, EnrollmentService.newEnrollment target.config
              admin.principal now nodeId ⟨mac, "", .empty⟩, rfl, rfl, ?_⟩
            simp only [finish_committed, Journal.apply, Prod.mk.injEq, true_and]
            exact registerNode_response target.platform _ _ mac rfl

theorem register_answer (mac : String) :
    (register target journal delivery nodeId mac).2 =
      match outsideRefusal target delivery with
      | some status => .error status
      | none =>
        journalAnswer target.platform (delivery.finds target.platform journal) nodeId mac := by
  rcases register_cases target journal delivery nodeId mac with
    ⟨status, houtside, hanswer⟩ | ⟨houtside, enrollment, -, -, hregister⟩
  · rw [houtside, hanswer]
  · rw [houtside, hregister]

theorem finds_holds (h : Holds journal nodeId) :
    Holds (delivery.finds target.platform journal) nodeId := by
  cases delivery with
  | Unreachable status => exact h
  | Served others now consensus lostReply =>
    exact EnrollmentService.replay_enrolled target.platform journal others nodeId h

theorem register_holds (other : NodeId) (mac : String)
    (h : Holds (delivery.finds target.platform journal) other) :
    Holds (register target journal delivery nodeId mac).1 other := by
  unfold register
  cases authorize target.library target.token with
  | error status => exact h
  | ok authorization =>
    cases delivery with
    | Unreachable status => exact h
    | Served others now consensus lostReply =>
      have hafter : Holds ((EnrollmentService.registerNode target.config now
          ⟨authorization, registerRequest nodeId mac⟩).finish target.platform consensus
          (replay target.platform journal others).1).1 other := by
        rcases finish_cases target.platform consensus (replay target.platform journal others).1
          (EnrollmentService.registerNode target.config now
            ⟨authorization, registerRequest nodeId mac⟩) with hsame | ⟨cmd, at_, -, happlied⟩
        · rw [hsame]
          exact h
        · rw [happlied]
          obtain ⟨record, hget⟩ := h
          exact ⟨_, apply_record target.platform at_ _ cmd other record hget⟩
      cases lostReply <;> exact hafter

theorem register_enrolled (mac : String) (response : Proto.RegisterNodeResponse)
    (h : (register target journal delivery nodeId mac).2 = .ok response) :
    Holds (register target journal delivery nodeId mac).1 nodeId := by
  rcases register_cases target journal delivery nodeId mac with
    ⟨status, -, hanswer⟩ | ⟨-, enrollment, rfl, hmac, hregister⟩
  · rw [hanswer] at h
    cases h
  · rw [hregister] at h ⊢
    obtain ⟨hheld, hfree⟩ := journalAnswer_ok target.platform _ _ mac response h
    rw [hardwareKey, ← hmac] at hfree
    simp only [registerNode, if_neg hheld, hfree]
    exact ⟨enrollment, Map.get_insert_self _ _ _⟩

end Registration

def Step.Answered (step : Step) : Prop :=
  step.answer =
    match outsideRefusal target step.delivery with
    | some status => .error status
    | none => journalAnswer target.platform step.found step.nodeId step.mac

section Rounds

variable (journal : JournalState) (calls : List ((NodeId × String) × Delivery))

theorem registerAll_answered :
    ∀ step ∈ (registerAll target journal calls).2, step.Answered target := by
  induction calls generalizing journal with
  | nil => simp [registerAll]
  | cons call calls ih =>
    obtain ⟨⟨nodeId, mac⟩, delivery⟩ := call
    intro step hmem
    rcases List.mem_cons.mp hmem with rfl | hrest
    · exact register_answer target journal delivery nodeId mac
    · exact ih _ step hrest

theorem registerAll_length : (registerAll target journal calls).2.length = calls.length := by
  induction calls generalizing journal with
  | nil => rfl
  | cons call calls ih =>
    obtain ⟨⟨nodeId, mac⟩, delivery⟩ := call
    simp only [registerAll, List.length_cons, ih]

theorem registerAll_holds (nodeId : NodeId) (h : Holds journal nodeId) :
    Holds (registerAll target journal calls).1 nodeId ∧
      ∀ step ∈ (registerAll target journal calls).2, Holds step.found nodeId := by
  induction calls generalizing journal with
  | nil => exact ⟨h, by simp [registerAll]⟩
  | cons call calls ih =>
    obtain ⟨⟨other, mac⟩, delivery⟩ := call
    have hfound := finds_holds target journal delivery nodeId h
    obtain ⟨hlast, hsteps⟩ := ih _ (register_holds target journal delivery other nodeId mac hfound)
    refine ⟨hlast, fun step hmem => ?_⟩
    rcases List.mem_cons.mp hmem with rfl | hrest
    · exact hfound
    · exact hsteps step hrest

theorem registerAll_enrolled (step : Step) (hmem : step ∈ (registerAll target journal calls).2)
    (response : Proto.RegisterNodeResponse) (hok : step.answer = .ok response) :
    Holds (registerAll target journal calls).1 step.nodeId := by
  induction calls generalizing journal with
  | nil => simp [registerAll] at hmem
  | cons call calls ih =>
    obtain ⟨⟨nodeId, mac⟩, delivery⟩ := call
    rcases List.mem_cons.mp hmem with rfl | hrest
    · exact (registerAll_holds target _ calls nodeId
        (register_enrolled target journal delivery nodeId mac response hok)).1
    · exact ih _ hrest

end Rounds

end Calls

section Steps

variable {target : Target} {step : Step}

theorem Step.held_iff : step.held = true ↔ Holds step.found step.nodeId := by
  rw [Step.held, Option.isSome_iff_exists]
  rfl

theorem Step.Answered.not_held (h : step.Answered target) (response : Proto.RegisterNodeResponse)
    (hok : step.answer = .ok response) : step.held = false := by
  rw [Step.Answered, hok] at h
  cases houtside : outsideRefusal target step.delivery with
  | some status =>
    rw [houtside] at h
    cases h
  | none =>
    rw [houtside] at h
    have hnot := (journalAnswer_ok target.platform _ _ step.mac response h.symm).1
    rwa [Step.held, ← Bool.not_eq_true]

theorem Step.Answered.told_iff (h : step.Answered target) :
    step.Told target ↔ ∀ status, step.answer = .error status →
      (mentionsEnrolled status.message = true ↔ step.held = true) := by
  rw [Step.Answered] at h
  rw [Step.Told, h]
  cases outsideRefusal target step.delivery with
  | some status => simp
  | none =>
    by_cases hheld : step.held = true
    · have hid := mentionsEnrolled_append "NODE_ALREADY_ENROLLED: " step.nodeId (by decide)
      have hget : (step.found.enrollments.get step.nodeId).isSome = true := hheld
      simp [journalAnswer, hget, hheld, hid]
    · have hget : ¬(step.found.enrollments.get step.nodeId).isSome = true := hheld
      cases hfree : step.found.hwIndex.get (hardwareKey target.platform step.mac) with
      | none => simp [journalAnswer, hget, hheld, hfree]
      | some existing =>
        simp [journalAnswer, hget, hheld, hfree, mentionsEnrolled_conflict existing]

theorem Step.Answered.verdicts_iff (h : step.Answered target) :
    ((step.verdict = .AlreadyEnrolled ↔ step.held = true) ∧
      (step.verdict = .Failed ↔ step.refused = true ∧ step.held = false)) ↔ step.Told target := by
  rw [h.told_iff]
  cases hanswer : step.answer with
  | ok response =>
    simp [Step.verdict, Step.refused, hanswer, h.not_held response hanswer, Except.isOk,
      Except.toBool]
  | error status =>
    cases hheld : step.held <;> cases hmentions : mentionsEnrolled status.message <;>
      simp [Step.verdict, Step.refused, hanswer, hmentions, Except.isOk, Except.toBool]

-- A node that the journal has is not reported as failed exactly if the client is right about it.
theorem Step.Answered.not_failed_iff (h : step.Answered target) (hheld : step.held = true) :
    step.verdict ≠ .Failed ↔ step.Told target := by
  rw [h.told_iff]
  cases hanswer : step.answer with
  | ok response =>
    rw [h.not_held response hanswer] at hheld
    cases hheld
  | error status =>
    cases hmentions : mentionsEnrolled status.message <;>
      simp [Step.verdict, hanswer, hmentions, hheld]

end Steps

section Counters

theorem countOf_append (verdict : Verdict) (steps : List Step) (step : Step) :
    countOf verdict (steps ++ [step]) =
      countOf verdict steps + if step.verdict = verdict then 1 else 0 := by
  simp [countOf, List.countP_append, List.countP_cons]

-- By induction from the end: a counter is the count so far, in 32 bits.
theorem tally_counts (steps : List Step) :
    (tally steps).enrolled = countOf .Enrolled steps % 2 ^ 32 ∧
    (tally steps).alreadyEnrolled = countOf .AlreadyEnrolled steps % 2 ^ 32 ∧
    (tally steps).failed = countOf .Failed steps % 2 ^ 32 := by
  induction steps using List.reverseRecOn with
  | nil => exact ⟨rfl, rfl, rfl⟩
  | append_singleton steps step ih =>
    obtain ⟨henrolled, halready, hfailed⟩ := ih
    have htally : tally (steps ++ [step]) = (tally steps).count step := by
      rw [tally, List.foldl_append]
      rfl
    rw [htally, countOf_append, countOf_append, countOf_append, Tally.count, Step.verdict]
    cases step.answer with
    | ok response => simp [henrolled, halready, hfailed]
    | error status =>
      cases hmentions : mentionsEnrolled status.message <;>
        simp [henrolled, halready, hfailed, hmentions]

theorem countOf_sum (steps : List Step) :
    countOf .Enrolled steps + countOf .AlreadyEnrolled steps + countOf .Failed steps =
      steps.length := by
  induction steps using List.reverseRecOn with
  | nil => rfl
  | append_singleton steps step ih =>
    rw [countOf_append, countOf_append, countOf_append, List.length_append, List.length_singleton]
    cases step.verdict <;> simp <;> omega

theorem sum_iff (steps : List Step) :
    (tally steps).enrolled + (tally steps).alreadyEnrolled + (tally steps).failed = steps.length ↔
      ∀ verdict, countOf verdict steps < 2 ^ 32 := by
  obtain ⟨henrolled, halready, hfailed⟩ := tally_counts steps
  have hsum := countOf_sum steps
  rw [henrolled, halready, hfailed]
  constructor
  · intro h verdict
    cases verdict <;> omega
  · intro h
    have h1 := h .Enrolled
    have h2 := h .AlreadyEnrolled
    have h3 := h .Failed
    omega

end Counters

-- For every inventory and journal, however the calls go: the report is right, and that of a second
-- import too, exactly where the messages tell the client what it takes them to tell.
theorem import_reports_iff (target : Target) (components : List SmdComponent)
    (interfaces : List SmdEthernetInterface) (deliveries later : Nat → Delivery)
    (journal : JournalState) :
    let data := parseSmdEnrollmentData components interfaces
    let first := registerAll target journal (calls data deliveries)
    let second := registerAll target first.1 (calls data later)
    first.2.length = components.length ∧
      (Reports first.2 second.2 ↔ ReportFits target first.2 second.2) := by
  intro data first second
  have hfirst := registerAll_answered target journal (calls data deliveries)
  have hsecond := registerAll_answered target first.1 (calls data later)
  have hheld : ∀ step ∈ second.2,
      (∃ earlier ∈ first.2, earlier.nodeId = step.nodeId ∧ earlier.verdict = .Enrolled) →
      step.held = true := by
    rintro step hmem ⟨earlier, hearlier, hnode, hverdict⟩
    rw [Step.held_iff, ← hnode]
    refine (registerAll_holds target first.1 (calls data later) earlier.nodeId ?_).2 step hmem
    cases hanswer : earlier.answer with
    | ok response => exact registerAll_enrolled target journal _ earlier hearlier response hanswer
    | error status =>
      simp only [Step.verdict, hanswer] at hverdict
      split_ifs at hverdict
  refine ⟨?_, ?_, ?_⟩
  · simp [first, registerAll_length, calls, data, parseSmdEnrollmentData]
  · rintro ⟨halready, hfailed, hsum, hrepeated⟩
    refine ⟨?_, (sum_iff first.2).mp hsum, ?_⟩
    · intro step hmem
      exact (hfirst step hmem).verdicts_iff.mp ⟨halready step hmem, hfailed step hmem⟩
    · intro step hmem henrolled
      exact ((hsecond step hmem).not_failed_iff (hheld step hmem henrolled)).mp
        (hrepeated step hmem henrolled)
  · rintro ⟨htold, hcounters, hrepeated⟩
    refine ⟨?_, ?_, (sum_iff first.2).mpr hcounters, ?_⟩
    · intro step hmem
      exact ((hfirst step hmem).verdicts_iff.mpr (htold step hmem)).1
    · intro step hmem
      exact ((hfirst step hmem).verdicts_iff.mpr (htold step hmem)).2
    · intro step hmem henrolled
      exact ((hsecond step hmem).not_failed_iff (hheld step hmem henrolled)).mpr
        (hrepeated step hmem henrolled)

-- A platform admin, a journal that answers every call, and two nodes without an interface.
def adminTarget : Target where
  platform := .ascii
  config := ⟨"default", fun token => .ok ⟨"admin", .Human, token⟩⟩
  library := ⟨fun value => some (.Text value), fun status => status.message⟩
  token := "pact-platform-admin"

def prompt : Nat → Delivery := fun _ => .Served [] 0 (.Committed 0) none

def bareNodes : Smd where
  components := .ok [⟨"x1", "Compute"⟩, ⟨"x2", "Compute"⟩]
  ethernet _ := .ok []

def firstImport : JournalState × Except String String :=
  importFromSmd adminTarget bareNodes none prompt .default

-- The second node has the empty MAC address of the first: it is refused for its hardware, and
-- counted as enrolled already. The second import counts the node that was enrolled as failed.
theorem import_misreports :
    firstImport.2 = .ok
      "Imported from SMD: 1 enrolled, 1 already enrolled, 0 failed (out of 2 discovered)" ∧
    firstImport.1.enrollments.get "x2" = none ∧
    (importFromSmd adminTarget bareNodes none prompt firstImport.1).2 = .ok
      ("Imported from SMD: 0 enrolled, 1 already enrolled, 1 failed (out of 2 discovered)\n" ++
        "  x1: NODE_ALREADY_ENROLLED: x1") := by
  decide +kernel

end Pact.Cli.Import
