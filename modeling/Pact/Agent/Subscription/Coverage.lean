import Pact.Agent.Subscription.Theorems

namespace Pact.Agent.Subscription

open Pact.Library Pact.Common

-- A subscriber with what it has received on its present stream, each update with whether an
-- action was dispatched for it. Nothing can be dispatched once the other end of the channel is
-- gone.
structure Listener where
  subscriber : Subscriber
  channelOpen : Bool
  received : List (Proto.ConfigUpdate × Bool)
  deriving DecidableEq

def Listener.new : Listener := ⟨.new, true, []⟩

def Listener.lastSequence (listener : Listener) : Nat := listener.subscriber.lastSequence

inductive ListenerStep
  | Accepted (stream : List Proto.ConfigUpdate)
  | Refused
  | Received
  | Ended
  | CloseChannel
  deriving DecidableEq

def Listener.dispatches (parser : PayloadParser) (listener : Listener) (update : Proto.ConfigUpdate) :
    Bool :=
  listener.channelOpen ∧ (action parser update).isSome

def receive (parser : PayloadParser) (update : Proto.ConfigUpdate) (rest : List Proto.ConfigUpdate)
    (listener : Listener) : Listener :=
  let waiting := { listener.subscriber with phase := .Streaming rest }
  { listener with
    subscriber := if listener.channelOpen then processUpdate parser update waiting else waiting
    received := listener.received ++ [(update, listener.dispatches parser update)] }

-- The server may stream anything to a subscriber that it accepts.
def listenerNext (config : SubscriptionConfig) (parser : PayloadParser) (listener : Listener) :
    ListenerStep → Option Listener
  | .Accepted stream =>
    (subscriberNext config parser (fun _ => stream) listener.subscriber .Accepted).map
      fun subscriber => { listener with subscriber := subscriber, received := [] }
  | .Refused =>
    (subscriberNext config parser (fun _ => []) listener.subscriber .Refused).map
      fun subscriber => { listener with subscriber := subscriber }
  | .Received =>
    match listener.subscriber.phase with
    | .Streaming (update :: rest) => some (receive parser update rest listener)
    | _ => none
  | .Ended =>
    (subscriberNext config parser (fun _ => []) listener.subscriber .Ended).map
      fun subscriber => { listener with subscriber := subscriber }
  | .CloseChannel => some { listener with channelOpen := false }

-- Every update of the present stream up to the last number was dispatched.
def Covered (listener : Listener) : Prop :=
  ∀ entry ∈ listener.received, entry.1.sequence ≤ listener.lastSequence → entry.2 = true

def Listener.incoming (listener : Listener) : Option Proto.ConfigUpdate :=
  match listener.subscriber.phase with
  | .Streaming (update :: _) => some update
  | _ => none

-- No update that has failed on this stream has a number up to that of the update.
def Listener.ClearUpTo (listener : Listener) (update : Proto.ConfigUpdate) : Prop :=
  ∀ entry ∈ listener.received, entry.2 = false → update.sequence < entry.1.sequence

def AdvancesClear (parser : PayloadParser) (listener : Listener) (step : ListenerStep) : Prop :=
  step = .Received → ∀ update ∈ listener.incoming, listener.dispatches parser update = true →
    update.sequence ≠ listener.lastSequence → listener.ClearUpTo update

-- Neither does an update fail that has a number up to the last one.
def StaysClear (parser : PayloadParser) (listener : Listener) (step : ListenerStep) : Prop :=
  step = .Received → ∀ update ∈ listener.incoming,
    if listener.dispatches parser update then listener.ClearUpTo update
    else listener.lastSequence < update.sequence

section Decidable

variable (parser : PayloadParser) (listener : Listener) (update : Proto.ConfigUpdate)
  (step : ListenerStep)

instance : Decidable (listener.ClearUpTo update) := by
  unfold Listener.ClearUpTo
  infer_instance

instance : Decidable (AdvancesClear parser listener step) := by
  unfold AdvancesClear
  infer_instance

instance : Decidable (StaysClear parser listener step) := by
  unfold StaysClear
  infer_instance

end Decidable

section Steps

variable (config : SubscriptionConfig) (parser : PayloadParser) (listener after : Listener)

theorem receive_lastSequence (update : Proto.ConfigUpdate) (rest : List Proto.ConfigUpdate) :
    (receive parser update rest listener).lastSequence =
      if listener.dispatches parser update then update.sequence else listener.lastSequence := by
  cases hopen : listener.channelOpen with
  | false => simp [receive, Listener.lastSequence, Listener.dispatches, hopen, Subscriber.lastSequence]
  | true =>
    cases hact : action parser update with
    | none =>
      simp [receive, processUpdate, Listener.lastSequence, Listener.dispatches, hopen, hact,
        Subscriber.lastSequence]
    | some act =>
      simp [receive, processUpdate, Listener.lastSequence, Listener.dispatches, hopen, hact,
        Subscriber.lastSequence]

theorem listenerNext_received (step : ListenerStep)
    (hnext : listenerNext config parser listener step = some after) :
    (step ≠ .Received ∧ after.lastSequence = listener.lastSequence ∧
        ∀ entry ∈ after.received, entry ∈ listener.received) ∨
      ∃ update rest, step = .Received ∧ listener.incoming = some update ∧
        after = receive parser update rest listener := by
  cases step with
  | Accepted stream =>
    simp only [listenerNext, Option.map_eq_some_iff] at hnext
    obtain ⟨subscriber, hsubscriber, rfl⟩ := hnext
    refine .inl ⟨by simp, ?_, by simp⟩
    simp only [subscriberNext] at hsubscriber
    split at hsubscriber <;> cases hsubscriber
    rfl
  | Refused | Ended =>
    simp only [listenerNext, Option.map_eq_some_iff] at hnext
    obtain ⟨subscriber, hsubscriber, rfl⟩ := hnext
    refine .inl ⟨by simp, ?_, fun _ h => h⟩
    simp only [subscriberNext] at hsubscriber
    split at hsubscriber <;> cases hsubscriber
    exact (disconnect_kept config listener.subscriber).1
  | Received =>
    simp only [listenerNext] at hnext
    split at hnext
    case h_1 update rest hphase =>
      cases hnext
      exact .inr ⟨update, rest, rfl, by rw [Listener.incoming, hphase], rfl⟩
    case h_2 => cases hnext
  | CloseChannel =>
    cases hnext
    exact .inl ⟨by simp, rfl, fun _ h => h⟩

theorem covered_receive_iff (update : Proto.ConfigUpdate) (rest : List Proto.ConfigUpdate)
    (hdispatches : listener.dispatches parser update = true) :
    Covered (receive parser update rest listener) ↔ listener.ClearUpTo update := by
  have hlast := receive_lastSequence parser listener update rest
  rw [if_pos hdispatches] at hlast
  rw [Covered, hlast]
  simp only [receive, hdispatches, List.mem_append, List.mem_singleton]
  constructor
  · intro hcovered entry hentry hfailed
    by_contra hle
    have hsent := hcovered entry (.inl hentry) (Nat.le_of_not_lt hle)
    rw [hfailed] at hsent
    cases hsent
  · rintro hclear entry (hentry | rfl) hle
    · by_contra hfailed
      have hlt := hclear entry hentry (Bool.eq_false_iff.mpr hfailed)
      omega
    · rfl

theorem covered_failed_iff (update : Proto.ConfigUpdate) (rest : List Proto.ConfigUpdate)
    (hcovered : Covered listener) (hdispatches : listener.dispatches parser update = false) :
    Covered (receive parser update rest listener) ↔ listener.lastSequence < update.sequence := by
  have hlast := receive_lastSequence parser listener update rest
  rw [if_neg (by simp [hdispatches])] at hlast
  rw [Covered, hlast]
  simp only [receive, hdispatches, List.mem_append, List.mem_singleton]
  constructor
  · intro hafter
    by_contra hle
    cases hafter (update, false) (.inr rfl) (Nat.le_of_not_lt hle)
  · rintro hlt entry (hentry | rfl) hle
    · exact hcovered entry hentry hle
    · exact absurd hlt (Nat.not_lt_of_le hle)

theorem advance_covered_iff (step : ListenerStep)
    (hnext : listenerNext config parser listener step = some after) :
    (after.lastSequence ≠ listener.lastSequence → Covered after) ↔
      AdvancesClear parser listener step := by
  rcases listenerNext_received config parser listener after step hnext with
    ⟨hstep, hlast, _⟩ | ⟨update, rest, rfl, hincoming, rfl⟩
  · exact iff_of_true (fun hne => absurd hlast hne) fun hreceived => absurd hreceived hstep
  · rw [receive_lastSequence, AdvancesClear, hincoming]
    simp only [Option.mem_def, Option.some.injEq, forall_eq', forall_const]
    cases hdispatches : listener.dispatches parser update with
    | true =>
      rw [covered_receive_iff parser listener update rest hdispatches]
      simp
    | false => simp

theorem covered_next_iff (step : ListenerStep) (hcovered : Covered listener)
    (hnext : listenerNext config parser listener step = some after) :
    Covered after ↔ StaysClear parser listener step := by
  rcases listenerNext_received config parser listener after step hnext with
    ⟨hstep, hlast, hreceived⟩ | ⟨update, rest, rfl, hincoming, rfl⟩
  · refine iff_of_true ?_ fun hstep' => absurd hstep' hstep
    intro entry hentry hle
    exact hcovered entry (hreceived entry hentry) (hlast ▸ hle)
  · rw [StaysClear, hincoming]
    simp only [Option.mem_def, Option.some.injEq, forall_eq', forall_const]
    cases hdispatches : listener.dispatches parser update with
    | true =>
      rw [covered_receive_iff parser listener update rest hdispatches]
      simp
    | false =>
      rw [covered_failed_iff parser listener update rest hcovered hdispatches]
      simp

end Steps

-- The last number moves only where all updates of the stream up to it were dispatched exactly if
-- none is dispatched after one with a number up to its own has failed. It also stays that way if
-- none with a number up to the last one fails later.
theorem updates_covered_iff (config : SubscriptionConfig) (parser : PayloadParser)
    (steps : List ListenerStep) (last : Listener)
    (run : Run (listenerNext config parser) Unrestricted .new steps last) :
    ((∀ before step rest middle after, steps = before ++ step :: rest →
        Run (listenerNext config parser) Unrestricted .new before middle →
        listenerNext config parser middle step = some after →
        after.lastSequence ≠ middle.lastSequence → Covered after) ↔
      Run (listenerNext config parser) (AdvancesClear parser) .new steps last) ∧
    ((∀ before rest middle, steps = before ++ rest →
        Run (listenerNext config parser) Unrestricted .new before middle → Covered middle) ↔
      Run (listenerNext config parser) (StaysClear parser) .new steps last) := by
  constructor
  · exact run.steps_iff (fun _ => True)
      (fun listener _ after => after.lastSequence ≠ listener.lastSequence → Covered after)
      (fun _ _ _ _ _ => trivial)
      (fun listener step after _ hnext => advance_covered_iff config parser listener after step hnext)
      trivial
  · exact run.always_iff Covered
      (fun listener step after hcovered hnext =>
        covered_next_iff config parser listener after step hcovered hnext) nofun

-- Nothing is received on a stream after an update that was not dispatched.
def StopsAtFailure (listener : Listener) (step : ListenerStep) : Prop :=
  step = .Received → ∀ entry ∈ listener.received, entry.2 = true

theorem advancesClear_of_stops (config : SubscriptionConfig) (parser : PayloadParser)
    (steps : List ListenerStep) (start last : Listener)
    (run : Run (listenerNext config parser) StopsAtFailure start steps last) :
    Run (listenerNext config parser) (AdvancesClear parser) start steps last := by
  refine run.weaken ?_
  intro listener step hstops hstep update _ _ _ entry hentry hfailed
  rw [hstops hstep entry hentry] at hfailed
  cases hfailed

def policyUpdate (sequence : Nat) : Proto.ConfigUpdate :=
  ⟨sequence, some ⟨0, 0⟩, some (.PolicyChange [])⟩

def readableSteps : List ListenerStep :=
  [.Accepted [overlayUpdate 1, overlayUpdate 2, policyUpdate 3], .Received, .Received, .Received,
    .Ended, .Accepted [overlayUpdate 2, policyUpdate 3], .Received, .Received, .CloseChannel, .Ended]

theorem updates_covered_readable :
    ∃ last, Run (listenerNext .default .unused) (AdvancesClear .unused) .new readableSteps last ∧
      ∀ before step rest middle after, readableSteps = before ++ step :: rest →
        Run (listenerNext .default .unused) Unrestricted .new before middle →
        listenerNext .default .unused middle step = some after →
        after.lastSequence ≠ middle.lastSequence → Covered after := by
  obtain ⟨last, hrun⟩ := exists_run_of_execWhere (listenerNext .default .unused)
    (AdvancesClear .unused) .new readableSteps (by decide +kernel)
  exact ⟨last, hrun, (updates_covered_iff .default .unused readableSteps last
    hrun.unrestricted).1.mpr hrun⟩

-- A policy that cannot be read is passed over by the next overlay, and the stream after the
-- reconnect is asked for from behind it.
theorem unreadable_policy_passed :
    ∃ middle last, Run (listenerNext .default .unused) Unrestricted .new
        [.Accepted [policyUpdate 1, overlayUpdate 2], .Received] middle ∧
      listenerNext .default .unused middle .Received = some last ∧
      middle.lastSequence = 0 ∧ last.lastSequence = 2 ∧
      last.received = [(policyUpdate 1, false), (overlayUpdate 2, true)] ∧ ¬Covered last := by
  refine ⟨_, _, (exec_eq_some_iff _ _ _ _).mp rfl, rfl, rfl, rfl, by decide, ?_⟩
  intro hcovered
  cases hcovered (policyUpdate 1, false) (by decide) (by decide)

end Pact.Agent.Subscription
