import Pact.Agent.Subscription

namespace Pact.Agent.Subscription

open Pact.Library Pact.Common

def Subscriber.lastSequence (subscriber : Subscriber) : Nat := subscriber.state.lastSequence

-- What a server streams whose updates are `log`.
def serve (log : List Proto.ConfigUpdate) (fromSequence : Nat) : List Proto.ConfigUpdate :=
  numberedFrom Proto.ConfigUpdate.sequence log fromSequence

structure WellFormed (parser : PayloadParser) (log : List Proto.ConfigUpdate) : Prop where
  increasing : log.Pairwise fun one other => one.sequence < other.sequence
  readable : ∀ update ∈ log, ∃ act, action parser update = some act

-- Everything up to the last number has been dispatched, once there is a last number.
structure Delivered (parser : PayloadParser) (log : List Proto.ConfigUpdate)
    (subscriber : Subscriber) : Prop where
  fresh : subscriber.dispatched = [] → subscriber.lastSequence = 0
  covered : subscriber.dispatched ≠ [] → ∀ update ∈ log,
    update.sequence ≤ subscriber.lastSequence →
    ∃ act, action parser update = some act ∧ (update.sequence, act) ∈ subscriber.dispatched
  genuine : ∀ sent ∈ subscriber.dispatched, sent.1 ≤ subscriber.lastSequence ∧
    ∃ update ∈ log, update.sequence = sent.1 ∧ action parser update = some sent.2
  ordered : (subscriber.dispatched.map Prod.fst).Pairwise (· ≤ ·)

-- What is still to come of an open stream starts at the last number or right after it, the
-- latter once the stream has brought something.
structure Inv (parser : PayloadParser) (log : List Proto.ConfigUpdate) (subscriber : Subscriber) :
    Prop extends Delivered parser log subscriber where
  incoming : ∀ incoming, subscriber.phase = .Streaming incoming →
    incoming = serve log subscriber.lastSequence ∨
      subscriber.dispatched ≠ [] ∧ incoming = serve log (subscriber.lastSequence + 1)

theorem inv_new (parser : PayloadParser) (log : List Proto.ConfigUpdate) :
    Inv parser log .new where
  fresh _ := rfl
  covered h := absurd rfl h
  genuine _ h := absurd h List.not_mem_nil
  ordered := .nil
  incoming _ h := by cases h

theorem WellFormed.eq_of_sequence_eq {parser : PayloadParser} {log : List Proto.ConfigUpdate}
    (hlog : WellFormed parser log) {update other : Proto.ConfigUpdate} (hupdate : update ∈ log)
    (hother : other ∈ log) (h : update.sequence = other.sequence) : update = other := by
  have hnodup : (log.map Proto.ConfigUpdate.sequence).Nodup :=
    (List.pairwise_map.mpr hlog.increasing).imp Nat.ne_of_lt
  exact List.inj_on_of_nodup_map hnodup hupdate hother h

-- What one received update does. It is the next one of the log, or the last one again if it is
-- the first of its stream.
theorem received_outcome (config : SubscriptionConfig) (parser : PayloadParser)
    (log : List Proto.ConfigUpdate) (subscriber after : Subscriber)
    (hlog : WellFormed parser log) (hinv : Inv parser log subscriber)
    (hnext : subscriberNext config parser (serve log) subscriber .Received = some after) :
    ∃ update rest act first, subscriber.phase = .Streaming (update :: rest) ∧
      update ∈ log ∧ action parser update = some act ∧
      rest = serve log (update.sequence + 1) ∧
      update :: rest = serve log first ∧
      (first = subscriber.lastSequence ∨
        subscriber.dispatched ≠ [] ∧ first = subscriber.lastSequence + 1) ∧
      first ≤ update.sequence ∧
      (∀ other ∈ log, first ≤ other.sequence → update.sequence ≤ other.sequence) ∧
      after.phase = .Streaming rest ∧ after.lastSequence = update.sequence ∧
      after.dispatched = subscriber.dispatched ++ [(update.sequence, act)] := by
  simp only [subscriberNext] at hnext
  split at hnext
  case h_2 => cases hnext
  case h_1 update rest hphase =>
    cases hnext
    obtain ⟨first, hserved, hfirst⟩ : ∃ first, update :: rest = serve log first ∧
        (first = subscriber.lastSequence ∨
          subscriber.dispatched ≠ [] ∧ first = subscriber.lastSequence + 1) := by
      rcases hinv.incoming _ hphase with hserved | ⟨hsome, hserved⟩
      · exact ⟨_, hserved, .inl rfl⟩
      · exact ⟨_, hserved, .inr ⟨hsome, rfl⟩⟩
    obtain ⟨hmem, hle, hrest, hleast⟩ :=
      numberedFrom_cons Proto.ConfigUpdate.sequence log first update rest hlog.increasing
        hserved.symm
    obtain ⟨act, hact⟩ := hlog.readable update hmem
    refine ⟨update, rest, act, first, hphase, hmem, hact, hrest, hserved, hfirst, hle, hleast, ?_⟩
    simp [processUpdate, hact, Subscriber.lastSequence]

theorem inv_received (config : SubscriptionConfig) (parser : PayloadParser)
    (log : List Proto.ConfigUpdate) (subscriber after : Subscriber)
    (hlog : WellFormed parser log) (hinv : Inv parser log subscriber)
    (hnext : subscriberNext config parser (serve log) subscriber .Received = some after) :
    Inv parser log after := by
  obtain ⟨update, rest, act, first, _, hmem, hact, hrest, _, hfirst, hle, hleast, hphase, hlast,
    hdispatched⟩ := received_outcome config parser log subscriber after hlog hinv hnext
  have hgrown : subscriber.lastSequence ≤ update.sequence := by
    rcases hfirst with rfl | ⟨_, rfl⟩ <;> omega
  refine ⟨⟨fun h => ?_, fun _ other hother hbefore => ?_, fun sent hsent => ?_, ?_⟩, ?_⟩
  · simp [hdispatched] at h
  · rw [hlast] at hbefore
    rw [hdispatched]
    by_cases hfrom : first ≤ other.sequence
    · have hsame : other.sequence = update.sequence :=
        Nat.le_antisymm hbefore (hleast other hother hfrom)
      obtain rfl := hlog.eq_of_sequence_eq hother hmem hsame
      exact ⟨act, hact, by simp⟩
    · -- it comes before what the stream brings, so it has been dispatched
      have hsome : subscriber.dispatched ≠ [] := by
        intro hnone
        have hzero := hinv.fresh hnone
        rcases hfirst with rfl | ⟨hsome, _⟩
        · omega
        · exact hsome hnone
      obtain ⟨known, hknown, hsent⟩ := hinv.covered hsome other hother (by
        rcases hfirst with rfl | ⟨_, rfl⟩ <;> omega)
      exact ⟨known, hknown, List.mem_append_left _ hsent⟩
  · rw [hdispatched, List.mem_append, List.mem_singleton] at hsent
    rcases hsent with hsent | rfl
    · obtain ⟨hbound, hupdate⟩ := hinv.genuine sent hsent
      exact ⟨by omega, hupdate⟩
    · exact ⟨hlast.ge, update, hmem, rfl, hact⟩
  · rw [hdispatched, List.map_append, List.pairwise_append]
    refine ⟨hinv.ordered, List.pairwise_singleton _ _, fun one hone other hother => ?_⟩
    obtain ⟨sent, hsent, rfl⟩ := List.mem_map.mp hone
    obtain rfl := List.mem_singleton.mp hother
    exact (hinv.genuine sent hsent).1.trans hgrown
  · intro incoming hincoming
    rw [hphase] at hincoming
    cases hincoming
    exact .inr ⟨by simp [hdispatched], by rw [hlast]; exact hrest⟩

theorem disconnect_kept (config : SubscriptionConfig) (subscriber : Subscriber) :
    (disconnect config subscriber).lastSequence = subscriber.lastSequence ∧
      (disconnect config subscriber).dispatched = subscriber.dispatched ∧
      ∀ incoming, (disconnect config subscriber).phase ≠ .Streaming incoming := by
  unfold disconnect
  split
  case h_1 state delay hstate =>
    obtain rfl := congrArg Prod.fst hstate
    exact ⟨rfl, rfl, fun _ hphase => by cases hphase⟩
  case h_2 state hstate =>
    obtain rfl := congrArg Prod.fst hstate
    exact ⟨rfl, rfl, fun _ hphase => by cases hphase⟩

-- Connecting and losing the connection leave the number and what was dispatched, and a stream
-- that opens is asked from that number on.
theorem next_kept (config : SubscriptionConfig) (parser : PayloadParser)
    (log : List Proto.ConfigUpdate) (subscriber after : Subscriber) (event : Event)
    (hevent : event ≠ .Received)
    (hnext : subscriberNext config parser (serve log) subscriber event = some after) :
    after.lastSequence = subscriber.lastSequence ∧
      after.dispatched = subscriber.dispatched ∧
      ∀ incoming, after.phase = .Streaming incoming →
        incoming = serve log after.lastSequence := by
  cases event with
  | Received => exact absurd rfl hevent
  | Accepted =>
    simp only [subscriberNext] at hnext
    split at hnext
    · cases hnext
      refine ⟨rfl, rfl, fun incoming hphase => ?_⟩
      cases hphase
      rfl
    · cases hnext
  | Refused | Ended =>
    simp only [subscriberNext] at hnext
    split at hnext
    · cases hnext
      obtain ⟨hlast, hdispatched, hclosed⟩ := disconnect_kept config subscriber
      exact ⟨hlast, hdispatched, fun incoming hphase => absurd hphase (hclosed incoming)⟩
    · cases hnext

theorem inv_next (config : SubscriptionConfig) (parser : PayloadParser)
    (log : List Proto.ConfigUpdate) (subscriber after : Subscriber) (event : Event)
    (hlog : WellFormed parser log) (hinv : Inv parser log subscriber)
    (hnext : subscriberNext config parser (serve log) subscriber event = some after) :
    Inv parser log after := by
  by_cases hevent : event = .Received
  · subst hevent
    exact inv_received config parser log subscriber after hlog hinv hnext
  · obtain ⟨hlast, hdispatched, hopened⟩ :=
      next_kept config parser log subscriber after event hevent hnext
    refine ⟨⟨?_, ?_, ?_, ?_⟩, fun incoming hphase => .inl (hopened incoming hphase)⟩
    · rw [hlast, hdispatched]
      exact hinv.fresh
    · rw [hlast, hdispatched]
      exact hinv.covered
    · rw [hlast, hdispatched]
      exact hinv.genuine
    · rw [hdispatched]
      exact hinv.ordered

-- An update is dispatched again only as the first of a stream, and then it is the one whose
-- number the stream was asked from.
theorem delivery_across_reconnects (config : SubscriptionConfig) (parser : PayloadParser)
    (log : List Proto.ConfigUpdate) (events : List Event) (subscriber : Subscriber)
    (hlog : WellFormed parser log)
    (hrun : Run (subscriberNext config parser (serve log)) Unrestricted .new events subscriber) :
    Delivered parser log subscriber ∧
      ∀ event after, subscriberNext config parser (serve log) subscriber event = some after →
        subscriber.lastSequence ≤ after.lastSequence ∧
        (after.dispatched = subscriber.dispatched ∨
          ∃ sent, after.dispatched = subscriber.dispatched ++ [sent] ∧
            (sent.1 ∈ subscriber.dispatched.map Prod.fst →
              sent.1 = subscriber.lastSequence ∧
              subscriber.phase = .Streaming (serve log subscriber.lastSequence))) := by
  have hinv : Inv parser log subscriber := hrun.invariant (Inv parser log)
    (fun state event after h _ hnext => inv_next config parser log state after event hlog h hnext)
    (inv_new parser log)
  refine ⟨hinv.toDelivered, fun event after hnext => ?_⟩
  by_cases hevent : event = .Received
  · subst hevent
    obtain ⟨update, rest, act, first, hphase, _, _, _, hserved, hfirst, hle, _, _, hlast,
      hdispatched⟩ := received_outcome config parser log subscriber after hlog hinv hnext
    refine ⟨by rcases hfirst with rfl | ⟨_, rfl⟩ <;> omega, .inr ⟨_, hdispatched, ?_⟩⟩
    intro hrepeated
    obtain ⟨sent, hsent, hsame⟩ := List.mem_map.mp hrepeated
    have hbound := (hinv.genuine sent hsent).1
    rcases hfirst with rfl | ⟨_, rfl⟩
    · exact ⟨by omega, hserved ▸ hphase⟩
    · omega
  · obtain ⟨hlast, hdispatched, _⟩ :=
      next_kept config parser log subscriber after event hevent hnext
    exact ⟨hlast.ge, .inl hdispatched⟩

def overlayUpdate (sequence : Nat) : Proto.ConfigUpdate :=
  ⟨sequence, some ⟨0, 0⟩, some (.VclusterChange [])⟩

def PayloadParser.unused : PayloadParser := ⟨fun _ => none, fun _ => none⟩

theorem overlayUpdates_wellFormed :
    WellFormed .unused [overlayUpdate 0, overlayUpdate 1, overlayUpdate 2] where
  increasing := by decide
  readable update hupdate := by
    simp only [List.mem_cons, List.not_mem_nil, or_false] at hupdate
    rcases hupdate with rfl | rfl | rfl <;> exact ⟨.OverlayChanged [], rfl⟩

-- The stream is cut after the second update, and the next one starts with it again.
def reconnected : Subscriber where
  state := ⟨2, 0, true⟩
  dispatched := [(0, .OverlayChanged []), (1, .OverlayChanged []), (1, .OverlayChanged []),
    (2, .OverlayChanged [])]
  phase := .Streaming []

theorem reconnected_run :
    Run (subscriberNext .default .unused
        (serve [overlayUpdate 0, overlayUpdate 1, overlayUpdate 2])) Unrestricted .new
      [.Accepted, .Received, .Received, .Ended, .Refused, .Accepted, .Received, .Received]
      reconnected :=
  (exec_eq_some_iff _ _ _ _).mp (by decide)

theorem delivery_across_reconnects_cut :
    Delivered .unused [overlayUpdate 0, overlayUpdate 1, overlayUpdate 2] reconnected :=
  (delivery_across_reconnects .default .unused _ _ reconnected overlayUpdates_wellFormed
    reconnected_run).1

-- A subscriber that has received nothing counts from zero, although an update may have that
-- number.
theorem first_update_not_covered :
    ∃ subscriber,
      Run (subscriberNext .default .unused (serve [overlayUpdate 0])) Unrestricted .new
        [.Accepted, .Ended, .Refused] subscriber ∧
      (overlayUpdate 0).sequence ≤ subscriber.lastSequence ∧ subscriber.dispatched = [] :=
  ⟨_, (exec_eq_some_iff _ _ _ _).mp rfl, by decide, rfl⟩

end Pact.Agent.Subscription
