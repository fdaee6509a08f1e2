import Pact.Journal.BootService.Isolation

namespace Pact.Journal.BootService

open Pact.Library Pact.Common

-- A notification reaches the subscription by a step of the feed, or from anywhere and about
-- anything: again, too late, or for an entry that was never stored.
inductive FeedEvent
  | Step (step : FeedStep)
  | Arrive (update : Proto.ConfigUpdate)
  deriving DecidableEq

def eventNext (platform : Platform) (capacity fromSequence : Nat) (feed : Feed) :
    FeedEvent → Option Feed
  | .Step step => feedNext platform capacity fromSequence feed step
  | .Arrive update =>
    some { feed with subscription := feed.subscription.notify capacity update }

section Ordering

variable (platform : Platform) (capacity fromSequence : Nat)

structure InOrder (updates : List Proto.ConfigUpdate) : Prop where
  increasing : (sequences updates).Pairwise (· < ·)
  start : ∀ update ∈ updates, fromSequence ≤ update.sequence

-- What was delivered and what is in hand are in order, and none is past the last number sent.
structure StreamInOrder (delivered : List Proto.ConfigUpdate) (stream : Stream) : Prop where
  taken : InOrder fromSequence (delivered ++ stream.outbox)
  last : ∀ update ∈ delivered ++ stream.outbox, update.sequence ≤ stream.lastSent
  bound : fromSequence ≤ stream.lastSent + 1

def SubscriptionInOrder (delivered : List Proto.ConfigUpdate) : Subscription → Prop
  | .Requested => delivered = []
  | .CaughtUp catchup => delivered = [] ∧
      StreamInOrder fromSequence [] ⟨catchup, [], false, lastCaughtUp fromSequence catchup⟩
  | .Open stream => StreamInOrder fromSequence delivered stream
  | .Closed => True

structure FeedInOrder (feed : Feed) : Prop where
  delivered : InOrder fromSequence feed.delivered
  subscription : SubscriptionInOrder fromSequence feed.delivered feed.subscription

theorem InOrder.left (first second : List Proto.ConfigUpdate)
    (h : InOrder fromSequence (first ++ second)) : InOrder fromSequence first := by
  have hincreasing := h.increasing
  rw [sequences, List.map_append] at hincreasing
  exact ⟨(List.pairwise_append.mp hincreasing).1,
    fun update hmem => h.start update (List.mem_append_left _ hmem)⟩

theorem InOrder.concat (updates : List Proto.ConfigUpdate) (update : Proto.ConfigUpdate)
    (h : InOrder fromSequence updates) (hstart : fromSequence ≤ update.sequence)
    (hlater : ∀ other ∈ updates, other.sequence < update.sequence) :
    InOrder fromSequence (updates ++ [update]) := by
  refine ⟨?_, ?_⟩
  · rw [sequences, List.map_append, List.pairwise_append]
    refine ⟨h.increasing, List.pairwise_singleton _ _, ?_⟩
    simpa using hlater
  · intro other hmem
    rcases List.mem_append.mp hmem with hold | hnew
    · exact h.start other hold
    · obtain rfl := List.mem_singleton.mp hnew
      exact hstart

theorem catchUp_inOrder (s : JournalState) :
    InOrder fromSequence (catchUp platform s fromSequence) := by
  refine ⟨?_, ?_⟩
  · rw [catchUp_keys]
    exact (Map.toList_keys_lt s.entries).filter _
  · intro update hmem
    simp only [catchUp, List.mem_map, List.mem_filter, decide_eq_true_eq] at hmem
    obtain ⟨stored, ⟨_, hfrom⟩, rfl⟩ := hmem
    exact hfrom

theorem le_lastCaughtUp (updates : List Proto.ConfigUpdate) (h : InOrder fromSequence updates)
    (update : Proto.ConfigUpdate) (hmem : update ∈ updates) :
    update.sequence ≤ lastCaughtUp fromSequence updates := by
  obtain ⟨front, last, rfl⟩ := List.eq_nil_or_concat' updates |>.resolve_left
    (List.ne_nil_of_mem hmem)
  have hincreasing := h.increasing
  rw [sequences, List.map_append, List.pairwise_append] at hincreasing
  simp only [lastCaughtUp, List.getLast?_append, List.getLast?_singleton, Option.some_or]
  rcases List.mem_append.mp hmem with hfront | hlast
  · exact (hincreasing.2.2 _ (List.mem_map_of_mem hfront) last.sequence (by simp)).le
  · rw [List.mem_singleton.mp hlast]

theorem catchUp_streamInOrder (s : JournalState) :
    StreamInOrder fromSequence [] ⟨catchUp platform s fromSequence, [], false,
      lastCaughtUp fromSequence (catchUp platform s fromSequence)⟩ := by
  have horder := catchUp_inOrder platform fromSequence s
  exact ⟨horder, le_lastCaughtUp fromSequence _ horder,
    lastCaughtUp_bound fromSequence _ horder.start⟩

theorem SubscriptionInOrder.notify (delivered : List Proto.ConfigUpdate)
    (update : Proto.ConfigUpdate) (subscription : Subscription)
    (h : SubscriptionInOrder fromSequence delivered subscription) :
    SubscriptionInOrder fromSequence delivered (subscription.notify capacity update) := by
  cases subscription with
  | Requested => exact h
  | CaughtUp catchup => exact h
  | Open stream =>
    obtain ⟨htaken, hlast, hbound⟩ := h
    obtain ⟨houtbox, hsent⟩ := Stream.notify_kept capacity stream update
    exact ⟨by rwa [houtbox], by rwa [houtbox, hsent], by rwa [hsent]⟩
  | Closed => trivial

theorem StreamInOrder.send (delivered rest : List Proto.ConfigUpdate) (stream : Stream)
    (update : Proto.ConfigUpdate) (hout : stream.outbox = update :: rest)
    (h : StreamInOrder fromSequence delivered stream) :
    StreamInOrder fromSequence (delivered ++ [update]) { stream with outbox := rest } := by
  obtain ⟨htaken, hlast, hbound⟩ := h
  rw [hout, List.append_cons] at htaken hlast
  exact ⟨htaken, hlast, hbound⟩

theorem StreamInOrder.take (delivered rest : List Proto.ConfigUpdate) (stream : Stream)
    (update : Proto.ConfigUpdate) (hout : stream.outbox = [])
    (h : StreamInOrder fromSequence delivered stream) :
    StreamInOrder fromSequence delivered (stream.take update rest) := by
  obtain ⟨htaken, hlast, hbound⟩ := h
  rw [hout, List.append_nil] at htaken hlast
  unfold Stream.take
  split_ifs with hold
  · exact ⟨by rwa [hout, List.append_nil], by rwa [hout, List.append_nil], hbound⟩
  · have hlater : ∀ other ∈ delivered, other.sequence < update.sequence := by
      intro other hmem
      have := hlast other hmem
      omega
    refine ⟨htaken.concat fromSequence delivered update (by omega) hlater, ?_, ?_⟩
    · intro other hmem
      rcases List.mem_append.mp hmem with hold | hnew
      · exact (hlater other hold).le
      · rw [List.mem_singleton.mp hnew]
    · dsimp only
      omega

theorem feedMove_inOrder (feed after : Feed) (step : FeedStep)
    (hmove : FeedMove platform capacity fromSequence feed step after)
    (horder : FeedInOrder fromSequence feed) : FeedInOrder fromSequence after := by
  obtain ⟨hdelivered, hsub⟩ := horder
  cases hmove with
  | Apply now cmd here pending hpending => exact ⟨hdelivered, hsub⟩
  | Notify sequence entry hmem hget => exact ⟨hdelivered, hsub.notify capacity fromSequence _ _ _⟩
  | NotifyNothing sequence hmem hget => exact ⟨hdelivered, hsub⟩
  | Abandon sequence => exact ⟨hdelivered, hsub⟩
  | CatchUp h =>
    rw [h] at hsub
    exact ⟨hdelivered, hsub, catchUp_streamInOrder platform fromSequence feed.journal⟩
  | Subscribe catchup h =>
    rw [h] at hsub
    obtain ⟨hnone, hstream⟩ := hsub
    refine ⟨hdelivered, ?_⟩
    simpa only [SubscriptionInOrder, hnone] using hstream
  | Send stream update rest h hout =>
    rw [h] at hsub
    have hsent := StreamInOrder.send fromSequence feed.delivered rest stream update hout hsub
    exact ⟨hsent.taken.left fromSequence _ _, hsent⟩
  | Receive stream update rest h hout hlagged hreceiver =>
    rw [h] at hsub
    exact ⟨hdelivered, StreamInOrder.take fromSequence feed.delivered rest stream update hout hsub⟩
  | Close step hstep => exact ⟨hdelivered, trivial⟩

theorem eventNext_inOrder (feed after : Feed) (event : FeedEvent)
    (hnext : eventNext platform capacity fromSequence feed event = some after)
    (horder : FeedInOrder fromSequence feed) : FeedInOrder fromSequence after := by
  cases event with
  | Step step =>
    exact feedMove_inOrder platform capacity fromSequence feed after step
      (feedNext_move platform capacity fromSequence feed after step hnext) horder
  | Arrive update =>
    obtain rfl := Option.some.inj hnext
    exact ⟨horder.delivered, horder.subscription.notify capacity fromSequence _ _ _⟩

-- In every run, and whatever notifications arrive in it, one stream delivers increasing sequence
-- numbers from the one asked for.
theorem delivered_inOrder (journal : JournalState) (events : List FeedEvent) (last : Feed)
    (run : Run (eventNext platform capacity fromSequence) Unrestricted (.requested journal) events
      last) :
    (sequences last.delivered).Pairwise (· < ·) ∧
      ∀ update ∈ last.delivered, fromSequence ≤ update.sequence := by
  have hlast := run.invariant (FeedInOrder fromSequence)
    (fun feed event after h _ hnext =>
      eventNext_inOrder platform capacity fromSequence feed after event hnext h)
    ⟨⟨List.Pairwise.nil, nofun⟩, rfl⟩
  exact ⟨hlast.delivered.increasing, hlast.delivered.start⟩

end Ordering

def arrive (sequence : Nat) : FeedEvent :=
  .Arrive (configUpdate .ascii sequence (sampleEntry sequence))

-- Of the notifications 4, 3, 4 again, 1 and 6 the stream passes on 4 and 6.
def disorderedEvents : List FeedEvent :=
  [.Step .CatchUp, .Step .Subscribe, arrive 4, arrive 3, arrive 4, arrive 1, arrive 6,
    .Step (.Send true), .Step .Receive, .Step (.Send true), .Step .Receive, .Step .Receive,
    .Step .Receive, .Step .Receive, .Step (.Send true)]

theorem delivered_inOrder_disordered :
    exec (eventNext .ascii 1024 1) (.requested (sampleJournal 2)) disorderedEvents =
        some (sampleFeed 2 6 [1, 4, 6]) ∧
      (sequences (sampleFeed 2 6 [1, 4, 6]).delivered).Pairwise (· < ·) ∧
      ∀ update ∈ (sampleFeed 2 6 [1, 4, 6]).delivered, 1 ≤ update.sequence := by
  have hrun : exec (eventNext .ascii 1024 1) (.requested (sampleJournal 2)) disorderedEvents =
      some (sampleFeed 2 6 [1, 4, 6]) := by decide +kernel
  exact ⟨hrun, delivered_inOrder .ascii 1024 1 (sampleJournal 2) disorderedEvents _
    ((exec_eq_some_iff _ _ _ _).mp hrun)⟩

end Pact.Journal.BootService
