import Pact.Journal.BootService
import Pact.Journal.State.Theorems

namespace Pact.Journal.BootService

open Pact.Library Pact.Common

section Subscription

variable (platform : Platform) (capacity fromSequence : Nat)

def sequences (updates : List Proto.ConfigUpdate) : List Nat :=
  updates.map Proto.ConfigUpdate.sequence

-- Every notification that reaches the open stream is for the entry after the newest one it
-- holds, or for an older one. Whoever asks from zero finds an entry there.
def NotifiesInOrder (feed : Feed) : FeedStep → Prop
  | .Notify sequence => ∀ stream, feed.subscription = .Open stream →
      sequence ≤ newest stream.lastSent (sequences stream.receiver) + 1
  | .CatchUp => fromSequence = 0 → ∃ entry, feed.journal.entries.get 0 = some entry
  | _ => True

def IsOwn (_ : Feed) : FeedStep → Prop
  | .Send _ => True
  | .Receive => True
  | _ => False

-- The task behind the stream has nothing left to do.
def Resting (feed : Feed) : Prop :=
  ∀ step, IsOwn feed step → feedNext platform capacity fromSequence feed step = none

def Genuine (s : JournalState) (update : Proto.ConfigUpdate) : Prop :=
  ∃ entry, s.entries.get update.sequence = some entry ∧
    update = configUpdate platform update.sequence entry

-- What was delivered and what is in hand run from the first sequence asked for up to the last
-- one taken, and the unread rest of the channel goes on from there without a gap.
structure StreamSound (s : JournalState) (delivered : List Proto.ConfigUpdate) (stream : Stream) :
    Prop where
  taken : sequences (delivered ++ stream.outbox) =
    List.range' fromSequence (stream.lastSent + 1 - fromSequence)
  bound : fromSequence ≤ stream.lastSent + 1
  unread : stream.lagged = false → GapFree stream.lastSent (sequences stream.receiver)
  genuine : ∀ update ∈ stream.outbox ++ stream.receiver, Genuine platform s update

def SubscriptionSound (feed : Feed) : Subscription → Prop
  | .Requested => feed.delivered = []
  | .CaughtUp catchup => feed.delivered = [] ∧ StreamSound platform fromSequence feed.journal []
      ⟨catchup, [], false, lastCaughtUp fromSequence catchup⟩
  | .Open stream => StreamSound platform fromSequence feed.journal feed.delivered stream
  | .Closed => True

-- The stream is about to send the update, or about to find that it has lagged and close.
def Held (update : Proto.ConfigUpdate) (feed : Feed) : Prop :=
  ∃ stream, feed.subscription = .Open stream ∧
    (stream.lagged = true ∨ update ∈ stream.outbox ++ stream.receiver)

-- The stream has been told of the entry, or has dropped something and will say so.
def Heard (sequence : Nat) : Subscription → Prop
  | .Open stream => stream.lagged = true ∨
      sequence ≤ newest stream.lastSent (sequences stream.receiver)
  | .Closed => True
  | _ => False

structure FeedSound (feed : Feed) : Prop where
  wellFormed : EntriesWellFormed feed.journal
  pending : ∀ sequence ∈ feed.pending, ∃ entry, feed.journal.entries.get sequence = some entry
  genuine : ∀ update ∈ feed.delivered, Genuine platform feed.journal update
  contiguous : ∃ count, sequences feed.delivered = List.range' fromSequence count
  subscription : SubscriptionSound platform fromSequence feed feed.subscription

-- An unread update costs a read and perhaps a send; the last unit is for closing.
def workLeft (feed : Feed) : Nat :=
  match feed.subscription with
  | .Open stream => 2 * stream.receiver.length + stream.outbox.length + 1
  | _ => 0

inductive FeedMove (feed : Feed) : FeedStep → Feed → Prop
  | Apply (now : DateTime) (cmd : JournalCommand) (here : Bool) (pending : List Nat)
      (hpending : ∀ sequence ∈ pending, sequence ∈ feed.pending ∨
        ∃ entry, (apply platform now feed.journal cmd).1.entries.get sequence = some entry) :
      FeedMove feed (.Apply now cmd here)
        { feed with journal := (apply platform now feed.journal cmd).1, pending := pending }
  | Notify (sequence : Nat) (entry : ConfigEntry) (hmem : sequence ∈ feed.pending)
      (hget : feed.journal.entries.get sequence = some entry) :
      FeedMove feed (.Notify sequence) { feed with
        pending := feed.pending.erase sequence
        subscription := feed.subscription.notify capacity (configUpdate platform sequence entry) }
  | NotifyNothing (sequence : Nat) (hmem : sequence ∈ feed.pending)
      (hget : feed.journal.entries.get sequence = none) :
      FeedMove feed (.Notify sequence) { feed with pending := feed.pending.erase sequence }
  | Abandon (sequence : Nat) :
      FeedMove feed (.Abandon sequence) { feed with pending := feed.pending.erase sequence }
  | CatchUp (h : feed.subscription = .Requested) :
      FeedMove feed .CatchUp
        { feed with subscription := .CaughtUp (catchUp platform feed.journal fromSequence) }
  | Subscribe (catchup : List Proto.ConfigUpdate) (h : feed.subscription = .CaughtUp catchup) :
      FeedMove feed .Subscribe { feed with
        subscription := .Open ⟨catchup, [], false, lastCaughtUp fromSequence catchup⟩ }
  | Send (stream : Stream) (update : Proto.ConfigUpdate) (rest : List Proto.ConfigUpdate)
      (h : feed.subscription = .Open stream) (hout : stream.outbox = update :: rest) :
      FeedMove feed (.Send true) { feed with
        subscription := .Open { stream with outbox := rest }
        delivered := feed.delivered ++ [update] }
  | Receive (stream : Stream) (update : Proto.ConfigUpdate) (rest : List Proto.ConfigUpdate)
      (h : feed.subscription = .Open stream) (hout : stream.outbox = [])
      (hlagged : stream.lagged = false) (hreceiver : stream.receiver = update :: rest) :
      FeedMove feed .Receive { feed with subscription := .Open (stream.take update rest) }
  | Close (step : FeedStep) (hstep : step = .Send false ∨ step = .Receive ∨ step = .Shutdown) :
      FeedMove feed step { feed with subscription := .Closed }

theorem feedNext_apply (feed after : Feed) (now : DateTime) (cmd : JournalCommand) (here : Bool)
    (h : feedNext platform capacity fromSequence feed (.Apply now cmd here) = some after) :
    FeedMove platform capacity fromSequence feed (.Apply now cmd here) after := by
  simp only [feedNext] at h
  split at h
  · rename_i journal sequence happly
    obtain rfl := Option.some.inj h
    have hjournal : journal = (apply platform now feed.journal cmd).1 := by rw [happly]
    have hstored := apply_appended platform now feed.journal cmd sequence (by rw [happly])
    subst hjournal
    refine .Apply now cmd here _ ?_
    intro other hmem
    split_ifs at hmem
    · rcases List.mem_append.mp hmem with hold | hnew
      · exact .inl hold
      · obtain rfl := List.mem_singleton.mp hnew
        exact .inr hstored
    · exact .inl hmem
  · rename_i journal response _ happly
    obtain rfl := Option.some.inj h
    have hjournal : journal = (apply platform now feed.journal cmd).1 := by rw [happly]
    subst hjournal
    exact .Apply now cmd here feed.pending fun _ hmem => .inl hmem

theorem feedNext_move (feed after : Feed) (step : FeedStep)
    (h : feedNext platform capacity fromSequence feed step = some after) :
    FeedMove platform capacity fromSequence feed step after := by
  cases step with
  | Apply now cmd here => exact feedNext_apply platform capacity fromSequence feed after now cmd here h
  | Notify sequence =>
    simp only [feedNext] at h
    split_ifs at h with hmem
    split at h
    · rename_i entry hget
      obtain rfl := Option.some.inj h
      exact .Notify sequence entry hmem hget
    · rename_i hget
      obtain rfl := Option.some.inj h
      exact .NotifyNothing sequence hmem hget
  | Abandon sequence =>
    simp only [feedNext] at h
    split_ifs at h
    obtain rfl := Option.some.inj h
    exact .Abandon sequence
  | CatchUp =>
    simp only [feedNext] at h
    split at h
    · rename_i hsub
      obtain rfl := Option.some.inj h
      exact .CatchUp hsub
    · cases h
  | Subscribe =>
    simp only [feedNext] at h
    split at h
    · rename_i catchup hsub
      obtain rfl := Option.some.inj h
      exact .Subscribe catchup hsub
    · cases h
  | Send connected =>
    simp only [feedNext, Feed.send] at h
    split at h
    · rename_i stream hsub
      split at h
      · rename_i update rest hout
        cases connected with
        | true =>
          obtain rfl := Option.some.inj h
          exact .Send stream update rest hsub hout
        | false =>
          obtain rfl := Option.some.inj h
          exact .Close _ (.inl rfl)
      · cases h
    · cases h
  | Receive =>
    simp only [feedNext, Feed.receive] at h
    split at h
    · rename_i stream hsub
      split_ifs at h with hout hlagged
      · obtain rfl := Option.some.inj h
        exact .Close _ (.inr (.inl rfl))
      · split at h
        · rename_i update rest hreceiver
          obtain rfl := Option.some.inj h
          exact .Receive stream update rest hsub hout (by simpa using hlagged) hreceiver
        · cases h
    · cases h
  | Shutdown =>
    simp only [feedNext] at h
    split at h
    · split_ifs at h
      obtain rfl := Option.some.inj h
      exact .Close _ (.inr (.inr rfl))
    · cases h

theorem catchUp_keys (s : JournalState) :
    sequences (catchUp platform s fromSequence) =
      (s.entries.toList.map Prod.fst).filter fun key => fromSequence ≤ key := by
  simp only [sequences, catchUp, List.map_map, List.filter_map]
  rfl

theorem catchUp_sequences (s : JournalState) (hwf : EntriesWellFormed s) :
    sequences (catchUp platform s fromSequence) =
      List.range' fromSequence (s.nextSequence - fromSequence) := by
  rw [catchUp_keys]
  apply List.Pairwise.eq_of_mem_iff ((Map.toList_keys_lt s.entries).filter _)
    (List.pairwise_lt_range' 1)
  intro key
  have hstored : key ∈ s.entries.toList.map Prod.fst ↔ key < s.nextSequence := by
    rw [← hwf.keys key]
    simp [List.mem_map, Map.mem_toList_iff]
  rw [List.mem_filter, hstored, List.mem_range'_1]
  simp only [decide_eq_true_eq]
  omega

theorem lastCaughtUp_eq (catchup : List Proto.ConfigUpdate) (count : Nat)
    (h : sequences catchup = List.range' fromSequence count) :
    lastCaughtUp fromSequence catchup = fromSequence + count - 1 := by
  have hlast : (catchup.getLast?).map Proto.ConfigUpdate.sequence =
      (List.range' fromSequence count).getLast? := by
    rw [← h, sequences, List.getLast?_map]
  rw [List.getLast?_range'] at hlast
  cases hget : catchup.getLast? with
  | none =>
    rw [hget] at hlast
    have hzero : count = 0 := by
      by_contra hne
      simp [hne] at hlast
    simp [lastCaughtUp, hget, hzero]
  | some update =>
    rw [hget] at hlast
    by_cases hzero : count = 0
    · simp [hzero] at hlast
    · simp only [hzero, if_false, Option.map_some, Option.some.injEq] at hlast
      simp only [lastCaughtUp, hget, hlast]

theorem catchUp_sound (s : JournalState) (hwf : EntriesWellFormed s)
    (hzero : fromSequence = 0 → ∃ entry, s.entries.get 0 = some entry) :
    StreamSound platform fromSequence s []
      ⟨catchUp platform s fromSequence, [], false,
        lastCaughtUp fromSequence (catchUp platform s fromSequence)⟩ := by
  have hseq := catchUp_sequences platform fromSequence s hwf
  have hlast := lastCaughtUp_eq fromSequence _ _ hseq
  have hstart : fromSequence = 0 → 0 < s.nextSequence := fun h => (hwf.keys 0).mp (hzero h)
  constructor
  · dsimp only
    rw [List.nil_append, hseq, hlast]
    congr 1
    omega
  · dsimp only
    rw [hlast]
    omega
  · intro _
    exact trivial
  · intro update hmem
    simp only [List.append_nil, catchUp, List.mem_map, List.mem_filter] at hmem
    obtain ⟨⟨key, entry⟩, ⟨hstored, _⟩, rfl⟩ := hmem
    exact ⟨entry, (Map.mem_toList_iff s.entries key entry).mp hstored, rfl⟩

theorem apply_entries_kept (now : DateTime) (s : JournalState) (cmd : JournalCommand)
    (hwf : EntriesWellFormed s) (key : Nat) (entry : ConfigEntry)
    (h : s.entries.get key = some entry) :
    (apply platform now s cmd).1.entries.get key = some entry := by
  rcases apply_entriesStep platform now s cmd hwf with hsame | ⟨hfree, _, hkept⟩
  · rw [hsame, h]
  · rw [hkept key ?_, h]
    rintro rfl
    rw [hfree] at h
    cases h

theorem Genuine.apply (now : DateTime) (s : JournalState) (cmd : JournalCommand)
    (hwf : EntriesWellFormed s) (update : Proto.ConfigUpdate) (h : Genuine platform s update) :
    Genuine platform (apply platform now s cmd).1 update := by
  obtain ⟨entry, hget, heq⟩ := h
  exact ⟨entry, apply_entries_kept platform now s cmd hwf _ entry hget, heq⟩

theorem StreamSound.apply (now : DateTime) (s : JournalState) (cmd : JournalCommand)
    (hwf : EntriesWellFormed s) (delivered : List Proto.ConfigUpdate) (stream : Stream)
    (h : StreamSound platform fromSequence s delivered stream) :
    StreamSound platform fromSequence (apply platform now s cmd).1 delivered stream :=
  ⟨h.taken, h.bound, h.unread,
    fun update hmem => (h.genuine update hmem).apply platform now s cmd hwf update⟩

theorem StreamSound.notify (s : JournalState) (delivered : List Proto.ConfigUpdate)
    (stream : Stream) (update : Proto.ConfigUpdate) (hgenuine : Genuine platform s update)
    (hnext : update.sequence ≤ newest stream.lastSent (sequences stream.receiver) + 1)
    (h : StreamSound platform fromSequence s delivered stream) :
    StreamSound platform fromSequence s delivered (stream.notify capacity update) := by
  simp only [Stream.notify]
  split_ifs with hfits
  · refine ⟨h.taken, h.bound, ?_, ?_⟩
    · intro hlagged
      have hunread := gapFree_append stream.lastSent update.sequence _ (h.unread hlagged) hnext
      simpa [sequences] using hunread
    · intro other hmem
      rw [← List.append_assoc, List.mem_append, List.mem_singleton] at hmem
      rcases hmem with hold | rfl
      · exact h.genuine other hold
      · exact hgenuine
  · refine ⟨h.taken, h.bound, nofun, ?_⟩
    intro other hmem
    rw [← List.append_assoc, List.mem_append, List.mem_singleton, List.mem_append] at hmem
    rcases hmem with (hout | htail) | rfl
    · exact h.genuine other (List.mem_append_left _ hout)
    · exact h.genuine other (List.mem_append_right _ (List.mem_of_mem_tail htail))
    · exact hgenuine

theorem StreamSound.send (s : JournalState) (delivered rest : List Proto.ConfigUpdate)
    (stream : Stream) (update : Proto.ConfigUpdate) (hout : stream.outbox = update :: rest)
    (h : StreamSound platform fromSequence s delivered stream) :
    StreamSound platform fromSequence s (delivered ++ [update]) { stream with outbox := rest } := by
  refine ⟨?_, h.bound, h.unread, ?_⟩
  · have htaken := h.taken
    rw [hout] at htaken
    simpa using htaken
  · intro other hmem
    apply h.genuine other
    rw [hout, List.cons_append]
    exact List.mem_cons_of_mem _ hmem

theorem StreamSound.take (s : JournalState) (delivered rest : List Proto.ConfigUpdate)
    (stream : Stream) (update : Proto.ConfigUpdate) (hout : stream.outbox = [])
    (hreceiver : stream.receiver = update :: rest) (hlagged : stream.lagged = false)
    (h : StreamSound platform fromSequence s delivered stream) :
    StreamSound platform fromSequence s delivered (stream.take update rest) := by
  have hunread : GapFree stream.lastSent (update.sequence :: sequences rest) := by
    simpa [hreceiver, sequences] using h.unread hlagged
  have hgenuine : ∀ other ∈ update :: rest, Genuine platform s other := by
    intro other hmem
    exact h.genuine other (List.mem_append_right _ (hreceiver ▸ hmem))
  simp only [Stream.take]
  split_ifs with hold
  · refine ⟨h.taken, h.bound, ?_, ?_⟩
    · intro _
      have hrest := hunread.2
      rwa [Nat.max_eq_left hold] at hrest
    · intro other hmem
      rw [hout, List.nil_append] at hmem
      exact hgenuine other (List.mem_cons_of_mem _ hmem)
  · have hone : update.sequence = stream.lastSent + 1 := by
      have hle := hunread.1
      omega
    refine ⟨?_, ?_, ?_, ?_⟩
    · have htaken := h.taken
      rw [hout, List.append_nil] at htaken
      have hbound := h.bound
      have hcount : update.sequence + 1 - fromSequence =
          stream.lastSent + 1 - fromSequence + 1 := by omega
      have hlast : fromSequence + (stream.lastSent + 1 - fromSequence) = update.sequence := by omega
      simp only [sequences, List.map_append, List.map_cons, List.map_nil] at htaken ⊢
      rw [htaken, hcount, List.range'_concat, Nat.one_mul, hlast]
    · have hbound := h.bound
      dsimp only
      omega
    · intro _
      have hrest := hunread.2
      rwa [Nat.max_eq_right (by omega)] at hrest
    · intro other hmem
      exact hgenuine other (by simpa using hmem)

theorem sequences_of_append (sent rest : List Proto.ConfigUpdate) (count : Nat)
    (h : sequences (sent ++ rest) = List.range' fromSequence count) :
    ∃ length, sequences sent = List.range' fromSequence length := by
  rw [sequences, List.map_append] at h
  obtain ⟨length, _, hsent, _⟩ := List.range'_eq_append_iff.mp h.symm
  exact ⟨length, hsent⟩

theorem SubscriptionSound.apply (now : DateTime) (feed : Feed) (cmd : JournalCommand)
    (pending : List Nat) (hwf : EntriesWellFormed feed.journal) (subscription : Subscription)
    (h : SubscriptionSound platform fromSequence feed subscription) :
    SubscriptionSound platform fromSequence
      { feed with journal := (Journal.apply platform now feed.journal cmd).1, pending := pending }
      subscription := by
  cases subscription with
  | Requested => exact h
  | CaughtUp catchup => exact ⟨h.1, h.2.apply platform fromSequence now feed.journal cmd hwf _ _⟩
  | Open stream => exact StreamSound.apply platform fromSequence now feed.journal cmd hwf _ _ h
  | Closed => trivial

theorem SubscriptionSound.notify (feed : Feed) (pending : List Nat) (update : Proto.ConfigUpdate)
    (subscription : Subscription) (hgenuine : Genuine platform feed.journal update)
    (hnext : ∀ stream, subscription = .Open stream →
      update.sequence ≤ newest stream.lastSent (sequences stream.receiver) + 1)
    (h : SubscriptionSound platform fromSequence feed subscription) :
    SubscriptionSound platform fromSequence
      { feed with pending := pending, subscription := subscription.notify capacity update }
      (subscription.notify capacity update) := by
  cases subscription with
  | Requested => exact h
  | CaughtUp catchup => exact h
  | Open stream =>
    exact StreamSound.notify platform capacity fromSequence feed.journal feed.delivered stream
      update hgenuine (hnext stream rfl) h
  | Closed => trivial

theorem feedMove_sound (feed after : Feed) (step : FeedStep)
    (hsound : FeedSound platform fromSequence feed)
    (horder : NotifiesInOrder fromSequence feed step)
    (hmove : FeedMove platform capacity fromSequence feed step after) :
    FeedSound platform fromSequence after := by
  have hsub := hsound.subscription
  have herase : ∀ gone, ∀ sequence ∈ feed.pending.erase gone,
      ∃ entry, feed.journal.entries.get sequence = some entry :=
    fun _ sequence hmem => hsound.pending sequence (List.mem_of_mem_erase hmem)
  cases hmove with
  | Apply now cmd here pending hpending =>
    refine ⟨apply_entriesWellFormed platform now feed.journal cmd hsound.wellFormed, ?_, ?_,
      hsound.contiguous, hsub.apply platform fromSequence now feed cmd pending hsound.wellFormed⟩
    · intro sequence hmem
      rcases hpending sequence hmem with hold | hnew
      · obtain ⟨entry, hget⟩ := hsound.pending sequence hold
        exact ⟨entry, apply_entries_kept platform now feed.journal cmd hsound.wellFormed _ _ hget⟩
      · exact hnew
    · intro update hmem
      exact (hsound.genuine update hmem).apply platform now feed.journal cmd hsound.wellFormed
  | Notify sequence entry hmem hget =>
    refine ⟨hsound.wellFormed, herase sequence, hsound.genuine, hsound.contiguous, ?_⟩
    exact hsub.notify platform capacity fromSequence feed _ _ _ ⟨entry, hget, rfl⟩ horder
  | NotifyNothing sequence hmem hget =>
    exact ⟨hsound.wellFormed, herase sequence, hsound.genuine, hsound.contiguous, hsub⟩
  | Abandon sequence =>
    exact ⟨hsound.wellFormed, herase sequence, hsound.genuine, hsound.contiguous, hsub⟩
  | CatchUp h =>
    rw [h] at hsub
    exact ⟨hsound.wellFormed, hsound.pending, hsound.genuine, hsound.contiguous, hsub,
      catchUp_sound platform fromSequence feed.journal hsound.wellFormed horder⟩
  | Subscribe catchup h =>
    rw [h] at hsub
    refine ⟨hsound.wellFormed, hsound.pending, hsound.genuine, hsound.contiguous, ?_⟩
    simp only [SubscriptionSound, hsub.1]
    exact hsub.2
  | Send stream update rest h hout =>
    rw [h] at hsub
    have hsent := StreamSound.send platform fromSequence feed.journal feed.delivered rest stream
      update hout hsub
    refine ⟨hsound.wellFormed, hsound.pending, ?_, ?_, hsent⟩
    · intro other hmem
      rcases List.mem_append.mp hmem with hold | hnew
      · exact hsound.genuine other hold
      · obtain rfl := List.mem_singleton.mp hnew
        exact hsub.genuine other (by simp [hout])
    · exact sequences_of_append fromSequence _ _ _ hsent.taken
  | Receive stream update rest h hout hlagged hreceiver =>
    rw [h] at hsub
    refine ⟨hsound.wellFormed, hsound.pending, hsound.genuine, hsound.contiguous, ?_⟩
    exact StreamSound.take platform fromSequence feed.journal feed.delivered rest stream update
      hout hreceiver hlagged hsub
  | Close step hstep =>
    exact ⟨hsound.wellFormed, hsound.pending, hsound.genuine, hsound.contiguous, trivial⟩

end Subscription

end Pact.Journal.BootService
