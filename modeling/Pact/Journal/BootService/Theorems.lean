import Pact.Journal.BootService.Lemmas

namespace Pact.Journal.BootService

open Pact.Library Pact.Common

section Subscription

variable (platform : Platform) (capacity fromSequence : Nat)

theorem run_sound (commands : List Applied) (steps : List FeedStep) (last : Feed)
    (run : Run (feedNext platform capacity fromSequence) (NotifiesInOrder fromSequence)
      (.requested (replay platform .default commands).1) steps last) :
    FeedSound platform fromSequence last := by
  refine run.invariant (FeedSound platform fromSequence) ?_ ?_
  · intro feed step after hsound horder hnext
    exact feedMove_sound platform capacity fromSequence feed after step hsound horder
      (feedNext_move platform capacity fromSequence feed after step hnext)
  · exact ⟨replay_entriesWellFormed platform commands, nofun, nofun, ⟨0, rfl⟩, rfl⟩

theorem mem_of_genuine (s : JournalState) (updates : List Proto.ConfigUpdate)
    (hgenuine : ∀ update ∈ updates, Genuine platform s update) (sequence : Nat)
    (entry : ConfigEntry) (hget : s.entries.get sequence = some entry)
    (h : sequence ∈ sequences updates) : configUpdate platform sequence entry ∈ updates := by
  obtain ⟨update, hmem, rfl⟩ := List.mem_map.mp h
  obtain ⟨stored, hstored, heq⟩ := hgenuine update hmem
  rw [hget, Option.some.injEq] at hstored
  subst hstored
  exact heq ▸ hmem

theorem FeedSound.delivers_before (feed : Feed) (hsound : FeedSound platform fromSequence feed)
    (update : Proto.ConfigUpdate) (hupdate : update ∈ feed.delivered) (sequence : Nat)
    (entry : ConfigEntry) (hfrom : fromSequence ≤ sequence) (hbefore : sequence < update.sequence)
    (hget : feed.journal.entries.get sequence = some entry) :
    configUpdate platform sequence entry ∈ feed.delivered := by
  obtain ⟨count, hcount⟩ := hsound.contiguous
  have hmem : update.sequence ∈ sequences feed.delivered := List.mem_map_of_mem hupdate
  rw [hcount, List.mem_range'_1] at hmem
  refine mem_of_genuine platform feed.journal _ hsound.genuine sequence entry hget ?_
  rw [hcount, List.mem_range'_1]
  omega

theorem FeedSound.delivers_heard (feed : Feed) (hsound : FeedSound platform fromSequence feed)
    (sequence : Nat) (entry : ConfigEntry) (hfrom : fromSequence ≤ sequence)
    (hheard : Heard sequence feed.subscription)
    (hget : feed.journal.entries.get sequence = some entry) :
    feed.subscription = .Closed ∨ configUpdate platform sequence entry ∈ feed.delivered ∨
      Held (configUpdate platform sequence entry) feed := by
  cases hsub : feed.subscription with
  | Requested => simp [hsub, Heard] at hheard
  | CaughtUp catchup => simp [hsub, Heard] at hheard
  | Closed => exact .inl rfl
  | Open stream =>
    have hstream := hsound.subscription
    rw [hsub] at hstream hheard
    rcases hheard with hlagged | hnewest
    · exact .inr (.inr ⟨stream, hsub, .inl hlagged⟩)
    cases hlagged : stream.lagged with
    | true => exact .inr (.inr ⟨stream, hsub, .inl hlagged⟩)
    | false =>
      have hall : ∀ update ∈ feed.delivered ++ (stream.outbox ++ stream.receiver),
          Genuine platform feed.journal update := by
        intro update hmem
        rcases List.mem_append.mp hmem with hsent | hheld
        · exact hsound.genuine update hsent
        · exact hstream.genuine update hheld
      have hmem : sequence ∈ sequences (feed.delivered ++ (stream.outbox ++ stream.receiver)) := by
        rw [← List.append_assoc, sequences, List.map_append, List.mem_append]
        by_cases htaken : sequence ≤ stream.lastSent
        · refine .inl ?_
          have hrange := hstream.taken
          rw [sequences] at hrange
          rw [hrange, List.mem_range'_1]
          omega
        · exact .inr (mem_of_gapFree _ _ _ (hstream.unread hlagged) (by omega) hnewest)
      have hupdate := mem_of_genuine platform feed.journal _ hall sequence entry hget hmem
      rcases List.mem_append.mp hupdate with hsent | hheld
      · exact .inr (.inl hsent)
      · exact .inr (.inr ⟨stream, hsub, .inr hheld⟩)

theorem Stream.newest_notify (stream : Stream) (update : Proto.ConfigUpdate) :
    (stream.notify capacity update).lagged = true ∨
      newest (stream.notify capacity update).lastSent
        (sequences (stream.notify capacity update).receiver) =
      max (newest stream.lastSent (sequences stream.receiver)) update.sequence := by
  simp only [Stream.notify]
  split_ifs
  · refine .inr ?_
    simp only [sequences, List.map_append, List.map_cons, List.map_nil]
    exact newest_append _ _ _
  · exact .inl rfl

theorem Stream.lagged_notify (stream : Stream) (update : Proto.ConfigUpdate)
    (h : stream.lagged = true) : (stream.notify capacity update).lagged = true := by
  simp only [Stream.notify]
  split_ifs
  · exact h
  · rfl

theorem Stream.newest_take (stream : Stream) (update : Proto.ConfigUpdate)
    (rest : List Proto.ConfigUpdate) (h : stream.receiver = update :: rest) :
    newest (stream.take update rest).lastSent (sequences (stream.take update rest).receiver) =
      newest stream.lastSent (sequences stream.receiver) := by
  rw [h, sequences, sequences, List.map_cons, newest_cons]
  simp only [Stream.take]
  split_ifs with hold
  · rw [Nat.max_eq_left hold]
  · rw [Nat.max_eq_right (by omega)]

theorem Heard.notify (sequence : Nat) (subscription : Subscription) (update : Proto.ConfigUpdate)
    (h : Heard sequence subscription) :
    Heard (max sequence update.sequence) (subscription.notify capacity update) := by
  cases subscription with
  | Requested => exact h
  | CaughtUp catchup => exact h
  | Closed => trivial
  | Open stream =>
    rcases h with hlagged | hle
    · exact .inl (stream.lagged_notify capacity update hlagged)
    rcases stream.newest_notify capacity update with hlagged | hnewest
    · exact .inl hlagged
    · refine .inr ?_
      rw [hnewest]
      omega

theorem Heard.mono (sequence larger : Nat) (subscription : Subscription)
    (h : Heard larger subscription) (hle : sequence ≤ larger) : Heard sequence subscription := by
  cases subscription with
  | Requested => exact h
  | CaughtUp catchup => exact h
  | Closed => trivial
  | Open stream => exact h.imp_right (Nat.le_trans hle)

theorem feedMove_heard (feed after : Feed) (step : FeedStep) (sequence : Nat)
    (hmove : FeedMove platform capacity fromSequence feed step after)
    (h : Heard sequence feed.subscription) : Heard sequence after.subscription := by
  cases hmove with
  | Apply now cmd here pending hpending => exact h
  | Notify other entry hmem hget =>
    exact (h.notify capacity sequence _ _).mono _ _ _ (Nat.le_max_left _ _)
  | NotifyNothing other hmem hget => exact h
  | Abandon other => exact h
  | CatchUp hsub => simp [hsub, Heard] at h
  | Subscribe catchup hsub => simp [hsub, Heard] at h
  | Send stream update rest hsub hout =>
    rw [hsub] at h
    exact h
  | Receive stream update rest hsub hout hlagged hreceiver =>
    rw [hsub] at h
    refine .inr ?_
    rw [stream.newest_take update rest hreceiver]
    exact h.resolve_left (by simp [hlagged])
  | Close step hstep => trivial

theorem run_heard (feed last : Feed) (later : List FeedStep) (stream : Stream)
    (hsound : FeedSound platform fromSequence feed) (hopen : feed.subscription = .Open stream)
    (run : Run (feedNext platform capacity fromSequence) (NotifiesInOrder fromSequence)
      feed later last) :
    FeedSound platform fromSequence last ∧
      ∀ sequence, .Notify sequence ∈ later → Heard sequence last.subscription := by
  have h := run.history (fun past feed => FeedSound platform fromSequence feed ∧
    Heard 0 feed.subscription ∧
    ∀ sequence, .Notify sequence ∈ past → Heard sequence feed.subscription) ?_ []
    ⟨hsound, by rw [hopen]; exact .inr (Nat.zero_le _), nofun⟩
  · exact ⟨h.1, h.2.2⟩
  · rintro past feed step after ⟨hsound, hzero, hpast⟩ horder hnext
    have hmove := feedNext_move platform capacity fromSequence feed after step hnext
    have hkeep := fun sequence =>
      feedMove_heard platform capacity fromSequence feed after step sequence hmove
    refine ⟨feedMove_sound platform capacity fromSequence feed after step hsound horder hmove,
      hkeep 0 hzero, ?_⟩
    intro sequence hmem
    rcases List.mem_append.mp hmem with hold | hnew
    · exact hkeep sequence (hpast sequence hold)
    · obtain rfl := List.mem_singleton.mp hnew
      cases hmove with
      | Notify _ entry hpending hget =>
        exact (hzero.notify capacity 0 _ _).mono _ _ _ (Nat.le_max_right _ _)
      | NotifyNothing _ hpending hget =>
        obtain ⟨entry, hstored⟩ := hsound.pending sequence hpending
        simp [hget] at hstored
      | Close _ hstep => simp at hstep

theorem resting_open (feed : Feed) (stream : Stream) (hopen : feed.subscription = .Open stream) :
    Resting platform capacity fromSequence feed ↔
      stream.outbox = [] ∧ stream.lagged = false ∧ stream.receiver = [] := by
  constructor
  · intro h
    have hsend := h (.Send true) trivial
    have hreceive := h .Receive trivial
    cases hout : stream.outbox with
    | cons update rest => simp [feedNext, Feed.send, hopen, hout] at hsend
    | nil =>
      cases hlagged : stream.lagged with
      | true => simp [feedNext, Feed.receive, hopen, hout, hlagged] at hreceive
      | false =>
        cases hreceiver : stream.receiver with
        | cons update rest =>
          simp [feedNext, Feed.receive, hopen, hout, hlagged, hreceiver] at hreceive
        | nil => exact ⟨rfl, rfl, rfl⟩
  · rintro ⟨hout, hlagged, hreceiver⟩ step hown
    cases step with
    | Send connected => simp [feedNext, Feed.send, hopen, hout]
    | Receive => simp [feedNext, Feed.receive, hopen, hout, hlagged, hreceiver]
    | _ => cases hown

theorem held_not_resting (update : Proto.ConfigUpdate) (feed : Feed) (h : Held update feed) :
    ¬ Resting platform capacity fromSequence feed := by
  obtain ⟨stream, hopen, hheld⟩ := h
  rw [resting_open platform capacity fromSequence feed stream hopen]
  rintro ⟨hout, hlagged, hreceiver⟩
  simp [hout, hlagged, hreceiver] at hheld

theorem resting_of_not_open (feed : Feed) (h : ∀ stream, feed.subscription ≠ .Open stream) :
    Resting platform capacity fromSequence feed := by
  intro step hown
  cases step with
  | Send connected =>
    cases hsub : feed.subscription with
    | Open stream => exact absurd hsub (h stream)
    | _ => simp only [feedNext, Feed.send, hsub]
  | Receive =>
    cases hsub : feed.subscription with
    | Open stream => exact absurd hsub (h stream)
    | _ => simp only [feedNext, Feed.receive, hsub]
  | _ => cases hown

theorem own_step_lowers_work (feed : Feed) :
    Resting platform capacity fromSequence feed ∨
    ∃ step after, IsOwn feed step ∧
      feedNext platform capacity fromSequence feed step = some after ∧
      workLeft after < workLeft feed := by
  by_cases hopen : ∃ stream, feed.subscription = .Open stream
  · obtain ⟨stream, hopen⟩ := hopen
    cases hout : stream.outbox with
    | cons update rest =>
      refine .inr ⟨.Send true, _, trivial, by simp only [feedNext, Feed.send, hopen, hout]; rfl, ?_⟩
      simp [workLeft, hopen, hout]
    | nil =>
      cases hlagged : stream.lagged with
      | true =>
        refine .inr ⟨.Receive, { feed with subscription := .Closed }, trivial, ?_, ?_⟩
        · simp [feedNext, Feed.receive, hopen, hout, hlagged]
        · simp [workLeft, hopen]
      | false =>
        cases hreceiver : stream.receiver with
        | cons update rest =>
          refine .inr ⟨.Receive, { feed with subscription := .Open (stream.take update rest) },
            trivial, ?_, ?_⟩
          · simp [feedNext, Feed.receive, hopen, hout, hlagged, hreceiver]
          · simp only [workLeft, hopen, Stream.take, hreceiver]
            split_ifs <;> simp only [hout, List.length_cons, List.length_nil] <;> omega
        | nil =>
          exact .inl ((resting_open platform capacity fromSequence feed stream hopen).mpr
            ⟨hout, hlagged, hreceiver⟩)
  · exact .inl (resting_of_not_open platform capacity fromSequence feed (not_exists.mp hopen))

-- No update is lost while every notification that reaches the stream is for the entry after the
-- newest it holds, or for an older one, and whoever asks from zero finds an entry. An entry that
-- is notified once the stream is open is delivered, or the stream closes.
theorem subscription_loses_nothing :
    (∀ commands steps last,
      Run (feedNext platform capacity fromSequence) (NotifiesInOrder fromSequence)
        (.requested (replay platform .default commands).1) steps last →
      ∀ update ∈ last.delivered, ∀ sequence entry, fromSequence ≤ sequence →
        sequence < update.sequence → last.journal.entries.get sequence = some entry →
        configUpdate platform sequence entry ∈ last.delivered) ∧
    (∀ commands steps opened stream later last,
      Run (feedNext platform capacity fromSequence) (NotifiesInOrder fromSequence)
        (.requested (replay platform .default commands).1) steps opened →
      opened.subscription = .Open stream →
      Run (feedNext platform capacity fromSequence) (NotifiesInOrder fromSequence)
        opened later last →
      ∀ sequence entry, fromSequence ≤ sequence → .Notify sequence ∈ later →
        last.journal.entries.get sequence = some entry →
        (last.subscription = .Closed ∨ configUpdate platform sequence entry ∈ last.delivered ∨
          Held (configUpdate platform sequence entry) last) ∧
        (Resting platform capacity fromSequence last →
          last.subscription = .Closed ∨ configUpdate platform sequence entry ∈ last.delivered)) ∧
    (∀ feed, ∃ steps last,
      Run (feedNext platform capacity fromSequence) IsOwn feed steps last ∧
      Resting platform capacity fromSequence last) := by
  refine ⟨?_, ?_, ?_⟩
  · intro commands steps last run update hupdate sequence entry hfrom hbefore hget
    have hsound := run_sound platform capacity fromSequence commands steps last run
    exact hsound.delivers_before platform fromSequence last update hupdate sequence entry hfrom
      hbefore hget
  · intro commands steps opened stream later last run hopen rest sequence entry hfrom hnotified hget
    have hopened := run_sound platform capacity fromSequence commands steps opened run
    obtain ⟨hsound, hheard⟩ :=
      run_heard platform capacity fromSequence opened last later stream hopened hopen rest
    have hcases := hsound.delivers_heard platform fromSequence last sequence entry hfrom
      (hheard sequence hnotified) hget
    refine ⟨hcases, fun hresting => ?_⟩
    rcases hcases with hclosed | hsent | hheld
    · exact .inl hclosed
    · exact .inr hsent
    · exact absurd hresting (held_not_resting platform capacity fromSequence _ last hheld)
  · exact exists_run_of_measure workLeft _ (own_step_lowers_work platform capacity fromSequence)

instance (feed : Feed) (step : FeedStep) : Decidable (NotifiesInOrder fromSequence feed step) := by
  cases step with
  | Notify sequence =>
    cases hopen : feed.subscription with
    | Open stream =>
      exact decidable_of_iff (sequence ≤ newest stream.lastSent (sequences stream.receiver) + 1)
        (by simp [NotifiesInOrder, hopen])
    | _ => exact .isTrue (by simp [NotifiesInOrder, hopen])
  | CatchUp =>
    exact decidable_of_iff (fromSequence = 0 → (feed.journal.entries.get 0).isSome = true)
      (by simp [NotifiesInOrder, Option.isSome_iff_exists])
  | _ => exact .isTrue trivial

end Subscription

def sampleEntry (sequence : Nat) : ConfigEntry where
  sequence := sequence
  timestamp := 0
  entryType := .Commit
  scope := .VCluster "ml"
  author := ⟨"alice", .Human, "pact-ops-ml"⟩
  parent := none
  stateDelta := none
  policyRef := none
  ttlSeconds := none
  emergencyReason := none

def sampleJournal (count : Nat) : JournalState :=
  (replay .ascii .default (List.replicate count ⟨0, .AppendEntry (sampleEntry 0)⟩)).1

def appendHere : FeedStep := .Apply 0 (.AppendEntry (sampleEntry 0)) true

def sampleFeed (count lastSent : Nat) (delivered : List Nat) : Feed :=
  ⟨sampleJournal count, [], .Open ⟨[], [], false, lastSent⟩,
    delivered.map fun sequence => configUpdate .ascii sequence (sampleEntry sequence)⟩

def openedStream : Stream := ⟨[configUpdate .ascii 0 (sampleEntry 0)], [], false, 0⟩

def openedFeed : Feed := ⟨sampleJournal 1, [], .Open openedStream, []⟩

theorem subscription_loses_nothing_in_order :
    Run (feedNext .ascii 1024 0) (NotifiesInOrder 0) (.requested (sampleJournal 1))
      [.CatchUp, .Subscribe] openedFeed ∧
    Run (feedNext .ascii 1024 0) (NotifiesInOrder 0) openedFeed
      [appendHere, .Notify 1, .Send true, .Receive, .Send true] (sampleFeed 2 1 [0, 1]) ∧
    configUpdate .ascii 0 (sampleEntry 0) ∈ (sampleFeed 2 1 [0, 1]).delivered ∧
    configUpdate .ascii 1 (sampleEntry 1) ∈ (sampleFeed 2 1 [0, 1]).delivered := by
  have hopening : Run (feedNext .ascii 1024 0) (NotifiesInOrder 0) (.requested (sampleJournal 1))
      [.CatchUp, .Subscribe] openedFeed := run_of_execWhere _ _ _ _ _ (by decide +kernel)
  have hlater : Run (feedNext .ascii 1024 0) (NotifiesInOrder 0) openedFeed
      [appendHere, .Notify 1, .Send true, .Receive, .Send true] (sampleFeed 2 1 [0, 1]) :=
    run_of_execWhere _ _ _ _ _ (by decide +kernel)
  have hone := ((subscription_loses_nothing .ascii 1024 0).2.1 [⟨0, .AppendEntry (sampleEntry 0)⟩] _
    openedFeed openedStream _ _ hopening rfl hlater 1 (sampleEntry 1) (by decide) (by decide)
    (by decide +kernel)).2 ((resting_open .ascii 1024 0 _ _ rfl).mpr ⟨rfl, rfl, rfl⟩)
  have hsent := hone.resolve_left Subscription.noConfusion
  exact ⟨hopening, hlater, (subscription_loses_nothing .ascii 1024 0).1
    [⟨0, .AppendEntry (sampleEntry 0)⟩] _ _ (hopening.append hlater) _ hsent 0 (sampleEntry 0)
    (by decide) (by decide) (by decide +kernel), hsent⟩

-- Entry 1 is notified between the catch-up and the subscription to the channel; entry 2 is
-- notified before entry 1 by a concurrent call; entry 0 is the first of an empty journal. The
-- stream stays open without them.
theorem subscription_misses_entries :
    exec (feedNext .ascii 1024 0) (.requested (sampleJournal 1))
      [.CatchUp, appendHere, .Notify 1, .Subscribe, appendHere, .Notify 2, .Send true, .Receive,
        .Send true] = some (sampleFeed 3 2 [0, 2]) ∧
    exec (feedNext .ascii 1024 0) (.requested (sampleJournal 1))
      [.CatchUp, .Subscribe, appendHere, appendHere, .Notify 2, .Notify 1, .Send true, .Receive,
        .Send true, .Receive] = some (sampleFeed 3 2 [0, 2]) ∧
    (sampleFeed 3 2 [0, 2]).journal.entries.get 1 = some (sampleEntry 1) ∧
    configUpdate .ascii 1 (sampleEntry 1) ∉ (sampleFeed 3 2 [0, 2]).delivered ∧
    Resting .ascii 1024 0 (sampleFeed 3 2 [0, 2]) ∧
    exec (feedNext .ascii 1024 0) (.requested .default)
      [.CatchUp, .Subscribe, appendHere, .Notify 0, .Receive] = some (sampleFeed 1 0 []) ∧
    (sampleFeed 1 0 []).journal.entries.get 0 = some (sampleEntry 0) ∧
    Resting .ascii 1024 0 (sampleFeed 1 0 []) := by
  refine ⟨by decide +kernel, by decide +kernel, by decide +kernel, by decide +kernel, ?_,
    by decide +kernel, by decide +kernel, ?_⟩
  · exact (resting_open .ascii 1024 0 _ _ rfl).mpr ⟨rfl, rfl, rfl⟩
  · exact (resting_open .ascii 1024 0 _ _ rfl).mpr ⟨rfl, rfl, rfl⟩

end Pact.Journal.BootService
