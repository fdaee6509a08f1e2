import Pact.Journal.BootService.Theorems

namespace Pact.Journal.BootService

open Pact.Library Pact.Common

-- What concerns a node of a vCluster.
def Visible (vclusterId : VClusterId) (nodeId : NodeId) : Scope → Prop
  | .Global => True
  | .VCluster vcluster => vcluster = vclusterId
  | .Node node => node = nodeId

instance (vclusterId : VClusterId) (nodeId : NodeId) (scope : Scope) :
    Decidable (Visible vclusterId nodeId scope) := by
  cases scope <;> simp only [Visible] <;> infer_instance

def unnumbered (entry : ConfigEntry) : ConfigEntry := { entry with sequence := 0 }

def asked (s : JournalState) (fromSequence : Nat) : List ConfigEntry :=
  (s.entries.toList.filter fun stored => fromSequence ≤ stored.1).map Prod.snd

def deliveredEntries (feed : Feed) : List ConfigEntry :=
  feed.delivered.filterMap fun update => feed.journal.entries.get update.sequence

def message (platform : Platform) (entry : ConfigEntry) : Proto.ConfigUpdate :=
  configUpdate platform entry.sequence entry

section Isolation

variable (platform : Platform) (capacity fromSequence : Nat)

theorem mem_asked_iff (s : JournalState) (hwf : EntriesWellFormed s) (entry : ConfigEntry) :
    entry ∈ asked s fromSequence ↔
      s.entries.get entry.sequence = some entry ∧ fromSequence ≤ entry.sequence := by
  simp only [asked, List.mem_map, List.mem_filter, decide_eq_true_eq, Prod.exists, exists_eq_right,
    Map.mem_toList_iff]
  constructor
  · rintro ⟨key, hget, hfrom⟩
    rw [hwf.sequence key entry hget]
    exact ⟨hget, hfrom⟩
  · rintro ⟨hget, hfrom⟩
    exact ⟨entry.sequence, hget, hfrom⟩

theorem catchUp_eq_asked (s : JournalState) (hwf : EntriesWellFormed s) :
    catchUp platform s fromSequence = (asked s fromSequence).map (message platform) := by
  rw [catchUp, asked, List.map_map]
  refine List.map_congr_left fun stored hstored => ?_
  have hget : s.entries.get stored.1 = some stored.2 :=
    (Map.mem_toList_iff _ _ _).mp (List.mem_filter.mp hstored).1
  rw [Function.comp_apply, message, hwf.sequence _ _ hget]

-- Messages that tell of stored entries, of none before the first one asked for.
def Told (s : JournalState) (updates : List Proto.ConfigUpdate) : Prop :=
  ∀ update ∈ updates, Genuine platform s update ∧ fromSequence ≤ update.sequence

-- What holds whatever the order of the notifications.
structure FeedTold (feed : Feed) : Prop where
  wellFormed : EntriesWellFormed feed.journal
  delivered : Told platform fromSequence feed.journal feed.delivered
  caughtUp : ∀ catchup, feed.subscription = .CaughtUp catchup →
    Told platform fromSequence feed.journal catchup ∧
      fromSequence ≤ lastCaughtUp fromSequence catchup + 1
  opened : ∀ stream, feed.subscription = .Open stream →
    Told platform fromSequence feed.journal stream.outbox ∧
      (∀ update ∈ stream.receiver, Genuine platform feed.journal update) ∧
      fromSequence ≤ stream.lastSent + 1

theorem Told.apply (now : DateTime) (s : JournalState) (cmd : JournalCommand)
    (hwf : EntriesWellFormed s) (updates : List Proto.ConfigUpdate)
    (h : Told platform fromSequence s updates) :
    Told platform fromSequence (Journal.apply platform now s cmd).1 updates :=
  fun update hmem => ⟨(h update hmem).1.apply platform now s cmd hwf, (h update hmem).2⟩

theorem catchUp_told (s : JournalState) (hwf : EntriesWellFormed s) :
    Told platform fromSequence s (catchUp platform s fromSequence) := by
  intro update hmem
  rw [catchUp_eq_asked platform fromSequence s hwf] at hmem
  obtain ⟨entry, hentry, rfl⟩ := List.mem_map.mp hmem
  obtain ⟨hget, hfrom⟩ := (mem_asked_iff fromSequence s hwf entry).mp hentry
  exact ⟨⟨entry, hget, rfl⟩, hfrom⟩

theorem lastCaughtUp_bound (updates : List Proto.ConfigUpdate)
    (h : ∀ update ∈ updates, fromSequence ≤ update.sequence) :
    fromSequence ≤ lastCaughtUp fromSequence updates + 1 := by
  unfold lastCaughtUp
  split
  · rename_i update hlast
    have := h update (List.mem_of_getLast? hlast)
    omega
  · omega

theorem Stream.mem_notify (stream : Stream) (update other : Proto.ConfigUpdate)
    (h : other ∈ (stream.notify capacity update).receiver) :
    other ∈ stream.receiver ∨ other = update := by
  unfold Stream.notify at h
  split at h
  · simpa using h
  · rcases List.mem_append.mp h with hold | hnew
    · exact .inl (List.mem_of_mem_tail hold)
    · exact .inr (List.mem_singleton.mp hnew)

theorem Stream.notify_kept (stream : Stream) (update : Proto.ConfigUpdate) :
    (stream.notify capacity update).outbox = stream.outbox ∧
      (stream.notify capacity update).lastSent = stream.lastSent := by
  unfold Stream.notify
  split <;> exact ⟨rfl, rfl⟩

theorem FeedTold.notified (feed after : Feed) (update : Proto.ConfigUpdate)
    (htold : FeedTold platform fromSequence feed) (hjournal : after.journal = feed.journal)
    (hdelivered : after.delivered = feed.delivered)
    (hnotified : after.subscription = feed.subscription.notify capacity update)
    (hgenuine : Genuine platform feed.journal update) : FeedTold platform fromSequence after := by
  refine ⟨hjournal ▸ htold.wellFormed, hjournal ▸ hdelivered ▸ htold.delivered, ?_, ?_⟩
  · intro catchup hsub
    rw [hjournal]
    refine htold.caughtUp catchup ?_
    rw [hnotified] at hsub
    cases hfeed : feed.subscription <;> simp [hfeed, Subscription.notify] at hsub ⊢
    exact hsub
  · intro stream hsub
    rw [hnotified] at hsub
    cases hfeed : feed.subscription <;> simp [hfeed, Subscription.notify] at hsub
    rename_i opened
    subst hsub
    obtain ⟨hout, hreceiver, hbound⟩ := htold.opened opened hfeed
    obtain ⟨houtbox, hlastSent⟩ := opened.notify_kept capacity update
    rw [hjournal, houtbox, hlastSent]
    refine ⟨hout, fun other hother => ?_, hbound⟩
    rcases opened.mem_notify capacity _ other hother with hold | rfl
    · exact hreceiver other hold
    · exact hgenuine

theorem Stream.take_receiver (stream : Stream) (update : Proto.ConfigUpdate)
    (rest : List Proto.ConfigUpdate) : (stream.take update rest).receiver = rest := by
  unfold Stream.take
  split <;> rfl

theorem Stream.take_told (s : JournalState) (stream : Stream) (update : Proto.ConfigUpdate)
    (rest : List Proto.ConfigUpdate) (htold : Told platform fromSequence s stream.outbox)
    (hgenuine : Genuine platform s update) (hbound : fromSequence ≤ stream.lastSent + 1) :
    Told platform fromSequence s (stream.take update rest).outbox ∧
      fromSequence ≤ (stream.take update rest).lastSent + 1 := by
  unfold Stream.take
  split
  · exact ⟨htold, hbound⟩
  · have hnew : fromSequence ≤ update.sequence := by omega
    refine ⟨?_, by dsimp only; omega⟩
    intro other hother
    obtain rfl := List.mem_singleton.mp hother
    exact ⟨hgenuine, hnew⟩

theorem feedMove_told (feed after : Feed) (step : FeedStep)
    (hmove : FeedMove platform capacity fromSequence feed step after)
    (hfeed : FeedTold platform fromSequence feed) : FeedTold platform fromSequence after := by
  have ⟨hwf, hdelivered, hcaughtUp, hopened⟩ := hfeed
  cases hmove with
  | Apply now cmd here pending hpending =>
    refine ⟨apply_entriesWellFormed platform now feed.journal cmd hwf,
      hdelivered.apply platform fromSequence now _ cmd hwf, ?_, ?_⟩
    · intro catchup hsub
      obtain ⟨htold, hbound⟩ := hcaughtUp catchup hsub
      exact ⟨htold.apply platform fromSequence now _ cmd hwf, hbound⟩
    · intro stream hsub
      obtain ⟨htold, hreceiver, hbound⟩ := hopened stream hsub
      exact ⟨htold.apply platform fromSequence now _ cmd hwf,
        fun update hmem => (hreceiver update hmem).apply platform now _ cmd hwf, hbound⟩
  | Notify sequence entry hmem hget =>
    exact hfeed.notified platform capacity fromSequence feed _ _ rfl rfl rfl ⟨entry, hget, rfl⟩
  | NotifyNothing sequence hmem hget => exact ⟨hwf, hdelivered, hcaughtUp, hopened⟩
  | Abandon sequence => exact ⟨hwf, hdelivered, hcaughtUp, hopened⟩
  | CatchUp h =>
    have htold := catchUp_told platform fromSequence feed.journal hwf
    refine ⟨hwf, hdelivered, ?_, by simp⟩
    intro catchup hsub
    cases hsub
    exact ⟨htold, lastCaughtUp_bound fromSequence _ fun update hmem => (htold update hmem).2⟩
  | Subscribe catchup h =>
    obtain ⟨htold, hbound⟩ := hcaughtUp catchup h
    refine ⟨hwf, hdelivered, by simp, ?_⟩
    intro stream hsub
    cases hsub
    exact ⟨htold, fun _ hmem => absurd hmem List.not_mem_nil, hbound⟩
  | Send stream update rest h hout =>
    obtain ⟨htold, hreceiver, hbound⟩ := hopened stream h
    rw [hout] at htold
    refine ⟨hwf, ?_, by simp, ?_⟩
    · intro other hother
      rcases List.mem_append.mp hother with hold | hnew
      · exact hdelivered other hold
      · obtain rfl := List.mem_singleton.mp hnew
        exact htold other List.mem_cons_self
    · intro opened hsub
      cases hsub
      exact ⟨fun other hother => htold other (List.mem_cons_of_mem _ hother), hreceiver, hbound⟩
  | Receive stream update rest h hout hlagged hreceiver =>
    obtain ⟨htold, hunread, hbound⟩ := hopened stream h
    rw [hreceiver] at hunread
    obtain ⟨hgenuine, hrest⟩ := List.forall_mem_cons.mp hunread
    refine ⟨hwf, hdelivered, by simp, ?_⟩
    intro opened hsub
    cases hsub
    obtain ⟨htaken, hlast⟩ :=
      stream.take_told platform fromSequence feed.journal update rest htold hgenuine hbound
    exact ⟨htaken, by rwa [Stream.take_receiver], hlast⟩
  | Close step hstep => exact ⟨hwf, hdelivered, by simp, by simp⟩

theorem run_told (commands : List Applied) (steps : List FeedStep) (last : Feed)
    (run : Run (feedNext platform capacity fromSequence) Unrestricted
      (.requested (replay platform .default commands).1) steps last) :
    FeedTold platform fromSequence last := by
  refine run.invariant (FeedTold platform fromSequence) ?_ ?_
  · intro feed step after htold _ hnext
    exact feedMove_told platform capacity fromSequence feed after step
      (feedNext_move platform capacity fromSequence feed after step hnext) htold
  · exact ⟨replay_entriesWellFormed platform commands, fun _ h => absurd h List.not_mem_nil,
      by simp [Feed.requested], by simp [Feed.requested]⟩

theorem messages_of_genuine (s : JournalState) (hwf : EntriesWellFormed s)
    (updates : List Proto.ConfigUpdate) (h : ∀ update ∈ updates, Genuine platform s update) :
    updates = (updates.filterMap fun update => s.entries.get update.sequence).map
      (message platform) := by
  induction updates with
  | nil => rfl
  | cons update updates ih =>
    obtain ⟨⟨entry, hget, heq⟩, hrest⟩ := List.forall_mem_cons.mp h
    have hmessage : message platform entry = update := by
      rw [message, hwf.sequence _ _ hget, ← heq]
    simp only [List.filterMap_cons, hget, List.map_cons, hmessage]
    exact congrArg (update :: ·) (ih hrest)

def Settled (feed : Feed) : Prop :=
  ∃ stream, feed.subscription = .Open stream ∧ Resting platform capacity fromSequence feed ∧
    feed.journal.nextSequence ≤ stream.lastSent + 1

theorem settled_deliveredEntries (feed : Feed) (hsound : FeedSound platform fromSequence feed)
    (hsettled : Settled platform capacity fromSequence feed) :
    deliveredEntries feed = asked feed.journal fromSequence := by
  obtain ⟨stream, hopen, hresting, hall⟩ := hsettled
  obtain ⟨hout, _, _⟩ := (resting_open platform capacity fromSequence feed stream hopen).mp hresting
  have hstream := hsound.subscription
  rw [hopen] at hstream
  have htaken := hstream.taken
  rw [hout, List.append_nil] at htaken
  have hwf := hsound.wellFormed
  have hcount : stream.lastSent + 1 - fromSequence = feed.journal.nextSequence - fromSequence := by
    by_contra hne
    have hlast : stream.lastSent ∈ sequences feed.delivered := by
      rw [htaken, List.mem_range'_1]
      omega
    obtain ⟨update, hupdate, heq⟩ := List.mem_map.mp hlast
    obtain ⟨entry, hget, _⟩ := hsound.genuine update hupdate
    have hbound := (hwf.keys update.sequence).mp ⟨entry, hget⟩
    omega
  have hsequences : sequences feed.delivered =
      sequences (catchUp platform feed.journal fromSequence) := by
    rw [htaken, hcount, catchUp_sequences platform fromSequence feed.journal hwf]
  have hentries : ∀ updates : List Proto.ConfigUpdate,
      (updates.filterMap fun update => feed.journal.entries.get update.sequence) =
        (sequences updates).filterMap feed.journal.entries.get := fun updates => by
    rw [sequences, List.filterMap_map]
    rfl
  rw [deliveredEntries, hentries, hsequences, ← hentries,
    catchUp_eq_asked platform fromSequence feed.journal hwf, List.filterMap_map]
  refine (List.filterMap_congr fun entry hentry => ?_).trans List.filterMap_some
  exact ((mem_asked_iff fromSequence feed.journal hwf entry).mp hentry).1

def visibleEntries (vclusterId : VClusterId) (nodeId : NodeId) (s : JournalState)
    (fromSequence : Nat) : List ConfigEntry :=
  (asked s fromSequence).filter fun entry => Visible vclusterId nodeId entry.scope

end Isolation

-- A subscriber is told of everything, whatever node and vCluster it names. So two journals that
-- hold the same for it look the same to it, without anything that is not for it, exactly if they
-- hold nothing else.
theorem subscription_isolated_iff (platform : Platform) (capacity : Nat)
    (vclusterId : VClusterId) (nodeId : NodeId) :
    (∀ fromSequence commands steps feed otherFrom otherCommands otherSteps other,
      Run (feedNext platform capacity fromSequence) (NotifiesInOrder fromSequence)
        (.requested (replay platform .default commands).1) steps feed →
      Settled platform capacity fromSequence feed →
      Run (feedNext platform capacity otherFrom) (NotifiesInOrder otherFrom)
        (.requested (replay platform .default otherCommands).1) otherSteps other →
      Settled platform capacity otherFrom other →
      (visibleEntries vclusterId nodeId feed.journal fromSequence).map unnumbered =
        (visibleEntries vclusterId nodeId other.journal otherFrom).map unnumbered →
      (((deliveredEntries feed).map unnumbered = (deliveredEntries other).map unnumbered ∧
          (∀ entry ∈ deliveredEntries feed, Visible vclusterId nodeId entry.scope) ∧
          ∀ entry ∈ deliveredEntries other, Visible vclusterId nodeId entry.scope) ↔
        (∀ entry ∈ asked feed.journal fromSequence, Visible vclusterId nodeId entry.scope) ∧
          ∀ entry ∈ asked other.journal otherFrom, Visible vclusterId nodeId entry.scope)) ∧
    (∀ fromSequence commands steps feed,
      Run (feedNext platform capacity fromSequence) Unrestricted
        (.requested (replay platform .default commands).1) steps feed →
      feed.delivered = (deliveredEntries feed).map (message platform) ∧
      ((∀ entry ∈ asked feed.journal fromSequence, Visible vclusterId nodeId entry.scope) →
        ∀ entry ∈ deliveredEntries feed, Visible vclusterId nodeId entry.scope)) := by
  refine ⟨?_, ?_⟩
  · intro fromSequence commands steps feed otherFrom otherCommands otherSteps other hrun hsettled
      hother hotherSettled hagree
    have hfeed := settled_deliveredEntries platform capacity fromSequence feed
      (run_sound platform capacity fromSequence commands steps feed hrun) hsettled
    have hotherFeed := settled_deliveredEntries platform capacity otherFrom other
      (run_sound platform capacity otherFrom otherCommands otherSteps other hother) hotherSettled
    rw [hfeed, hotherFeed]
    refine ⟨fun h => h.2, fun ⟨hvisible, hotherVisible⟩ => ⟨?_, hvisible, hotherVisible⟩⟩
    rwa [visibleEntries, visibleEntries, List.filter_eq_self.mpr (by simpa using hvisible),
      List.filter_eq_self.mpr (by simpa using hotherVisible)] at hagree
  · intro fromSequence commands steps feed hrun
    obtain ⟨hwf, hdelivered, _, _⟩ := run_told platform capacity fromSequence commands steps feed hrun
    refine ⟨messages_of_genuine platform feed.journal hwf feed.delivered
      fun update hmem => (hdelivered update hmem).1, fun hvisible entry hentry => ?_⟩
    obtain ⟨update, hupdate, hget⟩ := List.mem_filterMap.mp hentry
    refine hvisible entry ((mem_asked_iff fromSequence feed.journal hwf entry).mpr ?_)
    rw [hwf.sequence _ _ hget]
    exact ⟨hget, (hdelivered update hupdate).2⟩

def scopedEntry (scope : Scope) : ConfigEntry := { sampleEntry 0 with scope := scope }

def scopedJournal (scopes : List Scope) : JournalState :=
  (replay .ascii .default (scopes.map fun scope => ⟨0, .AppendEntry (scopedEntry scope)⟩)).1

def scopedFeed (scopes : List Scope) : Feed where
  journal := scopedJournal scopes
  pending := []
  subscription := .Open ⟨[], [], false, scopes.length - 1⟩
  delivered := catchUp .ascii (scopedJournal scopes) 0

-- Three journals with one entry for node n1 of vCluster ml. Its subscriber is told of an entry
-- of vCluster bio, in the catch-up or live, where the journal has one.
theorem foreign_entry_delivered :
    exec (feedNext .ascii 1024 0) (.requested (scopedJournal [.Global]))
      [.CatchUp, .Subscribe, .Send true] = some (scopedFeed [.Global]) ∧
    exec (feedNext .ascii 1024 0) (.requested (scopedJournal [.Global, .VCluster "bio"]))
      [.CatchUp, .Subscribe, .Send true, .Send true] =
        some (scopedFeed [.Global, .VCluster "bio"]) ∧
    exec (feedNext .ascii 1024 0) (.requested (scopedJournal [.Global]))
      [.CatchUp, .Subscribe, .Apply 0 (.AppendEntry (scopedEntry (.VCluster "bio"))) true,
        .Notify 1, .Send true, .Receive, .Send true] =
        some (scopedFeed [.Global, .VCluster "bio"]) ∧
    Resting .ascii 1024 0 (scopedFeed [.Global]) ∧
    Resting .ascii 1024 0 (scopedFeed [.Global, .VCluster "bio"]) ∧
    visibleEntries "ml" "n1" (scopedJournal [.Global]) 0 =
      visibleEntries "ml" "n1" (scopedJournal [.Global, .VCluster "bio"]) 0 ∧
    (deliveredEntries (scopedFeed [.Global])).map ConfigEntry.scope = [.Global] ∧
    (deliveredEntries (scopedFeed [.Global, .VCluster "bio"])).map ConfigEntry.scope =
      [.Global, .VCluster "bio"] := by
  refine ⟨by decide +kernel, by decide +kernel, by decide +kernel, ?_, ?_, by decide +kernel,
    by decide +kernel, by decide +kernel⟩
  · exact (resting_open .ascii 1024 0 _ _ rfl).mpr ⟨rfl, rfl, rfl⟩
  · exact (resting_open .ascii 1024 0 _ _ rfl).mpr ⟨rfl, rfl, rfl⟩

end Pact.Journal.BootService
