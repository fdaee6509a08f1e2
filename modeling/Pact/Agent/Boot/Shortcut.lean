import Pact.Agent.Boot.Theorems
import Pact.Journal.State.Theorems

namespace Pact.Agent.Boot

open Pact.Library Pact.Common Pact.Journal Pact.Journal.BootService

-- What arrives of an answer of the journal when nothing is lost on the way.
def served (platform : Platform) (codec : Codec) (now : DateTime) (s : JournalState)
    (req : Proto.BootConfigRequest) : Except Status (List Item) :=
  (BootService.streamBootConfig platform codec now s req).map (·.map .ok)

def sentOverlays (response : Except Status (List Item)) : List Proto.OverlayChunk :=
  match response with
  | .ok items => items.filterMap fun item => item.toOption.bind overlayOf
  | .error _ => []

-- A client that has some configuration keeps it if it is sent no overlay.
def refresh (codec : Codec) (statusText : Status → String) (kept : BootConfigData)
    (response : Except Status (List Item)) : Except String BootConfigData :=
  (streamBootConfig codec statusText response).map fun fetched =>
    if sentOverlays response = [] then kept else fetched

structure Client where
  nodeId : NodeId
  vclusterId : VClusterId
  kept : BootConfigData
  deriving DecidableEq

def Client.request (client : Client) (lastKnownVersion : Option Nat) : Proto.BootConfigRequest :=
  ⟨client.nodeId, client.vclusterId, lastKnownVersion⟩

def content (data : BootConfigData) : List UInt8 × List UInt8 :=
  (data.overlayData, data.nodeDeltaData)

section Shortcut

variable (platform : Platform) (codec : Codec) (statusText : Status → String) (client : Client)

-- Asking with the version it has leaves the client with what it would get by fetching everything.
def ShortcutAgrees (s : JournalState) : Prop :=
  ∀ now, (refresh codec statusText client.kept
      (served platform codec now s (client.request (some client.kept.baseVersion)))).map content =
    (streamBootConfig codec statusText (served platform codec now s (client.request none))).map
      content

def deltaOf (entries : List ConfigEntry) : List UInt8 :=
  if entries = [] then [] else (codec.entriesToJson entries).getD []

def Legible : Prop :=
  ∀ entries more, more ≠ [] → deltaOf codec (entries ++ more) ≠ deltaOf codec entries

-- The commands that a client with a known version hears of, or does not have to: `start` is the
-- journal as it was when the client fetched everything.
structure Noticed (start s : JournalState) (applied : Applied) : Prop where
  overlay : ∀ overlay, applied.command = .SetOverlay client.vclusterId overlay →
    (apply platform applied.now s applied.command).2 = .Ok →
    client.kept.baseVersion < overlay.version ∨
      (overlay.data = client.kept.overlayData ∧
        nodeEntries s client.nodeId = nodeEntries start client.nodeId)
  entry : ∀ entry sequence, applied.command = .AppendEntry entry →
    (apply platform applied.now s applied.command).2 = .EntryAppended sequence →
    entry.scope = .Node client.nodeId →
    ∃ overlay, s.overlays.get client.vclusterId = some overlay ∧
      client.kept.baseVersion < overlay.version

-- What a command does to what the boot service reads.
inductive BootChange (now : DateTime) (s : JournalState) :
    JournalCommand → JournalState × JournalResponse → Prop
  | Entry (entry : ConfigEntry) (after : JournalState) (hoverlays : after.overlays = s.overlays)
      (hentries : ∀ nodeId, nodeEntries after nodeId = nodeEntries s nodeId ++
        if entry.scope = .Node nodeId then [{ entry with sequence := s.nextSequence }] else []) :
      BootChange now s (.AppendEntry entry) (after, .EntryAppended s.nextSequence)
  | Overlay (vclusterId : VClusterId) (overlay : BootOverlay) :
      BootChange now s (.SetOverlay vclusterId overlay)
        ({ s with overlays := s.overlays.insert vclusterId overlay }, .Ok)
  | Neither (cmd : JournalCommand) (after : JournalState) (response : JournalResponse)
      (hoverlays : after.overlays = s.overlays) (hentries : after.entries = s.entries)
      (hoverlay : ∀ vclusterId overlay, cmd = .SetOverlay vclusterId overlay → response ≠ .Ok)
      (hentry : ∀ entry sequence, cmd = .AppendEntry entry →
        response ≠ .EntryAppended sequence) :
      BootChange now s cmd (after, response)

theorem nodeEntries_congr (s after : JournalState) (hentries : after.entries = s.entries)
    (nodeId : NodeId) : nodeEntries after nodeId = nodeEntries s nodeId := by
  rw [nodeEntries, hentries, nodeEntries]

theorem nodeEntries_append (s : JournalState) (hwf : EntriesWellFormed s) (entry : ConfigEntry)
    (after : JournalState) (hentries : after.entries = s.entries.insert s.nextSequence entry)
    (nodeId : NodeId) :
    nodeEntries after nodeId =
      nodeEntries s nodeId ++ if entry.scope = .Node nodeId then [entry] else [] := by
  have hlast : ∀ key stored, s.entries.get key = some stored → key < s.nextSequence :=
    fun key stored hget => (hwf.keys key).mp ⟨stored, hget⟩
  rw [nodeEntries, hentries, Map.values, Map.toList_insert_last _ _ _ hlast, List.map_append,
    List.filter_append, nodeEntries, Map.values]
  by_cases hscope : entry.scope = .Node nodeId <;> simp [hscope]

theorem apply_bootChange (now : DateTime) (s : JournalState) (cmd : JournalCommand)
    (hwf : EntriesWellFormed s) : BootChange now s cmd (apply platform now s cmd) := by
  have houtcome := apply_outcome platform now s cmd
  generalize apply platform now s cmd = result at houtcome ⊢
  cases houtcome with
  | Appended entry haccepted =>
    exact .Entry entry _ rfl
      (nodeEntries_append s hwf { entry with sequence := s.nextSequence } _ rfl)
  | Overlay vclusterId overlay => exact .Overlay vclusterId overlay
  | Updated cmd nodeId record response htarget hget hresponse =>
    refine .Neither cmd _ _ rfl rfl ?_ ?_
    · rintro vclusterId overlay rfl
      cases htarget
    · rintro entry sequence rfl
      cases htarget
  | Rejected _ reason hkept =>
    exact .Neither _ _ _ rfl rfl (fun _ _ _ => nofun) (fun _ _ _ => nofun)
  | _ => exact .Neither _ _ _ rfl rfl (fun _ _ h => nomatch h) (fun _ _ h => nomatch h)

theorem fetch_eq (hcodec : codec.Sound) (now : DateTime) (s : JournalState) (overlay : BootOverlay)
    (hoverlay : s.overlays.get client.vclusterId = some overlay) :
    streamBootConfig codec statusText (served platform codec now s (client.request none)) =
      .ok ⟨overlay.data, buildNodeDelta codec s client.nodeId, overlay.version⟩ := by
  rw [served, Client.request,
    streamBootConfig_ok platform codec now s client.vclusterId client.nodeId overlay hoverlay]
  exact streamBootConfig_bootChunks platform codec statusText now s client.nodeId overlay hcodec

theorem refresh_eq (hcodec : codec.Sound) (now : DateTime) (s : JournalState)
    (overlay : BootOverlay) (hoverlay : s.overlays.get client.vclusterId = some overlay) :
    refresh codec statusText client.kept
        (served platform codec now s (client.request (some client.kept.baseVersion))) =
      .ok (if client.kept.baseVersion < overlay.version then
        ⟨overlay.data, buildNodeDelta codec s client.nodeId, overlay.version⟩
      else client.kept) := by
  by_cases hnewer : client.kept.baseVersion < overlay.version
  · have hserved : served platform codec now s (client.request (some client.kept.baseVersion)) =
        .ok ((bootChunks platform codec now s client.nodeId overlay).map .ok) := by
      simp [served, Client.request, BootService.streamBootConfig, hoverlay, not_le.mpr hnewer,
        Except.map]
    have hsent : sentOverlays
        (.ok ((bootChunks platform codec now s client.nodeId overlay).map .ok)) =
        overlayChunks overlay (compress codec overlay.data) := by
      rw [← bootChunks_overlays platform codec now s client.nodeId overlay, sentOverlays,
        List.filterMap_map]
      rfl
    rw [refresh, hserved,
      streamBootConfig_bootChunks platform codec statusText now s client.nodeId overlay hcodec]
    simp [Except.map, hsent, overlayChunks_ne_nil, hnewer]
  · have hserved : served platform codec now s (client.request (some client.kept.baseVersion)) =
        .ok [.ok (configComplete now overlay.version 0)] := by
      simp [served, Client.request, BootService.streamBootConfig, hoverlay, not_lt.mp hnewer,
        Except.map]
    rw [refresh, hserved, if_neg hnewer]
    rfl

theorem shortcutAgrees_iff (hcodec : codec.Sound) (s : JournalState) (overlay : BootOverlay)
    (hoverlay : s.overlays.get client.vclusterId = some overlay) :
    ShortcutAgrees platform codec statusText client s ↔
      client.kept.baseVersion < overlay.version ∨
        (overlay.data = client.kept.overlayData ∧
          buildNodeDelta codec s client.nodeId = client.kept.nodeDeltaData) := by
  simp only [ShortcutAgrees, fetch_eq platform codec statusText client hcodec _ s overlay hoverlay,
    refresh_eq platform codec statusText client hcodec _ s overlay hoverlay, Except.map]
  split_ifs with hnewer
  · simp [hnewer]
  · simp [hnewer, content, eq_comm]

-- The same with the entries of the node in place of their text.
def Current (start s : JournalState) : Prop :=
  ∃ overlay, s.overlays.get client.vclusterId = some overlay ∧
    (client.kept.baseVersion < overlay.version ∨
      (overlay.data = client.kept.overlayData ∧
        nodeEntries s client.nodeId = nodeEntries start client.nodeId))

structure Continues (start s : JournalState) : Prop where
  wellFormed : EntriesWellFormed s
  overlay : ∃ overlay, s.overlays.get client.vclusterId = some overlay
  entries : ∃ more, nodeEntries s client.nodeId = nodeEntries start client.nodeId ++ more

theorem continues_apply (start s : JournalState) (now : DateTime) (cmd : JournalCommand)
    (h : Continues client start s) :
    Continues client start (apply platform now s cmd).1 := by
  obtain ⟨hwf, ⟨overlay, hoverlay⟩, more, hmore⟩ := h
  have hafter := apply_entriesWellFormed platform now s cmd hwf
  have hchange := apply_bootChange platform now s cmd hwf
  generalize apply platform now s cmd = result at hafter hchange ⊢
  cases hchange with
  | Entry entry after hoverlays hentries =>
    refine ⟨hafter, ⟨overlay, by rw [hoverlays]; exact hoverlay⟩, ?_⟩
    rw [hentries, hmore, List.append_assoc]
    exact ⟨_, rfl⟩
  | Overlay vclusterId written =>
    refine ⟨hafter, ?_, more, hmore⟩
    simp only [Map.get_insert]
    split_ifs
    · exact ⟨written, rfl⟩
    · exact ⟨overlay, hoverlay⟩
  | Neither _ after response hoverlays hentries _ _ =>
    refine ⟨hafter, ⟨overlay, by rw [hoverlays]; exact hoverlay⟩, more, ?_⟩
    rw [nodeEntries_congr s after hentries, hmore]

theorem continues_next (start s after : JournalState) (applied : Applied)
    (h : Continues client start s) (hnext : journalNext platform s applied = some after) :
    Continues client start after := by
  obtain rfl := Option.some.inj hnext
  exact continues_apply platform client start s applied.now applied.command h

theorem noticed_of_current_apply (start s : JournalState) (applied : Applied)
    (hbase : Continues client start s)
    (hcurrent : Current client start (apply platform applied.now s applied.command).1) :
    Noticed platform client start s applied := by
  obtain ⟨now, cmd⟩ := applied
  obtain ⟨overlay, hoverlay, hstate⟩ := hcurrent
  have hchange := apply_bootChange platform now s cmd hbase.wellFormed
  refine ⟨?_, ?_⟩
  · intro written hcmd hresponse
    dsimp only at hcmd hresponse hoverlay hstate
    generalize apply platform now s cmd = result at hchange hresponse hoverlay hstate
    cases hchange with
    | Entry => cases hcmd
    | Overlay vclusterId bundle =>
      cases hcmd
      rw [Map.get_insert_self] at hoverlay
      obtain rfl := Option.some.inj hoverlay
      exact hstate
    | Neither _ after response _ _ hnone _ => exact absurd hresponse (hnone _ _ hcmd)
  · intro entry sequence hcmd hresponse hscope
    dsimp only at hcmd hresponse hoverlay hstate
    generalize apply platform now s cmd = result at hchange hresponse hoverlay hstate
    cases hchange with
    | Entry appended after hoverlays hentries =>
      cases hcmd
      rw [hoverlays] at hoverlay
      refine ⟨overlay, hoverlay, ?_⟩
      rcases hstate with hversion | ⟨_, hsame⟩
      · exact hversion
      · -- The node has one entry more than it had when the client fetched.
        obtain ⟨more, hmore⟩ := hbase.entries
        rw [hentries, hmore, if_pos hscope] at hsame
        have hlength := congrArg List.length hsame
        simp only [List.length_append, List.length_singleton] at hlength
        omega
    | Overlay => cases hcmd
    | Neither _ after response _ _ _ hnone => exact absurd hresponse (hnone _ _ hcmd)

theorem current_apply_of_noticed (start s : JournalState) (applied : Applied)
    (hbase : Continues client start s) (hcurrent : Current client start s)
    (hnoticed : Noticed platform client start s applied) :
    Current client start (apply platform applied.now s applied.command).1 := by
  obtain ⟨now, cmd⟩ := applied
  obtain ⟨overlay, hoverlay, hstate⟩ := hcurrent
  obtain ⟨hwritten, happended⟩ := hnoticed
  have hchange := apply_bootChange platform now s cmd hbase.wellFormed
  dsimp only at hwritten happended ⊢
  generalize apply platform now s cmd = result at hchange hwritten happended ⊢
  cases hchange with
  | Entry entry after hoverlays hentries =>
    refine ⟨overlay, by rw [hoverlays]; exact hoverlay, ?_⟩
    by_cases hscope : entry.scope = .Node client.nodeId
    · obtain ⟨found, hfound, hversion⟩ := happended entry _ rfl rfl hscope
      rw [hoverlay] at hfound
      obtain rfl := Option.some.inj hfound
      exact .inl hversion
    · rw [hentries, if_neg hscope, List.append_nil]
      exact hstate
  | Overlay vclusterId written =>
    by_cases hname : vclusterId = client.vclusterId
    · subst hname
      exact ⟨written, Map.get_insert_self _ _ _, hwritten written rfl rfl⟩
    · exact ⟨overlay, by rw [Map.get_insert_of_ne _ _ (Ne.symm hname)]; exact hoverlay, hstate⟩
  | Neither _ after response hoverlays hentries _ _ =>
    refine ⟨overlay, by rw [hoverlays]; exact hoverlay, ?_⟩
    rw [nodeEntries_congr s after hentries]
    exact hstate

theorem current_next_iff (start s after : JournalState) (applied : Applied)
    (hbase : Continues client start s) (hcurrent : Current client start s)
    (hnext : journalNext platform s applied = some after) :
    Current client start after ↔ Noticed platform client start s applied := by
  obtain rfl := Option.some.inj hnext
  exact ⟨noticed_of_current_apply platform client start s applied hbase,
    current_apply_of_noticed platform client start s applied hbase hcurrent⟩

theorem shortcutAgrees_of_current (hcodec : codec.Sound) (start s : JournalState)
    (hkept : client.kept.nodeDeltaData = buildNodeDelta codec start client.nodeId)
    (hcurrent : Current client start s) : ShortcutAgrees platform codec statusText client s := by
  obtain ⟨overlay, hoverlay, hstate⟩ := hcurrent
  rw [shortcutAgrees_iff platform codec statusText client hcodec s overlay hoverlay, hkept]
  refine hstate.imp id ?_
  rintro ⟨hdata, hentries⟩
  exact ⟨hdata, by simp only [buildNodeDelta, hentries]⟩

theorem current_of_shortcutAgrees (hcodec : codec.Sound) (hlegible : Legible codec)
    (start s : JournalState)
    (hkept : client.kept.nodeDeltaData = buildNodeDelta codec start client.nodeId)
    (hbase : Continues client start s)
    (hagrees : ShortcutAgrees platform codec statusText client s) : Current client start s := by
  obtain ⟨_, ⟨overlay, hoverlay⟩, more, hmore⟩ := hbase
  rw [shortcutAgrees_iff platform codec statusText client hcodec s overlay hoverlay, hkept] at hagrees
  refine ⟨overlay, hoverlay, hagrees.imp id ?_⟩
  rintro ⟨hdata, hdelta⟩
  refine ⟨hdata, ?_⟩
  by_contra hdifferent
  have hadded : more ≠ [] := by
    rintro rfl
    exact hdifferent (by rw [hmore, List.append_nil])
  refine hlegible (nodeEntries start client.nodeId) more hadded ?_
  rw [← hmore]
  exact hdelta

-- A client that has fetched everything goes on as if it did so every time, as long as every step
-- is one it notices: an overlay of its vCluster has a higher version than the one it has, and an
-- entry for its node comes only while such an overlay is stored. Where more entries give another
-- text, every other step leaves it with something old.
theorem shortcut_sound_iff (hcodec : codec.Sound) (start last : JournalState)
    (commands : List Applied) (fetchedAt : DateTime) (hstart : Reachable platform start)
    (hfetched : streamBootConfig codec statusText
      (served platform codec fetchedAt start (client.request none)) = .ok client.kept)
    (run : Run (journalNext platform) Unrestricted start commands last) :
    (Run (journalNext platform) (Noticed platform client start) start commands last →
        ∀ ran rest middle, commands = ran ++ rest →
          Run (journalNext platform) Unrestricted start ran middle →
          ShortcutAgrees platform codec statusText client middle) ∧
      (Legible codec →
        (∀ ran rest middle, commands = ran ++ rest →
          Run (journalNext platform) Unrestricted start ran middle →
          ShortcutAgrees platform codec statusText client middle) →
        Run (journalNext platform) (Noticed platform client start) start commands last) := by
  obtain ⟨before, rfl⟩ := hstart
  generalize hstart : (replay platform .default before).1 = start at *
  have hwf : EntriesWellFormed start := hstart ▸ replay_entriesWellFormed platform before
  cases hoverlay : start.overlays.get client.vclusterId with
  | none =>
    simp [served, Client.request, BootService.streamBootConfig, hoverlay, streamBootConfig,
      Except.map] at hfetched
  | some overlay =>
    rw [fetch_eq platform codec statusText client hcodec fetchedAt start overlay hoverlay] at hfetched
    have hkept := Except.ok.inj hfetched
    have hdelta : client.kept.nodeDeltaData = buildNodeDelta codec start client.nodeId := by
      rw [← hkept]
    have hbase : Continues client start start :=
      ⟨hwf, ⟨overlay, hoverlay⟩, [], (List.append_nil _).symm⟩
    have hcurrent : Current client start start := ⟨overlay, hoverlay, .inr ⟨by rw [← hkept], rfl⟩⟩
    have halways := Run.always_iff_beside (Continues client start) (Current client start)
      (fun s applied after => continues_next platform client start s after applied)
      (fun s applied after => current_next_iff platform client start s after applied)
      run hbase hcurrent
    refine ⟨?_, ?_⟩
    · intro hnoticed ran rest middle hsplit hran
      exact shortcutAgrees_of_current platform codec statusText client hcodec start middle hdelta
        (halways.mpr hnoticed ran rest middle hsplit hran)
    · intro hlegible hagrees
      refine halways.mp ?_
      intro ran rest middle hsplit hran
      have hmiddle := hran.invariant (Continues client start)
        (fun s applied after hs _ => continues_next platform client start s after applied hs) hbase
      exact current_of_shortcutAgrees platform codec statusText client hcodec hlegible start
        middle hdelta hmiddle (hagrees ran rest middle hsplit hran)

end Shortcut

theorem Codec.stored_legible : Legible Codec.stored := by
  intro entries more hmore hsame
  obtain ⟨entry, later, rfl⟩ := List.exists_cons_of_ne_nil hmore
  cases entries with
  | nil => simp [deltaOf, Codec.stored, entriesJson] at hsame
  | cons first rest => simp [deltaOf, Codec.stored, entriesJson] at hsame

def swappinessClient : Client := ⟨"n1", "default", ⟨[], entriesJson [swappinessEntry], 1⟩⟩

def newerOverlay : BootOverlay := { emptyOverlay with version := 2 }

def noticedCommands : List Applied :=
  [⟨0, .SetOverlay "default" newerOverlay⟩, ⟨0, .AppendEntry swappinessEntry⟩]

theorem noticed_newer (last : JournalState)
    (run : Run (journalNext bootPlatform) Unrestricted swappinessJournal noticedCommands last) :
    Run (journalNext bootPlatform) (Noticed bootPlatform swappinessClient swappinessJournal)
      swappinessJournal noticedCommands last := by
  cases run with
  | cons _ hfirst rest =>
    cases rest with
    | cons _ hsecond rest =>
      cases rest
      refine .cons ⟨?_, fun _ _ hcmd => nomatch hcmd⟩ hfirst
        (.cons ⟨(fun _ hcmd => nomatch hcmd), ?_⟩ hsecond (.nil _))
      · rintro overlay hcmd _
        cases hcmd
        exact .inl (by decide)
      · intro entry sequence _ _ _
        obtain rfl := Option.some.inj hfirst
        exact ⟨newerOverlay, by decide +kernel, by decide⟩

theorem swappinessClient_fetched :
    streamBootConfig Codec.stored Status.message
        (served bootPlatform Codec.stored 0 swappinessJournal (swappinessClient.request none)) =
      .ok swappinessClient.kept := by
  have hentries : nodeEntries swappinessJournal "n1" = [swappinessEntry] := by decide +kernel
  rw [fetch_eq bootPlatform Codec.stored Status.message swappinessClient Codec.stored_sound 0
    swappinessJournal emptyOverlay swappinessJournal_overlay, buildNodeDelta]
  simp only [swappinessClient, hentries]
  rfl

theorem shortcut_sound_newer : Legible Codec.stored ∧
    ∃ last, Run (journalNext bootPlatform) Unrestricted swappinessJournal noticedCommands last ∧
      ShortcutAgrees bootPlatform Codec.stored Status.message swappinessClient last := by
  obtain ⟨last, hrun⟩ : ∃ last,
      Run (journalNext bootPlatform) Unrestricted swappinessJournal noticedCommands last :=
    ⟨_, replay_run bootPlatform swappinessJournal noticedCommands⟩
  refine ⟨Codec.stored_legible, last, hrun, ?_⟩
  exact (shortcut_sound_iff bootPlatform Codec.stored Status.message swappinessClient
    Codec.stored_sound swappinessJournal last noticedCommands 0 ⟨_, rfl⟩
    swappinessClient_fetched hrun).1 (noticed_newer last hrun) noticedCommands [] last
    (List.append_nil _).symm hrun

def laterJournal : JournalState :=
  (replay bootPlatform swappinessJournal [⟨0, .AppendEntry swappinessEntry⟩]).1

theorem laterJournal_overlay : laterJournal.overlays.get "default" = some emptyOverlay := by
  decide +kernel

theorem laterJournal_delta :
    buildNodeDelta Codec.stored laterJournal "n1" =
      entriesJson [swappinessEntry, { swappinessEntry with sequence := 1 }] := by
  have hentries : nodeEntries laterJournal "n1" =
      [swappinessEntry, { swappinessEntry with sequence := 1 }] := by decide +kernel
  simp only [buildNodeDelta, hentries]
  rfl

-- Whoever asks with version 1 is told that nothing is new.
theorem shortcut_hides_entry :
    streamBootConfig Codec.stored Status.message
        (served bootPlatform Codec.stored 0 swappinessJournal (swappinessClient.request none)) =
      .ok swappinessClient.kept ∧
    refresh Codec.stored Status.message swappinessClient.kept
        (served bootPlatform Codec.stored 0 laterJournal (swappinessClient.request (some 1))) =
      .ok ⟨[], entriesJson [swappinessEntry], 1⟩ ∧
    streamBootConfig Codec.stored Status.message
        (served bootPlatform Codec.stored 0 laterJournal (swappinessClient.request none)) =
      .ok ⟨[], entriesJson [swappinessEntry, { swappinessEntry with sequence := 1 }], 1⟩ ∧
    ¬ShortcutAgrees bootPlatform Codec.stored Status.message swappinessClient laterJournal := by
  refine ⟨swappinessClient_fetched, ?_, ?_, ?_⟩
  · exact refresh_eq bootPlatform Codec.stored Status.message swappinessClient Codec.stored_sound 0
      laterJournal emptyOverlay laterJournal_overlay
  · rw [fetch_eq bootPlatform Codec.stored Status.message swappinessClient Codec.stored_sound 0
      laterJournal emptyOverlay laterJournal_overlay]
    simp only [swappinessClient, laterJournal_delta]
    rfl
  · rw [shortcutAgrees_iff bootPlatform Codec.stored Status.message swappinessClient
      Codec.stored_sound laterJournal emptyOverlay laterJournal_overlay]
    simp [swappinessClient, laterJournal_delta, emptyOverlay, entriesJson]

end Pact.Agent.Boot
