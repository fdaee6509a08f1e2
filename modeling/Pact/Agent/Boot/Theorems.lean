import Pact.Agent.Boot
import Pact.Journal.BootService.BootConfig

namespace Pact.Agent.Boot

open Pact.Library Pact.Common Pact.Journal Pact.Journal.BootService

abbrev Item := Except Status Proto.ConfigChunk

def overlayOf (chunk : Proto.ConfigChunk) : Option Proto.OverlayChunk :=
  match chunk.chunk with
  | some (.BaseOverlay ov) => some ov
  | _ => none

def Completes (chunk : Proto.ConfigChunk) : Prop := ∃ complete, chunk.chunk = some (.Complete complete)

-- All of the announced chunks, each once and in their order.
def Numbered (chunks : List Proto.OverlayChunk) : Prop :=
  chunks.map Proto.OverlayChunk.chunkIndex = List.range chunks.length ∧
    ∀ chunk ∈ chunks, chunk.totalChunks = chunks.length

def bytes (chunks : List Proto.OverlayChunk) : List UInt8 :=
  (chunks.map Proto.OverlayChunk.data).flatten

theorem receive_overlays (statusText : Status → String) (received : BootConfigData)
    (pieces : List Proto.OverlayChunk) (version : Nat) (rest : List Item)
    (hversion : ∀ piece ∈ pieces, piece.version = version) :
    receive statusText received
        ((pieces.map fun piece => .ok ⟨some (.BaseOverlay piece)⟩) ++ rest) =
      receive statusText
        { received with
          overlayData := received.overlayData ++ bytes pieces
          baseVersion := if pieces = [] then received.baseVersion else version } rest := by
  induction pieces generalizing received with
  | nil => simp [bytes]
  | cons piece pieces ih =>
    obtain ⟨hpiece, hpieces⟩ := List.forall_mem_cons.mp hversion
    simp only [List.map_cons, List.cons_append, receive, ih _ hpieces]
    simp [bytes, hpiece]

theorem receive_nodeDelta (platform : Platform) (statusText : Status → String)
    (received : BootConfigData) (nodeId : NodeId) (version : Nat) (data : List UInt8)
    (rest : List Item) (hempty : received.nodeDeltaData = []) :
    receive statusText received ((nodeDelta platform nodeId version data).map .ok ++ rest) =
      receive statusText { received with nodeDeltaData := data } rest := by
  rcases eq_or_ne data [] with rfl | hdata
  · cases received
    cases hempty
    rfl
  · simp only [nodeDelta, if_neg hdata, List.map_cons, List.map_nil, List.cons_append,
      List.nil_append, receive]

theorem decompress_compress (codec : Codec) (hcodec : codec.Sound) (data : List UInt8) :
    decompress codec (compress codec data) = data := by
  obtain ⟨frame, hencode, hdecode, hmagic, _⟩ := hcodec.lossless data
  simp [decompress, compress, hencode, hdecode, hmagic]

theorem streamBootConfig_bootChunks (platform : Platform) (codec : Codec)
    (statusText : Status → String) (now : DateTime) (s : JournalState) (nodeId : NodeId)
    (overlay : BootOverlay) (hcodec : codec.Sound) :
    streamBootConfig codec statusText
        (.ok ((bootChunks platform codec now s nodeId overlay).map .ok)) =
      .ok ⟨overlay.data, buildNodeDelta codec s nodeId, overlay.version⟩ := by
  have hversion : ∀ piece ∈ overlayChunks overlay (compress codec overlay.data),
      piece.version = overlay.version := fun piece hpiece =>
    (mem_overlayChunks overlay _ piece hpiece).1
  simp only [streamBootConfig, bootChunks, List.map_append, List.map_map, List.append_assoc]
  rw [show (Except.ok (ε := Status) ∘ fun chunk => Proto.ConfigChunk.mk (some (.BaseOverlay chunk))) =
    fun piece => .ok ⟨some (.BaseOverlay piece)⟩ from rfl, receive_overlays _ _ _ _ _ hversion,
    receive_nodeDelta _ _ _ _ _ _ _ rfl]
  simp [receive, configComplete, bytes, overlayChunks_data, overlayChunks_ne_nil,
    decompress_compress codec hcodec]

theorem overlayOf_nodeDelta (platform : Platform) (nodeId : NodeId) (version : Nat)
    (data : List UInt8) : (nodeDelta platform nodeId version data).filterMap overlayOf = [] := by
  unfold nodeDelta
  split <;> rfl

theorem bootChunks_overlays (platform : Platform) (codec : Codec) (now : DateTime)
    (s : JournalState) (nodeId : NodeId) (overlay : BootOverlay) :
    (bootChunks platform codec now s nodeId overlay).filterMap overlayOf =
      overlayChunks overlay (compress codec overlay.data) := by
  have hchunks : ∀ chunks : List Proto.OverlayChunk,
      (chunks.map fun chunk => Proto.ConfigChunk.mk (some (.BaseOverlay chunk))).filterMap
        overlayOf = chunks := fun chunks => by
    rw [List.filterMap_map]
    exact List.filterMap_some
  simp only [bootChunks, List.filterMap_append, hchunks, overlayOf_nodeDelta]
  simp [overlayOf, configComplete]

theorem overlayChunks_numbered (overlay : BootOverlay) (data : List UInt8)
    (hsize : data.length ≤ (2 ^ 32 - 1) * chunkSize) :
    Numbered (overlayChunks overlay data) := by
  have hcount := chunkCount_le_of_le_mul chunkSize data.length (2 ^ 32 - 1) (by decide) hsize
  have hlength : (overlayChunks overlay data).length < 2 ^ 32 := by
    rw [length_overlayChunks]
    omega
  refine ⟨?_, fun chunk hchunk => ?_⟩
  · rw [overlayChunks_chunkIndex]
    refine (List.map_congr_left fun index hindex => ?_).trans (List.map_id _)
    exact Nat.mod_eq_of_lt ((List.mem_range.mp hindex).trans hlength)
  · rw [(mem_overlayChunks overlay data chunk hchunk).2.2, Nat.mod_eq_of_lt hlength]

theorem compress_length_le (codec : Codec) (hcodec : codec.Sound) (data : List UInt8)
    (h : data.length ≤ overlayMaxBytes) :
    (compress codec data).length ≤ (2 ^ 32 - 1) * chunkSize := by
  obtain ⟨frame, hencode, _, _, hbound⟩ := hcodec.lossless data
  simp only [compress, hencode, Option.getD_some]
  simp only [compressBound, overlayMaxBytes, chunkSize] at *
  split at hbound <;> omega

def Reachable (platform : Platform) (s : JournalState) : Prop :=
  ∃ commands, s = (replay platform .default commands).1

-- The entries that are stored for the node, in the order of the sequence numbers they stand under.
structure StoredFor (s : JournalState) (nodeId : NodeId) (entries : List (Nat × ConfigEntry)) :
    Prop where
  ordered : (entries.map Prod.fst).Pairwise (· < ·)
  stored : ∀ sequence entry, (sequence, entry) ∈ entries ↔
    s.entries.get sequence = some entry ∧ entry.scope = .Node nodeId

theorem storedFor_filter (s : JournalState) (nodeId : NodeId) :
    StoredFor s nodeId (s.entries.toList.filter fun stored => stored.2.scope = .Node nodeId) where
  ordered := (Map.toList_keys_lt s.entries).sublist (List.filter_sublist.map _)
  stored sequence entry := by simp [Map.mem_toList_iff]

theorem StoredFor.unique {s : JournalState} {nodeId : NodeId}
    {entries others : List (Nat × ConfigEntry)} (h : StoredFor s nodeId entries)
    (hothers : StoredFor s nodeId others) : entries = others := by
  have hordered := List.pairwise_map.mp h.ordered
  have hothersOrdered := List.pairwise_map.mp hothers.ordered
  have hperm : entries.Perm others := by
    rw [List.perm_ext_iff_of_nodup (hordered.imp fun hlt heq => hlt.ne (congrArg Prod.fst heq))
      (hothersOrdered.imp fun hlt heq => hlt.ne (congrArg Prod.fst heq))]
    rintro ⟨sequence, entry⟩
    rw [h.stored, hothers.stored]
  exact hperm.eq_of_pairwise (fun a b _ _ hlt hgt => absurd hlt hgt.not_gt) hordered
    hothersOrdered

theorem nodeEntries_eq (s : JournalState) (nodeId : NodeId) :
    nodeEntries s nodeId =
      (s.entries.toList.filter fun stored => stored.2.scope = .Node nodeId).map Prod.snd := by
  rw [nodeEntries, Map.values, List.filter_map]
  rfl

-- The chunk numbers are 32 bits wide. The size check of the journal keeps every overlay it can
-- hold far below what they can count. The text of the node's entries arrives, and nothing where it
-- has none.
theorem boot_transfer_exact (platform : Platform) (codec : Codec) (statusText : Status → String)
    (now : DateTime) (s : JournalState) (vclusterId : VClusterId) (nodeId : NodeId)
    (overlay : BootOverlay) (hcodec : codec.Sound)
    (hoverlay : s.overlays.get vclusterId = some overlay) :
    ∃ stream, BootService.streamBootConfig platform codec now s ⟨nodeId, vclusterId, none⟩ =
        .ok stream ∧
      (∀ chunk ∈ stream.filterMap overlayOf, chunk.data.length ≤ chunkSize) ∧
      (Reachable platform s ∨
          (compress codec overlay.data).length ≤ (2 ^ 32 - 1) * chunkSize →
        Numbered (stream.filterMap overlayOf)) ∧
      (∃ before last, stream = before ++ [last] ∧ Completes last ∧
        ∀ chunk ∈ before, ¬ Completes chunk) ∧
      ∃ entries, StoredFor s nodeId entries ∧
        streamBootConfig codec statusText (.ok (stream.map .ok)) =
          .ok ⟨overlay.data,
            if entries = [] then [] else (codec.entriesToJson (entries.map Prod.snd)).getD [],
            overlay.version⟩ := by
  refine ⟨_, streamBootConfig_ok platform codec now s vclusterId nodeId overlay hoverlay,
    ?_, ?_, ⟨_, _, rfl, ⟨_, rfl⟩, ?_⟩, _, storedFor_filter s nodeId, ?_⟩
  · intro chunk hchunk
    rw [bootChunks_overlays] at hchunk
    exact (mem_overlayChunks overlay _ chunk hchunk).2.1
  · intro hsize
    rw [bootChunks_overlays]
    refine overlayChunks_numbered overlay _ ?_
    rcases hsize with ⟨commands, rfl⟩ | hsize
    · exact compress_length_le codec hcodec overlay.data
        (replay_overlays_bounded platform commands vclusterId overlay hoverlay)
    · exact hsize
  · intro chunk hchunk ⟨complete, hcomplete⟩
    rcases List.mem_append.mp hchunk with hoverlays | hnode
    · obtain ⟨_, _, rfl⟩ := List.mem_map.mp hoverlays
      cases hcomplete
    · unfold nodeDelta at hnode
      split at hnode
      · cases hnode
      · obtain rfl := List.mem_singleton.mp hnode
        cases hcomplete
  · rw [streamBootConfig_bootChunks platform codec statusText now s nodeId overlay hcodec,
      buildNodeDelta, nodeEntries_eq]
    simp only [List.map_eq_nil_iff]

def storedHeader : List UInt8 := [0x28, 0xB5, 0x2F, 0xFD, 0x00, 0x58, 0x01, 0x00, 0x00]

def decodeStored (frame : List UInt8) : Option (List UInt8) :=
  if frame.take 9 = storedHeader then some (frame.drop 9) else none

def optionJson (text : Option String) : String := (text.map ("\"" ++ · ++ "\"")).getD "null"

def itemJson (item : DeltaItem) : String :=
  "\x7b\"action\":\"" ++ (if item.action = .Remove then "Remove" else "Modify") ++
  "\",\"key\":\"" ++ item.key ++ "\",\"value\":" ++ optionJson item.value ++
  ",\"previous\":" ++ optionJson item.previous ++ "\x7d"

-- The text of an entry like the two below: a commit for a node, at the epoch, of changes to the
-- parameters of the kernel.
def entryJson (entry : ConfigEntry) : String :=
  "\x7b\"sequence\":" ++ toString entry.sequence ++ ",\"timestamp\":\"1970-01-01T00:00:00Z\"," ++
  "\"entry_type\":\"Commit\",\"scope\":\x7b\"Node\":\"" ++
  (match entry.scope with
    | .Node nodeId => nodeId
    | _ => "") ++ "\"\x7d," ++
  "\"author\":\x7b\"principal\":\"admin\",\"principal_type\":\"Human\"," ++
  "\"role\":\"pact-platform-admin\"\x7d,\"parent\":null," ++
  "\"state_delta\":\x7b\"mounts\":[],\"files\":[],\"network\":[],\"services\":[]," ++
  "\"kernel\":[" ++ join "," (((entry.stateDelta.map StateDelta.kernel).getD []).map itemJson) ++
  "],\"packages\":[],\"gpu\":[]\x7d," ++
  "\"policy_ref\":null,\"ttl_seconds\":null,\"emergency_reason\":null\x7d"

def asciiBytes (text : String) : List UInt8 := text.toList.map fun c => UInt8.ofNat c.toNat

-- The bracket and the commas are 91, 93 and 44.
def entriesJson : List ConfigEntry → List UInt8
  | [] => [91, 93]
  | entry :: rest =>
    91 :: (asciiBytes (entryJson entry) ++
      rest.flatMap (fun entry => 44 :: asciiBytes (entryJson entry)) ++ [93])

-- Frames carry the data as it is after the header. For no data this is a frame of the real
-- format, and what does not start with the header is not taken for one.
def Codec.stored : Codec where
  encodeAll data := some (storedHeader ++ data)
  decodeAll := decodeStored
  entriesToJson entries := some (entriesJson entries)
  deltaFromJson _ := none

theorem Codec.stored_sound : Codec.stored.Sound := by
  refine ⟨fun data => ⟨storedHeader ++ data, rfl, ?_, ?_, ?_⟩⟩
  · change decodeStored (storedHeader ++ data) = some data
    simp [decodeStored, storedHeader]
  · simp [storedHeader]
  · simp only [storedHeader, List.length_append, List.length_cons, List.length_nil, compressBound]
    split <;> omega

def kernelEntry (nodeId : NodeId) (item : DeltaItem) : ConfigEntry where
  sequence := 0
  timestamp := 0
  entryType := .Commit
  scope := .Node nodeId
  author := ⟨"admin", .Human, "pact-platform-admin"⟩
  parent := none
  stateDelta := some ⟨[], [], [], [], [item], [], []⟩
  policyRef := none
  ttlSeconds := none
  emergencyReason := none

def swappinessEntry : ConfigEntry :=
  kernelEntry "n1" ⟨.Modify, "vm.swappiness", some "10", none⟩

def removalEntry : ConfigEntry := kernelEntry "n2" ⟨.Remove, "vm.swappiness", none, some "10"⟩

-- The hashes of no data and of the texts of the entries of one node: the first one, the first one
-- twice, and the removal.
def bootPlatform : Platform :=
  { Platform.ascii with
    defaultHash := fun data =>
      if data = [] then 0xbd60acb658c79e45
      else if data = entriesJson [swappinessEntry] then 0xc3d1c9695ddfe425
      else if data = entriesJson [swappinessEntry, { swappinessEntry with sequence := 1 }] then
        0x3adf18a4cef96176
      else 0xf329cc7ca2c74f4d }

def emptyOverlay : BootOverlay := ⟨"default", 1, [], "bd60acb658c79e45"⟩

def swappinessJournal : JournalState :=
  (replay bootPlatform .default
    [⟨0, .SetOverlay "default" emptyOverlay⟩, ⟨0, .AppendEntry swappinessEntry⟩]).1

def removalJournal : JournalState :=
  (replay bootPlatform swappinessJournal [⟨0, .AppendEntry removalEntry⟩]).1

theorem swappinessJournal_overlay :
    swappinessJournal.overlays.get "default" = some emptyOverlay := by
  decide +kernel

theorem boot_transfer_exact_swappiness :
    swappinessJournal.overlays.get "default" = some emptyOverlay ∧
      ∃ stream, BootService.streamBootConfig bootPlatform Codec.stored 0 swappinessJournal
          ⟨"n1", "default", none⟩ = .ok stream ∧
        Numbered (stream.filterMap overlayOf) ∧
        streamBootConfig Codec.stored Status.message (.ok (stream.map .ok)) =
          .ok ⟨[], entriesJson [swappinessEntry], 1⟩ := by
  obtain ⟨stream, hstream, _, hnumbered, _, entries, hentries, hreceived⟩ :=
    boot_transfer_exact bootPlatform Codec.stored Status.message 0 swappinessJournal "default"
      "n1" emptyOverlay Codec.stored_sound swappinessJournal_overlay
  have hsame : entries = [(0, swappinessEntry)] :=
    (hentries.unique (storedFor_filter swappinessJournal "n1")).trans (by decide +kernel)
  rw [hsame] at hreceived
  exact ⟨swappinessJournal_overlay, stream, hstream, hnumbered (.inl ⟨_, rfl⟩), hreceived⟩

def Item.completes : Item → Bool
  | .ok ⟨some (.Complete _)⟩ => true
  | _ => false

-- The overlay chunks before the first complete message.
def received (items : List Item) : List Proto.OverlayChunk :=
  (items.takeWhile fun item => !item.completes).filterMap fun item => item.toOption.bind overlayOf

def Breaks (items : List Item) : Prop :=
  ∃ status, .error status ∈ items.takeWhile fun item => !item.completes

-- The whole overlay has arrived, and the data is the one the chunks have the checksum of.
def Trusted (platform : Platform) (items : List Item) (data : List UInt8) : Prop :=
  (∃ item ∈ items, item.completes) ∧ Numbered (received items) ∧
    ∀ chunk ∈ received items, computeOverlayChecksum platform data = chunk.checksum

theorem breaks_cons (chunk : Proto.ConfigChunk) (items : List Item)
    (hopen : Item.completes (.ok chunk) = false) : Breaks (.ok chunk :: items) ↔ Breaks items := by
  simp [Breaks, hopen]

theorem received_cons (chunk : Proto.ConfigChunk) (items : List Item)
    (hopen : Item.completes (.ok chunk) = false) :
    received (.ok chunk :: items) = (overlayOf chunk).toList ++ received items := by
  simp only [received, hopen, List.takeWhile_cons, Bool.not_false, if_true, List.filterMap_cons,
    Except.toOption, Option.bind_some]
  cases overlayOf chunk with
  | none => rfl
  | some ov => rfl

theorem receive_outcome (statusText : Status → String) (items : List Item)
    (start : BootConfigData) :
    (Breaks items ∧ ∃ error, receive statusText start items = .error error) ∨
      (¬ Breaks items ∧ ∃ data, receive statusText start items = .ok data ∧
        data.overlayData = start.overlayData ++ bytes (received items)) := by
  induction items generalizing start with
  | nil => exact .inr ⟨by simp [Breaks], start, rfl, by simp [received, bytes]⟩
  | cons item items ih =>
    match item with
    | .error status => exact .inl ⟨⟨status, by simp [Item.completes]⟩, _, rfl⟩
    | .ok ⟨some (.Complete complete)⟩ =>
      refine .inr ⟨by simp [Breaks, Item.completes], start, rfl, ?_⟩
      simp [received, Item.completes, bytes]
    | .ok ⟨some (.BaseOverlay ov)⟩ =>
      rw [breaks_cons _ _ rfl, received_cons _ _ rfl, receive]
      simpa [overlayOf, bytes] using ih { start with
        overlayData := start.overlayData ++ ov.data, baseVersion := ov.version }
    | .ok ⟨some (.NodeDelta nd)⟩ =>
      rw [breaks_cons _ _ rfl, received_cons _ _ rfl, receive]
      exact ih { start with nodeDeltaData := nd.data }
    | .ok ⟨none⟩ =>
      rw [breaks_cons _ _ rfl, received_cons _ _ rfl, receive]
      exact ih start

-- What the bytes of an overlay stand for: the content of a frame, or themselves where they are
-- too few for one or the decoder refuses them.
def Carries (codec : Codec) (sent data : List UInt8) : Prop :=
  (4 ≤ sent.length ∧ codec.decodeAll sent = some data) ∨
    ((sent.length < 4 ∨ codec.decodeAll sent = none) ∧ data = sent)

theorem carries_iff (codec : Codec) (sent data : List UInt8) :
    Carries codec sent data ↔ data = decompress codec sent := by
  rw [Carries, decompress]
  by_cases hlength : 4 ≤ sent.length
  · rw [if_pos hlength]
    cases codec.decodeAll sent with
    | none => simp [hlength]
    | some content => simp [hlength, not_lt.mpr hlength, eq_comm]
  · rw [if_neg hlength]
    simp [hlength, not_le.mp hlength]

def firstOfTwo : Proto.OverlayChunk where
  version := 1
  vclusterId := "default"
  data := [0x28, 0xB5, 0x2F, 0xFD]
  chunkIndex := 0
  totalChunks := 2
  checksum := "bd60acb658c79e45"

inductive Target
  | Sysctl (path : String)
  | MountPoint (path : String)
  deriving DecidableEq

def Effect.target : Effect → Target
  | .Write path _ => .Sysctl path
  | .Mount _ path _ _ => .MountPoint path
  | .Umount path => .MountPoint path

def lastOn (effects : List Effect) (target : Target) : Option Effect :=
  (effects.filter fun effect => effect.target = target).getLast?

def bootEffects (platform : Platform) (codec : Codec) (statusText : Status → String)
    (now : DateTime) (s : JournalState) (config : AgentConfig) : List Effect :=
  bootPhase7 codec statusText config (some fun req =>
    (BootService.streamBootConfig platform codec now s req).map (·.map .ok))

def overlayEffects (codec : Codec) (overlay : BootOverlay) : List Effect :=
  if overlay.data = [] then []
  else ((codec.deltaFromJson overlay.data).map applyStateDelta).getD []

def nodeEffects (s : JournalState) (nodeId : NodeId) : List Effect :=
  (nodeEntries s nodeId).flatMap fun entry => (entry.stateDelta.map applyStateDelta).getD []

-- Nothing in the delta asks anything of the kernel.
def Inert (delta : StateDelta) : Prop :=
  (∀ item ∈ delta.kernel, item.action = .Remove ∨ item.value = none) ∧
    ∀ item ∈ delta.mounts, item.action ≠ .Remove ∧ item.value = none

theorem applySysctl_eq_nil_iff (items : List DeltaItem) :
    applySysctl items = [] ↔ ∀ item ∈ items, item.action = .Remove ∨ item.value = none := by
  simp only [applySysctl, List.filterMap_eq_nil_iff]
  refine forall₂_congr fun item _ => ?_
  split <;> simp_all

theorem applyMounts_eq_nil_iff (items : List DeltaItem) :
    applyMounts items = [] ↔ ∀ item ∈ items, item.action ≠ .Remove ∧ item.value = none := by
  simp only [applyMounts, List.filterMap_eq_nil_iff]
  refine forall₂_congr fun item _ => ?_
  cases item.action <;> simp

theorem applyStateDelta_eq_nil_iff (delta : StateDelta) :
    applyStateDelta delta = [] ↔ Inert delta := by
  rw [applyStateDelta, List.append_eq_nil_iff, applySysctl_eq_nil_iff, applyMounts_eq_nil_iff,
    Inert]

theorem nodeEffects_eq_nil_iff (s : JournalState) (nodeId : NodeId) :
    nodeEffects s nodeId = [] ↔ ∀ entry ∈ nodeEntries s nodeId, ∀ delta,
      entry.stateDelta = some delta → Inert delta := by
  rw [nodeEffects, List.flatMap_eq_nil_iff]
  refine forall₂_congr fun entry _ => ?_
  cases entry.stateDelta with
  | none => simp
  | some delta => simp [applyStateDelta_eq_nil_iff]

theorem bootEffects_eq (platform : Platform) (codec : Codec) (statusText : Status → String)
    (now : DateTime) (s : JournalState) (config : AgentConfig) (overlay : BootOverlay)
    (hcodec : codec.Sound) (hoverlay : s.overlays.get config.vclusterId = some overlay) :
    bootEffects platform codec statusText now s config = overlayEffects codec overlay := by
  have hstream := streamBootConfig_ok platform codec now s config.vclusterId config.nodeId overlay
    hoverlay
  have hreceived :=
    streamBootConfig_bootChunks platform codec statusText now s config.nodeId overlay hcodec
  simp only [bootEffects, bootPhase7, AgentConfig.request, hstream, Except.map, hreceived,
    overlayEffects]
  split
  · rfl
  · cases codec.deltaFromJson overlay.data <;> rfl

-- The node's own changes are fetched and dropped: the boot is right only if none of them asks
-- anything of the kernel.
theorem boot_applies_node_entries_iff (platform : Platform) (codec : Codec)
    (statusText : Status → String) (now : DateTime) (s : JournalState) (config : AgentConfig)
    (overlay : BootOverlay) (hcodec : codec.Sound)
    (hoverlay : s.overlays.get config.vclusterId = some overlay) :
    (bootEffects platform codec statusText now s config =
          overlayEffects codec overlay ++ nodeEffects s config.nodeId ∧
        ∀ target, lastOn (nodeEffects s config.nodeId) target ≠ none →
          lastOn (bootEffects platform codec statusText now s config) target =
            lastOn (nodeEffects s config.nodeId) target) ↔
      ∀ entry ∈ nodeEntries s config.nodeId, ∀ delta, entry.stateDelta = some delta →
        Inert delta := by
  rw [← nodeEffects_eq_nil_iff,
    bootEffects_eq platform codec statusText now s config overlay hcodec hoverlay]
  constructor
  · rintro ⟨heffects, _⟩
    exact List.append_right_eq_self.mp heffects.symm
  · intro hnone
    simp [hnone, lastOn]

theorem removalJournal_overlay : removalJournal.overlays.get "default" = some emptyOverlay := by
  decide +kernel

theorem boot_applies_node_entries_other :
    nodeEntries removalJournal "n2" = [{ removalEntry with sequence := 1 }] ∧
    bootEffects bootPlatform Codec.stored Status.message 0 removalJournal ⟨"n2", none⟩ =
      overlayEffects Codec.stored emptyOverlay ++ nodeEffects removalJournal "n2" := by
  have hentries : nodeEntries removalJournal "n2" = [{ removalEntry with sequence := 1 }] := by
    decide +kernel
  refine ⟨hentries, ((boot_applies_node_entries_iff bootPlatform Codec.stored Status.message 0
    removalJournal ⟨"n2", none⟩ emptyOverlay Codec.stored_sound
    removalJournal_overlay).mpr ?_).1⟩
  rw [hentries]
  rintro entry hentry delta hdelta
  rw [List.mem_singleton.mp hentry] at hdelta
  cases hdelta
  exact ⟨by decide, by decide⟩

theorem committed_swappiness_lost :
    swappinessJournal.overlays.get "default" = some emptyOverlay ∧
      nodeEffects swappinessJournal "n1" = [.Write "/proc/sys/vm/swappiness" "10"] ∧
      bootEffects bootPlatform Codec.stored Status.message 0 swappinessJournal ⟨"n1", none⟩ =
        [] := by
  refine ⟨swappinessJournal_overlay, by decide +kernel, ?_⟩
  rw [bootEffects_eq _ _ _ _ _ _ _ Codec.stored_sound swappinessJournal_overlay]
  rfl

end Pact.Agent.Boot
