import Pact.Journal.Rpc
import Pact.Journal.BootService
import Pact.Journal.State.Lemmas
import Pact.Library.Chunks

namespace Pact.Journal.BootService

open Pact.Library Pact.Common

def chunkSize : Nat := 64 * 1024

def nodeEntries (s : JournalState) (nodeId : NodeId) : List ConfigEntry :=
  s.entries.values.filter fun entry => entry.scope = .Node nodeId

def buildNodeDelta (codec : Codec) (s : JournalState) (nodeId : NodeId) : List UInt8 :=
  let entries := nodeEntries s nodeId
  if entries = [] then [] else (codec.entriesToJson entries).getD []

def compress (codec : Codec) (data : List UInt8) : List UInt8 := (codec.encodeAll data).getD data

-- Chunk numbers are counted in the machine's word and sent as 32-bit numbers.
def overlayChunk (overlay : BootOverlay) (data : List UInt8) (index total : Nat) :
    Proto.OverlayChunk where
  version := overlay.version
  vclusterId := overlay.vclusterId
  data := data
  chunkIndex := index % 2 ^ 32
  totalChunks := total % 2 ^ 32
  checksum := overlay.checksum

def overlayChunks (overlay : BootOverlay) (data : List UInt8) : List Proto.OverlayChunk :=
  let totalChunks := max (chunkCount chunkSize data.length) 1
  if data = [] then [overlayChunk overlay [] 0 1]
  else
    (chunks chunkSize data).mapIdx fun index piece => overlayChunk overlay piece index totalChunks

def nodeDelta (platform : Platform) (nodeId : NodeId) (version : Nat) (data : List UInt8) :
    List Proto.ConfigChunk :=
  if data = [] then []
  else [⟨some (.NodeDelta ⟨nodeId, version, data, hex (platform.defaultHash data)⟩)⟩]

def configComplete (now : DateTime) (baseVersion nodeVersion : Nat) : Proto.ConfigChunk :=
  ⟨some (.Complete ⟨baseVersion, nodeVersion, some ⟨now / 1000000000, 0⟩⟩)⟩

def bootChunks (platform : Platform) (codec : Codec) (now : DateTime) (s : JournalState)
    (nodeId : NodeId) (overlay : BootOverlay) : List Proto.ConfigChunk :=
  ((overlayChunks overlay (compress codec overlay.data)).map fun chunk =>
      ⟨some (.BaseOverlay chunk)⟩) ++
    nodeDelta platform nodeId overlay.version (buildNodeDelta codec s nodeId) ++
    [configComplete now overlay.version overlay.version]

def streamBootConfig (platform : Platform) (codec : Codec) (now : DateTime) (s : JournalState)
    (req : Proto.BootConfigRequest) : Except Status (List Proto.ConfigChunk) :=
  match s.overlays.get req.vclusterId with
  | none => .error ⟨.NotFound, "no overlay for vCluster " ++ req.vclusterId⟩
  | some overlay =>
    if req.lastKnownVersion.any fun known => known ≥ overlay.version then
      .ok [configComplete now overlay.version 0]
    else .ok (bootChunks platform codec now s req.nodeId overlay)

theorem streamBootConfig_ok (platform : Platform) (codec : Codec) (now : DateTime)
    (s : JournalState) (vclusterId : VClusterId) (nodeId : NodeId) (overlay : BootOverlay)
    (hoverlay : s.overlays.get vclusterId = some overlay) :
    streamBootConfig platform codec now s ⟨nodeId, vclusterId, none⟩ =
      .ok (bootChunks platform codec now s nodeId overlay) := by
  simp [streamBootConfig, hoverlay]

section OverlayChunks

variable (overlay : BootOverlay) (data : List UInt8)

theorem overlayChunks_ne_nil : overlayChunks overlay data ≠ [] := by
  intro h
  rcases eq_or_ne data [] with rfl | hdata
  · simp [overlayChunks] at h
  · have hcount := chunkCount_pos chunkSize data.length (by decide) (List.length_pos_iff.mpr hdata)
    have hlength := congrArg List.length h
    simp only [overlayChunks, if_neg hdata, List.length_mapIdx, length_chunks,
      List.length_nil] at hlength
    omega

theorem length_overlayChunks :
    (overlayChunks overlay data).length = max (chunkCount chunkSize data.length) 1 := by
  rcases eq_or_ne data [] with rfl | hdata
  · rfl
  · have hcount := chunkCount_pos chunkSize data.length (by decide) (List.length_pos_iff.mpr hdata)
    simp only [overlayChunks, if_neg hdata, List.length_mapIdx, length_chunks]
    omega

theorem mem_overlayChunks (chunk : Proto.OverlayChunk) (h : chunk ∈ overlayChunks overlay data) :
    chunk.version = overlay.version ∧ chunk.data.length ≤ chunkSize ∧
      chunk.totalChunks = (overlayChunks overlay data).length % 2 ^ 32 := by
  rw [length_overlayChunks]
  rcases eq_or_ne data [] with rfl | hdata
  · obtain rfl := List.mem_singleton.mp h
    exact ⟨rfl, Nat.zero_le _, rfl⟩
  · simp only [overlayChunks, if_neg hdata, List.mem_mapIdx] at h
    obtain ⟨index, hindex, rfl⟩ := h
    exact ⟨rfl, length_le_of_mem_chunks chunkSize data _ (List.getElem_mem hindex), rfl⟩

theorem overlayChunks_chunkIndex :
    (overlayChunks overlay data).map Proto.OverlayChunk.chunkIndex =
      (List.range (overlayChunks overlay data).length).map (· % 2 ^ 32) := by
  rcases eq_or_ne data [] with rfl | hdata
  · rfl
  · simp only [overlayChunks, if_neg hdata]
    refine List.ext_getElem (by simp) fun index _ _ => ?_
    simp [overlayChunk]

theorem overlayChunks_data :
    ((overlayChunks overlay data).map Proto.OverlayChunk.data).flatten = data := by
  rcases eq_or_ne data [] with rfl | hdata
  · rfl
  · have hpieces : (overlayChunks overlay data).map Proto.OverlayChunk.data =
        chunks chunkSize data := by
      simp only [overlayChunks, if_neg hdata]
      refine List.ext_getElem (by simp) fun index _ _ => ?_
      simp [overlayChunk]
    rw [hpieces, flatten_chunks chunkSize data (by decide)]

end OverlayChunks

theorem apply_overlays_bounded (platform : Platform) (now : DateTime) (s : JournalState)
    (cmd : JournalCommand)
    (h : ∀ vclusterId overlay, s.overlays.get vclusterId = some overlay →
      overlay.data.length ≤ overlayMaxBytes) :
    ∀ vclusterId overlay, (apply platform now s cmd).1.overlays.get vclusterId = some overlay →
      overlay.data.length ≤ overlayMaxBytes := by
  have houtcome := apply_outcome platform now s cmd
  generalize hresult : apply platform now s cmd = result at houtcome ⊢
  cases houtcome with
  | Overlay written bundle =>
    have hsize : bundle.data.length ≤ overlayMaxBytes := by
      by_contra hlarge
      simp only [apply, setOverlay, if_pos (Nat.lt_of_not_le hlarge), Prod.mk.injEq] at hresult
      cases hresult.2
    intro vclusterId overlay hget
    simp only [Map.get_insert] at hget
    split at hget
    · cases hget
      exact hsize
    · exact h vclusterId overlay hget
  | _ => exact h

theorem replay_overlays_bounded (platform : Platform) (commands : List Applied)
    (vclusterId : VClusterId) (overlay : BootOverlay)
    (h : (replay platform .default commands).1.overlays.get vclusterId = some overlay) :
    overlay.data.length ≤ overlayMaxBytes :=
  (replay_run platform .default commands).invariant
    (fun s => ∀ vclusterId overlay, s.overlays.get vclusterId = some overlay →
      overlay.data.length ≤ overlayMaxBytes)
    (fun s applied after hbounded _ hnext => by
      obtain rfl := Option.some.inj hnext
      exact apply_overlays_bounded platform applied.now s applied.command hbounded)
    (fun _ _ hget => by simp [JournalState.default] at hget)
    vclusterId overlay h

end Pact.Journal.BootService
