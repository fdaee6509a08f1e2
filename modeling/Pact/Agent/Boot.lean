import Pact.Journal.Rpc
import Pact.Common.Proto
import Pact.Library.Text

namespace Pact.Agent.Boot

open Pact.Library Pact.Common Pact.Journal

structure BootConfigData where
  overlayData : List UInt8
  nodeDeltaData : List UInt8
  baseVersion : Nat
  deriving DecidableEq

-- The loop of stream_boot_config over what arrives. It ends at a complete message, and also
-- where the stream does.
def receive (statusText : Status → String) (received : BootConfigData) :
    List (Except Status Proto.ConfigChunk) → Except String BootConfigData
  | [] => .ok received
  | .error status :: _ => .error ("boot config stream error: " ++ statusText status)
  | .ok ⟨some (.BaseOverlay ov)⟩ :: rest =>
    receive statusText
      { received with overlayData := received.overlayData ++ ov.data, baseVersion := ov.version }
      rest
  | .ok ⟨some (.NodeDelta nd)⟩ :: rest =>
    receive statusText { received with nodeDeltaData := nd.data } rest
  | .ok ⟨some (.Complete _)⟩ :: _ => .ok received
  | .ok ⟨none⟩ :: rest => receive statusText received rest

def decompress (codec : Codec) (data : List UInt8) : List UInt8 :=
  if data.length ≥ 4 then (codec.decodeAll data).getD data else data

def streamBootConfig (codec : Codec) (statusText : Status → String)
    (response : Except Status (List (Except Status Proto.ConfigChunk))) :
    Except String BootConfigData :=
  match response with
  | .error status => .error ("StreamBootConfig failed: " ++ statusText status)
  | .ok stream =>
    match receive statusText ⟨[], [], 0⟩ stream with
    | .error error => .error error
    | .ok received =>
      .ok { received with overlayData := decompress codec received.overlayData }

-- What the agent asks the kernel for. A request that fails is logged and skipped.
inductive Effect
  | Write (path value : String)
  | Mount (source path fsType options : String)
  | Umount (path : String)
  deriving DecidableEq

def applySysctl (entries : List DeltaItem) : List Effect :=
  entries.filterMap fun entry =>
    if entry.action = .Remove then none
    else entry.value.map fun value => .Write ("/proc/sys/" ++ replace entry.key '.' '/') value

def parseMountValue (value : String) : String × String × String :=
  let (main, options) :=
    match splitOnce value '(' with
    | some (main, options) => (trim main, trim (trimEndMatches options ')'))
    | none => (trim value, "")
  match splitOnce main ':' with
  | some (fsType, source) => (trim fsType, trim source, options)
  | none => (main, "", options)

def applyMounts (entries : List DeltaItem) : List Effect :=
  entries.filterMap fun entry =>
    match entry.action with
    | .Remove => some (.Umount entry.key)
    | .Add | .Modify =>
      entry.value.map fun value =>
        let (fsType, source, options) := parseMountValue value
        .Mount source entry.key fsType options

-- The other categories are only logged.
def applyStateDelta (delta : StateDelta) : List Effect :=
  applySysctl delta.kernel ++ applyMounts delta.mounts

structure AgentConfig where
  nodeId : NodeId
  vcluster : Option VClusterId
  deriving DecidableEq

def AgentConfig.vclusterId (config : AgentConfig) : VClusterId := config.vcluster.getD "default"

def AgentConfig.request (config : AgentConfig) : Proto.BootConfigRequest :=
  ⟨config.nodeId, config.vclusterId, none⟩

-- The phase of boot that fetches the configuration. `journal` is the client if there is one.
def bootPhase7 (codec : Codec) (statusText : Status → String) (config : AgentConfig)
    (journal : Option (Proto.BootConfigRequest →
      Except Status (List (Except Status Proto.ConfigChunk)))) : List Effect :=
  match journal with
  | none => []
  | some call =>
    match streamBootConfig codec statusText (call config.request) with
    | .error _ => []
    | .ok bootConfig =>
      if bootConfig.overlayData = [] then []
      else
        match codec.deltaFromJson bootConfig.overlayData with
        | some delta => applyStateDelta delta
        | none => []

end Pact.Agent.Boot
