import Pact.Journal.ConfigService

namespace Pact.Journal.ConfigService

open Pact.Library Pact.Common

structure NodeStateResponse where
  nodeId : String
  configState : String
  deriving DecidableEq

structure OverlayResponse where
  vclusterId : VClusterId
  version : Nat
  data : List UInt8
  checksum : String
  deriving DecidableEq

def debugConfigState : ConfigState → String
  | .ObserveOnly => "ObserveOnly"
  | .Committed => "Committed"
  | .Drifted => "Drifted"
  | .Converging => "Converging"
  | .Emergency => "Emergency"

def getNodeState (s : JournalState) (nodeId : NodeId) : Except Status NodeStateResponse :=
  match s.nodeStates.get nodeId with
  | some configState => .ok ⟨nodeId, debugConfigState configState⟩
  | none => .error ⟨.NotFound, "node " ++ nodeId ++ " not found"⟩

def getOverlay (s : JournalState) (vclusterId : VClusterId) : Except Status OverlayResponse :=
  match s.overlays.get vclusterId with
  | some overlay => .ok ⟨vclusterId, overlay.version, overlay.data, overlay.checksum⟩
  | none => .error ⟨.NotFound, "overlay for " ++ vclusterId ++ " not found"⟩

end Pact.Journal.ConfigService
