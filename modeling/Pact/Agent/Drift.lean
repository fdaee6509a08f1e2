import Pact.Agent.Commit
import Pact.Agent.Subscription
import Pact.Library.Text

namespace Pact.Agent.Drift

open Pact.Library Pact.Common Pact.Agent.Subscription

-- None stands for the panic of a slice that does not start at a character.
def matchesGlob (pattern path : String) : Option Bool :=
  match stripSuffix pattern "/**" with
  | some head => some (startsWith path head)
  | none =>
    match stripSuffix pattern "/*" with
    | some head =>
      if startsWith path head then do
        let rest ← sliceFrom path (byteLength head)
        let behind ← sliceFrom rest 1
        some (!behind.toList.contains '/')
      else some false
    | none => some (pattern = path)

structure BlacklistConfig where
  patterns : List String
  deriving DecidableEq

def BlacklistConfig.default : BlacklistConfig :=
  ⟨["/tmp/**", "/var/log/**", "/proc/**", "/sys/**", "/dev/**", "/run/user/**"]⟩

structure DriftWeights where
  mounts : F64
  files : F64
  network : F64
  services : F64
  kernel : F64
  packages : F64
  gpu : F64
  deriving DecidableEq

def one : F64 := ⟨0x3FF0000000000000⟩

def two : F64 := ⟨0x4000000000000000⟩

def DriftWeights.default : DriftWeights where
  mounts := one
  files := one
  network := one
  services := one
  kernel := two
  packages := one
  gpu := two

-- The counters are of type f64 and only ever counted up, here as natural numbers.
structure DriftVector where
  mounts : Nat
  files : Nat
  network : Nat
  services : Nat
  kernel : Nat
  packages : Nat
  gpu : Nat
  deriving DecidableEq

def DriftVector.default : DriftVector := ⟨0, 0, 0, 0, 0, 0, 0⟩

structure ObserverEvent where
  category : String
  path : String
  deriving DecidableEq

structure DriftEvaluator where
  blacklist : BlacklistConfig
  weights : DriftWeights
  currentDrift : DriftVector
  deriving DecidableEq

def isBlacklisted (path : String) : List String → Option Bool
  | [] => some false
  | pattern :: rest => do
      if ← matchesGlob pattern path then some true else isBlacklisted path rest

-- Events of an unknown category are ignored.
def DriftVector.count (category : String) (drift : DriftVector) : DriftVector :=
  match category with
  | "mount" => { drift with mounts := drift.mounts + 1 }
  | "file" => { drift with files := drift.files + 1 }
  | "network" => { drift with network := drift.network + 1 }
  | "service" => { drift with services := drift.services + 1 }
  | "kernel" => { drift with kernel := drift.kernel + 1 }
  | "package" => { drift with packages := drift.packages + 1 }
  | "gpu" => { drift with gpu := drift.gpu + 1 }
  | _ => drift

namespace DriftEvaluator

def new (blacklist : BlacklistConfig) (weights : DriftWeights) : DriftEvaluator :=
  ⟨blacklist, weights, .default⟩

def processEvent (event : ObserverEvent) (evaluator : DriftEvaluator) : Option DriftEvaluator := do
  if ← isBlacklisted event.path evaluator.blacklist.patterns then some evaluator
  else some { evaluator with currentDrift := evaluator.currentDrift.count event.category }

def reset (evaluator : DriftEvaluator) : DriftEvaluator :=
  { evaluator with currentDrift := .default }

def setWeights (weights : DriftWeights) (evaluator : DriftEvaluator) : DriftEvaluator :=
  { evaluator with weights := weights }

end DriftEvaluator

structure ConfigActionHandles where
  driftEvaluator : DriftEvaluator
  commitWindow : CommitWindowManager
  cachedPolicy : Option VClusterPolicy
  blacklist : BlacklistConfig
  deriving DecidableEq

-- The overlay and the node delta are only logged.
def handleConfigAction (action : ConfigUpdateAction) (handles : ConfigActionHandles) :
    ConfigActionHandles :=
  match action with
  | .OverlayChanged _ => handles
  | .NodeDeltaChanged _ => handles
  | .PolicyChanged policy =>
    { handles with
      commitWindow := handles.commitWindow.updateConfig
        (UInt32.ofNat policy.baseCommitWindowSeconds) policy.driftSensitivity
        (UInt32.ofNat policy.emergencyWindowSeconds)
      cachedPolicy := some policy }
  | .BlacklistChanged patterns =>
    { handles with
      driftEvaluator := .new { handles.blacklist with patterns := patterns } .default }

end Pact.Agent.Drift
