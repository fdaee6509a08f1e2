import Pact.Library.Map
import Pact.Library.Run
import Pact.Library.Text

namespace Pact.Agent.Mounts

open Pact.Library

-- Instants and durations are in nanoseconds.
structure MountRefState where
  imagePath : String
  mountPoint : String
  refcount : Nat
  holdStart : Option Nat
  deriving DecidableEq

structure MountRefManager where
  mounts : Map String MountRefState
  holdDuration : Nat
  mountBase : String
  deriving DecidableEq

namespace MountRefManager

def new (mountBase : String) (holdDurationSecs : Nat) : MountRefManager :=
  ⟨.empty, holdDurationSecs * 1000000000, mountBase⟩

def mountPoint (imagePath : String) (manager : MountRefManager) : String :=
  manager.mountBase ++ "/" ++
    remove (((split imagePath '/').getLast?).getD imagePath) ".sqfs"

def store (imagePath : String) (state : MountRefState) (manager : MountRefManager) :
    MountRefManager :=
  { manager with mounts := manager.mounts.insert imagePath state }

def acquire (imagePath : String) (manager : MountRefManager) : MountRefManager × String :=
  match manager.mounts.get imagePath with
  | some state =>
    (manager.store imagePath { state with refcount := state.refcount + 1, holdStart := none },
      state.mountPoint)
  | none =>
    (manager.store imagePath ⟨imagePath, manager.mountPoint imagePath, 1, none⟩,
      manager.mountPoint imagePath)

-- None stands for the failed assertion that the count is positive.
def release (imagePath : String) (now : Nat) (manager : MountRefManager) :
    Option MountRefManager :=
  match manager.mounts.get imagePath with
  | some state =>
    if state.refcount > 0 then
      let refcount := state.refcount - 1
      some (manager.store imagePath
        { state with
          refcount := refcount
          holdStart := if refcount = 0 then some now else state.holdStart })
    else none
  | none => some manager

-- Time that has passed since an instant is zero for an instant in the future.
def isExpired (now : Nat) (manager : MountRefManager) (state : MountRefState) : Bool :=
  state.refcount = 0 ∧ ∃ start ∈ state.holdStart, manager.holdDuration ≤ now - start

def checkExpiredHolds (now : Nat) (manager : MountRefManager) : MountRefManager × List String :=
  let expired :=
    (manager.mounts.toList.filter fun (_, state) => manager.isExpired now state).map Prod.fst
  ({ manager with mounts := expired.foldl Map.erase manager.mounts }, expired)

-- Whatever the count is: for emergencies.
def forceUnmount (imagePath : String) (manager : MountRefManager) : MountRefManager :=
  { manager with mounts := manager.mounts.erase imagePath }

-- The instant is read anew for each image, and is taken as one here.
def reconstruct (activeMounts : List (String × Nat)) (now : Nat) (manager : MountRefManager) :
    MountRefManager :=
  activeMounts.foldl (fun manager (imagePath, count) =>
    manager.store imagePath
      ⟨imagePath, manager.mountPoint imagePath, count, if count = 0 then some now else none⟩) manager

end MountRefManager

inductive MountCall
  | Acquire (imagePath : String)
  | Release (imagePath : String)
  | CheckExpiredHolds
  deriving DecidableEq

structure MountStep where
  now : Nat
  call : MountCall
  deriving DecidableEq

structure TimedMounts where
  manager : MountRefManager
  clock : Nat
  deriving DecidableEq

def MountCall.run (now : Nat) (manager : MountRefManager) : MountCall → Option MountRefManager
  | .Acquire imagePath => some (manager.acquire imagePath).1
  | .Release imagePath => manager.release imagePath now
  | .CheckExpiredHolds => some (manager.checkExpiredHolds now).1

-- The clock does not go back.
def mountNext (mounts : TimedMounts) (step : MountStep) : Option TimedMounts :=
  if mounts.clock ≤ step.now then
    (step.call.run step.now mounts.manager).map fun manager => ⟨manager, step.now⟩
  else none

end Pact.Agent.Mounts
