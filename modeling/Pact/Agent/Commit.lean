import Pact.Common.Types

namespace Pact.Agent

open Pact.Common

structure CommitWindowConfig where
  baseWindowSeconds : UInt32
  driftSensitivity : F64
  emergencyWindowSeconds : UInt32
  deriving DecidableEq

inductive WindowState
  | Idle
  | Open (openedAt deadline : DateTime)
  | Expired (openedAt expiredAt : DateTime)
  deriving DecidableEq

structure CommitWindowManager where
  config : CommitWindowConfig
  state : WindowState
  emergency : Bool
  deriving DecidableEq

-- The window length of calculate_window_seconds from the base window, the sensitivity and the
-- magnitude of the drift, as f64 arithmetic gives it.
structure Floats where
  windowSeconds : UInt32 → F64 → F64 → UInt32

namespace CommitWindowManager

def new (config : CommitWindowConfig) : CommitWindowManager := ⟨config, .Idle, false⟩

def updateConfig (baseWindowSeconds : UInt32) (driftSensitivity : F64)
    (emergencyWindowSeconds : UInt32) (manager : CommitWindowManager) : CommitWindowManager :=
  { manager with config := ⟨baseWindowSeconds, driftSensitivity, emergencyWindowSeconds⟩ }

def calculateWindowSeconds (floats : Floats) (manager : CommitWindowManager)
    (driftMagnitude : F64) : UInt32 :=
  floats.windowSeconds manager.config.baseWindowSeconds manager.config.driftSensitivity
    driftMagnitude

-- A window that is open already keeps the time it was opened at.
def openWindow (floats : Floats) (now : DateTime) (driftMagnitude : F64)
    (manager : CommitWindowManager) : CommitWindowManager :=
  let windowSecs :=
    if manager.emergency then manager.config.emergencyWindowSeconds
    else manager.calculateWindowSeconds floats driftMagnitude
  let openedAt :=
    match manager.state with
    | .Open openedAt _ => openedAt
    | _ => now
  { manager with state := .Open openedAt (now + DateTime.seconds windowSecs.toNat) }

def checkExpired (now : DateTime) (manager : CommitWindowManager) : CommitWindowManager × Bool :=
  match manager.state with
  | .Open openedAt deadline =>
    if now ≥ deadline ∧ ¬manager.emergency then
      ({ manager with state := .Expired openedAt deadline }, true)
    else (manager, false)
  | .Expired _ _ => (manager, true)
  | .Idle => (manager, false)

def commit (manager : CommitWindowManager) : CommitWindowManager := { manager with state := .Idle }

def rollback (manager : CommitWindowManager) : CommitWindowManager := { manager with state := .Idle }

def rollbackWithCheck (activeConsumers : Nat) (manager : CommitWindowManager) :
    CommitWindowManager × Except String Unit :=
  if activeConsumers > 0 then
    (manager, .error (toString activeConsumers ++ " active consumers — rollback blocked (A5)"))
  else ({ manager with state := .Idle }, .ok ())

def extend (additionalSeconds : UInt32) (manager : CommitWindowManager) : CommitWindowManager :=
  match manager.state with
  | .Open openedAt deadline =>
    { manager with
      state := .Open openedAt (deadline + DateTime.seconds additionalSeconds.toNat) }
  | _ => manager

-- An open window starts anew, with the emergency duration.
def enterEmergency (now : DateTime) (manager : CommitWindowManager) : CommitWindowManager :=
  { manager with
    emergency := true
    state :=
      match manager.state with
      | .Open _ _ =>
        .Open now (now + DateTime.seconds manager.config.emergencyWindowSeconds.toNat)
      | state => state }

def exitEmergency (manager : CommitWindowManager) : CommitWindowManager :=
  { manager with emergency := false }

def secondsRemaining (now : DateTime) (manager : CommitWindowManager) : UInt32 :=
  match manager.state with
  | .Open _ deadline => UInt32.ofNat ((deadline - now).tdiv (DateTime.seconds 1)).toNat
  | _ => 0

end CommitWindowManager

structure ExtendWindowResponse where
  success : Bool
  newDeadlineSeconds : UInt32
  error : Option String
  deriving DecidableEq

-- The part of extend_commit_window behind the check of the authorization header.
def extendCommitWindow (now : DateTime) (additionalMinutes : UInt32)
    (manager : CommitWindowManager) : CommitWindowManager × ExtendWindowResponse :=
  if additionalMinutes = 0 then
    (manager, ⟨false, 0, some "additional_minutes must be > 0"⟩)
  else
    let extended := manager.extend (additionalMinutes * 60)
    (extended, ⟨true, extended.secondsRemaining now, none⟩)

def autoRollback (enforcementMode : String) (emergencyActive : Bool) (now : DateTime)
    (manager : CommitWindowManager) : CommitWindowManager :=
  if enforcementMode = "observe" ∨ emergencyActive then manager
  else
    let checked := (manager.checkExpired now).1
    match checked.state with
    | .Expired _ _ => (checked.rollbackWithCheck 0).1
    | _ => checked

end Pact.Agent
