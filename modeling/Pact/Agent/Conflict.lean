import Pact.Common.Types

namespace Pact.Agent.Conflict

open Pact.Library Pact.Common

structure ConflictEntry where
  key : String
  localValue : List UInt8
  journalValue : List UInt8
  detectedAt : DateTime
  deriving DecidableEq

inductive Resolution
  | AcceptLocal
  | AcceptJournal
  deriving DecidableEq

inductive ConflictState
  | Pending
  | Resolved (resolution : Resolution)
  | GraceExpired
  deriving DecidableEq

structure ConflictManager where
  conflicts : Map String (ConflictEntry × ConflictState)
  gracePeriod : Int
  pausedKeys : List String
  deriving DecidableEq

namespace ConflictManager

def new (gracePeriodSeconds : UInt32) : ConflictManager :=
  ⟨.empty, DateTime.seconds gracePeriodSeconds.toNat, []⟩

def pause (key : String) (pausedKeys : List String) : List String :=
  if key ∈ pausedKeys then pausedKeys else pausedKeys ++ [key]

def unpause (key : String) (pausedKeys : List String) : List String :=
  pausedKeys.filter (· ≠ key)

-- A conflict that is there already for the key is replaced, also one that has been resolved.
def registerConflict (manager : ConflictManager) (entry : ConflictEntry) : ConflictManager :=
  { manager with
    conflicts := manager.conflicts.insert entry.key (entry, .Pending)
    pausedKeys := pause entry.key manager.pausedKeys }

def registerConflicts (entries : List ConflictEntry) (manager : ConflictManager) :
    ConflictManager :=
  entries.foldl registerConflict manager

def isPaused (key : String) (manager : ConflictManager) : Bool := manager.pausedKeys.contains key

def resolve (key : String) (resolution : Resolution) (manager : ConflictManager) :
    ConflictManager × Except String ConflictEntry :=
  match manager.conflicts.get key with
  | none => (manager, .error ("no conflict for key: " ++ key))
  | some (entry, state) =>
    if state ≠ .Pending then
      (manager, .error ("conflict for key " ++ key ++ " already resolved"))
    else
      ({ manager with
          conflicts := manager.conflicts.insert key (entry, .Resolved resolution)
          pausedKeys := unpause key manager.pausedKeys },
        .ok entry)

def graceElapsed (now : DateTime) (manager : ConflictManager) (entry : ConflictEntry)
    (state : ConflictState) : Bool :=
  state = .Pending ∧ now ≥ entry.detectedAt + manager.gracePeriod

-- The journal wins where the grace period is over.
def checkGracePeriods (now : DateTime) (manager : ConflictManager) :
    ConflictManager × List String :=
  let expiredKeys :=
    (manager.conflicts.toList.filter fun (_, entry, state) =>
      manager.graceElapsed now entry state).map Prod.fst
  ({ manager with
      conflicts := manager.conflicts.mapValues fun (entry, state) =>
        (entry, if manager.graceElapsed now entry state then .GraceExpired else state)
      pausedKeys :=
        expiredKeys.foldl (fun pausedKeys key => unpause key pausedKeys) manager.pausedKeys },
    expiredKeys)

def allResolved (manager : ConflictManager) : Bool :=
  manager.conflicts.values.all fun (_, state) => state ≠ .Pending

def pendingCount (manager : ConflictManager) : Nat :=
  (manager.conflicts.values.filter fun (_, state) => state = .Pending).length

def clearResolved (manager : ConflictManager) : ConflictManager :=
  { manager with conflicts := manager.conflicts.filter fun _ (_, state) => state = .Pending }

def resolutionLog (manager : ConflictManager) :
    List (String × ConflictState × List UInt8 × List UInt8) :=
  (manager.conflicts.toList.filter fun (_, _, state) => state ≠ .Pending).map
    fun (key, entry, state) => (key, state, entry.localValue, entry.journalValue)

end ConflictManager

inductive ConflictStep
  | RegisterConflicts (entries : List ConflictEntry)
  | Resolve (key : String) (resolution : Resolution)
  | CheckGracePeriods (now : DateTime)
  | ClearResolved
  deriving DecidableEq

def conflictNext (manager : ConflictManager) : ConflictStep → Option ConflictManager
  | .RegisterConflicts entries => some (manager.registerConflicts entries)
  | .Resolve key resolution => some (manager.resolve key resolution).1
  | .CheckGracePeriods now => some (manager.checkGracePeriods now).1
  | .ClearResolved => some manager.clearResolved

end Pact.Agent.Conflict
