import Pact.Agent.Commit
import Pact.Agent.Shell.Auth
import Pact.Agent.Shell.Exec
import Pact.Agent.Shell.Whitelist
import Pact.Journal.BootService
import Pact.Journal.PolicyService

namespace Pact.Agent.Shell

open Pact.Library Pact.Common Pact.Journal

-- What a server is built with. The journal client and the commit window are optional.
structure ShellServer where
  authConfig : AuthConfig
  execConfig : ExecConfig
  nodeId : NodeId
  vclusterId : VClusterId
  journalClient : Bool
  commitWindow : Bool
  deriving DecidableEq

-- What the server shares with other tasks, each part behind a lock of its own.
structure Shared where
  whitelist : WhitelistManager
  window : CommitWindowManager
  deriving DecidableEq

inductive ShellError
  | Auth (error : AuthError)
  | Exec (error : ExecError)
  deriving DecidableEq

inductive Effect
  | Process (effect : ProcessEffect)
  | AppendEntry (request : Proto.AppendEntryRequest)
  | OpenWindow
  deriving DecidableEq

-- What one call of exec meets: the JWT library, the child, the clock, whether the journal ever
-- answers, and what other tasks do to the shared parts while the call holds no lock on them.
structure World where
  jwt : Jwt
  floats : Floats
  spawn : Except SpawnError Child
  now : DateTime
  journalAnswers : Bool
  betweenLocks : Shared → Shared
  whileRunning : Shared → Shared

def authenticate (world : World) (server : ShellServer) (authHeader : String) :
    Except AuthError Identity :=
  match extractBearerToken authHeader with
  | none => .error .InvalidFormat
  | some token =>
    match validateToken world.jwt token server.authConfig with
    | .ok claims => .ok (claimsToIdentity claims)
    | .error error => .error error

-- Whether the command is taken as state-changing. The lock is free for a moment before a
-- denied command is recorded.
def authorizeExec (world : World) (server : ShellServer) (shared : Shared) (identity : Identity)
    (command : String) : Shared × Except AuthError Bool :=
  if shared.whitelist.isExecAllowed command = false then
    if isPlatformAdmin identity then (shared, .ok true)
    else
      let meanwhile := world.betweenLocks shared
      ({ meanwhile with whitelist := meanwhile.whitelist.recordDenied command },
        .error (.InsufficientPrivileges ("command not whitelisted: " ++ command)))
  else
    let stateChanging := shared.whitelist.isStateChanging command
    if hasOpsRole identity server.vclusterId = false then
      if hasViewerRole identity server.vclusterId ∧ stateChanging = false then (shared, .ok false)
      else
        (shared, .error (.InsufficientPrivileges
          ("requires pact-ops-" ++ server.vclusterId ++ " or pact-platform-admin role")))
    else (shared, .ok stateChanging)

def execEntry (world : World) (server : ShellServer) (identity : Identity) (command : String) :
    Proto.ConfigEntry where
  sequence := 0
  timestamp := some (BootService.protoTimestamp world.now)
  entryType := 10
  scope := some ⟨some (.NodeId server.nodeId)⟩
  author := some ⟨identity.principal, PolicyService.debugPrincipalType identity.principalType,
    identity.role⟩
  parent := none
  stateDelta := some ⟨[], [], [], [], [], [], []⟩
  policyRef := "exec:" ++ command
  ttl := none
  emergencyReason := none

-- What a call leaves: the shared parts, what it did in order, and its result unless it waits for
-- ever.
structure Execution where
  shared : Shared
  effects : List Effect
  result : Option (Except ShellError (ExecResult × Bool))
  deriving DecidableEq

def driftMagnitude : F64 := ⟨4607182418800017408⟩

-- The part of exec after the child has come to an end by itself. The answer of the journal is
-- waited for without a timeout and not looked at.
def finishExec (world : World) (server : ShellServer) (shared : Shared) (identity : Identity)
    (command : String) (stateChanging : Bool) (effects : List Effect) (result : ExecResult) :
    Execution :=
  let logged :=
    if server.journalClient then [.AppendEntry ⟨some (execEntry world server identity command)⟩]
    else []
  if server.journalClient ∧ world.journalAnswers = false then ⟨shared, effects ++ logged, none⟩
  else if stateChanging ∧ server.commitWindow then
    ⟨{ shared with window := shared.window.openWindow world.floats world.now driftMagnitude },
      effects ++ logged ++ [.OpenWindow], some (.ok (result, stateChanging))⟩
  else ⟨shared, effects ++ logged, some (.ok (result, stateChanging))⟩

def execAuthorized (world : World) (server : ShellServer) (shared : Shared) (identity : Identity)
    (command : String) (args : List String) (stateChanging : Bool) : Execution :=
  match executeCommand world.spawn command args server.execConfig with
  | (effects, none) => ⟨world.whileRunning shared, effects.map .Process, none⟩
  | (effects, some (.error error)) =>
    ⟨world.whileRunning shared, effects.map .Process, some (.error (.Exec error))⟩
  | (effects, some (.ok result)) =>
    finishExec world server (world.whileRunning shared) identity command stateChanging
      (effects.map .Process) result

def exec (world : World) (server : ShellServer) (shared : Shared) (authHeader command : String)
    (args : List String) : Execution :=
  match authenticate world server authHeader with
  | .error error => ⟨shared, [], some (.error (.Auth error))⟩
  | .ok identity =>
    match authorizeExec world server shared identity command with
    | (after, .error error) => ⟨after, [], some (.error (.Auth error))⟩
    | (after, .ok stateChanging) =>
      match WhitelistManager.validateArgs command args with
      | .error reason => ⟨after, [], some (.error (.Auth (.InsufficientPrivileges reason)))⟩
      | .ok () => execAuthorized world server after identity command args stateChanging

end Pact.Agent.Shell
