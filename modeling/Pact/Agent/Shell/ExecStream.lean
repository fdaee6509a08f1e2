import Pact.Agent.Shell.GrpcService

namespace Pact.Agent.Shell

open Pact.Common Pact.Journal

def ExecError.text : ExecError → String
  | .NotWhitelisted command => "command not whitelisted: " ++ command
  | .NotFound command => "command not found on PATH: " ++ command
  | .ExecutionFailed reason => "execution failed: " ++ reason
  | .Timeout seconds => "command timed out after " ++ toString seconds ++ " seconds"

def ShellError.text : ShellError → String
  | .Auth error => "authentication failed: " ++ error.text
  | .Exec error => "execution failed: " ++ error.text

inductive ExecOutput
  | Stdout (data : List UInt8)
  | Stderr (data : List UInt8)
  | ExitCode (code : Int)
  | Error (text : String)
  deriving DecidableEq

structure ExecRequest where
  command : String
  args : List String
  deriving DecidableEq

def ExecResult.chunks (result : ExecResult) : List ExecOutput :=
  (if result.stdout = [] then [] else [.Stdout result.stdout]) ++
    (if result.stderr = [] then [] else [.Stderr result.stderr])

-- What the task of a call sends once the call of the server has come back.
def outputs : Except ShellError (ExecResult × Bool) → List ExecOutput
  | .ok (result, _) => result.chunks ++ [.ExitCode result.exitCode]
  | .error error => [.Error error.text]

namespace GrpcService

-- Without a header the call fails. Otherwise it is answered with a stream, which stays open for
-- ever if the child does.
def exec (world : World) (server : ShellServer) (shared : Shared)
    (request : Request ExecRequest) : Except Status (Execution × Option (List ExecOutput)) :=
  match extractAuth request.authorization with
  | .error status => .error status
  | .ok header =>
    let execution := Shell.exec world server shared header request.body.command request.body.args
    .ok (execution, execution.result.map outputs)

theorem exec_eq_ok (world : World) (server : ShellServer) (shared : Shared)
    (request : Request ExecRequest) (execution : Execution) (sent : List ExecOutput)
    (h : exec world server shared request = .ok (execution, some sent)) :
    ∃ ended, execution.result = some ended ∧ sent = outputs ended := by
  unfold exec at h
  split at h
  · cases h
  · rename_i header hheader
    obtain ⟨rfl, hsent⟩ := Prod.mk.inj (Except.ok.inj h)
    obtain ⟨ended, hended, rfl⟩ := Option.map_eq_some_iff.mp hsent
    exact ⟨ended, hended, rfl⟩

end GrpcService

end Pact.Agent.Shell
