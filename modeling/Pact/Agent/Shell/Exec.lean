import Mathlib

namespace Pact.Agent.Shell

structure ExecResult where
  stdout : List UInt8
  stderr : List UInt8
  exitCode : Int
  deriving DecidableEq

inductive ExecError
  | NotWhitelisted (command : String)
  | NotFound (command : String)
  | ExecutionFailed (reason : String)
  | Timeout (seconds : Nat)
  deriving DecidableEq

structure ExecConfig where
  timeoutSeconds : Nat
  maxOutputBytes : Nat
  deriving DecidableEq

def ExecConfig.default : ExecConfig where
  timeoutSeconds := 300
  maxOutputBytes := 10485760

-- What one read of an output pipe gives: bytes, none of them at the end, or an error. It does not
-- come back as long as some process, maybe one that the child has left behind, keeps the pipe
-- open and writes nothing.
inductive Read
  | Data (bytes : List UInt8)
  | Failed
  | Pending
  deriving DecidableEq

-- How waiting for the child ends. A child that is killed by a signal has no exit code.
inductive Ending
  | Exited (code : Option Int)
  | WaitFailed (error : String)
  | Outlives
  deriving DecidableEq

-- A running child. It outlives the timeout, or for ever if there is none.
structure Child where
  stdout : List Read
  stderr : List Read
  ending : Ending
  deriving DecidableEq

inductive SpawnError
  | NotFound
  | Other (text : String)
  deriving DecidableEq

-- The reading loop of one output pipe, and what it has kept unless it never ends.
def readOutput (maxBytes : Nat) : List UInt8 → List Read → Option (List UInt8)
  | output, [] => some output
  | output, .Failed :: _ => some output
  | _, .Pending :: _ => none
  | output, .Data bytes :: rest =>
    if bytes = [] then some output
    else if output.length + bytes.length > maxBytes then
      some (output ++ bytes.take (maxBytes - output.length))
    else readOutput maxBytes (output ++ bytes) rest

-- Both loops are waited for, and this is not within the timeout.
def Child.captured (child : Child) (config : ExecConfig) (code : Option Int) : Option ExecResult :=
  match readOutput config.maxOutputBytes [] child.stdout,
    readOutput config.maxOutputBytes [] child.stderr with
  | some stdout, some stderr => some ⟨stdout, stderr, code.getD (-1)⟩
  | _, _ => none

inductive ProcessEffect
  | Spawn (command : String) (args : List String)
  | Kill
  deriving DecidableEq

-- What the command does to the system, and its result unless it never returns.
def executeCommand (spawn : Except SpawnError Child) (command : String) (args : List String)
    (config : ExecConfig) : List ProcessEffect × Option (Except ExecError ExecResult) :=
  match spawn with
  | .error .NotFound => ([], some (.error (.NotFound command)))
  | .error (.Other text) => ([], some (.error (.ExecutionFailed text)))
  | .ok child =>
    match child.ending with
    | .Exited code => ([.Spawn command args], (child.captured config code).map .ok)
    | .WaitFailed error => ([.Spawn command args], some (.error (.ExecutionFailed error)))
    | .Outlives =>
      if config.timeoutSeconds > 0 then
        ([.Spawn command args, .Kill], some (.error (.Timeout config.timeoutSeconds)))
      else ([.Spawn command args], none)

end Pact.Agent.Shell
