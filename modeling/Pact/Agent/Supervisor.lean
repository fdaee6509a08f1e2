import Pact.Library.Map
import Pact.Library.Run

namespace Pact.Agent.Supervisor

open Pact.Library

inductive ServiceState
  | Starting
  | Running
  | Stopping
  | Stopped
  | Failed
  | Restarting
  deriving DecidableEq

inductive RestartPolicy
  | Always
  | OnFailure
  | Never
  deriving DecidableEq

structure ServiceDecl where
  name : String
  restart : RestartPolicy
  order : Nat
  deriving DecidableEq

-- There is no code where a signal ended the process.
abbrev ExitCode := Option Int

-- The kernel hands an exit status out once. Where the agent is process 1, its zombie reaper may be
-- the one to take it.
inductive ProcessStatus
  | Alive
  | Exited (code : ExitCode)
  | Reaped (code : ExitCode)
  deriving DecidableEq

def ProcessStatus.ended : ProcessStatus → Option ExitCode
  | .Alive => none
  | .Exited code => some code
  | .Reaped code => some code

structure Process where
  service : String
  status : ProcessStatus
  deriving DecidableEq

-- A process is named by its place in the table of all that were ever spawned.
abbrev ProcessId := Nat

structure ProcessState where
  state : ServiceState
  pid : Option ProcessId
  restarts : Nat
  lastExitCode : ExitCode
  child : Option ProcessId
  cgroupHandle : Option String
  deriving DecidableEq

structure CrashEvent where
  service : String
  exitCode : ExitCode
  willRestart : Bool
  deriving DecidableEq

-- Where the supervision loop is: between two ticks, before it has the declarations, or at work on
-- what it found, with the declarations locked. The last four are the stages of one service.
inductive Loop
  | Sleeping
  | Detected (crashed : List (String × ExitCode))
  | Handling (crashed : List (String × ExitCode))
  | Declining (decl : ServiceDecl) (crashed : List (String × ExitCode))
  | Delaying (decl : ServiceDecl) (crashed : List (String × ExitCode))
  | Cleared (decl : ServiceDecl) (crashed : List (String × ExitCode))
  | Spawned (decl : ServiceDecl) (child : ProcessId) (cgroupHandle : Option String)
      (crashed : List (String × ExitCode))
  deriving DecidableEq

-- Calls that do not run under one lock: restart after its stop and in its delay, start_all and
-- stop_all with the services still to come.
inductive Call
  | Stopped (decl : ServiceDecl)
  | Delaying (decl : ServiceDecl)
  | Starting (services : List ServiceDecl)
  | Stopping (services : List ServiceDecl)
  deriving DecidableEq

structure PactSupervisor where
  processes : Map String ProcessState
  serviceDecls : List ServiceDecl
  table : List Process
  events : List CrashEvent
  loop : Loop
  calls : List Call
  deriving DecidableEq

def PactSupervisor.new : PactSupervisor := ⟨.empty, [], [], [], .Sleeping, []⟩

-- What the kernel answers. A scope handle is there if the cgroup manager gave one.
inductive SpawnOutcome
  | Failed
  | Spawned (cgroupHandle : Option String)
  deriving DecidableEq

-- How the wait in stop ends. A wait that fails and a kill that fails leave the process alone.
inductive StopOutcome
  | Exited (code : ExitCode)
  | WaitError
  | Killed
  | KillFailed
  deriving DecidableEq

def changeProcess (table : List Process) (id : ProcessId) (change : ProcessStatus → ProcessStatus) :
    List Process :=
  table.modify id fun process => { process with status := change process.status }

def ProcessStatus.exit (code : ExitCode) : ProcessStatus → ProcessStatus
  | .Alive => .Exited code
  | status => status

def ProcessStatus.reap : ProcessStatus → ProcessStatus
  | .Exited code => .Reaped code
  | status => status

def exitProcess (table : List Process) (id : ProcessId) (code : ExitCode) : List Process :=
  changeProcess table id (.exit code)

-- What a child is found to have ended with. For one whose status the reaper has taken, asking
-- fails, and that counts as a child that still runs.
def exitCode (table : List Process) (id : ProcessId) : Option ExitCode :=
  match table[id]? with
  | some ⟨_, .Exited code⟩ => some code
  | _ => none

def PactSupervisor.setRecord (s : PactSupervisor) (name : String) (record : ProcessState) :
    PactSupervisor :=
  { s with processes := s.processes.insert name record }

def start (decl : ServiceDecl) (outcome : SpawnOutcome) (s : PactSupervisor) : PactSupervisor × Bool :=
  let record := s.processes.get decl.name
  if record.any (·.state = .Running) then (s, true)
  else
    match outcome with
    | .Failed => (s, false)
    | .Spawned cgroupHandle =>
      let child := s.table.length
      ({ s with
          table := s.table ++ [⟨decl.name, .Alive⟩]
          processes := s.processes.insert decl.name
            { state := .Running
              pid := some child
              restarts := (record.map ProcessState.restarts).getD 0
              lastExitCode := none
              child := some child
              cgroupHandle := cgroupHandle } }, true)

-- The wait for the child, under the lock. An exit is read off the process, which may have
-- exited before.
def awaitChild (outcome : StopOutcome) (record : ProcessState) (table : List Process) :
    List Process × ExitCode :=
  match record.child, outcome with
  | some id, .Exited code =>
    let table := exitProcess table id code
    (table, (exitCode table id).getD record.lastExitCode)
  | some id, .Killed => (exitProcess table id none, record.lastExitCode)
  | _, _ => (table, record.lastExitCode)

def stop (decl : ServiceDecl) (outcome : StopOutcome) (s : PactSupervisor) : PactSupervisor :=
  match s.processes.get decl.name with
  | some record =>
    if record.state = .Running then
      let (table, lastExitCode) := awaitChild outcome record s.table
      { s with
        table := table
        processes := s.processes.insert decl.name { record with
          state := .Stopped, pid := none, lastExitCode := lastExitCode, child := none,
          cgroupHandle := none } }
    else s
  | none => s

def markRestarting (decl : ServiceDecl) (s : PactSupervisor) : PactSupervisor :=
  match s.processes.get decl.name with
  | some record =>
    s.setRecord decl.name { record with
      restarts := (record.restarts + 1) % 2 ^ 32, state := .Restarting }
  | none => s

-- The record of a running service whose child is found to have exited.
def reap (record : ProcessState) (table : List Process) : Option (ProcessState × ExitCode) :=
  if record.state = .Running then
    (record.child.bind (exitCode table)).map fun code =>
      ({ record with lastExitCode := code, child := none, pid := none, state := .Failed }, code)
  else none

structure ServiceStatus where
  name : String
  state : ServiceState
  pid : Option ProcessId
  restarts : Nat
  lastExitCode : ExitCode
  deriving DecidableEq

def ProcessState.report (record : ProcessState) (name : String) : ServiceStatus :=
  ⟨name, record.state, record.pid, record.restarts, record.lastExitCode⟩

-- `observed` says whether asking for the child's status succeeds.
def status (decl : ServiceDecl) (observed : Bool) (s : PactSupervisor) : PactSupervisor × ServiceStatus :=
  match s.processes.get decl.name with
  | some record =>
    match if observed then reap record s.table else none with
    | some (reaped, _) => (s.setRecord decl.name reaped, reaped.report decl.name)
    | none => (s, record.report decl.name)
  | none => (s, ⟨decl.name, .Stopped, none, 0, none⟩)

-- `found` are the services whose children are seen to have exited, in the order of the map's
-- iteration.
def detectCrashedServices :
    List String → PactSupervisor → Option (PactSupervisor × List (String × ExitCode))
  | [], s => some (s, [])
  | name :: found, s => do
      let record ← s.processes.get name
      let (reaped, code) ← reap record s.table
      let counted := { reaped with restarts := (reaped.restarts + 1) % 2 ^ 32 }
      let (last, crashed) ← detectCrashedServices found (s.setRecord name counted)
      return (last, (name, code) :: crashed)

def ServiceDecl.shouldRestart (decl : ServiceDecl) (exitCode : ExitCode) : Bool :=
  match decl.restart with
  | .Always => true
  | .OnFailure => exitCode ≠ some 0
  | .Never => false

def declared (services : List ServiceDecl) (name : String) : Option ServiceDecl :=
  services.find? fun decl => decl.name = name

def declineRestart (decl : ServiceDecl) (s : PactSupervisor) : PactSupervisor :=
  match s.processes.get decl.name with
  | some record =>
    if decl.restart = .Never then s.setRecord decl.name { record with state := .Stopped } else s
  | none => s

def clearScope (decl : ServiceDecl) (s : PactSupervisor) : PactSupervisor :=
  match s.processes.get decl.name with
  | some record => s.setRecord decl.name { record with cgroupHandle := none }
  | none => s

-- The end of do_restart, which writes over whatever the record says by then.
def storeChild (decl : ServiceDecl) (child : ProcessId) (cgroupHandle : Option String)
    (s : PactSupervisor) : PactSupervisor :=
  match s.processes.get decl.name with
  | some record =>
    s.setRecord decl.name { record with
      state := .Running, pid := some child, child := some child, cgroupHandle := cgroupHandle }
  | none => s.setRecord decl.name ⟨.Running, some child, 1, none, some child, cgroupHandle⟩

def loopStep (outcome : SpawnOutcome) (s : PactSupervisor) : Option PactSupervisor :=
  match s.loop with
  | .Sleeping => none
  | .Detected crashed => some { s with loop := .Handling crashed }
  | .Handling [] => some { s with loop := .Sleeping }
  | .Handling ((name, code) :: crashed) =>
    match declared s.serviceDecls name with
    | none => some { s with loop := .Handling crashed }
    | some decl =>
      let restart := decl.shouldRestart code
      some { s with
        events := s.events ++ [⟨name, code, restart⟩]
        loop := if restart then .Delaying decl crashed else .Declining decl crashed }
  | .Declining decl crashed => some { declineRestart decl s with loop := .Handling crashed }
  | .Delaying decl crashed => some { clearScope decl s with loop := .Cleared decl crashed }
  | .Cleared decl crashed =>
    match outcome with
    | .Failed => some { s with loop := .Handling crashed }
    | .Spawned cgroupHandle =>
      some { s with
        table := s.table ++ [⟨decl.name, .Alive⟩]
        loop := .Spawned decl s.table.length cgroupHandle crashed }
  | .Spawned decl child cgroupHandle crashed =>
    some { storeChild decl child cgroupHandle s with loop := .Handling crashed }

def sortedServices (services : List ServiceDecl) : List ServiceDecl :=
  services.insertionSort fun first second => first.order ≤ second.order

def callStep (spawn : SpawnOutcome) (wait : StopOutcome) (s : PactSupervisor) :
    Call → PactSupervisor × Option Call
  | .Stopped decl => (markRestarting decl s, some (.Delaying decl))
  | .Delaying decl => ((start decl spawn s).1, none)
  | .Starting [] => (s, none)
  | .Starting (decl :: services) =>
    let (s, started) := start decl spawn s
    (s, if started then some (.Starting services) else none)
  | .Stopping [] => (s, none)
  | .Stopping (decl :: services) => (stop decl wait s, some (.Stopping services))

-- The write lock on the declarations is free unless the loop is at work on what it found.
def Loop.sharesDecls : Loop → Bool
  | .Sleeping => true
  | .Detected _ => true
  | _ => false

inductive Step
  | Exit (id : ProcessId) (code : ExitCode)
  | Reap (id : ProcessId)
  | Start (decl : ServiceDecl) (outcome : SpawnOutcome)
  | Stop (decl : ServiceDecl) (outcome : StopOutcome)
  | Restart (decl : ServiceDecl) (outcome : StopOutcome)
  | StartAll (services : List ServiceDecl)
  | StopAll (services : List ServiceDecl)
  | Advance (index : Nat) (spawn : SpawnOutcome) (wait : StopOutcome)
  | Status (decl : ServiceDecl) (observed : Bool)
  | Tick (found : List String)
  | Loop (outcome : SpawnOutcome)
  deriving DecidableEq

-- All that can happen to a supervisor, one critical section at a time. Nothing that runs beside a
-- section that holds the lock on the processes touches what the section does.
def next (s : PactSupervisor) : Step → Option PactSupervisor
  | .Exit id code =>
    match s.table[id]? with
    | some ⟨_, .Alive⟩ => some { s with table := exitProcess s.table id code }
    | _ => none
  | .Reap id =>
    match s.table[id]? with
    | some ⟨_, .Exited _⟩ => some { s with table := changeProcess s.table id .reap }
    | _ => none
  | .Start decl outcome => some (start decl outcome s).1
  | .Stop decl outcome => some (stop decl outcome s)
  | .Restart decl outcome =>
    let stopped := stop decl outcome s
    some { stopped with calls := stopped.calls ++ [.Stopped decl] }
  | .StartAll services =>
    if s.loop.sharesDecls then
      some { s with
        serviceDecls := services
        calls := s.calls ++ [.Starting (sortedServices services)] }
    else none
  | .StopAll services =>
    some { s with calls := s.calls ++ [.Stopping (sortedServices services).reverse] }
  | .Advance index spawn wait =>
    match s.calls[index]? with
    | some call =>
      match callStep spawn wait s call with
      | (after, some rest) => some { after with calls := s.calls.set index rest }
      | (after, none) => some { after with calls := s.calls.eraseIdx index }
    | none => none
  | .Status decl observed => some (status decl observed s).1
  | .Tick found =>
    if s.loop = .Sleeping then
      (detectCrashedServices found s).map fun (after, crashed) =>
        { after with loop := .Detected crashed }
    else none
  | .Loop outcome => loopStep outcome s

end Pact.Agent.Supervisor
