import Pact.Agent.Shell.GrpcService
import Pact.Library.Run

namespace Pact.Agent.Shell

open Pact.Library Pact.Common Pact.Journal

inductive SessionState
  | Initializing
  | Active
  | Closing
  | Closed
  deriving DecidableEq

structure ShellSession where
  sessionId : String
  user : Identity
  nodeId : NodeId
  vclusterId : VClusterId
  startedAt : DateTime
  state : SessionState
  commandsExecuted : Nat
  rows : Nat
  cols : Nat
  term : String
  deriving DecidableEq

namespace ShellSession

def new (sessionId : String) (startedAt : DateTime) (user : Identity) (nodeId : NodeId)
    (vclusterId : VClusterId) (rows cols : Nat) (term : String) : ShellSession where
  sessionId := sessionId
  user := user
  nodeId := nodeId
  vclusterId := vclusterId
  startedAt := startedAt
  state := .Initializing
  commandsExecuted := 0
  rows := rows
  cols := cols
  term := term

def activate (session : ShellSession) : ShellSession := { session with state := .Active }

def close (session : ShellSession) : ShellSession := { session with state := .Closing }

def finalize (session : ShellSession) : ShellSession := { session with state := .Closed }

end ShellSession

inductive SessionError
  | MaxSessionsExceeded (maxSessions : Nat)
  deriving DecidableEq

def SessionError.text : SessionError → String
  | .MaxSessionsExceeded maxSessions =>
    "maximum concurrent sessions (" ++ toString maxSessions ++ ") exceeded"

structure SessionManager where
  sessions : Map String ShellSession
  maxSessions : Nat
  deriving DecidableEq

namespace SessionManager

def new (maxSessions : Nat) : SessionManager := ⟨.empty, maxSessions⟩

def createSession (manager : SessionManager) (session : ShellSession) :
    Except SessionError SessionManager :=
  if manager.sessions.toList.length ≥ manager.maxSessions then
    .error (.MaxSessionsExceeded manager.maxSessions)
  else .ok { manager with sessions := manager.sessions.insert session.sessionId session }

def update (manager : SessionManager) (sessionId : String) (change : ShellSession → ShellSession) :
    SessionManager :=
  match manager.sessions.get sessionId with
  | none => manager
  | some session => { manager with sessions := manager.sessions.insert sessionId (change session) }

def remove (manager : SessionManager) (sessionId : String) : SessionManager :=
  { manager with sessions := manager.sessions.erase sessionId }

end SessionManager

inductive ShellInput
  | Open (rows cols : Nat) (term : String)
  | Stdin (data : List UInt8)
  | Resize (rows cols : Nat)
  | Close
  deriving DecidableEq

-- What the stream of a client gives next.
inductive Received
  | Message (input : Option ShellInput)
  | Failed (reason : String)
  | Ended
  deriving DecidableEq

inductive ShellOutput
  | SessionId (sessionId : String)
  | Stdout (data : List UInt8)
  | ExitCode (code : Int)
  deriving DecidableEq

-- The calls on a PTY that its child or its terminal sees.
inductive PtyCall
  | Write (data : List UInt8)
  | Resize (rows cols : Nat)
  | Kill
  | Wait
  deriving DecidableEq

-- Where the reader task of a shell is. Before it is spawned and after it is over it is gone.
inductive Reader
  | Gone
  | Ready
  | Awaiting
  | Sending (data : List UInt8)
  deriving DecidableEq

-- Where the request of a shell is, and then the task that it has spawned.
inductive Stage
  | Created
  | Refused
  | Dropped
  | Allocated
  | Streaming
  | Leaving
  | Aborted
  | Joined
  | Released
  | Finished
  | Removed
  deriving DecidableEq

-- One shell. A read that is on its way in the blocking pool is a third task beside the other two,
-- with a reference of its own to the handle of the PTY.
structure ShellTask where
  stage : Stage
  reader : Reader
  reading : Bool
  calls : List PtyCall
  sent : List ShellOutput
  deriving DecidableEq

inductive ShellStep
  | Allocate (allocated : Bool)
  | Drop (activated : Bool)
  | Stream
  | ReadStarts
  | ReadReturns (result : Option (List UInt8))
  | OutputSent (delivered : Bool)
  | ReaderStops
  | Receive (received : Received) (written : Bool)
  | Abort
  | Join
  | Release
  | ExitSent (delivered : Bool)
  | Remove
  deriving DecidableEq

namespace ShellTask

def new : ShellTask := ⟨.Created, .Gone, false, [], []⟩

def strongCount (task : ShellTask) : Nat :=
  1 + (if task.reader = .Gone then 0 else 1) + (if task.reading then 1 else 0)

-- The loop of the reader goes on with what has been read unless it is nothing or an error.
def afterRead : Option (List UInt8) → Reader
  | some (byte :: data) => .Sending (byte :: data)
  | _ => .Gone

-- One turn of the writer loop.
def receive (task : ShellTask) (received : Received) (written : Bool) : ShellTask :=
  match received with
  | .Message (some (.Stdin data)) =>
    { task with
      stage := if written then .Streaming else .Leaving
      calls := task.calls ++ [.Write data] }
  | .Message (some (.Resize rows cols)) =>
    { task with calls := task.calls ++ [.Resize (min rows 500) (min cols 500)] }
  | .Message (some .Close) => { task with stage := .Leaving }
  | .Message (some (.Open _ _ _)) => task
  | .Message none => task
  | .Failed _ => { task with stage := .Leaving }
  | .Ended => { task with stage := .Leaving }

-- The handle is closed, so the child killed and waited for, if it can be taken out of its
-- reference. Dropping the reference does neither.
def release (task : ShellTask) : ShellTask :=
  { task with
    stage := .Released
    calls := if task.strongCount = 1 then task.calls ++ [.Kill, .Wait] else task.calls }

def next (sessionId : String) (task : ShellTask) : ShellStep → Option ShellTask
  | .Allocate allocated =>
    if task.stage = .Created then
      some { task with stage := if allocated then .Allocated else .Refused }
    else none
  -- The client goes away before the task is spawned, and the request is dropped where it waits.
  | .Drop activated =>
    if task.stage = .Created ∧ activated = false ∨ task.stage = .Allocated then
      some { task with stage := .Dropped }
    else none
  | .Stream =>
    if task.stage = .Allocated then
      some { task with
        stage := .Streaming, reader := .Ready, sent := task.sent ++ [.SessionId sessionId] }
    else none
  | .ReadStarts =>
    if task.reader = .Ready then some { task with reader := .Awaiting, reading := true } else none
  | .ReadReturns result =>
    if task.reading then
      some { task with
        reading := false
        reader := if task.reader = .Awaiting then afterRead result else task.reader }
    else none
  | .OutputSent delivered =>
    match task.reader with
    | .Sending data =>
      if delivered then
        some { task with reader := .Ready, sent := task.sent ++ [.Stdout data] }
      else some { task with reader := .Gone }
    | _ => none
  -- An abort takes effect where the reader waits. It does not reach a read that has begun.
  | .ReaderStops =>
    if task.stage = .Aborted then some { task with reader := .Gone } else none
  | .Receive received written =>
    if task.stage = .Streaming then some (task.receive received written) else none
  | .Abort => if task.stage = .Leaving then some { task with stage := .Aborted } else none
  | .Join =>
    if task.stage = .Aborted ∧ task.reader = .Gone then some { task with stage := .Joined }
    else none
  | .Release => if task.stage = .Joined then some task.release else none
  | .ExitSent delivered =>
    if task.stage = .Released then
      some { task with
        stage := .Finished
        sent := if delivered then task.sent ++ [.ExitCode 0] else task.sent }
    else none
  | .Remove => if task.stage = .Finished then some { task with stage := .Removed } else none

end ShellTask

def shellOpen (world : World) (server : ShellServer) (authorization : Option MetadataValue)
    (first : Received) (sessionId : String) (manager : SessionManager) :
    Except Status SessionManager :=
  match GrpcService.shellAdmission world server authorization with
  | .error status => .error status
  | .ok identity =>
    match first with
    | .Ended => .error ⟨.InvalidArgument, "stream closed before ShellOpen"⟩
    | .Failed reason => .error ⟨.Internal, "stream error: " ++ reason⟩
    | .Message (some (.Open rows cols term)) =>
      match manager.createSession (.new sessionId world.now identity server.nodeId
          server.vclusterId (min rows 500) (min cols 500)
          (if term = "" then "xterm-256color" else term)) with
      | .error error => .error ⟨.ResourceExhausted, error.text⟩
      | .ok created => .ok created
    | .Message _ =>
      .error ⟨.InvalidArgument, "first message must be ShellOpen with terminal dimensions"⟩

-- What a step of a shell does to the manager, under its lock.
def managed (manager : SessionManager) (sessionId : String) : ShellStep → SessionManager
  | .Allocate false => manager.remove sessionId
  | .Drop true => manager.update sessionId ShellSession.activate
  | .Stream => manager.update sessionId ShellSession.activate
  | .Remove =>
    (manager.update sessionId fun session => session.close.finalize).remove sessionId
  | _ => manager

structure Sessions where
  manager : SessionManager
  tasks : Map String ShellTask
  deriving DecidableEq

inductive SessionStep
  | Open (world : World) (authorization : Option MetadataValue) (first : Received)
      (sessionId : String)
  | Task (sessionId : String) (step : ShellStep)

def Sessions.new (maxSessions : Nat) : Sessions := ⟨.new maxSessions, .empty⟩

-- The id of a new session is a random one that no session has had.
def sessionsNext (server : ShellServer) (state : Sessions) : SessionStep → Option Sessions
  | .Open world authorization first sessionId =>
    if (state.tasks.get sessionId).isSome then none
    else
      match shellOpen world server authorization first sessionId state.manager with
      | .error _ => some state
      | .ok manager => some ⟨manager, state.tasks.insert sessionId .new⟩
  | .Task sessionId step =>
    match state.tasks.get sessionId with
    | none => none
    | some task =>
      match task.next sessionId step with
      | none => none
      | some after =>
        some ⟨managed state.manager sessionId step, state.tasks.insert sessionId after⟩

end Pact.Agent.Shell
