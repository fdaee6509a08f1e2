import Pact.Library.Map
import Pact.Library.Text
import Pact.Library.Trace

namespace Pact.Agent.Handoff

open Pact.Library

inductive NamespaceType
  | Pid
  | Net
  | Mount
  deriving DecidableEq

structure NamespaceRequest where
  allocationId : String
  namespaces : List NamespaceType
  uenvImage : Option String
  deriving DecidableEq

structure NamespaceResponse where
  allocationId : String
  fdTypes : List NamespaceType
  uenvMountPath : Option String
  deriving DecidableEq

inductive NamespaceError
  | SocketUnavailable (reason : String)
  deriving DecidableEq

structure AllocationNamespaces where
  allocationId : String
  types : List NamespaceType
  uenvImage : Option String
  deriving DecidableEq

-- What a call does to the allocations once it has the lock for writing.
inductive Write
  | Create (request : NamespaceRequest)
  | Release (allocationId : String)
  | Ended (allocationId : String)
  deriving DecidableEq

-- The lock on the allocations is held by readers, or by one call that is going to write.
structure HandoffServer where
  allocations : Map String AllocationNamespaces
  ready : Bool
  readers : Nat
  writer : Option Write
  deriving DecidableEq

def uenvMountBase : String := "/run/pact/uenv"

namespace HandoffServer

def new : HandoffServer := ⟨.empty, false, 0, none⟩

def setReady (server : HandoffServer) : HandoffServer := { server with ready := true }

def free (server : HandoffServer) : Bool := server.readers = 0 ∧ server.writer = none

-- A write that does not get the lock at once is dropped.
def tryWrite (server : HandoffServer) (write : Write) : HandoffServer :=
  if server.free then { server with writer := some write } else server

def createNamespaces (server : HandoffServer) (request : NamespaceRequest) :
    HandoffServer × Except NamespaceError NamespaceResponse :=
  if server.ready then
    let uenvMountPath := request.uenvImage.map fun image =>
      uenvMountBase ++ "/" ++ remove image ".sqfs"
    (server.tryWrite (.Create request),
      .ok ⟨request.allocationId, request.namespaces, uenvMountPath⟩)
  else (server, .error (.SocketUnavailable "node not ready"))

def releaseNamespaces (server : HandoffServer) (allocationId : String) :
    HandoffServer × Except NamespaceError Unit :=
  (server.tryWrite (.Release allocationId), .ok ())

end HandoffServer

def Write.allocationId : Write → String
  | .Create request => request.allocationId
  | .Release allocationId => allocationId
  | .Ended allocationId => allocationId

def NamespaceRequest.tracked (request : NamespaceRequest) : AllocationNamespaces :=
  ⟨request.allocationId, request.namespaces, request.uenvImage⟩

def Write.apply (allocations : Map String AllocationNamespaces) :
    Write → Map String AllocationNamespaces
  | .Create request => allocations.insert request.allocationId request.tracked
  | .Release allocationId => allocations.erase allocationId
  | .Ended allocationId => allocations.erase allocationId

-- A call of on_allocation_ended begins here when it gets the lock it waits for. Write is the rest
-- of any call that has the lock: it writes, lets go of the lock and returns.
inductive HandoffStep
  | SetReady
  | ReadLock
  | ReadUnlock
  | Create (request : NamespaceRequest)
  | Release (allocationId : String)
  | Ended (allocationId : String)
  | Write
  deriving DecidableEq

def handoffNext (server : HandoffServer) : HandoffStep → Option HandoffServer
  | .SetReady => some server.setReady
  | .ReadLock =>
    if server.writer = none then some { server with readers := server.readers + 1 } else none
  | .ReadUnlock =>
    if 0 < server.readers then some { server with readers := server.readers - 1 } else none
  | .Create request => some (server.createNamespaces request).1
  | .Release allocationId => some (server.releaseNamespaces allocationId).1
  | .Ended allocationId =>
    if server.free then some { server with writer := some (.Ended allocationId) } else none
  | .Write =>
    match server.writer with
    | some write => some { server with allocations := write.apply server.allocations, writer := none }
    | none => none

-- The calls that return with success in a step: one that is not going to write at once, one that
-- is when it has written.
def returned (server : HandoffServer) : HandoffStep → List Write
  | .Create request => if server.ready ∧ server.free = false then [.Create request] else []
  | .Release allocationId => if server.free then [] else [.Release allocationId]
  | .Write => server.writer.toList
  | _ => []

end Pact.Agent.Handoff
