import Pact.Journal.State
import Pact.Library.Text

namespace Pact.Journal

open Pact.Library Pact.Common

inductive Code
  | InvalidArgument
  | NotFound
  | AlreadyExists
  | PermissionDenied
  | ResourceExhausted
  | FailedPrecondition
  | Internal
  | Unauthenticated
  deriving DecidableEq

structure Status where
  code : Code
  message : String
  deriving DecidableEq

-- A value of the metadata of a request: visible ASCII text, or bytes that are not.
inductive MetadataValue
  | Text (text : String)
  | Binary (bytes : List UInt8)
  deriving DecidableEq

structure Request (Body : Type) where
  authorization : Option MetadataValue
  body : Body
  deriving DecidableEq

def authInterceptor (authorization : Option MetadataValue) : Except Status Unit :=
  match authorization with
  | some (.Text token) =>
    if startsWith token "Bearer " then .ok ()
    else .error ⟨.Unauthenticated, "expected Bearer token"⟩
  | some (.Binary _) => .error ⟨.Unauthenticated, "invalid authorization header"⟩
  | none => .error ⟨.Unauthenticated, "missing authorization header"⟩

-- What a handler does once it has read the state: it answers, or it writes one command
-- through consensus and answers from the response of the state machine.
inductive Handler (Answer : Type)
  | Return (result : Except Status Answer)
  | Write (cmd : JournalCommand) (answer : JournalResponse → Except Status Answer)

-- How a write ends, with the clock of the replica that applies it. A write that the caller
-- sees fail may still be applied.
inductive Consensus
  | Committed (now : DateTime)
  | Failed (error : String) (applied : Option DateTime)

def Consensus.applies : Consensus → Bool
  | .Committed _ => true
  | .Failed _ applied => applied.isSome

def clientWrite (platform : Platform) (consensus : Consensus) (s : JournalState)
    (cmd : JournalCommand) : JournalState × Except String JournalResponse :=
  match consensus with
  | .Committed now =>
    let (after, response) := apply platform now s cmd
    (after, .ok response)
  | .Failed error applied => (applied.elim s fun now => (apply platform now s cmd).1, .error error)

def Handler.finish {Answer : Type} (platform : Platform) (consensus : Consensus)
    (s : JournalState) : Handler Answer → JournalState × Except Status Answer
  | .Return result => (s, result)
  | .Write cmd answer =>
    match clientWrite platform consensus s cmd with
    | (after, .ok response) => (after, answer response)
    | (after, .error error) => (after, .error ⟨.Internal, "Raft write failed: " ++ error⟩)

def Handler.map {Answer Other : Type} (f : Answer → Other) : Handler Answer → Handler Other
  | .Return result => .Return (result.map f)
  | .Write cmd answer => .Write cmd fun response => (answer response).map f

def intercepted {Body Answer : Type} (handler : Body → Handler Answer) (request : Request Body) :
    Handler Answer :=
  match authInterceptor request.authorization with
  | .error status => .Return (.error status)
  | .ok () => handler request.body

end Pact.Journal
