import Pact.Journal.ConfigService
import Pact.Journal.Heartbeat
import Pact.Journal.PolicyService

namespace Pact.Journal

open Pact.Library Pact.Common

-- The requests that change the journal through the config and policy services. `approvalId` is
-- the random id that an evaluation draws.
inductive Rpc
  | AppendEntry (request : Request Proto.AppendEntryRequest)
  | Evaluate (approvalId : String) (request : Request Proto.PolicyEvalRequest)
  | UpdatePolicy (request : Request Proto.UpdatePolicyRequest)
  | DecideApproval (request : Request Proto.DecideApprovalRequest)
  deriving DecidableEq

def Handler.command {Answer : Type} : Handler Answer → Option JournalCommand
  | .Return _ => none
  | .Write cmd _ => some cmd

-- The write that a request leads to, from the state its handler reads and the handler's clock.
def Rpc.command (platform : Platform) (opaClient : Option PolicyService.OpaClient)
    (s : JournalState) (now : DateTime) : Rpc → Option JournalCommand
  | .AppendEntry request => (intercepted (ConfigService.appendEntry now) request).command
  | .Evaluate approvalId request =>
    (intercepted (PolicyService.evaluate opaClient s approvalId now) request).command
  | .UpdatePolicy request => (intercepted (PolicyService.updatePolicy platform) request).command
  | .DecideApproval request => (intercepted PolicyService.decideApproval request).command

-- The commands of everything else that writes to the journal: the enrollment service, and the
-- monitor that expires approvals.
def isBackground : JournalCommand → Bool
  | .AppendEntry _ => false
  | .SetPolicy _ _ => false
  | .CreateApproval _ => false
  | .DecideApproval _ approver decision => approver = systemIdentity ∧ decision = .Expired
  | _ => true

-- A write that has been handed to consensus and not been applied yet, with its request.
structure Submission where
  rpc : Rpc
  cmd : JournalCommand
  deriving DecidableEq

structure Server where
  journal : JournalState
  submissions : List Submission
  deriving DecidableEq

-- Submissions are applied in any order, or lost.
inductive ServerStep
  | Receive (now : DateTime) (rpc : Rpc)
  | Commit (now : DateTime) (index : Nat)
  | Lose (index : Nat)
  | Background (now : DateTime) (cmd : JournalCommand)
  deriving DecidableEq

def serverNext (platform : Platform) (opaClient : Option PolicyService.OpaClient) (server : Server) :
    ServerStep → Option Server
  | .Receive now rpc =>
    match rpc.command platform opaClient server.journal now with
    | some cmd => some { server with submissions := server.submissions ++ [⟨rpc, cmd⟩] }
    | none => some server
  | .Commit now index =>
    (server.submissions[index]?).map fun submission =>
      ⟨(apply platform now server.journal submission.cmd).1, server.submissions.eraseIdx index⟩
  | .Lose index =>
    if index < server.submissions.length then
      some { server with submissions := server.submissions.eraseIdx index }
    else none
  | .Background now cmd =>
    if isBackground cmd then
      some { server with journal := (apply platform now server.journal cmd).1 }
    else none

end Pact.Journal
