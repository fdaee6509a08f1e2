import Pact.Journal.State

namespace Pact.Journal

open Pact.Library Pact.Common

def systemIdentity : Identity := ⟨"system", .Service, "pact-service-agent"⟩

-- The Active enrollments last seen too long ago. The ids come from the records.
def timedOut (s : JournalState) (now : DateTime) (timeoutSeconds : Nat) : List NodeId :=
  (s.enrollments.values.filter fun enrollment =>
    enrollment.state = .Active ∧
      enrollment.lastSeen.any fun seen => now - seen > DateTime.seconds timeoutSeconds).map
    NodeEnrollment.nodeId

def expiredApprovals (s : JournalState) (now : DateTime) : List String :=
  (s.pendingApprovals.values.filter fun approval =>
    approval.status = .Pending ∧ now > approval.expiresAt).map PendingApproval.approvalId

-- The monitor alternates two sweeps. Each reads the state once, releases the lock and then
-- writes one command for each id that it read.
inductive Sweep
  | Deactivating (nodes : List NodeId)
  | Expiring (approvals : List String)
  deriving DecidableEq

structure Monitored where
  journal : JournalState
  sweep : Sweep
  deriving DecidableEq

-- The maps have no fixed iteration order, so a sweep names the order it found. A write of the
-- monitor may be lost, and the monitor goes on to the next id either way.
inductive MonitorStep
  | Command (now : DateTime) (cmd : JournalCommand)
  | CheckTimeouts (now : DateTime) (order : List NodeId)
  | DeactivateNext (now : DateTime) (committed : Bool)
  | ExpireApprovals (now : DateTime) (order : List String)
  | ExpireNext (now : DateTime) (committed : Bool)

def writeIf (committed : Bool) (platform : Platform) (now : DateTime) (s : JournalState)
    (cmd : JournalCommand) : JournalState :=
  if committed then (apply platform now s cmd).1 else s

def monitorNext (platform : Platform) (timeoutSeconds : Nat) (m : Monitored) :
    MonitorStep → Option Monitored
  | .Command now cmd => some { m with journal := (apply platform now m.journal cmd).1 }
  | .CheckTimeouts now order =>
    if m.sweep = .Expiring [] ∧ order.Perm (timedOut m.journal now timeoutSeconds) then
      some { m with sweep := .Deactivating order }
    else none
  | .DeactivateNext now committed =>
    match m.sweep with
    | .Deactivating (nodeId :: rest) =>
      some ⟨writeIf committed platform now m.journal (.DeactivateNode nodeId), .Deactivating rest⟩
    | _ => none
  | .ExpireApprovals now order =>
    if m.sweep = .Deactivating [] ∧ order.Perm (expiredApprovals m.journal now) then
      some { m with sweep := .Expiring order }
    else none
  | .ExpireNext now committed =>
    match m.sweep with
    | .Expiring (approvalId :: rest) =>
      some ⟨writeIf committed platform now m.journal
        (.DecideApproval approvalId systemIdentity .Expired), .Expiring rest⟩
    | _ => none

def Revoked (s : JournalState) (nodeId : NodeId) : Prop :=
  ∃ record, s.enrollments.get nodeId = some record ∧ record.state = .Revoked

instance (s : JournalState) (nodeId : NodeId) : Decidable (Revoked s nodeId) :=
  decidable_of_iff ((s.enrollments.get nodeId).any fun record => record.state = .Revoked) (by
    simp [Revoked, Option.any_eq_true])

end Pact.Journal
