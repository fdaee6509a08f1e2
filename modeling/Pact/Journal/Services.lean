import Pact.Journal.EnrollmentService.Assignment
import Pact.Journal.EnrollmentService.Registration
import Pact.Journal.Server

namespace Pact.Journal

open Pact.Library Pact.Common EnrollmentService

-- An assignment that has read the journal and not written yet.
structure PendingAssignment where
  seen : JournalState
  call : AssignmentCall
  deriving DecidableEq

-- The journal with everything that writes to it: the requests to the config and policy services,
-- the calls of the enrollment service and the monitor.
structure Services where
  journal : JournalState
  submissions : List Submission
  calls : List EnrollmentService.Call
  batches : List Batch
  assignments : List PendingAssignment
  sweep : Sweep
  deriving DecidableEq

def Services.start : Services := ⟨.default, [], [], [], [], .Expiring []⟩

-- Each part takes its steps at any time. Elsewhere stands for commands that no service issues.
inductive ServiceStep
  | Server (step : ServerStep)
  | Enrollment (step : EnrollmentService.Step)
  | Monitor (step : MonitorStep)
  | RegisterNode (now : DateTime) (request : Request Proto.RegisterNodeRequest)
      (consensus : Consensus)
  | BatchRegisterNodes (request : Request Proto.BatchRegisterNodesRequest)
  | RegisterNext (index : Nat) (now : DateTime) (consensus : Consensus)
  | Assignment (call : AssignmentCall)
  | FinishAssignment (index : Nat) (consensus : Consensus)
  | Elsewhere (now : DateTime) (cmd : JournalCommand)

structure ServiceConfig where
  platform : Platform
  enrollment : EnrollmentService.Config
  opaClient : Option PolicyService.OpaClient
  timeoutSeconds : Nat

def servicesNext (config : ServiceConfig) (services : Services) : ServiceStep → Option Services
  | .Server (.Background _ _) => none
  | .Server step =>
    (serverNext config.platform config.opaClient ⟨services.journal, services.submissions⟩ step).map
      fun after => { services with journal := after.journal, submissions := after.submissions }
  | .Enrollment (.Background _ _) => none
  | .Enrollment step =>
    (EnrollmentService.next config.platform config.enrollment
      ⟨services.journal, services.calls⟩ step).map
      fun after => { services with journal := after.journal, calls := after.calls }
  | .Monitor (.Command _ _) => none
  | .Monitor step =>
    (monitorNext config.platform config.timeoutSeconds ⟨services.journal, services.sweep⟩ step).map
      fun after => { services with journal := after.journal, sweep := after.sweep }
  | .RegisterNode now request consensus =>
    let handler := EnrollmentService.registerNode config.enrollment now request
    some { services with
      journal := (handler.finish config.platform consensus services.journal).1 }
  | .BatchRegisterNodes request =>
    match batchRegisterNodes config.enrollment request with
    | .ok batch => some { services with batches := services.batches ++ [batch] }
    | .error _ => some services
  | .RegisterNext index now consensus =>
    (services.batches[index]?).bind fun batch =>
      (batch.round config.platform config.enrollment now consensus services.journal).map
        fun (journal, after) =>
          { services with journal := journal, batches := services.batches.set index after }
  | .Assignment call =>
    some { services with assignments := services.assignments ++ [⟨services.journal, call⟩] }
  | .FinishAssignment index consensus =>
    (services.assignments[index]?).map fun pending =>
      { services with
        journal := (pending.call.finish config.platform config.enrollment consensus pending.seen
          services.journal).1
        assignments := services.assignments.eraseIdx index }
  | .Elsewhere now cmd =>
    some { services with journal := (apply config.platform now services.journal cmd).1 }

end Pact.Journal
