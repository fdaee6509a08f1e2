import Pact.Cli.Apply
import Pact.Journal.EnrollmentService.Registration

namespace Pact.Cli.Import

open Pact.Library Pact.Common Pact.Journal

structure SmdComponent where
  id : String
  role : String
  deriving DecidableEq

structure SmdEthernetInterface where
  componentId : String
  macAddress : String
  deriving DecidableEq

-- What the inventory answers. An answer about interfaces that is no success or cannot be read
-- counts as none.
structure Smd where
  components : Except String (List SmdComponent)
  ethernet : String → Except String (List SmdEthernetInterface)

def querySmdComponents (smd : Smd) (group : Option String) : Except String (List SmdComponent) :=
  smd.components.map fun components =>
    match group with
    | some wanted => components.filter fun component => eqIgnoreAsciiCase component.role wanted
    | none => components

-- The MAC address of a node is that of the first interface that names it, or empty.
def parseSmdEnrollmentData (components : List SmdComponent)
    (interfaces : List SmdEthernetInterface) : List (NodeId × String) :=
  components.map fun component =>
    (component.id,
      ((interfaces.find? fun interface => interface.componentId = component.id).map
        SmdEthernetInterface.macAddress).getD "")

-- The journal that is imported into, and the token of the caller.
structure Target where
  platform : Platform
  config : EnrollmentService.Config
  library : RpcLibrary
  token : String

def registerRequest (nodeId : NodeId) (mac : String) : Proto.RegisterNodeRequest :=
  ⟨nodeId, some ⟨mac, "", .empty⟩⟩

def register (target : Target) (journal : JournalState) (delivery : Delivery) (nodeId : NodeId)
    (mac : String) : JournalState × Except Status Proto.RegisterNodeResponse :=
  let found := delivery.finds target.platform journal
  match authorize target.library target.token with
  | .error status => (found, .error status)
  | .ok authorization =>
    match delivery with
    | .Unreachable status => (found, .error status)
    | .Served _ now consensus lostReply =>
      let (after, result) :=
        (EnrollmentService.registerNode target.config now
          ⟨authorization, registerRequest nodeId mac⟩).finish target.platform consensus found
      match lostReply with
      | none => (after, result)
      | some status => (after, .error status)

-- The record of one call: the journal it found and the answer that came back.
structure Step where
  nodeId : NodeId
  mac : String
  delivery : Delivery
  found : JournalState
  answer : Except Status Proto.RegisterNodeResponse

def registerAll (target : Target) (journal : JournalState) :
    List ((NodeId × String) × Delivery) → JournalState × List Step
  | [] => (journal, [])
  | ((nodeId, mac), delivery) :: rest =>
    let (after, answer) := register target journal delivery nodeId mac
    let (last, steps) := registerAll target after rest
    (last, ⟨nodeId, mac, delivery, delivery.finds target.platform journal, answer⟩ :: steps)

-- The message is all that tells the client why it was refused.
def mentionsEnrolled (msg : String) : Bool :=
  contains msg "already enrolled" ∨ contains msg "already registered"

-- The counters are u32.
structure Tally where
  enrolled : Nat
  alreadyEnrolled : Nat
  failed : Nat
  errors : List String
  deriving DecidableEq

def Tally.count (tally : Tally) (step : Step) : Tally :=
  match step.answer with
  | .ok _ => { tally with enrolled := (tally.enrolled + 1) % 2 ^ 32 }
  | .error status =>
    if mentionsEnrolled status.message then
      { tally with alreadyEnrolled := (tally.alreadyEnrolled + 1) % 2 ^ 32 }
    else
      { tally with
        failed := (tally.failed + 1) % 2 ^ 32
        errors := tally.errors ++ ["  " ++ step.nodeId ++ ": " ++ status.message] }

def tally (steps : List Step) : Tally := steps.foldl Tally.count ⟨0, 0, 0, []⟩

def Tally.text (tally : Tally) (discovered : Nat) : String :=
  join "\n" (("Imported from SMD: " ++ toString tally.enrolled ++ " enrolled, " ++
    toString tally.alreadyEnrolled ++ " already enrolled, " ++ toString tally.failed ++
    " failed (out of " ++ toString discovered ++ " discovered)") :: tally.errors)

def calls (data : List (NodeId × String)) (deliveries : Nat → Delivery) :
    List ((NodeId × String) × Delivery) :=
  data.mapIdx fun i node => (node, deliveries i)

def importFromSmd (target : Target) (smd : Smd) (group : Option String)
    (deliveries : Nat → Delivery) (journal : JournalState) : JournalState × Except String String :=
  match querySmdComponents smd group with
  | .error error => (journal, .error error)
  | .ok components =>
    if components = [] then (journal, .ok "No nodes found in SMD inventory.")
    else
      match components.mapM fun component => smd.ethernet component.id with
      | .error error => (journal, .error error)
      | .ok interfaces =>
        let data := parseSmdEnrollmentData components interfaces.flatten
        let (after, steps) := registerAll target journal (calls data deliveries)
        (after, .ok ((tally steps).text data.length))

end Pact.Cli.Import
