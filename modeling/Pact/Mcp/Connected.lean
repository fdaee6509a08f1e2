import Pact.Common.Proto
import Pact.Journal.Rpc

namespace Pact.Mcp

open Pact.Library Pact.Common Pact.Journal

inductive JsonNumber
  | PosInt (value : Nat)
  | NegInt (value : Int)
  | Float (value : F64)

-- The members of an object have distinct keys.
inductive Json
  | Null
  | Bool (value : Bool)
  | Number (value : JsonNumber)
  | Text (value : String)
  | Array (items : List Json)
  | Object (members : List (String × Json))

def Json.get (value : Json) (key : String) : Option Json :=
  match value with
  | .Object members => members.lookup key
  | _ => none

def Json.asStr : Json → Option String
  | .Text value => some value
  | _ => none

def Json.asU64 : Json → Option Nat
  | .Number (.PosInt value) => some value
  | _ => none

def Json.getStr (value : Json) (key : String) : Option String := (value.get key).bind Json.asStr

structure ToolCallResult where
  text : String
  isError : Bool
  deriving DecidableEq

-- A tool that writes to the journal answers by itself, or it sends one entry and turns the
-- journal's answer into its own.
inductive ToolCall
  | Answer (result : ToolCallResult)
  | Append (entry : Proto.ConfigEntry)
      (render : Except Status Proto.AppendEntryResponse → ToolCallResult)

-- The serializer of JSON values and the printed form of a gRPC status.
structure Printer where
  jsonToString : Json → String
  statusText : Status → String

-- Every entry from here has the same author.
def agentEntry (entryType : Int) (vcluster : String) (parent : Option Nat) (policyRef : String) :
    Proto.ConfigEntry where
  sequence := 0
  timestamp := none
  entryType := entryType
  scope := some ⟨some (.VclusterId vcluster)⟩
  author := some ⟨"mcp-agent", "Agent", "pact-service-ai"⟩
  parent := parent
  stateDelta := none
  policyRef := policyRef
  ttl := none
  emergencyReason := none

def render (printer : Printer) (success : Nat → String) (failure : String)
    (answer : Except Status Proto.AppendEntryResponse) : ToolCallResult :=
  match answer with
  | .ok response => ⟨success response.sequence, false⟩
  | .error status => ⟨failure ++ printer.statusText status, true⟩

def handleCommit (printer : Printer) (args : Json) : ToolCall :=
  match args.getStr "message" with
  | none => .Answer ⟨"Error: commit message required", true⟩
  | some message =>
    let vcluster := (args.getStr "vcluster").getD "default"
    .Append (agentEntry 1 vcluster none message)
      (render printer
        (fun sequence => "Committed (seq:" ++ toString sequence ++ ") on vCluster: " ++ vcluster)
        "Commit failed: ")

def handleRollback (printer : Printer) (args : Json) : ToolCall :=
  match (args.get "sequence").bind Json.asU64 with
  | none => .Answer ⟨"Error: sequence number required", true⟩
  | some target =>
    let vcluster := (args.getStr "vcluster").getD "default"
    .Append (agentEntry 2 vcluster (some target) "")
      (render printer
        (fun sequence => "Rolled back to seq:" ++ toString target ++ " (new seq:" ++
          toString sequence ++ ")")
        "Rollback failed: ")

-- Only the text start is refused: every other text counts as a request to end.
def handleEmergency (printer : Printer) (args : Json) : ToolCall :=
  match args.getStr "action" with
  | none => .Answer ⟨"Error: action required (start/end)", true⟩
  | some action =>
    if action = "start" then
      .Answer ⟨"Error: AI agents are restricted from entering emergency mode (P8). " ++
        "Request a human admin to enter emergency mode.", true⟩
    else
      let vcluster := (args.getStr "vcluster").getD "default"
      .Append (agentEntry 9 vcluster none "")
        (render printer (fun sequence => "Emergency mode ENDED (seq:" ++ toString sequence ++ ")")
          "Emergency end failed: ")

def handleApply (printer : Printer) (args : Json) : ToolCall :=
  match args.getStr "scope" with
  | none => .Answer ⟨"Error: scope required", true⟩
  | some scope =>
    let message := (args.getStr "message").getD "mcp-apply"
    match args.get "config" with
    | none => .Answer ⟨"Error: config required", true⟩
    | some config =>
      .Append (agentEntry 1 scope none (message ++ ": " ++ printer.jsonToString config))
        (render printer
          (fun sequence => "Applied to " ++ scope ++ " (seq:" ++ toString sequence ++ "): " ++
            message)
          "Apply failed: ")

def dispatchConnected (printer : Printer) (journal : Bool) (name : String) (args : Json) :
    Option ToolCall :=
  let call (handle : Printer → Json → ToolCall) : ToolCall :=
    if journal then handle printer args else .Answer ⟨"Error: not connected to journal", true⟩
  match name with
  | "pact_commit" => some (call handleCommit)
  | "pact_rollback" => some (call handleRollback)
  | "pact_emergency" => some (call handleEmergency)
  | "pact_apply" => some (call handleApply)
  | _ => none

def isHeaderText (text : String) : Bool :=
  text.toList.all fun c => c.toNat = 9 ∨ (32 ≤ c.toNat ∧ c.toNat < 127)

-- The header that the client puts on a request: none for an empty token.
def authorizationHeader (token : String) : Except Status (Option MetadataValue) :=
  if token = "" then .ok none
  else if isHeaderText ("Bearer " ++ token) then .ok (some (.Text ("Bearer " ++ token)))
  else .error ⟨.Internal, "invalid token format"⟩

def ToolCall.request (mcpToken : Option String) : ToolCall →
    Option (Request Proto.AppendEntryRequest)
  | .Answer _ => none
  | .Append entry _ =>
    match authorizationHeader (mcpToken.getD "") with
    | .ok authorization => some ⟨authorization, ⟨some entry⟩⟩
    | .error _ => none

end Pact.Mcp
