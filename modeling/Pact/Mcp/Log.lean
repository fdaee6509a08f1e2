import Pact.Cli.Log
import Pact.Mcp.Connected

namespace Pact.Mcp

open Pact.Library Pact.Common Pact.Journal Pact.Journal.ConfigService
open Pact.Cli (ListCall Display parseScopeFilter entryTypeName scopeLabel authorLabel logText intact
  intact_eq)

def formatEntry (entry : Proto.ConfigEntry) : String :=
  "#" ++ toString entry.sequence ++ " " ++ entryTypeName entry.entryType ++ " " ++
    scopeLabel entry.scope ++ " by " ++ authorLabel entry.author

-- How many entries are asked for: of the number given only 32 bits are sent.
def askedFor (args : Json) : Nat := ((args.get "n").bind Json.asU64).getD 20

def logRequest (args : Json) : Proto.ListEntriesRequest :=
  ⟨(args.getStr "scope").map parseScopeFilter, none, none, some (askedFor args % 2 ^ 32)⟩

-- The loop over the stream: an error in it only ends the reading.
def readEntries : List (Except Status Proto.ConfigEntry) → List String
  | .ok entry :: rest => formatEntry entry :: readEntries rest
  | _ => []

def handleLog (printer : Printer) (args : Json) (call : ListCall) : ToolCallResult :=
  match call (logRequest args) with
  | .ok stream => ⟨logText (readEntries stream), false⟩
  | .error status => ⟨"Error querying log: " ++ printer.statusText status, true⟩

-- Assignment by key: null counts as an object without members, and any other value that is not
-- an object panics, which gives none here. Nothing reads the order of the members.
def Json.set (value : Json) (key : String) (new : Json) : Option Json :=
  match value with
  | .Null => some (.Object [(key, new)])
  | .Object members => some (.Object ((key, new) :: members.filter fun member => member.1 ≠ key))
  | _ => none

def isIndexable : Json → Bool
  | .Null | .Object _ => true
  | _ => false

def diffNode (args : Json) : String := (args.getStr "node").getD "current"

def handleDiff (printer : Printer) (args : Json) (call : ListCall) : Option ToolCallResult := do
  let modified ← args.set "scope" (.Text ("node:" ++ diffNode args))
  let modified ← modified.set "n" (.Number (.PosInt 50))
  some (handleLog printer modified call)

theorem readEntries_ok (entries : List Proto.ConfigEntry) :
    readEntries (entries.map .ok) = entries.map formatEntry := by
  induction entries with
  | nil => rfl
  | cons entry rest ih => rw [List.map_cons, readEntries, ih, List.map_cons]

theorem handleLog_eq (printer : Printer) (args : Json) (s : JournalState) (broken : Status) :
    handleLog printer args (intact s broken) =
      ⟨logText ((firstMatching s (logRequest args)).map fun stored =>
        formatEntry (configEntryToProto stored.2)), false⟩ := by
  have hlines := readEntries_ok ((firstMatching s (logRequest args)).map fun stored =>
    configEntryToProto stored.2)
  rw [List.map_map, List.map_map] at hlines
  rw [handleLog, logRequest, intact_eq, ← logRequest]
  exact congrArg (fun lines => ToolCallResult.mk (logText lines) false) hlines

def diffRequest (node : String) : Proto.ListEntriesRequest :=
  ⟨some ⟨some (.NodeId node)⟩, none, none, some 50⟩

theorem parseScopeFilter_node (node : String) :
    parseScopeFilter ("node:" ++ node) = ⟨some (.NodeId node)⟩ := by
  simp [parseScopeFilter]

theorem handleDiff_eq (printer : Printer) (args : Json) (s : JournalState) (broken : Status) :
    handleDiff printer args (intact s broken) =
      if isIndexable args then
        some ⟨logText ((firstMatching s (diffRequest (diffNode args))).map fun stored =>
          formatEntry (configEntryToProto stored.2)), false⟩
      else none := by
  have hrequest : ∀ members,
      logRequest (.Object (("n", .Number (.PosInt 50)) ::
        ("scope", .Text ("node:" ++ diffNode args)) :: members)) =
      diffRequest (diffNode args) := by
    intro members
    simp [logRequest, askedFor, Json.getStr, Json.get, Json.asStr, Json.asU64, diffRequest,
      parseScopeFilter_node, List.lookup]
  cases args with
  | Null =>
    have hlines := handleLog_eq printer (.Object [("n", .Number (.PosInt 50)),
      ("scope", .Text ("node:" ++ diffNode .Null))]) s broken
    rw [hrequest] at hlines
    simpa [handleDiff, Json.set, isIndexable] using hlines
  | Object members =>
    have hlines := handleLog_eq printer (.Object (("n", .Number (.PosInt 50)) ::
      ("scope", .Text ("node:" ++ diffNode (.Object members))) ::
      (members.filter fun member => member.1 ≠ "scope").filter fun member => member.1 ≠ "n")) s
      broken
    rw [hrequest] at hlines
    simpa [handleDiff, Json.set, isIndexable] using hlines
  | _ => rfl

section Latest

variable (display : Display) (printer : Printer) (s : JournalState) (broken : Status)

def latest (req : Proto.ListEntriesRequest) (asked : Nat) : List (Nat × ConfigEntry) :=
  (matching s req).rtake asked

theorem firstMatching_perm_latest_iff (req : Proto.ListEntriesRequest) (limit asked : Nat)
    (hlimit : req.limit = some limit) (hle : limit ≤ asked) :
    (firstMatching s req).Perm (latest s req asked) ↔
      (matching s req).length ≤ limit ∨ asked = 0 := by
  simp only [firstMatching, hlimit, latest]
  exact take_perm_rtake_iff _ (matching_nodup s req) limit asked hle

-- What pact log and the log and diff tools show are the first of the matching entries, and those
-- are the latest only if there are no more than the limit, or none are asked for.
theorem log_shows_latest_iff :
    (∀ limit scope,
      Cli.log display (intact s broken) limit scope =
          .ok (logText ((firstMatching s (Cli.logRequest limit scope)).map fun stored =>
            Cli.formatProtoEntry display (configEntryToProto stored.2))) ∧
        ((firstMatching s (Cli.logRequest limit scope)).Perm
            (latest s (Cli.logRequest limit scope) limit) ↔
          (matching s (Cli.logRequest limit scope)).length ≤ limit ∨ limit = 0)) ∧
    (∀ args,
      handleLog printer args (intact s broken) =
          ⟨logText ((firstMatching s (logRequest args)).map fun stored =>
            formatEntry (configEntryToProto stored.2)), false⟩ ∧
        ((firstMatching s (logRequest args)).Perm (latest s (logRequest args) (askedFor args)) ↔
          (matching s (logRequest args)).length ≤ askedFor args % 2 ^ 32 ∨ askedFor args = 0)) ∧
    ∀ args,
      handleDiff printer args (intact s broken) =
          (if isIndexable args then
            some ⟨logText ((firstMatching s (diffRequest (diffNode args))).map fun stored =>
              formatEntry (configEntryToProto stored.2)), false⟩
          else none) ∧
        ((firstMatching s (diffRequest (diffNode args))).Perm
            (latest s (diffRequest (diffNode args)) 50) ↔
          (matching s (diffRequest (diffNode args))).length ≤ 50) := by
  refine ⟨?_, ?_, ?_⟩
  · intro limit scope
    exact ⟨Cli.log_eq display s broken limit scope,
      firstMatching_perm_latest_iff s _ limit limit rfl le_rfl⟩
  · intro args
    exact ⟨handleLog_eq printer args s broken,
      firstMatching_perm_latest_iff s _ _ _ rfl (Nat.mod_le _ _)⟩
  · intro args
    refine ⟨handleDiff_eq printer args s broken, ?_⟩
    rw [firstMatching_perm_latest_iff s _ 50 50 rfl le_rfl]
    exact or_iff_left (by decide)

end Latest

def epochDisplay : Display where
  statusText := Status.message
  formatTime seconds := if seconds = 0 then some "1970-01-01 00:00:00" else none

-- Node n1 has an entry by bob and a later one by carol. Asked for one entry, the log shows bob's.
theorem log_shows_oldest :
    Cli.log epochDisplay (intact listedJournal ⟨.Internal, ""⟩) 1 (some "node:n1") =
      .ok "#1      1970-01-01 00:00:00 COMMIT             node:n1              by bob" ∧
    handleLog ⟨fun _ => "", Status.message⟩
        (.Object [("n", .Number (.PosInt 1)), ("scope", .Text "node:n1")])
        (intact listedJournal ⟨.Internal, ""⟩) = ⟨"#1 COMMIT node:n1 by bob", false⟩ ∧
    (latest listedJournal (Cli.logRequest 1 (some "node:n1")) 1).map
        (fun stored => stored.2.author.principal) = ["carol"] ∧
    ¬(firstMatching listedJournal (Cli.logRequest 1 (some "node:n1"))).Perm
      (latest listedJournal (Cli.logRequest 1 (some "node:n1")) 1) := by
  decide +kernel

end Pact.Mcp
