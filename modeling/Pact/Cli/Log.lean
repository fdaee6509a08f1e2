import Pact.Journal.ConfigService.Listing

namespace Pact.Cli

open Pact.Library Pact.Common Pact.Journal Pact.Journal.ConfigService

-- A call of list_entries: what comes of the stream, if the call gets through.
abbrev ListCall : Type :=
  Proto.ListEntriesRequest → Except Status (List (Except Status Proto.ConfigEntry))

-- The printed form of a gRPC status, and the date and time that chrono prints for a number of
-- seconds, if it is in range.
structure Display where
  statusText : Status → String
  formatTime : Int → Option String

def parseScopeFilter (text : String) : Proto.Scope :=
  match stripPrefix text "node:" with
  | some node => ⟨some (.NodeId node)⟩
  | none =>
    match stripPrefix text "vc:" with
    | some vcluster => ⟨some (.VclusterId vcluster)⟩
    | none => ⟨some (.Global true)⟩

def entryTypeName (entryType : Int) : String :=
  if entryType = 1 then "COMMIT"
  else if entryType = 2 then "ROLLBACK"
  else if entryType = 3 then "AUTO_CONVERGE"
  else if entryType = 4 then "DRIFT_DETECTED"
  else if entryType = 5 then "CAPABILITY_CHANGE"
  else if entryType = 6 then "POLICY_UPDATE"
  else if entryType = 7 then "BOOT_CONFIG"
  else if entryType = 8 then "EMERGENCY_ON"
  else if entryType = 9 then "EMERGENCY_OFF"
  else if entryType = 10 then "EXEC_LOG"
  else if entryType = 11 then "SHELL_SESSION"
  else if entryType = 12 then "SERVICE_LIFECYCLE"
  else if entryType = 13 then "PENDING_APPROVAL"
  else "UNKNOWN"

def scopeLabel (scope : Option Proto.Scope) : String :=
  match scope.bind Proto.Scope.scope with
  | some (.NodeId node) => "node:" ++ node
  | some (.VclusterId vcluster) => "vc:" ++ vcluster
  | _ => "global"

def authorLabel (author : Option Proto.Identity) : String :=
  (author.map Proto.Identity.principal).getD "unknown"

def timeLabel (display : Display) (timestamp : Option Proto.Timestamp) : String :=
  (timestamp.bind fun time => display.formatTime time.seconds).getD "---"

def padRight (width : Nat) (text : String) : String :=
  text ++ String.ofList (List.replicate (width - text.length) ' ')

def formatProtoEntry (display : Display) (entry : Proto.ConfigEntry) : String :=
  "#" ++ padRight 6 (toString entry.sequence) ++ " " ++ timeLabel display entry.timestamp ++ " " ++
    padRight 18 (entryTypeName entry.entryType) ++ " " ++ padRight 20 (scopeLabel entry.scope) ++
    " by " ++ authorLabel entry.author

def logRequest (limit : Nat) (scope : Option String) : Proto.ListEntriesRequest :=
  ⟨scope.map parseScopeFilter, none, none, some limit⟩

def readLog (display : Display) :
    List (Except Status Proto.ConfigEntry) → Except String (List String)
  | [] => .ok []
  | .ok entry :: rest => (readLog display rest).map (formatProtoEntry display entry :: ·)
  | .error status :: _ => .error ("log stream error: " ++ display.statusText status)

def logText (lines : List String) : String :=
  if lines = [] then "No entries found." else join "\n" lines

def log (display : Display) (call : ListCall) (limit : Nat) (scope : Option String) :
    Except String String :=
  match call (logRequest limit scope) with
  | .error status => .error ("log query failed: " ++ display.statusText status)
  | .ok stream => (readLog display stream).map logText

-- Everything the journal sends arrives. A call whose handler panics ends with some status.
def intact (s : JournalState) (broken : Status) : ListCall := fun req =>
  match listEntries s req with
  | some entries => .ok (entries.map .ok)
  | none => .error broken

theorem intact_eq (s : JournalState) (broken : Status) (scope : Option Proto.Scope) (limit : Nat) :
    intact s broken ⟨scope, none, none, some limit⟩ =
      .ok ((firstMatching s ⟨scope, none, none, some limit⟩).map fun stored =>
        .ok (configEntryToProto stored.2)) := by
  have hrange : ¬(u64Max < 0 ∧ s.entries ≠ .empty) := fun h => absurd h.1 (Nat.not_lt_zero _)
  rw [intact, listEntries_of_range s ⟨scope, none, none, some limit⟩ hrange]
  dsimp only
  rw [List.map_map]
  rfl

theorem readLog_ok (display : Display) (entries : List Proto.ConfigEntry) :
    readLog display (entries.map .ok) = .ok (entries.map (formatProtoEntry display)) := by
  induction entries with
  | nil => rfl
  | cons entry rest ih => rw [List.map_cons, readLog, ih, List.map_cons, Except.map]

-- What the command prints are the first of the matching entries.
theorem log_eq (display : Display) (s : JournalState) (broken : Status) (limit : Nat)
    (scope : Option String) :
    log display (intact s broken) limit scope =
      .ok (logText ((firstMatching s (logRequest limit scope)).map fun stored =>
        formatProtoEntry display (configEntryToProto stored.2))) := by
  have hlines := readLog_ok display ((firstMatching s (logRequest limit scope)).map fun stored =>
    configEntryToProto stored.2)
  rw [List.map_map, List.map_map] at hlines
  rw [log, logRequest, intact_eq, ← logRequest]
  exact congrArg (Except.map logText) hlines

end Pact.Cli
