import Pact.Journal.Server.Authorization
import Pact.Mcp.Connected

namespace Pact.Mcp

open Pact.Library Pact.Common Pact.Policy Pact.Journal

theorem handleEmergency_append_iff (printer : Printer) (args : Json) :
    (∃ entry render, handleEmergency printer args = .Append entry render) ↔
      ∃ action, args.getStr "action" = some action ∧ action ≠ "start" := by
  simp only [handleEmergency]
  cases args.getStr "action" with
  | none => simp
  | some action => by_cases hstart : action = "start" <;> simp [hstart]

-- The entries that the tools send: commits, rollbacks and ends of an emergency.
def SentByAgent (entry : Proto.ConfigEntry) : Prop :=
  ∃ entryType vcluster parent policyRef, (entryType = 1 ∨ entryType = 2 ∨ entryType = 9) ∧
    entry = agentEntry entryType vcluster parent policyRef

section Sent

variable (printer : Printer) (args : Json) (entry : Proto.ConfigEntry)
  (answer : Except Status Proto.AppendEntryResponse → ToolCallResult)

theorem handleCommit_sent (h : handleCommit printer args = .Append entry answer) :
    SentByAgent entry := by
  simp only [handleCommit] at h
  split at h
  · cases h
  · obtain ⟨rfl, _⟩ := ToolCall.Append.inj h
    exact ⟨1, _, _, _, .inl rfl, rfl⟩

theorem handleRollback_sent (h : handleRollback printer args = .Append entry answer) :
    SentByAgent entry := by
  simp only [handleRollback] at h
  split at h
  · cases h
  · obtain ⟨rfl, _⟩ := ToolCall.Append.inj h
    exact ⟨2, _, _, _, .inr (.inl rfl), rfl⟩

theorem handleEmergency_sent (h : handleEmergency printer args = .Append entry answer) :
    SentByAgent entry := by
  simp only [handleEmergency] at h
  split at h
  · cases h
  · split_ifs at h
    obtain ⟨rfl, _⟩ := ToolCall.Append.inj h
    exact ⟨9, _, _, _, .inr (.inr rfl), rfl⟩

theorem handleApply_sent (h : handleApply printer args = .Append entry answer) :
    SentByAgent entry := by
  simp only [handleApply] at h
  split at h
  · cases h
  · split at h
    · cases h
    · obtain ⟨rfl, _⟩ := ToolCall.Append.inj h
      exact ⟨1, _, _, _, .inl rfl, rfl⟩

end Sent

theorem dispatchConnected_sent (printer : Printer) (journal : Bool) (name : String) (args : Json)
    (entry : Proto.ConfigEntry)
    (answer : Except Status Proto.AppendEntryResponse → ToolCallResult)
    (h : dispatchConnected printer journal name args = some (.Append entry answer)) :
    SentByAgent entry := by
  have hjournal : ∀ handle : Printer → Json → ToolCall,
      (if journal then handle printer args
        else .Answer ⟨"Error: not connected to journal", true⟩) = .Append entry answer →
      handle printer args = .Append entry answer := by
    intro handle hcall
    split_ifs at hcall
    exact hcall
  simp only [dispatchConnected] at h
  split at h
  · exact handleCommit_sent printer args entry answer (hjournal _ (Option.some.inj h))
  · exact handleRollback_sent printer args entry answer (hjournal _ (Option.some.inj h))
  · exact handleEmergency_sent printer args entry answer (hjournal _ (Option.some.inj h))
  · exact handleApply_sent printer args entry answer (hjournal _ (Option.some.inj h))
  · cases h

theorem agentEntry_decoded (now : DateTime) (entry : Proto.ConfigEntry) (decoded : ConfigEntry)
    (hsent : SentByAgent entry)
    (h : ConfigService.protoToConfigEntry now entry = .ok decoded) :
    (∃ action, entryAction decoded.entryType = some action) ∧
      decoded.author.role = "pact-service-ai" := by
  obtain ⟨entryType, vcluster, parent, policyRef, htype, rfl⟩ := hsent
  rcases htype with rfl | rfl | rfl <;> obtain rfl := Except.ok.inj h <;> exact ⟨⟨_, rfl⟩, rfl⟩

theorem sent_not_authorMay (lookup : JournalState → Scope → VClusterPolicy) (now : DateTime)
    (s : JournalState) (entry : Proto.ConfigEntry) (decoded : ConfigEntry)
    (hsent : SentByAgent entry)
    (hdecoded : ConfigService.protoToConfigEntry now entry = .ok decoded) :
    ¬AuthorMay lookup s decoded := by
  intro hmay
  obtain ⟨⟨action, haction⟩, hrole⟩ := agentEntry_decoded now entry decoded hsent hdecoded
  exact notDenied_not_ai s decoded action haction (notDenied_of_authorMay s decoded hmay) hrole

-- No tool sends an entry that its author may append: the journal stores them all the same.
theorem dispatched_not_authorMay (printer : Printer) (journal : Bool) (name : String) (args : Json)
    (entry : Proto.ConfigEntry)
    (answer : Except Status Proto.AppendEntryResponse → ToolCallResult)
    (lookup : JournalState → Scope → VClusterPolicy) (now : DateTime) (s : JournalState)
    (decoded : ConfigEntry)
    (h : dispatchConnected printer journal name args = some (.Append entry answer))
    (hdecoded : ConfigService.protoToConfigEntry now entry = .ok decoded) :
    ¬AuthorMay lookup s decoded :=
  sent_not_authorMay lookup now s entry decoded
    (dispatchConnected_sent printer journal name args entry answer h) hdecoded

-- The journal stores whatever it is sent, so its entries are authorized in the runs that append
-- for entitled authors only, and then no emergency entry comes from an AI agent. The emergency
-- tool sends one for every text but start, and never for an author who may.
theorem stored_entries_undenied (platform : Platform)
    (opaClient : Option PolicyService.OpaClient) (lookup : JournalState → Scope → VClusterPolicy)
    (printer : Printer) :
    (∀ steps last,
      Run (serverNext platform opaClient) (AppendsForEntitled lookup) ⟨.default, []⟩ steps last →
      ∀ key entry, last.journal.entries.get key = some entry →
        StoredUndenied platform opaClient lookup ⟨.default, []⟩ steps key entry ∧
        (entry.entryType = .EmergencyStart ∨ entry.entryType = .EmergencyEnd →
          entry.author.role ≠ "pact-service-ai")) ∧
    (∀ args, (∃ entry render, handleEmergency printer args = .Append entry render) ↔
      ∃ action, args.getStr "action" = some action ∧ action ≠ "start") ∧
    ∀ args entry render now decoded s, handleEmergency printer args = .Append entry render →
      ConfigService.protoToConfigEntry now entry = .ok decoded → ¬AuthorMay lookup s decoded := by
  refine ⟨?_, handleEmergency_append_iff printer, ?_⟩
  · intro steps last run key entry hget
    have hstored := (run_entriesUndenied platform opaClient steps last run).stored key entry hget
    refine ⟨hstored, ?_⟩
    obtain ⟨_, _, _, middle, _, _, _, _, _, _, hundenied⟩ := hstored
    rintro (htype | htype)
    · exact notDenied_not_ai middle.journal entry _ (by rw [htype]; rfl) hundenied
    · exact notDenied_not_ai middle.journal entry _ (by rw [htype]; rfl) hundenied
  · intro args entry render now decoded s happend hdecoded
    exact sent_not_authorMay lookup now s entry decoded
      (handleEmergency_sent printer args entry render happend) hdecoded

def quietPrinter : Printer := ⟨fun _ => "", fun _ => ""⟩

def endArgs : Json := .Object [("action", .Text "end")]

def emergencyEnded : ConfigEntry where
  sequence := 0
  timestamp := 0
  entryType := .EmergencyEnd
  scope := .VCluster "default"
  author := ⟨"mcp-agent", .Agent, "pact-service-ai"⟩
  parent := none
  stateDelta := none
  policyRef := none
  ttlSeconds := none
  emergencyReason := none

def operatorEnded : ConfigEntry :=
  { emergencyEnded with author := ⟨"alice", .Human, "pact-ops-default"⟩ }

def operatorEnds : Rpc :=
  .AppendEntry ⟨some (.Text "Bearer token-1"), ⟨some { agentEntry 9 "default" none "" with
    author := some ⟨"alice", "human", "pact-ops-default"⟩ }⟩⟩

theorem stored_entries_undenied_operator : ∃ last,
    Run (serverNext .ascii none) (AppendsForEntitled fun _ _ => .default) ⟨.default, []⟩
      [.Receive 0 operatorEnds, .Commit 0 0] last ∧
    StoredUndenied .ascii none (fun _ _ => .default) ⟨.default, []⟩
      [.Receive 0 operatorEnds, .Commit 0 0] 0 operatorEnded := by
  have hreceive : serverNext .ascii none ⟨.default, []⟩ (.Receive 0 operatorEnds) =
      some ⟨.default, [⟨operatorEnds, .AppendEntry operatorEnded⟩]⟩ := by
    decide +kernel
  obtain ⟨last, hcommit, hget⟩ : ∃ last, serverNext .ascii none
      ⟨.default, [⟨operatorEnds, .AppendEntry operatorEnded⟩]⟩ (.Commit 0 0) = some last ∧
      last.journal.entries.get 0 = some operatorEnded :=
    ⟨_, rfl, by decide +kernel⟩
  have hentitled : AppendsForEntitled (fun _ _ => .default)
      ⟨.default, [⟨operatorEnds, .AppendEntry operatorEnded⟩]⟩ (.Commit 0 0) := by
    intro submission entry hsubmission hcmd action haction
    cases hsubmission
    cases hcmd
    cases haction
    exact .inl ((evaluate_allow_iff _ _ _ _).mp (by decide))
  have hrun : Run (serverNext .ascii none) (AppendsForEntitled fun _ _ => .default) ⟨.default, []⟩
      [.Receive 0 operatorEnds, .Commit 0 0] last :=
    .cons trivial hreceive (.single hentitled hcommit)
  exact ⟨last, hrun, ((stored_entries_undenied .ascii none (fun _ _ => .default) quietPrinter).1 _ last
    hrun 0 operatorEnded hget).1⟩

-- An AI agent ends an emergency through the tool, although every policy denies it.
theorem agent_ends_emergency :
    ((handleEmergency quietPrinter endArgs).request (some "token-1")).bind (fun request =>
      (exec (serverNext .ascii none) ⟨.default, []⟩
        [.Receive 0 (.AppendEntry request), .Commit 0 0]).bind fun server =>
          server.journal.entries.get 0) = some emergencyEnded ∧
    ∀ policy, RbacEngine.evaluate emergencyEnded.author "emergency_end" emergencyEnded.scope policy =
      .Deny "AI agents cannot enter or exit emergency mode (P8)" := by
  refine ⟨by decide +kernel, ?_⟩
  intro policy
  exact evaluate_aiEmergency _ _ _ policy rfl (by decide)

end Pact.Mcp
