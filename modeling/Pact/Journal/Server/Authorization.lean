import Pact.Journal.Server.Lemmas
import Pact.Journal.State.Theorems
import Pact.Policy.Rbac.Theorems

namespace Pact.Journal

open Pact.Library Pact.Common Pact.Policy

-- The action that an entry carries out, for the types that change what is in force.
def entryAction : EntryType → Option String
  | .Commit => some "commit"
  | .Rollback => some "rollback"
  | .EmergencyStart => some "emergency_start"
  | .EmergencyEnd => some "emergency_end"
  | .PolicyUpdate => some "policy_update"
  | _ => none

section Authorization

-- `lookup` says which policy is in force for a scope.
variable (platform : Platform) (opaClient : Option PolicyService.OpaClient)
  (lookup : JournalState → Scope → VClusterPolicy)

-- The role model lets the author do what the entry does, perhaps after an approval.
def AuthorMay (s : JournalState) (entry : ConfigEntry) : Prop :=
  ∀ action, entryAction entry.entryType = some action →
    Granted entry.author action entry.scope (lookup s entry.scope) ∨
    NeedsApproval entry.author action entry.scope (lookup s entry.scope)

def NotDenied (s : JournalState) (entry : ConfigEntry) : Prop :=
  ∀ action, entryAction entry.entryType = some action →
    ∀ reason, RbacEngine.evaluate entry.author action entry.scope (lookup s entry.scope) ≠
      .Deny reason

-- A step that appends an entry does so for an author who may.
def AppendsForEntitled (server : Server) : ServerStep → Prop
  | .Commit _ index => ∀ submission entry, server.submissions[index]? = some submission →
      submission.cmd = .AppendEntry entry → AuthorMay lookup server.journal entry
  | _ => True

-- The entry was stored by a step of this run, and was not denied at that moment.
def StoredUndenied (start : Server) (steps : List ServerStep) (key : Nat) (entry : ConfigEntry) :
    Prop :=
  ∃ before step rest middle next, steps = before ++ step :: rest ∧
    Run (serverNext platform opaClient) Unrestricted start before middle ∧
    serverNext platform opaClient middle step = some next ∧
    middle.journal.entries.get key = none ∧ next.journal.entries.get key = some entry ∧
    NotDenied lookup middle.journal entry

structure EntriesUndenied (start : Server) (past : List ServerStep) (server : Server) : Prop where
  reached : Run (serverNext platform opaClient) Unrestricted start past server
  wellFormed : EntriesWellFormed server.journal
  stored : ∀ key entry, server.journal.entries.get key = some entry →
    StoredUndenied platform opaClient lookup start past key entry

variable {lookup}

theorem notDenied_of_authorMay (s : JournalState) (entry : ConfigEntry)
    (h : AuthorMay lookup s entry) : NotDenied lookup s entry := by
  intro action haction reason hdeny
  rcases h action haction with hgranted | hneeds
  · rw [(evaluate_allow_iff _ _ _ _).mpr hgranted] at hdeny
    cases hdeny
  · rw [(evaluate_defer_iff _ _ _ _).mpr hneeds] at hdeny
    cases hdeny

theorem notDenied_not_ai (s : JournalState) (entry : ConfigEntry) (action : String)
    (haction : entryAction entry.entryType = some action) (h : NotDenied lookup s entry) :
    entry.author.role ≠ "pact-service-ai" := by
  intro hrole
  have hwrites : action ∉ readActions ∧ action ≠ "exec" := by
    cases htype : entry.entryType <;> rw [htype] at haction <;> cases haction <;> decide
  obtain ⟨reason, hdeny⟩ := evaluate_aiWrite entry.author action entry.scope
    (lookup s entry.scope) hrole hwrites.1 hwrites.2
  exact h action haction reason hdeny

theorem serverNext_entries (server after : Server) (step : ServerStep)
    (hnext : serverNext platform opaClient server step = some after) :
    (after.journal.entries = server.journal.entries ∧
      after.journal.nextSequence = server.journal.nextSequence) ∨
    ∃ now index submission entry, step = .Commit now index ∧
      server.submissions[index]? = some submission ∧ submission.cmd = .AppendEntry entry ∧
      entryRejection server.journal entry = none ∧
      after.journal.entries = server.journal.entries.insert server.journal.nextSequence
        { entry with sequence := server.journal.nextSequence } ∧
      after.journal.nextSequence = server.journal.nextSequence + 1 := by
  rcases serverNext_cases platform opaClient server after step hnext with
    ⟨now, rpc, rfl, rfl⟩ | ⟨now, rpc, cmd, rfl, _, rfl⟩ | ⟨now, index, submission, rfl, hget, rfl⟩ |
    ⟨index, rfl, rfl⟩ | ⟨now, cmd, rfl, hback, rfl⟩
  · exact .inl ⟨rfl, rfl⟩
  · exact .inl ⟨rfl, rfl⟩
  · rcases apply_entries platform now server.journal submission.cmd with
      hsame | ⟨entry, hcmd, haccepted, hentries, hsequence⟩
    · exact .inl hsame
    · exact .inr ⟨now, index, submission, entry, rfl, hget, hcmd, haccepted, hentries, hsequence⟩
  · exact .inl ⟨rfl, rfl⟩
  · rcases apply_entries platform now server.journal cmd with hsame | ⟨entry, rfl, _⟩
    · exact .inl hsame
    · cases hback

theorem serverNext_entriesWellFormed (server after : Server) (step : ServerStep)
    (hwf : EntriesWellFormed server.journal)
    (hnext : serverNext platform opaClient server step = some after) :
    EntriesWellFormed after.journal := by
  rcases serverNext_cases platform opaClient server after step hnext with
    ⟨now, rpc, rfl, rfl⟩ | ⟨now, rpc, cmd, rfl, _, rfl⟩ | ⟨now, index, submission, rfl, _, rfl⟩ |
    ⟨index, rfl, rfl⟩ | ⟨now, cmd, rfl, _, rfl⟩
  · exact hwf
  · exact hwf
  · exact apply_entriesWellFormed platform now server.journal submission.cmd hwf
  · exact hwf
  · exact apply_entriesWellFormed platform now server.journal cmd hwf

theorem StoredUndenied.mono {start : Server} {past : List ServerStep} {key : Nat}
    {entry : ConfigEntry} (h : StoredUndenied platform opaClient lookup start past key entry)
    (step : ServerStep) :
    StoredUndenied platform opaClient lookup start (past ++ [step]) key entry := by
  obtain ⟨before, stored, rest, middle, next, rfl, hrest⟩ := h
  exact ⟨before, stored, rest ++ [step], middle, next, by simp, hrest⟩

theorem serverNext_entriesUndenied (start : Server) (past : List ServerStep)
    (server after : Server) (step : ServerStep)
    (h : EntriesUndenied platform opaClient lookup start past server)
    (hentitled : AppendsForEntitled lookup server step)
    (hnext : serverNext platform opaClient server step = some after) :
    EntriesUndenied platform opaClient lookup start (past ++ [step]) after := by
  refine ⟨h.reached.append (.single trivial hnext),
    serverNext_entriesWellFormed platform opaClient server after step h.wellFormed hnext, ?_⟩
  intro key entry hget
  rcases serverNext_entries platform opaClient server after step hnext with
    ⟨hentries, _⟩ | ⟨now, index, submission, added, rfl, hsubmission, hcmd, _, hentries, _⟩
  · exact (h.stored key entry (hentries ▸ hget)).mono platform opaClient step
  · rcases insert_next_cases server.journal _ key entry (hentries ▸ hget) with ⟨rfl, rfl⟩ | hold
    · have hfree : server.journal.entries.get server.journal.nextSequence = none := by
        cases hstored : server.journal.entries.get server.journal.nextSequence with
        | none => rfl
        | some stored => exact absurd ((h.wellFormed.keys _).mp ⟨stored, hstored⟩) (Nat.lt_irrefl _)
      exact ⟨past, .Commit now index, [], server, after, rfl, h.reached, hnext, hfree, hget,
        notDenied_of_authorMay server.journal added (hentitled submission added hsubmission hcmd)⟩
    · exact (h.stored key entry hold).mono platform opaClient _

theorem run_entriesUndenied (steps : List ServerStep) (last : Server)
    (run : Run (serverNext platform opaClient) (AppendsForEntitled lookup) ⟨.default, []⟩ steps
      last) :
    EntriesUndenied platform opaClient lookup ⟨.default, []⟩ steps last :=
  run.history (EntriesUndenied platform opaClient lookup ⟨.default, []⟩)
    (fun past server step after h hentitled hnext =>
      serverNext_entriesUndenied platform opaClient _ past server after step h hentitled hnext) []
    ⟨.nil _, entriesWellFormed_default, fun key entry hget => by simp [JournalState.default] at hget⟩

end Authorization

end Pact.Journal
