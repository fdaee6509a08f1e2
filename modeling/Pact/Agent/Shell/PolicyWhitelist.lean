import Pact.Agent.Shell.Theorems

namespace Pact.Agent.Shell

open Pact.Library Pact.Common WhitelistManager

-- A whitelist after the lists of the policies that came in so far.
def afterUpdates (learningMode : Bool) (updates : List (List String)) : WhitelistManager :=
  updates.foldl updateExecWhitelist (.new learningMode)

def lastUpdate (updates : List (List String)) : List String := updates.getLast?.getD []

def defaultCommands : List String := defaults.map WhitelistEntry.command

def Authorized (world : World) (server : ShellServer) (shared : Shared) (identity : Identity)
    (command : String) : Prop :=
  ∃ after stateChanging, authorizeExec world server shared identity command = (after, .ok stateChanging)

theorem authorized_iff (world : World) (server : ShellServer) (shared : Shared) (identity : Identity)
    (command : String) :
    Authorized world server shared identity command ↔ Entitled server shared command identity := by
  constructor
  · rintro ⟨after, stateChanging, hok⟩
    by_contra hentitled
    obtain ⟨other, error, herror⟩ :=
      authorizeExec_of_not_entitled world server shared command identity hentitled
    rw [hok] at herror
    cases herror
  · intro hentitled
    exact ⟨_, _, authorizeExec_of_entitled world server shared command identity hentitled⟩

section Whitelist

variable (learningMode : Bool) (command : String)

theorem get_new :
    (WhitelistManager.new learningMode).execWhitelist.get command =
      defaults.find? fun entry => entry.command = command := by
  rw [WhitelistManager.new,
    Map.get_foldl_insert WhitelistEntry.command defaults (by decide +kernel), Map.get_empty,
    Option.or_none]

theorem get_updateExecWhitelist (manager : WhitelistManager) (commands : List String) :
    (manager.updateExecWhitelist commands).execWhitelist.get command =
      (manager.execWhitelist.get command).or
        (if command ∈ commands then some ⟨command, false, "Added from vCluster policy"⟩ else none) := by
  induction commands generalizing manager with
  | nil => simp [updateExecWhitelist]
  | cons added commands ih =>
    have hfold := ih (if manager.isExecAllowed added then manager
      else { manager with
        execWhitelist := manager.execWhitelist.insert added
          ⟨added, false, "Added from vCluster policy"⟩ })
    refine hfold.trans ?_
    cases hlisted : manager.execWhitelist.get added with
    | some entry =>
      rw [if_pos (by simp [isExecAllowed, hlisted])]
      by_cases hcommand : command = added
      · simp [hcommand, hlisted]
      · simp [hcommand]
    | none =>
      rw [if_neg (by simp [isExecAllowed, hlisted])]
      dsimp only
      rw [Map.get_insert]
      by_cases hcommand : command = added
      · simp [hcommand, hlisted]
      · simp [hcommand]

theorem get_foldl_update (updates : List (List String)) (manager : WhitelistManager) :
    (updates.foldl updateExecWhitelist manager).execWhitelist.get command =
      (manager.execWhitelist.get command).or
        (if ∃ commands ∈ updates, command ∈ commands then
          some ⟨command, false, "Added from vCluster policy"⟩ else none) := by
  induction updates generalizing manager with
  | nil => simp
  | cons commands updates ih =>
    rw [List.foldl_cons, ih, get_updateExecWhitelist, Option.or_assoc]
    congr 1
    by_cases hcommand : command ∈ commands
    · simp [hcommand]
    · simp [hcommand]

theorem get_afterUpdates (updates : List (List String)) :
    (afterUpdates learningMode updates).execWhitelist.get command =
      (defaults.find? fun entry => entry.command = command).or
        (if ∃ commands ∈ updates, command ∈ commands then
          some ⟨command, false, "Added from vCluster policy"⟩ else none) := by
  rw [afterUpdates, get_foldl_update, get_new]

theorem find?_defaults_isSome_iff :
    (defaults.find? fun entry => entry.command = command).isSome ↔ command ∈ defaultCommands := by
  rw [List.find?_isSome, defaultCommands, List.mem_map]
  simp only [decide_eq_true_eq]

theorem isExecAllowed_afterUpdates_iff (updates : List (List String)) :
    (afterUpdates learningMode updates).isExecAllowed command = true ↔
      command ∈ defaultCommands ∨ ∃ commands ∈ updates, command ∈ commands := by
  rw [isExecAllowed, get_afterUpdates, Option.isSome_or, Bool.or_eq_true, find?_defaults_isSome_iff]
  refine or_congr_right ?_
  split <;> simp [*]

theorem readOnly_afterUpdates_iff (updates : List (List String)) :
    ((afterUpdates learningMode updates).isExecAllowed command = true ∧
        (afterUpdates learningMode updates).isStateChanging command = false) ↔
      (∃ entry ∈ defaults, entry.command = command ∧ entry.stateChanging = false) ∨
        (command ∉ defaultCommands ∧ ∃ commands ∈ updates, command ∈ commands) := by
  rw [isExecAllowed_afterUpdates_iff, isStateChanging, get_afterUpdates]
  cases hfind : defaults.find? fun entry => entry.command = command with
  | none =>
    have hnone : command ∉ defaultCommands := by
      rw [← find?_defaults_isSome_iff, hfind]
      simp
    have hdefault : ¬∃ entry ∈ defaults, entry.command = command ∧ entry.stateChanging = false := by
      rintro ⟨entry, hentry, rfl, _⟩
      exact hnone (List.mem_map.mpr ⟨entry, hentry, rfl⟩)
    rw [Option.none_or]
    by_cases hadded : ∃ commands ∈ updates, command ∈ commands
    · simp only [hnone, hdefault, if_pos hadded, false_or, not_false_eq_true, true_and]
      simp
    · simp only [hnone, hdefault, hadded, false_or, not_false_eq_true, true_and, false_and]
  | some entry =>
    have hentry := List.mem_of_find?_eq_some hfind
    have hcommand : entry.command = command := by simpa using List.find?_some hfind
    have hlisted : command ∈ defaultCommands := List.mem_map.mpr ⟨entry, hentry, hcommand⟩
    simp only [hlisted, true_or, true_and, Option.some_or, Option.any_some, not_true_eq_false,
      false_and, or_false]
    constructor
    · intro hread
      exact ⟨entry, hentry, hcommand, hread⟩
    · rintro ⟨other, hother, hsame, hread⟩
      have hnodup : (defaults.map WhitelistEntry.command).Nodup := by decide +kernel
      rwa [List.inj_on_of_nodup_map hnodup hentry hother (hcommand.trans hsame.symm)]

end Whitelist

section Policy

variable (world : World) (server : ShellServer) (learningMode : Bool) (window : CommitWindowManager)
  (updates : List (List String))

def Shared.afterUpdates (learningMode : Bool) (window : CommitWindowManager)
    (updates : List (List String)) : Shared :=
  ⟨Shell.afterUpdates learningMode updates, window⟩

-- Operators are the ones among those without the admin role that may run all that is listed.
theorem exists_authorized_iff (shared : Shared) (command : String) :
    (∃ identity, isPlatformAdmin identity = false ∧
      Authorized world server shared identity command) ↔
    shared.whitelist.isExecAllowed command = true := by
  constructor
  · rintro ⟨identity, hadmin, hauthorized⟩
    rw [authorized_iff] at hauthorized
    rcases hauthorized with hrole | ⟨hallowed, _⟩ | ⟨hallowed, _⟩
    · simp [isPlatformAdmin, hrole] at hadmin
    · exact hallowed
    · exact hallowed
  · intro hallowed
    have hadmin : "pact-ops-" ++ server.vclusterId ≠ "pact-platform-admin" :=
      append_ne _ _ _ (by decide)
    refine ⟨⟨"operator", .Human, "pact-ops-" ++ server.vclusterId⟩, ?_, ?_⟩
    · simp [isPlatformAdmin, hadmin]
    · rw [authorized_iff]
      exact .inr (.inl ⟨hallowed, rfl⟩)

theorem viewer_authorized_iff (shared : Shared) (identity : Identity) (command vcluster : String)
    (hviewer : identity.role = "pact-viewer-" ++ vcluster) :
    Authorized world server shared identity command ↔
      (shared.whitelist.isExecAllowed command = true ∧
        shared.whitelist.isStateChanging command = false) ∧ vcluster = server.vclusterId := by
  have hadmin : identity.role ≠ "pact-platform-admin" := by
    rw [hviewer]
    exact append_ne _ _ _ (by decide)
  have hops : identity.role ≠ "pact-ops-" ++ server.vclusterId := by
    intro heq
    have hstart : startsWith identity.role "pact-ops-" = true := by
      rw [heq]
      exact startsWith_append _ _
    rw [hviewer, startsWith_append_eq_false "pact-viewer-" "pact-ops-" _ (by decide) (by decide)]
      at hstart
    cases hstart
  rw [authorized_iff, Entitled, or_iff_right hadmin, or_iff_right fun h => hops h.2, hviewer,
    String.append_right_inj, and_assoc]

-- The commands that can be run without the admin role are the default ones and the last list
-- exactly if no earlier list had another one, since nothing is ever taken out. And viewers can run
-- whatever a policy has added, so only what is read-only by default exactly if none adds anything.
theorem policy_whitelist_iff :
    ((∀ command, (∃ identity, isPlatformAdmin identity = false ∧
        Authorized world server (.afterUpdates learningMode window updates) identity command) ↔
      command ∈ defaultCommands ∨ command ∈ lastUpdate updates) ↔
      ∀ commands ∈ updates, ∀ command ∈ commands,
        command ∈ defaultCommands ∨ command ∈ lastUpdate updates) ∧
    ((∀ identity command vcluster, identity.role = "pact-viewer-" ++ vcluster →
        Authorized world server (.afterUpdates learningMode window updates) identity command →
        ∃ entry ∈ defaults, entry.command = command ∧ entry.stateChanging = false) ↔
      ∀ commands ∈ updates, ∀ command ∈ commands, command ∈ defaultCommands) := by
  have hlast : ∀ command ∈ lastUpdate updates, ∃ commands ∈ updates, command ∈ commands := by
    intro command hcommand
    unfold lastUpdate at hcommand
    cases hfinal : updates.getLast? with
    | none =>
      rw [hfinal] at hcommand
      cases hcommand
    | some commands =>
      rw [hfinal] at hcommand
      exact ⟨commands, List.mem_of_getLast? hfinal, hcommand⟩
  refine ⟨?_, ?_⟩
  · simp only [exists_authorized_iff, Shared.afterUpdates, isExecAllowed_afterUpdates_iff]
    constructor
    · intro hexact commands hcommands command hcommand
      exact (hexact command).mp (.inr ⟨commands, hcommands, hcommand⟩)
    · intro hlists command
      constructor
      · rintro (hdefault | ⟨commands, hcommands, hcommand⟩)
        · exact .inl hdefault
        · exact hlists commands hcommands command hcommand
      · rintro (hdefault | hcommand)
        · exact .inl hdefault
        · exact .inr (hlast command hcommand)
  · constructor
    · intro hviewers commands hcommands command hcommand
      by_contra hnew
      have hread := (readOnly_afterUpdates_iff learningMode command updates).mpr
        (.inr ⟨hnew, commands, hcommands, hcommand⟩)
      obtain ⟨entry, hentry, rfl, _⟩ := hviewers
        ⟨"viewer", .Human, "pact-viewer-" ++ server.vclusterId⟩ command server.vclusterId rfl
        ((viewer_authorized_iff world server (.afterUpdates learningMode window updates)
          _ command server.vclusterId rfl).mpr ⟨hread, rfl⟩)
      exact hnew (List.mem_map.mpr ⟨entry, hentry, rfl⟩)
    · intro hlists identity command vcluster hviewer hauthorized
      rw [viewer_authorized_iff world server _ identity command vcluster hviewer] at hauthorized
      rcases (readOnly_afterUpdates_iff learningMode command updates).mp hauthorized.1 with
        hdefault | ⟨hnew, commands, hcommands, hcommand⟩
      · exact hdefault
      · exact absurd (hlists commands hcommands command hcommand) hnew

end Policy

-- A command of a list that was replaced can still be run, and a viewer can run what a policy has
-- added, though nothing says that it is read-only.
theorem policy_whitelist_grows :
    let shared : Shared :=
      .afterUpdates false sampleShared.window [["reboot"], ["gdb"]]
    Authorized (sampleWorld (.Exited (some 0))) sampleServer shared ⟨"operator", .Human, "pact-ops-ml"⟩
        "reboot" ∧
      "reboot" ∉ defaultCommands ∧ "reboot" ∉ lastUpdate [["reboot"], ["gdb"]] ∧
      Authorized (sampleWorld (.Exited (some 0))) sampleServer shared ⟨"viewer", .Human, "pact-viewer-ml"⟩
        "reboot" := by
  refine ⟨⟨_, false, rfl⟩, by decide +kernel, by decide, ⟨_, false, rfl⟩⟩

end Pact.Agent.Shell
