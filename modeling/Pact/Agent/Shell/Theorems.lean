import Pact.Agent.Shell

namespace Pact.Agent.Shell

open Pact.Library Pact.Common

section Exec

variable (world : World) (server : ShellServer) (shared : Shared) (authHeader command : String)
  (args : List String)

def Validates (identity : Identity) : Prop :=
  ∃ token claims, extractBearerToken authHeader = some token ∧
    validateToken world.jwt token server.authConfig = .ok claims ∧
    identity = claimsToIdentity claims

-- Platform admins run every command, operators of the vCluster what is whitelisted, and its
-- viewers what of that is read-only.
def Entitled (identity : Identity) : Prop :=
  identity.role = "pact-platform-admin" ∨
  (shared.whitelist.isExecAllowed command = true ∧
    identity.role = "pact-ops-" ++ server.vclusterId) ∨
  (shared.whitelist.isExecAllowed command = true ∧
    shared.whitelist.isStateChanging command = false ∧
    identity.role = "pact-viewer-" ++ server.vclusterId)

structure Admitted (identity : Identity) : Prop where
  validated : Validates world server authHeader identity
  arguments : WhitelistManager.validateArgs command args = .ok ()
  entitled : Entitled server shared command identity

-- A command that is run past the whitelist counts as state-changing.
def StateChanging : Prop :=
  shared.whitelist.isStateChanging command = true ∨ shared.whitelist.isExecAllowed command = false

instance : Decidable (StateChanging shared command) :=
  inferInstanceAs (Decidable (_ ∨ _))

theorem authenticate_ok_iff (identity : Identity) :
    authenticate world server authHeader = .ok identity ↔
      Validates world server authHeader identity := by
  simp only [authenticate, Validates]
  cases htoken : extractBearerToken authHeader with
  | none => simp
  | some token =>
    cases hclaims : validateToken world.jwt token server.authConfig with
    | error error => simp [hclaims]
    | ok claims => simp [hclaims, eq_comm]

theorem hasOpsRole_iff (identity : Identity) (vcluster : VClusterId) :
    hasOpsRole identity vcluster = true ↔
      identity.role = "pact-platform-admin" ∨ identity.role = "pact-ops-" ++ vcluster := by
  simp [hasOpsRole]

theorem hasViewerRole_iff (identity : Identity) (vcluster : VClusterId) :
    hasViewerRole identity vcluster = true ↔
      hasOpsRole identity vcluster = true ∨ identity.role = "pact-viewer-" ++ vcluster := by
  simp [hasViewerRole]

theorem stateChanging_of_allowed (h : shared.whitelist.isExecAllowed command = true) :
    decide (StateChanging shared command) = shared.whitelist.isStateChanging command := by
  simp [StateChanging, h]

theorem authorizeExec_of_entitled (identity : Identity)
    (h : Entitled server shared command identity) :
    authorizeExec world server shared identity command =
      (shared, .ok (decide (StateChanging shared command))) := by
  cases hallowed : shared.whitelist.isExecAllowed command with
  | false =>
    have hadmin : identity.role = "pact-platform-admin" := by
      rcases h with hadmin | ⟨hlisted, _⟩ | ⟨hlisted, _⟩
      · exact hadmin
      · simp [hallowed] at hlisted
      · simp [hallowed] at hlisted
    simp [authorizeExec, hallowed, isPlatformAdmin, hadmin, StateChanging]
  | true =>
    rw [stateChanging_of_allowed shared command hallowed]
    by_cases hops : hasOpsRole identity server.vclusterId = true
    · simp [authorizeExec, hallowed, hops]
    · rw [hasOpsRole_iff] at hops
      push Not at hops
      rcases h with hadmin | ⟨_, hrole⟩ | ⟨_, hread, hviewer⟩
      · exact absurd hadmin hops.1
      · exact absurd hrole hops.2
      · have hviewerRole := (hasViewerRole_iff identity server.vclusterId).mpr (.inr hviewer)
        simp [authorizeExec, hallowed, hread, hviewerRole]

theorem authorizeExec_of_not_entitled (identity : Identity)
    (h : ¬Entitled server shared command identity) :
    ∃ after error, authorizeExec world server shared identity command = (after, .error error) := by
  simp only [Entitled] at h
  push Not at h
  obtain ⟨hadmin, hops, hviewer⟩ := h
  cases hallowed : shared.whitelist.isExecAllowed command with
  | false => simp [authorizeExec, hallowed, isPlatformAdmin, hadmin]
  | true =>
    have hnotOps : hasOpsRole identity server.vclusterId = false := by
      rw [Bool.eq_false_iff, ne_eq, hasOpsRole_iff]
      rintro (hrole | hrole)
      · exact hadmin hrole
      · exact hops hallowed hrole
    have hnotViewer : ¬(hasViewerRole identity server.vclusterId = true ∧
        shared.whitelist.isStateChanging command = false) := by
      rw [hasViewerRole_iff, hnotOps]
      rintro ⟨hrole | hrole, hread⟩
      · cases hrole
      · exact hviewer hallowed hread hrole
    exact ⟨_, _, by simp only [authorizeExec, hallowed, hnotOps, hnotViewer]; rfl⟩

theorem exec_of_admitted (identity : Identity)
    (h : Admitted world server shared authHeader command args identity) :
    exec world server shared authHeader command args =
      execAuthorized world server shared identity command args
        (decide (StateChanging shared command)) := by
  simp only [exec, (authenticate_ok_iff world server authHeader identity).mpr h.validated,
    authorizeExec_of_entitled world server shared command identity h.entitled, h.arguments]

theorem exec_of_not_admitted
    (h : ∀ identity, ¬Admitted world server shared authHeader command args identity) :
    (exec world server shared authHeader command args).effects = [] ∧
      ∃ error, (exec world server shared authHeader command args).result =
        some (.error (.Auth error)) := by
  cases hidentity : authenticate world server authHeader with
  | error error => simp [exec, hidentity]
  | ok identity =>
    have hvalidated := (authenticate_ok_iff world server authHeader identity).mp hidentity
    by_cases hentitled : Entitled server shared command identity
    · cases harguments : WhitelistManager.validateArgs command args with
      | error reason =>
        simp [exec, hidentity, harguments,
          authorizeExec_of_entitled world server shared command identity hentitled]
      | ok accepted => exact absurd ⟨hvalidated, harguments, hentitled⟩ (h identity)
    · obtain ⟨after, error, hdenied⟩ :=
        authorizeExec_of_not_entitled world server shared command identity hentitled
      simp [exec, hidentity, hdenied]

def written : List Read → Nat
  | [] => 0
  | .Data bytes :: rest => bytes.length + written rest
  | _ :: rest => written rest

-- A read of the pipe that does not come back stands behind the end of the pipe, an error, or more
-- bytes than are kept.
def PipeEnds (maxBytes : Nat) (reads : List Read) : Prop :=
  ∀ before rest, reads = before ++ .Pending :: rest →
    .Failed ∈ before ∨ .Data [] ∈ before ∨ maxBytes < written before

-- The child comes to an end by itself, and so do its pipes.
structure Child.Completes (child : Child) (config : ExecConfig) : Prop where
  exited : ∃ code, child.ending = .Exited code
  stdout : PipeEnds config.maxOutputBytes child.stdout
  stderr : PipeEnds config.maxOutputBytes child.stderr

theorem pipeEnds_nil (maxBytes : Nat) : PipeEnds maxBytes [] := by
  intro before rest h
  simp at h

theorem pipeEnds_failed (maxBytes : Nat) (reads : List Read) :
    PipeEnds maxBytes (.Failed :: reads) := by
  intro before rest h
  cases before with
  | nil => cases h
  | cons read before =>
    obtain ⟨rfl, -⟩ := List.cons.inj h
    exact .inl List.mem_cons_self

theorem not_pipeEnds_pending (maxBytes : Nat) (reads : List Read) :
    ¬PipeEnds maxBytes (.Pending :: reads) := by
  intro h
  simpa [written] using h [] reads rfl

theorem pipeEnds_data_iff (maxBytes : Nat) (bytes : List UInt8) (reads : List Read) :
    PipeEnds maxBytes (.Data bytes :: reads) ↔
      bytes = [] ∨ maxBytes < bytes.length ∨ PipeEnds (maxBytes - bytes.length) reads := by
  constructor
  · intro h
    by_contra hnone
    push Not at hnone
    obtain ⟨hbytes, hfits, hopen⟩ := hnone
    refine hopen fun before rest hreads => ?_
    have hbefore := h (.Data bytes :: before) rest (by rw [hreads]; rfl)
    simp only [List.mem_cons, reduceCtorEq, false_or, Read.Data.injEq, Ne.symm hbytes,
      written] at hbefore
    rcases hbefore with hfailed | hend | hover
    · exact .inl hfailed
    · exact .inr (.inl hend)
    · exact .inr (.inr (by omega))
  · intro h before rest hreads
    cases before with
    | nil => cases hreads
    | cons read before =>
      obtain ⟨rfl, hrest⟩ := List.cons.inj hreads
      rcases h with rfl | hover | hends
      · exact .inr (.inl List.mem_cons_self)
      · exact .inr (.inr (by simp only [written]; omega))
      · rcases hends before rest hrest with hfailed | hend | hover
        · exact .inl (List.mem_cons_of_mem _ hfailed)
        · exact .inr (.inl (List.mem_cons_of_mem _ hend))
        · exact .inr (.inr (by simp only [written]; omega))

-- From any output so far that is within the limit, by induction on the reads still to come.
theorem readOutput_isSome_iff (maxBytes : Nat) (output : List UInt8) (reads : List Read)
    (hlimit : output.length ≤ maxBytes) :
    (readOutput maxBytes output reads).isSome ↔ PipeEnds (maxBytes - output.length) reads := by
  induction reads generalizing output with
  | nil => simp [readOutput, pipeEnds_nil]
  | cons read reads ih =>
    cases read with
    | Failed => simp [readOutput, pipeEnds_failed]
    | Pending => simp [readOutput, not_pipeEnds_pending]
    | Data bytes =>
      rw [readOutput, pipeEnds_data_iff]
      by_cases hbytes : bytes = []
      · simp [hbytes]
      by_cases hover : output.length + bytes.length > maxBytes
      · simp [hbytes, hover, show maxBytes - output.length < bytes.length by omega]
      · have hkept : (output ++ bytes).length ≤ maxBytes := by
          rw [List.length_append]
          omega
        rw [if_neg hbytes, if_neg hover, ih _ hkept, List.length_append, Nat.sub_sub]
        simp [hbytes, show ¬maxBytes - output.length < bytes.length by omega]

theorem Child.captured_isSome_iff (child : Child) (config : ExecConfig) (code : Option Int) :
    (child.captured config code).isSome ↔
      PipeEnds config.maxOutputBytes child.stdout ∧ PipeEnds config.maxOutputBytes child.stderr := by
  have hstdout := readOutput_isSome_iff config.maxOutputBytes [] child.stdout (Nat.zero_le _)
  have hstderr := readOutput_isSome_iff config.maxOutputBytes [] child.stderr (Nat.zero_le _)
  rw [List.length_nil, Nat.sub_zero] at hstdout hstderr
  rw [← hstdout, ← hstderr, Child.captured]
  cases readOutput config.maxOutputBytes [] child.stdout <;>
    cases readOutput config.maxOutputBytes [] child.stderr <;> simp

-- An admitted call ends in one of three ways: nothing was spawned, the child was spawned and did
-- not come to an end with its pipes, or it did and the call goes on.
theorem execAuthorized_cases (identity : Identity) (stateChanging : Bool) :
    (∃ error failure, world.spawn = .error error ∧
      execAuthorized world server shared identity command args stateChanging =
        ⟨world.whileRunning shared, [], some (.error (.Exec failure))⟩) ∨
    (∃ child kills result, world.spawn = .ok child ∧ ¬child.Completes server.execConfig ∧
      execAuthorized world server shared identity command args stateChanging =
        ⟨world.whileRunning shared, .Process (.Spawn command args) :: kills, result⟩ ∧
      (∀ effect ∈ kills, effect = .Process .Kill) ∧ ∀ answer, result ≠ some (.ok answer)) ∨
    ∃ child result, world.spawn = .ok child ∧ child.Completes server.execConfig ∧
      execAuthorized world server shared identity command args stateChanging =
        finishExec world server (world.whileRunning shared) identity command stateChanging
          [.Process (.Spawn command args)] result := by
  cases hspawn : world.spawn with
  | error error =>
    refine .inl ?_
    cases error with
    | NotFound => exact ⟨_, .NotFound command, rfl, by simp [execAuthorized, executeCommand, hspawn]⟩
    | Other text =>
      exact ⟨_, .ExecutionFailed text, rfl, by simp [execAuthorized, executeCommand, hspawn]⟩
  | ok child =>
    refine .inr ?_
    cases hending : child.ending with
    | Exited code =>
      have hends := child.captured_isSome_iff server.execConfig code
      cases hcaptured : child.captured server.execConfig code with
      | none =>
        rw [hcaptured] at hends
        refine .inl ⟨child, [], none, rfl, ?_, ?_, by simp, by simp⟩
        · intro hcompletes
          cases hends.mpr ⟨hcompletes.stdout, hcompletes.stderr⟩
        · simp [execAuthorized, executeCommand, hspawn, hending, hcaptured]
      | some result =>
        rw [hcaptured] at hends
        obtain ⟨hstdout, hstderr⟩ := hends.mp rfl
        refine .inr ⟨child, result, rfl, ⟨⟨code, hending⟩, hstdout, hstderr⟩, ?_⟩
        simp [execAuthorized, executeCommand, hspawn, hending, hcaptured]
    | WaitFailed error =>
      refine .inl ⟨child, [], some (.error (.Exec (.ExecutionFailed error))), rfl, ?_, ?_,
        by simp, by simp⟩
      · rintro ⟨⟨code, hexited⟩, -, -⟩
        simp [hending] at hexited
      · simp [execAuthorized, executeCommand, hspawn, hending]
    | Outlives =>
      have hnever : ¬child.Completes server.execConfig := by
        rintro ⟨⟨code, hexited⟩, -, -⟩
        simp [hending] at hexited
      refine .inl ?_
      by_cases htimeout : server.execConfig.timeoutSeconds > 0
      · refine ⟨child, [.Process .Kill],
          some (.error (.Exec (.Timeout server.execConfig.timeoutSeconds))), rfl, hnever, ?_,
          by simp, by simp⟩
        simp [execAuthorized, executeCommand, hspawn, hending, htimeout]
      · refine ⟨child, [], none, rfl, hnever, ?_, by simp, by simp⟩
        simp [execAuthorized, executeCommand, hspawn, hending, htimeout]

theorem finishExec_effects (identity : Identity) (stateChanging : Bool) (effects : List Effect)
    (result : ExecResult) (effect : Effect) :
    effect ∈ (finishExec world server shared identity command stateChanging effects result).effects ↔
      effect ∈ effects ∨
      (server.journalClient = true ∧
        effect = .AppendEntry ⟨some (execEntry world server identity command)⟩) ∨
      ((server.journalClient = true → world.journalAnswers = true) ∧ stateChanging = true ∧
        server.commitWindow = true ∧ effect = .OpenWindow) := by
  simp only [finishExec]
  cases server.journalClient <;> cases world.journalAnswers <;> cases server.commitWindow <;>
    cases stateChanging <;> simp

theorem exec_spawns (spawned : String) (arguments : List String)
    (h : .Process (.Spawn spawned arguments) ∈
      (exec world server shared authHeader command args).effects) :
    spawned = command ∧ arguments = args ∧
      ∃ identity, Admitted world server shared authHeader command args identity := by
  by_cases hadmitted : ∃ identity, Admitted world server shared authHeader command args identity
  · obtain ⟨identity, hidentity⟩ := hadmitted
    rw [exec_of_admitted world server shared authHeader command args identity hidentity] at h
    have hsame : spawned = command ∧ arguments = args := by
      rcases execAuthorized_cases world server shared command args identity
          (decide (StateChanging shared command)) with
        ⟨_, _, _, heq⟩ | ⟨_, kills, _, _, _, heq, hkills, _⟩ | ⟨_, _, _, _, heq⟩
      · simp [heq] at h
      · rw [heq] at h
        rcases List.mem_cons.mp h with hspawn | hkill
        · simpa using hspawn
        · cases hkills _ hkill
      · rw [heq, finishExec_effects] at h
        simpa using h
    exact ⟨hsame.1, hsame.2, identity, hidentity⟩
  · rw [(exec_of_not_admitted world server shared authHeader command args
      (not_exists.mp hadmitted)).1] at h
    cases h

theorem finishExec_opens (identity : Identity) (effects : List Effect) (result : ExecResult)
    (answer : Except ShellError (ExecResult × Bool)) (hwindow : server.commitWindow = true)
    (hanswer : (finishExec world server shared identity command true effects result).result =
      some answer) :
    ∃ openedAt deadline,
      (finishExec world server shared identity command true effects result).shared.window.state =
        .Open openedAt deadline := by
  simp only [finishExec, hwindow, and_self, if_true] at hanswer ⊢
  split at hanswer
  · cases hanswer
  · rename_i hanswers
    rw [if_neg hanswers]
    exact ⟨_, _, rfl⟩

-- A call spawns what it was asked to and only for an admitted caller, and a state-changing
-- command that comes back leaves the commit window open.
theorem exec_gate :
    (∀ spawned arguments,
      .Process (.Spawn spawned arguments) ∈
        (exec world server shared authHeader command args).effects →
      spawned = command ∧ arguments = args ∧
        ∃ identity, Admitted world server shared authHeader command args identity) ∧
    ∀ result flag,
      (exec world server shared authHeader command args).result = some (.ok (result, flag)) →
      StateChanging shared command → server.commitWindow = true →
      ∃ openedAt deadline,
        (exec world server shared authHeader command args).shared.window.state =
          .Open openedAt deadline := by
  refine ⟨exec_spawns world server shared authHeader command args, ?_⟩
  intro result flag hresult hchanging hwindow
  by_cases hadmitted : ∃ identity, Admitted world server shared authHeader command args identity
  · obtain ⟨identity, hidentity⟩ := hadmitted
    rw [exec_of_admitted world server shared authHeader command args identity hidentity] at hresult ⊢
    rw [decide_eq_true hchanging] at hresult ⊢
    rcases execAuthorized_cases world server shared command args identity true with
      ⟨_, _, _, heq⟩ | ⟨_, _, _, _, _, heq, _, hnone⟩ | ⟨_, _, _, _, heq⟩
    · simp [heq] at hresult
    · rw [heq] at hresult
      exact absurd hresult (hnone _)
    · rw [heq] at hresult ⊢
      exact finishExec_opens world server _ command identity _ _ _ hwindow hresult
  · obtain ⟨_, error, herror⟩ := exec_of_not_admitted world server shared authHeader command args
      (not_exists.mp hadmitted)
    rw [herror] at hresult
    cases hresult

-- The append of an ExecLog entry for the command was attempted, and the commit window opened if
-- the command is state-changing, as far as either is configured.
def Recorded : Prop :=
  (server.journalClient = true → ∃ entry,
    .AppendEntry ⟨some entry⟩ ∈ (exec world server shared authHeader command args).effects ∧
    entry.entryType = 10 ∧ entry.policyRef = "exec:" ++ command) ∧
  (StateChanging shared command → server.commitWindow = true →
    .OpenWindow ∈ (exec world server shared authHeader command args).effects)

def NoWindowDue : Prop := server.commitWindow = false ∨ ¬StateChanging shared command

def NothingToRecord : Prop := server.journalClient = false ∧ NoWindowDue server shared command

-- The child comes to an end, with its pipes, and the journal does not keep the call waiting when
-- there is a window to open.
def RunsToEnd : Prop :=
  ∃ child, world.spawn = .ok child ∧ child.Completes server.execConfig ∧
    (server.journalClient = false ∨ world.journalAnswers = true ∨ NoWindowDue server shared command)

section Spawned

variable (identity : Identity) (child : Child)
  (h : Admitted world server shared authHeader command args identity)
  (hspawn : world.spawn = .ok child)

include h hspawn

theorem exec_completed_effects (hcompletes : child.Completes server.execConfig) (effect : Effect) :
    effect ∈ (exec world server shared authHeader command args).effects ↔
      effect ∈ [Effect.Process (.Spawn command args)] ∨
      (server.journalClient = true ∧
        effect = .AppendEntry ⟨some (execEntry world server identity command)⟩) ∨
      ((server.journalClient = true → world.journalAnswers = true) ∧
        decide (StateChanging shared command) = true ∧ server.commitWindow = true ∧
        effect = .OpenWindow) := by
  rw [exec_of_admitted world server shared authHeader command args identity h]
  rcases execAuthorized_cases world server shared command args identity
      (decide (StateChanging shared command)) with
    ⟨error, _, herror, _⟩ | ⟨other, _, _, hother, hnever, _⟩ | ⟨_, _, _, _, heq⟩
  · rw [hspawn] at herror
    cases herror
  · rw [hspawn] at hother
    obtain rfl := Except.ok.inj hother
    exact absurd hcompletes hnever
  · rw [heq, finishExec_effects]

theorem recorded_completed_iff (hcompletes : child.Completes server.execConfig) :
    Recorded world server shared authHeader command args ↔
      server.journalClient = false ∨ world.journalAnswers = true ∨
        NoWindowDue server shared command := by
  have heffects := exec_completed_effects world server shared authHeader command args identity child
    h hspawn hcompletes
  have hlogged : server.journalClient = true → ∃ entry,
      .AppendEntry ⟨some entry⟩ ∈ (exec world server shared authHeader command args).effects ∧
      entry.entryType = 10 ∧ entry.policyRef = "exec:" ++ command := fun hclient =>
    ⟨execEntry world server identity command, (heffects _).mpr (.inr (.inl ⟨hclient, rfl⟩)), rfl,
      rfl⟩
  constructor
  · rintro ⟨-, hopened⟩
    by_contra hnone
    simp only [NoWindowDue] at hnone
    push Not at hnone
    obtain ⟨hclient, hanswers, hwindow, hchanging⟩ := hnone
    have hmem := (heffects _).mp (hopened hchanging (by simpa using hwindow))
    simp only [List.mem_singleton, reduceCtorEq, and_false, and_true, false_or] at hmem
    exact hanswers (hmem.1 (by simpa using hclient))
  · intro hjournal
    refine ⟨hlogged, fun hchanging hwindow => ?_⟩
    refine (heffects _).mpr (.inr (.inr ⟨?_, decide_eq_true hchanging, hwindow, rfl⟩))
    intro hclient
    rcases hjournal with hnone | hanswers | hnone | hread
    · simp [hclient] at hnone
    · exact hanswers
    · simp [hwindow] at hnone
    · exact absurd hchanging hread

theorem exec_interrupted_effects (hnever : ¬child.Completes server.execConfig) :
    ∃ kills : List Effect, (∀ effect ∈ kills, effect = .Process .Kill) ∧
      (exec world server shared authHeader command args).effects =
        .Process (.Spawn command args) :: kills := by
  rw [exec_of_admitted world server shared authHeader command args identity h]
  rcases execAuthorized_cases world server shared command args identity
      (decide (StateChanging shared command)) with
    ⟨error, _, herror, _⟩ | ⟨_, kills, _, _, _, heq, hkills, _⟩ | ⟨other, _, hother, hcompletes, _⟩
  · rw [hspawn] at herror
    cases herror
  · exact ⟨kills, hkills, by rw [heq]⟩
  · rw [hspawn] at hother
    obtain rfl := Except.ok.inj hother
    exact absurd hcompletes hnever

end Spawned

theorem recorded_processes_iff
    (hprocess : ∀ effect ∈ (exec world server shared authHeader command args).effects,
      ∃ process, effect = .Process process) :
    Recorded world server shared authHeader command args ↔
      NothingToRecord server shared command := by
  constructor
  · rintro ⟨hlogged, hopened⟩
    refine ⟨?_, ?_⟩
    · by_contra hclient
      obtain ⟨entry, hmem, _⟩ := hlogged (by simpa using hclient)
      obtain ⟨process, heq⟩ := hprocess _ hmem
      cases heq
    · by_contra hboth
      simp only [NoWindowDue] at hboth
      push Not at hboth
      have hmem := hopened hboth.2 (by simpa using hboth.1)
      obtain ⟨process, heq⟩ := hprocess _ hmem
      cases heq
  · rintro ⟨hclient, hwindow⟩
    refine ⟨by simp [hclient], ?_⟩
    intro hchanging hconfigured
    rcases hwindow with hnone | hread
    · simp [hnone] at hconfigured
    · exact absurd hchanging hread

theorem recorded_interrupted_iff (identity : Identity) (child : Child)
    (h : Admitted world server shared authHeader command args identity)
    (hspawn : world.spawn = .ok child) (hnever : ¬child.Completes server.execConfig) :
    Recorded world server shared authHeader command args ↔
      NothingToRecord server shared command := by
  obtain ⟨kills, hkills, heffects⟩ := exec_interrupted_effects world server shared authHeader
    command args identity child h hspawn hnever
  apply recorded_processes_iff
  intro effect hmem
  rw [heffects] at hmem
  rcases List.mem_cons.mp hmem with rfl | hkill
  · exact ⟨_, rfl⟩
  · exact ⟨_, hkills effect hkill⟩

theorem exec_spawned (identity : Identity) (child : Child)
    (h : Admitted world server shared authHeader command args identity)
    (hspawn : world.spawn = .ok child) :
    .Process (.Spawn command args) ∈
      (exec world server shared authHeader command args).effects := by
  by_cases hcompletes : child.Completes server.execConfig
  · rw [exec_completed_effects world server shared authHeader command args identity child h hspawn
      hcompletes]
    exact .inl (List.mem_singleton_self _)
  · obtain ⟨kills, _, heffects⟩ := exec_interrupted_effects world server shared authHeader command
      args identity child h hspawn hcompletes
    rw [heffects]
    exact List.mem_cons_self

theorem not_spawned_of_error (identity : Identity) (error : SpawnError)
    (h : Admitted world server shared authHeader command args identity)
    (hspawn : world.spawn = .error error) :
    (exec world server shared authHeader command args).effects = [] := by
  rw [exec_of_admitted world server shared authHeader command args identity h]
  rcases execAuthorized_cases world server shared command args identity
      (decide (StateChanging shared command)) with
    ⟨_, _, _, heq⟩ | ⟨child, _, _, hchild, _⟩ | ⟨child, _, hchild, _⟩
  · rw [heq]
  · simp [hspawn] at hchild
  · simp [hspawn] at hchild

-- A spawned command is recorded unless its child outlives the timeout, cannot be waited for or
-- leaves a pipe open while there is something to record, or the journal never answers while there
-- is a window to open.
theorem spawned_recorded_iff :
    ((∃ spawned arguments, .Process (.Spawn spawned arguments) ∈
        (exec world server shared authHeader command args).effects) →
      Recorded world server shared authHeader command args) ↔
    (¬∃ identity, Admitted world server shared authHeader command args identity) ∨
      (∃ error, world.spawn = .error error) ∨ RunsToEnd world server shared command ∨
      NothingToRecord server shared command := by
  by_cases hadmitted : ∃ identity, Admitted world server shared authHeader command args identity
  · obtain ⟨identity, hidentity⟩ := hadmitted
    cases hspawn : world.spawn with
    | error error =>
      refine ⟨fun _ => .inr (.inl ⟨error, rfl⟩), ?_⟩
      rintro _ ⟨spawned, arguments, hmem⟩
      rw [not_spawned_of_error world server shared authHeader command args identity error
        hidentity hspawn] at hmem
      cases hmem
    | ok child =>
      have hmem := exec_spawned world server shared authHeader command args identity child
        hidentity hspawn
      by_cases hcompletes : child.Completes server.execConfig
      · have hiff := recorded_completed_iff world server shared authHeader command args identity
          child hidentity hspawn hcompletes
        constructor
        · intro h
          exact .inr (.inr (.inl ⟨child, hspawn, hcompletes, hiff.mp (h ⟨_, _, hmem⟩)⟩))
        · rintro (hnone | ⟨error, herror⟩ | ⟨_, _, _, hjournal⟩ | ⟨hclient, _⟩) _
          · exact absurd ⟨identity, hidentity⟩ hnone
          · cases herror
          · exact hiff.mpr hjournal
          · exact hiff.mpr (.inl hclient)
      · have hiff := recorded_interrupted_iff world server shared authHeader command args
          identity child hidentity hspawn hcompletes
        constructor
        · intro h
          exact .inr (.inr (.inr (hiff.mp (h ⟨_, _, hmem⟩))))
        · rintro (hnone | ⟨error, herror⟩ | ⟨other, hother, hother', _⟩ | hnothing) _
          · exact absurd ⟨identity, hidentity⟩ hnone
          · cases herror
          · rw [hspawn] at hother
            obtain rfl := Except.ok.inj hother
            exact absurd hother' hcompletes
          · exact hiff.mpr hnothing
  · refine ⟨fun _ => .inl hadmitted, ?_⟩
    rintro _ ⟨spawned, arguments, hmem⟩
    exact absurd (exec_spawns world server shared authHeader command args spawned arguments hmem).2.2
      hadmitted

end Exec

def sampleServer : ShellServer where
  authConfig := ⟨"https://auth.example.com", "pact-agent", some [1]⟩
  execConfig := .default
  nodeId := "node-1"
  vclusterId := "ml"
  journalClient := true
  commitWindow := true

def sampleShared : Shared where
  whitelist := .new false
  window := ⟨⟨900, ⟨4611686018427387904⟩, 14400⟩, .Idle, false⟩

def operatorJwt : Jwt where
  decode _ _ _ token :=
    if token = "token-1" then .ok ⟨"alice", some "pact-ops-ml", none⟩ else .error .ExpiredSignature

def sampleWorld (ending : Ending) : World where
  jwt := operatorJwt
  floats := ⟨fun _ _ _ => 300⟩
  spawn := .ok ⟨[], [], ending⟩
  now := 0
  journalAnswers := true
  betweenLocks := id
  whileRunning := id

-- The child leaves a process behind that holds its output open.
def leavingWorld : World :=
  { sampleWorld (.Exited (some 0)) with spawn := .ok ⟨[.Pending], [], .Exited (some 0)⟩ }

def unansweredWorld : World := { sampleWorld (.Exited (some 0)) with journalAnswers := false }

-- An operator mounts a file system. The mount hangs and is killed, cannot be waited for, or ends
-- and leaves a process behind that holds its output: no entry is logged and no window opens. When
-- the journal never answers, no window opens either.
theorem interrupted_mount_unrecorded :
    (exec (sampleWorld .Outlives) sampleServer sampleShared "Bearer token-1" "mount" ["/mnt"]) =
      ⟨sampleShared, [.Process (.Spawn "mount" ["/mnt"]), .Process .Kill],
        some (.error (.Exec (.Timeout 300)))⟩ ∧
    (exec (sampleWorld (.WaitFailed "no child")) sampleServer sampleShared "Bearer token-1" "mount"
      ["/mnt"]) =
      ⟨sampleShared, [.Process (.Spawn "mount" ["/mnt"])],
        some (.error (.Exec (.ExecutionFailed "no child")))⟩ ∧
    (exec leavingWorld sampleServer sampleShared "Bearer token-1" "mount" ["/mnt"]) =
      ⟨sampleShared, [.Process (.Spawn "mount" ["/mnt"])], none⟩ ∧
    (exec unansweredWorld sampleServer sampleShared "Bearer token-1" "mount" ["/mnt"]) =
      ⟨sampleShared, [.Process (.Spawn "mount" ["/mnt"]),
        .AppendEntry ⟨some (execEntry unansweredWorld sampleServer
          ⟨"alice", .Human, "pact-ops-ml"⟩ "mount")⟩], none⟩ ∧
    sampleServer.journalClient = true ∧ sampleServer.commitWindow = true ∧
    StateChanging sampleShared "mount" := by
  refine ⟨by decide +kernel, by decide +kernel, by decide +kernel, by decide +kernel, rfl, rfl,
    by decide +kernel⟩

end Pact.Agent.Shell
