import Pact.Agent.Shell.Session

namespace Pact.Agent.Shell

open Pact.Library Pact.Common Pact.Journal

def Stage.released : Stage → Bool
  | .Released => true
  | .Finished => true
  | .Removed => true
  | _ => false

def Stage.listed : Stage → Bool
  | .Refused => false
  | .Removed => false
  | _ => true

def ShellStep.removes : ShellStep → Bool
  | .Allocate allocated => !allocated
  | .Remove => true
  | _ => false

namespace ShellTask

def HasChild (task : ShellTask) : Prop := task.stage ≠ .Created ∧ task.stage ≠ .Refused

def Quiet (task : ShellTask) : Prop :=
  task.calls.count .Kill = 0 ∧ task.calls.count .Wait = 0

def Reaped (task : ShellTask) : Prop :=
  task.calls.count .Kill = 1 ∧ task.calls.count .Wait = 1

def Awaited (task : ShellTask) : Prop := task.stage = .Joined → task.reader = .Gone

-- What one step does to a shell. Only the release of the handle kills the child and waits for it.
structure Move (step : ShellStep) (task after : ShellTask) : Prop where
  listed : after.stage.listed = if step.removes then false else task.stage.listed
  awaited : task.Awaited → after.Awaited
  released : step ≠ .Release → after.stage.released = task.stage.released
  kills : step ≠ .Release → after.calls.count .Kill = task.calls.count .Kill
  waits : step ≠ .Release → after.calls.count .Wait = task.calls.count .Wait

section Move

variable (sessionId : String) (step : ShellStep) (task after : ShellTask)

theorem Move.reader {step : ShellStep} {task after : ShellTask} (hremoves : step.removes = false)
    (hstage : after.stage = task.stage) (hcalls : after.calls = task.calls)
    (hgone : task.reader = .Gone → after.reader = .Gone) : Move step task after where
  listed := by rw [hstage, hremoves]; rfl
  awaited hawaited hjoined := hgone (hawaited (hstage ▸ hjoined))
  released _ := by rw [hstage]
  kills _ := by rw [hcalls]
  waits _ := by rw [hcalls]

theorem receive_move (received : Received) (written : Bool) (hstage : task.stage = .Streaming) :
    Move (.Receive received written) task (task.receive received written) := by
  obtain ⟨stage, reader, reading, calls, sent⟩ := task
  cases hstage
  unfold receive
  split
  case h_1 data => cases written <;> exact ⟨rfl, nofun, fun _ => rfl, by simp, by simp⟩
  case h_2 rows cols => exact ⟨rfl, nofun, fun _ => rfl, by simp, by simp⟩
  all_goals exact ⟨rfl, nofun, fun _ => rfl, fun _ => rfl, fun _ => rfl⟩

theorem next_move (hnext : task.next sessionId step = some after) : Move step task after := by
  obtain ⟨stage, reader, reading, calls, sent⟩ := task
  cases step with
  | Receive received written =>
    simp only [next, Option.ite_none_right_eq_some, Option.some.injEq] at hnext
    obtain ⟨hstage, rfl⟩ := hnext
    exact receive_move _ received written hstage
  | OutputSent delivered =>
    simp only [next] at hnext
    split at hnext
    case h_1 data =>
      cases delivered <;> cases hnext <;> exact .reader rfl rfl rfl nofun
    case h_2 => cases hnext
  | ReadStarts =>
    simp only [next, Option.ite_none_right_eq_some, Option.some.injEq] at hnext
    obtain ⟨rfl, rfl⟩ := hnext
    exact .reader rfl rfl rfl nofun
  | ReadReturns result =>
    simp only [next, Option.ite_none_right_eq_some, Option.some.injEq] at hnext
    obtain ⟨rfl, rfl⟩ := hnext
    refine .reader rfl rfl rfl fun hgone => ?_
    cases hgone
    rfl
  | ReaderStops =>
    simp only [next, Option.ite_none_right_eq_some, Option.some.injEq] at hnext
    obtain ⟨rfl, rfl⟩ := hnext
    exact .reader rfl rfl rfl fun _ => rfl
  | Allocate allocated =>
    simp only [next, Option.ite_none_right_eq_some, Option.some.injEq] at hnext
    obtain ⟨rfl, rfl⟩ := hnext
    cases allocated <;> exact ⟨rfl, nofun, fun _ => rfl, fun _ => rfl, fun _ => rfl⟩
  | Drop activated =>
    simp only [next, Option.ite_none_right_eq_some, Option.some.injEq] at hnext
    obtain ⟨⟨rfl, _⟩ | rfl, rfl⟩ := hnext <;>
      exact ⟨rfl, nofun, fun _ => rfl, fun _ => rfl, fun _ => rfl⟩
  | Join =>
    simp only [next, Option.ite_none_right_eq_some, Option.some.injEq] at hnext
    obtain ⟨⟨rfl, hgone⟩, rfl⟩ := hnext
    exact ⟨rfl, fun _ _ => hgone, fun _ => rfl, fun _ => rfl, fun _ => rfl⟩
  | Release =>
    simp only [next, Option.ite_none_right_eq_some, Option.some.injEq] at hnext
    obtain ⟨rfl, rfl⟩ := hnext
    exact ⟨rfl, nofun, fun hne => absurd rfl hne, fun hne => absurd rfl hne,
      fun hne => absurd rfl hne⟩
  | _ =>
    simp only [next, Option.ite_none_right_eq_some, Option.some.injEq] at hnext
    obtain ⟨rfl, rfl⟩ := hnext
    exact ⟨rfl, nofun, fun _ => rfl, fun _ => rfl, fun _ => rfl⟩

theorem reaped_release_iff (hgone : task.reader = .Gone) (hquiet : task.Quiet) :
    task.release.Reaped ↔ task.reading = false := by
  obtain ⟨hkills, hwaits⟩ := hquiet
  unfold Reaped release strongCount
  rw [hgone]
  cases task.reading with
  | false => simp [hkills, hwaits]
  | true => simp [hkills]

end Move

end ShellTask

section Manager

variable (manager : SessionManager) (sessionId other : String)

theorem isSome_update (change : ShellSession → ShellSession) :
    ((manager.update sessionId change).sessions.get other).isSome =
      (manager.sessions.get other).isSome := by
  unfold SessionManager.update
  cases hsession : manager.sessions.get sessionId with
  | none => rfl
  | some session =>
    rw [Map.get_insert]
    split
    case isTrue heq => rw [heq, hsession]; rfl
    case isFalse => rfl

theorem isSome_managed (step : ShellStep) :
    ((managed manager sessionId step).sessions.get other).isSome =
      if other = sessionId ∧ step.removes = true then false
      else (manager.sessions.get other).isSome := by
  unfold managed
  split
  case h_1 =>
    rw [SessionManager.remove, Map.get_erase]
    by_cases heq : other = sessionId <;> simp [heq, ShellStep.removes]
  case h_4 =>
    rw [SessionManager.remove, Map.get_erase]
    by_cases heq : other = sessionId
    · simp [heq, ShellStep.removes]
    · simp [heq, isSome_update]
  case h_5 hallocate _ _ hremove =>
    have hremoves : step.removes = false := by
      cases step with
      | Allocate allocated =>
        cases allocated with
        | false => exact absurd rfl hallocate
        | true => rfl
      | Remove => exact absurd rfl hremove
      | _ => rfl
    simp [hremoves]
  all_goals
    rw [isSome_update]
    simp [ShellStep.removes]

-- A request that opens a session has found a free slot for it.
theorem shellOpen_created (world : World) (server : ShellServer)
    (authorization : Option MetadataValue) (first : Received) (created : SessionManager)
    (hopen : shellOpen world server authorization first sessionId manager = .ok created) :
    manager.sessions.toList.length < manager.maxSessions ∧
      ∃ session, session.state = .Initializing ∧ session.commandsExecuted = 0 ∧
        created = { manager with sessions := manager.sessions.insert sessionId session } := by
  unfold shellOpen at hopen
  split at hopen
  case h_1 => cases hopen
  case h_2 identity _ =>
    split at hopen
    case h_3 rows cols term =>
      unfold SessionManager.createSession at hopen
      split at hopen
      case h_1 => cases hopen
      case h_2 hcreated =>
        split at hcreated
        · cases hcreated
        · rename_i hfree
          cases hcreated
          cases hopen
          exact ⟨Nat.lt_of_not_ge hfree, _, rfl, rfl, rfl⟩
    all_goals cases hopen

end Manager

-- How a step of the system is a step of one shell, or none.
inductive TaskMove (sessionId : String) (label : SessionStep) :
    Option ShellTask → Option ShellTask → Prop
  | Same (task : Option ShellTask) (hlabel : ∀ step, label ≠ .Task sessionId step) :
      TaskMove sessionId label task task
  | Opened (hlabel : ∀ step, label ≠ .Task sessionId step) :
      TaskMove sessionId label none (some .new)
  | Stepped (step : ShellStep) (task after : ShellTask) (hlabel : label = .Task sessionId step)
      (hnext : task.next sessionId step = some after) :
      TaskMove sessionId label (some task) (some after)

-- The manager has the sessions whose shells have neither been refused nor come to their end.
def Listed (state : Sessions) : Prop :=
  ∀ sessionId, (state.manager.sessions.get sessionId).isSome =
    (state.tasks.get sessionId).any (·.stage.listed)

section Step

variable (server : ShellServer) (state after : Sessions) (label : SessionStep) (sessionId : String)

theorem sessionsNext_cases (hnext : sessionsNext server state label = some after) :
    ((∀ stepped step, label ≠ .Task stepped step) ∧ after = state) ∨
    (∃ opened session manager, (∀ stepped step, label ≠ .Task stepped step) ∧
      state.tasks.get opened = none ∧
      manager.sessions = state.manager.sessions.insert opened session ∧
      after = ⟨manager, state.tasks.insert opened .new⟩) ∨
    (∃ stepped step task later, label = .Task stepped step ∧
      state.tasks.get stepped = some task ∧ task.next stepped step = some later ∧
      after = ⟨managed state.manager stepped step, state.tasks.insert stepped later⟩) := by
  cases label with
  | Open world authorization first opened =>
    have hlabel : ∀ stepped step,
        SessionStep.Open world authorization first opened ≠ .Task stepped step := by
      intro stepped step heq
      cases heq
    simp only [sessionsNext] at hnext
    split at hnext
    case isTrue => cases hnext
    case isFalse hfresh =>
      split at hnext
      case h_1 =>
        cases hnext
        exact .inl ⟨hlabel, rfl⟩
      case h_2 manager hopen =>
        cases hnext
        obtain ⟨_, session, _, _, rfl⟩ := shellOpen_created _ _ _ _ _ _ _ hopen
        exact .inr (.inl ⟨opened, session, _, hlabel,
          Option.not_isSome_iff_eq_none.mp hfresh, rfl, rfl⟩)
  | Task stepped step =>
    simp only [sessionsNext] at hnext
    split at hnext
    case h_1 => cases hnext
    case h_2 task htask =>
      split at hnext
      case h_1 => cases hnext
      case h_2 later hlater =>
        cases hnext
        exact .inr (.inr ⟨stepped, step, task, later, rfl, htask, hlater, rfl⟩)

theorem sessionsNext_move (hnext : sessionsNext server state label = some after) :
    TaskMove sessionId label (state.tasks.get sessionId) (after.tasks.get sessionId) := by
  rcases sessionsNext_cases server state after label hnext with
    ⟨hlabel, rfl⟩ | ⟨opened, session, manager, hlabel, hfresh, _, rfl⟩ |
    ⟨stepped, step, task, later, rfl, htask, hlater, rfl⟩
  · exact .Same _ (hlabel sessionId)
  · dsimp only
    rw [Map.get_insert]
    split
    case isTrue heq =>
      rw [heq, hfresh]
      exact .Opened (hlabel opened)
    case isFalse => exact .Same _ (hlabel sessionId)
  · dsimp only
    rw [Map.get_insert]
    split
    case isTrue heq =>
      rw [heq, htask]
      exact .Stepped step task later rfl hlater
    case isFalse hne =>
      refine .Same _ fun other hlabel => ?_
      cases hlabel
      exact hne rfl

theorem sessionsNext_listed (hlisted : Listed state)
    (hnext : sessionsNext server state label = some after) : Listed after := by
  intro sessionId
  rcases sessionsNext_cases server state after label hnext with
    ⟨_, rfl⟩ | ⟨opened, session, manager, _, _, hsessions, rfl⟩ |
    ⟨stepped, step, task, later, _, htask, hlater, rfl⟩
  · exact hlisted sessionId
  · dsimp only
    rw [hsessions, Map.get_insert, Map.get_insert]
    split
    case isTrue => rfl
    case isFalse => exact hlisted sessionId
  · dsimp only
    rw [isSome_managed, Map.get_insert, hlisted sessionId]
    by_cases heq : sessionId = stepped
    · have hmove := (ShellTask.next_move stepped step task later hlater).listed
      simp [heq, htask, hmove]
    · simp [heq]

def AllAwaited (state : Sessions) : Prop :=
  ∀ sessionId task, state.tasks.get sessionId = some task → task.Awaited

theorem sessionsNext_awaited (hawaited : AllAwaited state)
    (hnext : sessionsNext server state label = some after) : AllAwaited after := by
  intro sessionId task htask
  have hmove := sessionsNext_move server state after label sessionId hnext
  have hbefore := hawaited sessionId
  rw [htask] at hmove
  generalize state.tasks.get sessionId = before at hmove hbefore
  cases hmove with
  | Same _ _ => exact hbefore task rfl
  | Opened _ => exact nofun
  | Stepped step earlier _ _ hstep =>
    exact (ShellTask.next_move sessionId step earlier task hstep).awaited (hbefore earlier rfl)

end Step

-- No read of the session is on its way when its handle is to be taken out of the reference.
def ReadsDone (sessionId : String) (state : Sessions) : SessionStep → Prop
  | .Task other .Release =>
    other = sessionId → (state.tasks.get sessionId).any (·.reading) = false
  | _ => True

instance (sessionId : String) (state : Sessions) (label : SessionStep) :
    Decidable (ReadsDone sessionId state label) := by
  unfold ReadsDone
  split <;> infer_instance

theorem readsDone_of_ne (sessionId : String) (state : Sessions) (label : SessionStep)
    (hne : label ≠ .Task sessionId .Release) : ReadsDone sessionId state label := by
  unfold ReadsDone
  split
  case h_1 other =>
    intro heq
    rw [heq] at hne
    exact absurd rfl hne
  case h_2 => trivial

-- What has become of the child of a shell, where `clear` says that so far no release of its handle
-- has met a read on its way.
def Followed (clear : Prop) : Option ShellTask → Prop
  | none => clear
  | some task =>
    (task.stage.released = false → task.Quiet ∧ clear) ∧
    (task.stage.released = true → (task.Reaped ↔ clear))

theorem Followed.move {clear : Prop} {step : ShellStep} {task after : ShellTask}
    (h : Followed clear (some task)) (hmove : task.Move step after) (hne : step ≠ .Release) :
    Followed clear (some after) := by
  simp only [Followed, ShellTask.Quiet, ShellTask.Reaped] at h ⊢
  rwa [hmove.released hne, hmove.kills hne, hmove.waits hne]

theorem Followed.release {clear : Prop} {task : ShellTask} (h : Followed clear (some task))
    (hawaited : task.Awaited) (hjoined : task.stage = .Joined) :
    Followed (clear ∧ task.reading = false) (some task.release) := by
  obtain ⟨hquiet, hclear⟩ := h.1 (by rw [hjoined]; rfl)
  refine ⟨nofun, fun _ => ?_⟩
  rw [ShellTask.reaped_release_iff task (hawaited hjoined) hquiet, and_iff_right hclear]

section Runs

variable (server : ShellServer) (maxSessions : Nat) (steps : List SessionStep) (last : Sessions)
  (sessionId : String)

theorem sessionsNext_followed (state after : Sessions) (label : SessionStep) (clear : Prop)
    (hawaited : AllAwaited state) (h : Followed clear (state.tasks.get sessionId))
    (hnext : sessionsNext server state label = some after) :
    Followed (clear ∧ ReadsDone sessionId state label) (after.tasks.get sessionId) := by
  have hmove := sessionsNext_move server state after label sessionId hnext
  have hdone : label ≠ .Task sessionId .Release → (clear ∧ ReadsDone sessionId state label) = clear :=
    fun hne => propext (and_iff_left (readsDone_of_ne sessionId state label hne))
  generalize htask : state.tasks.get sessionId = before at hmove h
  generalize after.tasks.get sessionId = later at hmove
  cases hmove with
  | Same _ hlabel =>
    rw [hdone (hlabel .Release)]
    exact h
  | Opened hlabel =>
    rw [hdone (hlabel .Release)]
    exact ⟨fun _ => ⟨⟨rfl, rfl⟩, h⟩, nofun⟩
  | Stepped step task final hlabel hstep =>
    by_cases hrelease : step = .Release
    · subst hrelease hlabel
      obtain ⟨hjoined, hfinal⟩ := Option.ite_none_right_eq_some.mp hstep
      cases hfinal
      have hreading : ReadsDone sessionId state (.Task sessionId .Release) ↔
          task.reading = false := by
        simp [ReadsDone, htask]
      rw [propext hreading]
      exact h.release (hawaited sessionId task htask) hjoined
    · rw [hdone (by rw [hlabel]; simpa using hrelease)]
      exact h.move (ShellTask.next_move sessionId step task final hstep) hrelease

-- By induction on the run from its end.
theorem run_followed (run : Run (sessionsNext server) Unrestricted (.new maxSessions) steps last) :
    Followed (Run (sessionsNext server) (ReadsDone sessionId) (.new maxSessions) steps last)
      (last.tasks.get sessionId) := by
  induction steps using List.reverseRecOn generalizing last with
  | nil =>
    cases run
    exact .nil _
  | append_singleton steps label ih =>
    obtain ⟨middle, hbefore, _, hnext⟩ := run.snoc_cases
    have hawaited : AllAwaited middle :=
      hbefore.invariant AllAwaited
        (fun state label after hstate _ => sessionsNext_awaited server state after label hstate) nofun
    rw [propext (hbefore.snoc_iff hnext)]
    exact sessionsNext_followed server sessionId middle last label _ hawaited (ih middle hbefore) hnext

theorem run_listed (run : Run (sessionsNext server) Unrestricted (.new maxSessions) steps last) :
    Listed last :=
  run.invariant Listed
    (fun state label after hstate _ => sessionsNext_listed server state after label hstate)
    fun _ => rfl

-- A session that had a shell and is gone from the manager: its child was killed and waited for
-- once, exactly if no read of it was on its way when the task came to release the handle.
theorem closed_session_reaped_iff (task : ShellTask)
    (run : Run (sessionsNext server) Unrestricted (.new maxSessions) steps last)
    (htask : last.tasks.get sessionId = some task) (hchild : task.HasChild)
    (hclosed : last.manager.sessions.get sessionId = none) :
    task.Reaped ↔
      Run (sessionsNext server) (ReadsDone sessionId) (.new maxSessions) steps last := by
  have hfollowed := run_followed server maxSessions steps last sessionId run
  have hlisted := run_listed server maxSessions steps last run sessionId
  rw [hclosed, htask, Option.any_some] at hlisted
  rw [htask] at hfollowed
  refine hfollowed.2 ?_
  cases hstage : task.stage with
  | Removed => rfl
  | Refused => exact absurd hstage hchild.2
  | _ =>
    rw [hstage] at hlisted
    cases hlisted

end Runs

def opening : SessionStep :=
  .Open (sampleWorld .Outlives) (some (.Text "Bearer token-1"))
    (.Message (some (.Open 24 80 "xterm"))) "s1"

def exitedShell : List SessionStep :=
  [opening, .Task "s1" (.Allocate true), .Task "s1" .Stream, .Task "s1" .ReadStarts,
    .Task "s1" (.ReadReturns none), .Task "s1" (.Receive .Ended true), .Task "s1" .Abort,
    .Task "s1" .Join, .Task "s1" .Release, .Task "s1" (.ExitSent true), .Task "s1" .Remove]

-- A session that the client closes at an idle prompt: the reader is waiting for output.
def idleShell : List SessionStep :=
  [opening, .Task "s1" (.Allocate true), .Task "s1" .Stream, .Task "s1" .ReadStarts,
    .Task "s1" (.Receive (.Message (some .Close)) true), .Task "s1" .Abort,
    .Task "s1" .ReaderStops, .Task "s1" .Join, .Task "s1" .Release, .Task "s1" (.ExitSent true),
    .Task "s1" .Remove]

theorem closed_session_reaped_exited :
    ∃ last task, Run (sessionsNext sampleServer) (ReadsDone "s1") (.new 10) exitedShell last ∧
      last.tasks.get "s1" = some task ∧ last.manager.sessions.get "s1" = none ∧ task.Reaped := by
  obtain ⟨last, hlast⟩ : ∃ last, execWhere (sessionsNext sampleServer) (ReadsDone "s1") (.new 10)
      exitedShell = some last :=
    Option.isSome_iff_exists.mp (by decide +kernel)
  have hfinal : (execWhere (sessionsNext sampleServer) (ReadsDone "s1") (.new 10) exitedShell).map
      (fun last => (last.manager.sessions.get "s1", last.tasks.get "s1")) =
      some (none, some ⟨.Removed, .Gone, false, [.Kill, .Wait], [.SessionId "s1", .ExitCode 0]⟩) := by
    decide +kernel
  rw [hlast, Option.map_some, Option.some.injEq, Prod.mk.injEq] at hfinal
  obtain ⟨hclosed, htask⟩ := hfinal
  have hrun := run_of_execWhere _ _ _ _ _ hlast
  refine ⟨last, _, hrun, htask, hclosed, ?_⟩
  exact (closed_session_reaped_iff sampleServer 10 exitedShell last "s1" _
    hrun.unrestricted htask ⟨nofun, nofun⟩ hclosed).mpr hrun

-- The reference of the read keeps the handle from being taken out. The session is removed, and
-- its child has been neither killed nor waited for, also when the read returns later.
theorem idle_shell_left_behind :
    (Library.exec (sessionsNext sampleServer) (.new 10) idleShell).map
        (fun last => (last.manager.sessions.get "s1", last.tasks.get "s1")) =
      some (none, some ⟨.Removed, .Gone, true, [], [.SessionId "s1", .ExitCode 0]⟩) ∧
    (Library.exec (sessionsNext sampleServer) (.new 10)
        (idleShell ++ [.Task "s1" (.ReadReturns none)])).map
        (fun last => (last.manager.sessions.get "s1", last.tasks.get "s1")) =
      some (none, some ⟨.Removed, .Gone, false, [], [.SessionId "s1", .ExitCode 0]⟩) ∧
    ¬ShellTask.Reaped ⟨.Removed, .Gone, false, [], [.SessionId "s1", .ExitCode 0]⟩ := by
  refine ⟨by decide +kernel, by decide +kernel, ?_⟩
  unfold ShellTask.Reaped
  decide

end Pact.Agent.Shell
