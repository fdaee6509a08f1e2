import Pact.Agent.Shell.Session.Theorems
import Pact.Library.MapSize

namespace Pact.Agent.Shell

open Pact.Library Pact.Common Pact.Journal

-- Sessions that are closing for too long, and the manager without them. The age counts from the
-- start of the session.
def SessionManager.cleanupStale (manager : SessionManager) (now : DateTime) (maxAgeSeconds : Int) :
    SessionManager × List String :=
  let stale := (manager.sessions.toList.filter fun (_, session) =>
    session.state = .Closing ∧ (now - session.startedAt).tdiv 1000000000 > maxAgeSeconds).map Prod.fst
  ({ manager with sessions := stale.foldl (fun sessions id => sessions.erase id) manager.sessions },
    stale)

-- What a session in the manager can look like between two steps.
def ShellSession.Underway (session : ShellSession) : Prop :=
  (session.state = .Initializing ∨ session.state = .Active) ∧ session.commandsExecuted = 0

structure SessionManager.Sound (manager : SessionManager) (maxSessions : Nat) : Prop where
  limit : manager.maxSessions = maxSessions
  capped : manager.sessions.toList.length ≤ maxSessions
  underway : ∀ sessionId session, manager.sessions.get sessionId = some session → session.Underway

-- The marks that a session gets at its end go with it: it is removed under the same lock.
theorem remove_update (manager : SessionManager) (sessionId : String)
    (change : ShellSession → ShellSession) :
    (manager.update sessionId change).remove sessionId = manager.remove sessionId := by
  unfold SessionManager.update
  cases hget : manager.sessions.get sessionId with
  | none => rfl
  | some session =>
    simp only [SessionManager.remove, SessionManager.mk.injEq, and_true]
    refine Map.ext fun key => ?_
    rw [Map.get_erase, Map.get_erase, Map.get_insert]
    split <;> rfl

section Steps

variable {manager : SessionManager} {maxSessions : Nat} (hsound : manager.Sound maxSessions)
include hsound

theorem sound_stored (sessionId : String) (session : ShellSession) (hunderway : session.Underway)
    (hroom : (manager.sessions.insert sessionId session).toList.length ≤ maxSessions) :
    SessionManager.Sound { manager with sessions := manager.sessions.insert sessionId session }
      maxSessions := by
  refine ⟨hsound.limit, hroom, ?_⟩
  intro other found hfound
  dsimp only at hfound
  rw [Map.get_insert] at hfound
  split at hfound
  · obtain rfl := Option.some.inj hfound
    exact hunderway
  · exact hsound.underway other found hfound

theorem sound_opened (world : World) (server : ShellServer) (authorization : Option MetadataValue)
    (first : Received) (sessionId : String) (created : SessionManager)
    (h : shellOpen world server authorization first sessionId manager = .ok created) :
    created.Sound maxSessions := by
  obtain ⟨hfree, session, hstate, hcommands, rfl⟩ := shellOpen_created _ _ _ _ _ _ _ h
  have hlength := Map.length_insert_le manager.sessions sessionId session
  have hlimit := hsound.limit
  exact sound_stored hsound sessionId session ⟨.inl hstate, hcommands⟩ (by omega)

theorem sound_removed (sessionId : String) : (manager.remove sessionId).Sound maxSessions := by
  refine ⟨hsound.limit, (Map.length_erase_le _ _).trans hsound.capped, ?_⟩
  intro other session hsession
  rw [SessionManager.remove, Map.get_erase] at hsession
  split at hsession
  · cases hsession
  · exact hsound.underway other session hsession

theorem sound_activated (sessionId : String) :
    (manager.update sessionId ShellSession.activate).Sound maxSessions := by
  unfold SessionManager.update
  cases hget : manager.sessions.get sessionId with
  | none => exact hsound
  | some session =>
    refine sound_stored hsound sessionId session.activate
      ⟨.inr rfl, (hsound.underway sessionId session hget).2⟩ ?_
    rw [Map.length_insert_of_get _ _ _ session hget]
    exact hsound.capped

theorem sound_ended (sessionId : String) (change : ShellSession → ShellSession) :
    ((manager.update sessionId change).remove sessionId).Sound maxSessions := by
  rw [remove_update]
  exact sound_removed hsound sessionId

theorem sound_managed (sessionId : String) (step : ShellStep) :
    (managed manager sessionId step).Sound maxSessions := by
  unfold managed
  split
  · exact sound_removed hsound sessionId
  · exact sound_activated hsound sessionId
  · exact sound_activated hsound sessionId
  · exact sound_ended hsound sessionId _
  · exact hsound

end Steps

theorem sessionsNext_sound (server : ShellServer) (maxSessions : Nat) (state after : Sessions)
    (label : SessionStep) (hsound : state.manager.Sound maxSessions)
    (hnext : sessionsNext server state label = some after) : after.manager.Sound maxSessions := by
  cases label with
  | Open world authorization first opened =>
    simp only [sessionsNext] at hnext
    split at hnext
    · cases hnext
    · split at hnext
      · cases hnext
        exact hsound
      · rename_i created hopen
        cases hnext
        exact sound_opened hsound world server authorization first opened created hopen
  | Task stepped step =>
    simp only [sessionsNext] at hnext
    split at hnext
    · cases hnext
    · split at hnext
      · cases hnext
      · cases hnext
        exact sound_managed hsound stepped step

theorem cleanupStale_eq_self (manager : SessionManager) (now : DateTime) (maxAgeSeconds : Int)
    (hopen : ∀ sessionId session, manager.sessions.get sessionId = some session →
      session.state ≠ .Closing) :
    manager.cleanupStale now maxAgeSeconds = (manager, []) := by
  have hnone : (manager.sessions.toList.filter fun (_, session) =>
      session.state = .Closing ∧ (now - session.startedAt).tdiv 1000000000 > maxAgeSeconds) = [] := by
    rw [List.filter_eq_nil_iff]
    rintro ⟨sessionId, session⟩ hmem
    have hstate := hopen sessionId session ((Map.mem_toList_iff _ _ _).mp hmem)
    simp [hstate]
  simp only [SessionManager.cleanupStale, hnone, List.map_nil, List.foldl_nil]

theorem run_managerSound (server : ShellServer) (maxSessions : Nat) (steps : List SessionStep)
    (last : Sessions)
    (run : Run (sessionsNext server) Unrestricted (.new maxSessions) steps last) :
    last.manager.Sound maxSessions := by
  refine run.invariant (fun state => state.manager.Sound maxSessions)
    (fun state label after h _ hnext => sessionsNext_sound server maxSessions state after label h
      hnext) ⟨rfl, Nat.zero_le _, ?_⟩
  intro sessionId session hsession
  rw [Sessions.new, SessionManager.new, Map.get_empty] at hsession
  cases hsession

-- However requests and the tasks of shells interleave, there are never more sessions than the
-- node allows, and none that is seen closing. So the cleanup of stale sessions never frees a slot.
theorem session_slots (server : ShellServer) (maxSessions : Nat) (steps : List SessionStep)
    (last : Sessions)
    (run : Run (sessionsNext server) Unrestricted (.new maxSessions) steps last) :
    last.manager.sessions.toList.length ≤ maxSessions ∧
      (∀ sessionId, (last.manager.sessions.get sessionId).isSome =
        (last.tasks.get sessionId).any (·.stage.listed)) ∧
      ∀ now maxAgeSeconds, last.manager.cleanupStale now maxAgeSeconds = (last.manager, []) := by
  have hsound := run_managerSound server maxSessions steps last run
  refine ⟨hsound.capped, run_listed server maxSessions steps last run, ?_⟩
  intro now maxAgeSeconds
  refine cleanupStale_eq_self last.manager now maxAgeSeconds fun sessionId session hsession => ?_
  rcases (hsound.underway sessionId session hsession).1 with hstate | hstate <;>
    rw [hstate] <;> decide

theorem next_dropped (sessionId : String) (step : ShellStep) (task after : ShellTask)
    (hdropped : task.stage = .Dropped) (hnext : task.next sessionId step = some after) :
    after.stage = .Dropped := by
  cases step with
  | OutputSent delivered =>
    simp only [ShellTask.next] at hnext
    split at hnext
    · cases delivered <;> cases hnext <;> exact hdropped
    · cases hnext
  | ReadStarts =>
    obtain ⟨_, hafter⟩ := Option.ite_none_right_eq_some.mp hnext
    cases hafter
    exact hdropped
  | ReadReturns result =>
    obtain ⟨_, hafter⟩ := Option.ite_none_right_eq_some.mp hnext
    cases hafter
    exact hdropped
  | _ => simp [ShellTask.next, hdropped] at hnext

section Dropped

variable (server : ShellServer) (sessionId : String)

-- The request of this session was dropped before its task was spawned.
def DroppedIn (state : Sessions) : Prop :=
  ∃ task, state.tasks.get sessionId = some task ∧ task.stage = .Dropped

theorem sessionsNext_dropped (state after : Sessions) (label : SessionStep)
    (hdropped : DroppedIn sessionId state) (hnext : sessionsNext server state label = some after) :
    DroppedIn sessionId after := by
  obtain ⟨task, htask, hstage⟩ := hdropped
  have hmove := sessionsNext_move server state after label sessionId hnext
  rw [htask] at hmove
  unfold DroppedIn
  generalize after.tasks.get sessionId = later at hmove ⊢
  cases hmove with
  | Same _ _ => exact ⟨task, rfl, hstage⟩
  | Stepped step _ final _ hstep =>
    exact ⟨final, rfl, next_dropped sessionId step task final hstage hstep⟩

-- A session whose request was dropped holds its slot for good. Where there are as many of them as
-- the node allows sessions, every later request for a shell is refused.
theorem dropped_request_keeps_slot (maxSessions : Nat) (steps more : List SessionStep)
    (last later : Sessions) (dropped : List String)
    (run : Run (sessionsNext server) Unrestricted (.new maxSessions) steps last)
    (hdropped : ∀ sessionId ∈ dropped, DroppedIn sessionId last)
    (hmore : Run (sessionsNext server) Unrestricted last more later) :
    (∀ sessionId ∈ dropped, (later.manager.sessions.get sessionId).isSome = true) ∧
    (dropped.Nodup → maxSessions ≤ dropped.length →
      ∀ world authorization first sessionId,
        ∃ status, shellOpen world server authorization first sessionId later.manager =
          .error status) := by
  have hlisted := run_listed server maxSessions _ later (run.append hmore)
  have hkept : ∀ sessionId ∈ dropped, (later.manager.sessions.get sessionId).isSome = true := by
    intro sessionId hmem
    obtain ⟨task, htask, hstage⟩ := hmore.invariant (DroppedIn sessionId)
      (fun state label after h _ hnext =>
        sessionsNext_dropped server sessionId state after label h hnext) (hdropped sessionId hmem)
    rw [hlisted sessionId, htask, Option.any_some, hstage]
    rfl
  refine ⟨hkept, fun hnodup hfull world authorization first sessionId => ?_⟩
  have hlimit := (run_managerSound server maxSessions _ later (run.append hmore)).limit
  have hlength := Map.length_le_of_isSome later.manager.sessions dropped hnodup hkept
  cases hopen : shellOpen world server authorization first sessionId later.manager with
  | error status => exact ⟨status, rfl⟩
  | ok created =>
    have hfree := (shellOpen_created _ _ _ _ _ _ _ hopen).1
    omega

end Dropped

def promptShell : List SessionStep :=
  [opening, .Task "s1" (.Allocate true), .Task "s1" .Stream, .Task "s1" .ReadStarts]

theorem session_slots_prompt : ∃ last,
    Run (sessionsNext sampleServer) Unrestricted (.new 1) promptShell last ∧
      (last.manager.sessions.get "s1").isSome = true ∧
      last.manager.sessions.toList.length ≤ 1 := by
  have hexec : (Library.exec (sessionsNext sampleServer) (.new 1) promptShell).any (fun last =>
      (last.manager.sessions.get "s1").isSome) = true := by
    decide +kernel
  obtain ⟨last, hlast, hopen⟩ := (Option.any_eq_true _ _).mp hexec
  have hrun := (exec_eq_some_iff _ _ _ _).mp hlast
  exact ⟨last, hrun, hopen, (session_slots sampleServer 1 promptShell last hrun).1⟩

-- A session whose client goes away when its PTY has been allocated.
def droppedShell : List SessionStep :=
  [opening, .Task "s1" (.Allocate true), .Task "s1" (.Drop true)]

theorem dropped_request_keeps_slot_only : ∃ last,
    Run (sessionsNext sampleServer) Unrestricted (.new 1) droppedShell last ∧
      (last.manager.sessions.get "s1").isSome = true ∧
      ∃ status, shellOpen (sampleWorld .Outlives) sampleServer (some (.Text "Bearer token-1"))
        (.Message (some (.Open 24 80 "xterm"))) "s2" last.manager = .error status := by
  have hexec : (Library.exec (sessionsNext sampleServer) (.new 1) droppedShell).any (fun last =>
      (last.tasks.get "s1").any (·.stage = .Dropped)) = true := by
    decide +kernel
  obtain ⟨last, hlast, hholds⟩ := (Option.any_eq_true _ _).mp hexec
  obtain ⟨task, htask, hstage⟩ := (Option.any_eq_true _ _).mp hholds
  have hrun := (exec_eq_some_iff _ _ _ _).mp hlast
  obtain ⟨hkept, hfull⟩ := dropped_request_keeps_slot sampleServer 1 droppedShell [] last last ["s1"]
    hrun (List.forall_mem_singleton.mpr ⟨task, htask, of_decide_eq_true hstage⟩) (.nil last)
  exact ⟨last, hrun, hkept "s1" List.mem_cons_self, hfull (by decide) (by decide) _ _ _ _⟩

end Pact.Agent.Shell
