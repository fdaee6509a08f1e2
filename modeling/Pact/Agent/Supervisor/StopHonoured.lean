import Pact.Agent.Supervisor.Progress

namespace Pact.Agent.Supervisor

open Pact.Library

def Step.Names (name : String) : Step → Prop
  | .Start decl _ => decl.name = name
  | .Restart decl _ => decl.name = name
  | .StartAll services => ∃ decl ∈ services, decl.name = name
  | _ => False

-- A call under way that is going to start the service.
def Call.Starts (name : String) : Call → Prop
  | .Stopped decl => decl.name = name
  | .Delaying decl => decl.name = name
  | .Starting services => ∃ decl ∈ services, decl.name = name
  | .Stopping _ => False

-- The loop is restarting the service, or it has found it crashed and will.
def LoopRestarts (s : PactSupervisor) (name : String) : Prop :=
  (∃ decl, s.loop.restarting = some decl ∧ decl.name = name) ∨
    ∃ code decl, (name, code) ∈ s.loop.queue ∧ declared s.serviceDecls name = some decl ∧
      decl.shouldRestart code = true

def RestartPending (s : PactSupervisor) (name : String) : Prop :=
  LoopRestarts s name ∨ ∃ call ∈ s.calls, call.Starts name

def spawnCount (s : PactSupervisor) (name : String) : Nat :=
  (s.table.map Process.service).count name

theorem map_service_changeProcess (table : List Process) (id : ProcessId)
    (change : ProcessStatus → ProcessStatus) :
    (changeProcess table id change).map Process.service = table.map Process.service := by
  refine List.ext_getElem? fun other => ?_
  rw [List.getElem?_map, List.getElem?_map, getElem?_changeProcess]
  cases table[other]? with
  | none => rfl
  | some process =>
    simp only [Option.map_some, Option.some.injEq]
    split <;> rfl

-- A service that is not running starts to run only where a process is spawned for it, or where
-- the loop stores one that it has.
theorem change_idle (v w : View) (spawned : Option String) (dropped : Option ProcessId)
    (hchange : Change v spawned dropped w) (name : String) (hidle : v.running name = false)
    (hspawned : spawned ≠ some name) (hhand : ∀ id, v.hand ≠ some (name, id)) :
    w.running name = false ∧
      (w.table.map Process.service).count name = (v.table.map Process.service).count name := by
  cases hchange with
  | Same => exact ⟨hidle, rfl⟩
  | Changed id change hchange =>
    dsimp only
    rw [map_service_changeProcess]
    exact ⟨hidle, rfl⟩
  | Started other hother =>
    have hne : other ≠ name := fun h => hspawned (congrArg some h)
    dsimp only
    rw [Function.update_of_ne hne.symm, List.map_append, List.count_append]
    exact ⟨hidle, by simp [hne]⟩
  | Ended other id code hchild =>
    dsimp only
    rw [exitProcess, map_service_changeProcess, Function.update_apply]
    exact ⟨by split <;> simp [hidle], rfl⟩
  | Left other =>
    dsimp only
    rw [Function.update_apply]
    exact ⟨by split <;> simp [hidle], rfl⟩
  | Reaped names hexited => exact ⟨by simp [hidle], rfl⟩
  | Marked other =>
    dsimp only
    rw [Function.update_apply]
    exact ⟨by split <;> simp [hidle], rfl⟩
  | Spawned other hnone =>
    have hne : other ≠ name := fun h => hspawned (congrArg some h)
    dsimp only
    rw [List.map_append, List.count_append]
    exact ⟨hidle, by simp [hne]⟩
  | Stored other id hheld =>
    have hne : other ≠ name := by
      rintro rfl
      exact hhand id hheld
    dsimp only
    rw [Function.update_of_ne hne.symm]
    exact ⟨hidle, rfl⟩

theorem startSpawns_eq_some (s : PactSupervisor) (decl : ServiceDecl) (outcome : SpawnOutcome)
    (name : String) (h : startSpawns s decl outcome = some name) : decl.name = name := by
  unfold startSpawns at h
  split at h
  · cases h
  · split at h
    · cases h
    · exact Option.some.inj h

theorem spawns_pending (s : PactSupervisor) (step : Step) (name : String)
    (h : spawns s step = some name) : step.Names name ∨ RestartPending s name := by
  cases step with
  | Start decl outcome => exact .inl (startSpawns_eq_some s decl outcome name h)
  | Advance index spawn wait =>
    simp only [spawns] at h
    split at h
    · rename_i decl hcall
      exact .inr (.inr ⟨_, List.mem_of_getElem? hcall, startSpawns_eq_some s decl spawn name h⟩)
    · rename_i decl services hcall
      exact .inr (.inr ⟨_, List.mem_of_getElem? hcall, decl, List.mem_cons_self,
        startSpawns_eq_some s decl spawn name h⟩)
    · cases h
  | Loop outcome =>
    cases outcome with
    | Failed => cases h
    | Spawned cgroupHandle =>
      simp only [spawns] at h
      split at h
      · rename_i decl crashed hloop
        exact .inr (.inl (.inl ⟨decl, by rw [hloop]; rfl, Option.some.inj h⟩))
      · cases h
  | _ => cases h

theorem hand_restarts (s : PactSupervisor) (name : String) (id : ProcessId)
    (h : s.loop.hand = some (name, id)) : LoopRestarts s name := by
  unfold Loop.hand at h
  split at h
  · rename_i decl child cgroupHandle crashed hloop
    cases h
    exact .inl ⟨decl, by rw [hloop]; rfl, rfl⟩
  · cases h

theorem Framed.pending {s after : PactSupervisor} (hframed : Framed s after) (name : String)
    (h : RestartPending after name) : RestartPending s name := by
  rw [RestartPending, LoopRestarts, hframed.loop, hframed.calls, hframed.serviceDecls] at h
  exact h

theorem callStep_starts (s : PactSupervisor) (spawn : SpawnOutcome) (wait : StopOutcome)
    (call rest : Call) (name : String) (hrest : (callStep spawn wait s call).2 = some rest)
    (hstarts : rest.Starts name) : call.Starts name := by
  cases call with
  | Stopped decl =>
    cases hrest
    exact hstarts
  | Delaying decl => cases hrest
  | Starting services =>
    cases services with
    | nil => cases hrest
    | cons decl services =>
      simp only [callStep] at hrest
      split at hrest
      · cases hrest
        obtain ⟨other, hother, heq⟩ := hstarts
        exact ⟨other, List.mem_cons_of_mem _ hother, heq⟩
      · cases hrest
  | Stopping services =>
    cases services with
    | nil => cases hrest
    | cons decl services =>
      cases hrest
      exact hstarts

theorem LoopRestarts.mono {s after : PactSupervisor} {name : String} (h : LoopRestarts after name)
    (hdecls : after.serviceDecls = s.serviceDecls)
    (hrestarting : ∀ decl, after.loop.restarting = some decl → s.loop.restarting = some decl)
    (hqueue : ∀ crash ∈ after.loop.queue, crash ∈ s.loop.queue) : LoopRestarts s name := by
  rcases h with ⟨decl, hdecl, hname⟩ | ⟨code, decl, hmem, hdecl, hrestart⟩
  · exact .inl ⟨decl, hrestarting decl hdecl, hname⟩
  · exact .inr ⟨code, decl, hqueue _ hmem, hdecls ▸ hdecl, hrestart⟩

theorem decided_restarts (s : PactSupervisor) (name service : String) (code : ExitCode)
    (crashed : List (String × ExitCode)) (decl : ServiceDecl)
    (hloop : s.loop = .Handling ((service, code) :: crashed))
    (hdecl : declared s.serviceDecls service = some decl) (events : List CrashEvent)
    (h : LoopRestarts { s with
      events := events
      loop := if decl.shouldRestart code then .Delaying decl crashed
        else .Declining decl crashed } name) : LoopRestarts s name := by
  have hmore : ∀ crash ∈ crashed, crash ∈ s.loop.queue := by
    intro crash hcrash
    rw [hloop]
    exact List.mem_cons_of_mem _ hcrash
  by_cases hrestart : decl.shouldRestart code = true
  · rw [LoopRestarts] at h
    simp only [hrestart, if_true] at h
    rcases h with ⟨other, hother, rfl⟩ | ⟨exit, other, hmem, hother⟩
    · cases hother
      have hname := (declared_name _ _ _ hdecl).2
      refine .inr ⟨code, decl, ?_, hname.symm ▸ hdecl, hrestart⟩
      rw [hloop, hname]
      exact List.mem_cons_self
    · exact .inr ⟨exit, other, hmore _ hmem, hother⟩
  · simp only [hrestart, Bool.false_eq_true, if_false] at h
    exact h.mono rfl (fun _ hother => by cases hother) hmore

theorem loopStep_restarts (s after : PactSupervisor) (outcome : SpawnOutcome) (name : String)
    (hnext : loopStep outcome s = some after) (h : LoopRestarts after name) :
    LoopRestarts s name := by
  have hdecls := (loopStep_frame s after outcome hnext).1
  unfold loopStep at hnext
  split at hnext
  case h_1 => cases hnext
  case h_4 service code crashed hloop =>
    split at hnext
    · cases hnext
      refine h.mono rfl (fun _ hother => by cases hother) fun crash hcrash => ?_
      rw [hloop]
      exact List.mem_cons_of_mem _ hcrash
    · rename_i decl hdecl
      cases hnext
      exact decided_restarts s name service code crashed decl hloop hdecl _ h
  case h_7 decl crashed hloop =>
    split at hnext
    all_goals
      cases hnext
      refine h.mono hdecls (fun other hother => ?_) fun crash hcrash => by rw [hloop]; exact hcrash
    · cases hother
    · rw [hloop]
      exact hother
  case h_6 decl crashed hloop =>
    cases hnext
    exact h.mono hdecls (fun _ hother => by rw [hloop]; exact hother)
      fun crash hcrash => by rw [hloop]; exact hcrash
  all_goals
    rename_i hloop
    cases hnext
    exact h.mono hdecls (fun _ hother => by cases hother)
      fun crash hcrash => by rw [hloop]; exact hcrash

theorem starts_of_appended (calls : List Call) (call : Call) (name : String)
    (hnot : ¬call.Starts name) (h : ∃ other ∈ calls ++ [call], other.Starts name) :
    ∃ other ∈ calls, other.Starts name := by
  obtain ⟨other, hother, hstarts⟩ := h
  rcases List.mem_append.mp hother with hmem | hnew
  · exact ⟨other, hmem, hstarts⟩
  · obtain rfl := List.mem_singleton.mp hnew
    exact absurd hstarts hnot

theorem advance_pending (s after : PactSupervisor) (index : Nat) (spawn : SpawnOutcome)
    (wait : StopOutcome) (name : String) (hnext : next s (.Advance index spawn wait) = some after)
    (h : RestartPending after name) : RestartPending s name := by
  obtain ⟨call, hcall, rfl⟩ := next_advance s index spawn wait after hnext
  obtain ⟨hframed, _⟩ := callStep_change s index spawn wait call hcall
  have hrest := callStep_starts s spawn wait call
  refine hframed.pending name ?_
  rcases h with hloop | ⟨other, hother, hstarts⟩
  · exact .inl hloop
  · refine .inr ?_
    rw [hframed.calls]
    dsimp only at hother
    split at hother
    case h_1 rest hleft =>
      rcases List.mem_or_eq_of_mem_set hother with hother | rfl
      · exact ⟨other, hother, hstarts⟩
      · exact ⟨call, List.mem_of_getElem? hcall, hrest other name hleft hstarts⟩
    case h_2 => exact ⟨other, List.mem_of_mem_eraseIdx hother, hstarts⟩

-- No step but a call that names the service brings a restart of it about while it is not
-- running.
theorem next_pending (s after : PactSupervisor) (step : Step) (name : String)
    (hidle : s.running name = false) (hnames : ¬ step.Names name)
    (hnext : next s step = some after) (h : RestartPending after name) :
    RestartPending s name := by
  cases step with
  | Exit id code =>
    simp only [next] at hnext
    split at hnext
    · cases hnext
      exact h
    · cases hnext
  | Reap id =>
    simp only [next] at hnext
    split at hnext
    · cases hnext
      exact h
    · cases hnext
  | Start decl outcome =>
    cases hnext
    exact (start_change s decl outcome).1.pending name h
  | Stop decl outcome =>
    cases hnext
    exact (stop_change s decl outcome).1.pending name h
  | Restart decl outcome =>
    cases hnext
    have hframed := (stop_change s decl outcome).1
    exact hframed.pending name (h.imp_right (starts_of_appended _ (.Stopped decl) name hnames))
  | StartAll services =>
    simp only [next] at hnext
    split at hnext
    case isTrue hshares =>
      cases hnext
      rcases h with (⟨decl, hdecl, heq⟩ | ⟨code, decl, hmem, hdecl, hrestart⟩) | hcalls
      · exact .inl (.inl ⟨decl, hdecl, heq⟩)
      · exact absurd ⟨decl, declared_name services name decl hdecl⟩ hnames
      · refine .inr (starts_of_appended _ _ name ?_ hcalls)
        rintro ⟨decl, hdecl, heq⟩
        exact hnames ⟨decl, (List.mem_insertionSort _).mp hdecl, heq⟩
    case isFalse => cases hnext
  | StopAll services =>
    cases hnext
    exact h.imp_right (starts_of_appended _ (.Stopping _) name id)
  | Advance index spawn wait =>
    exact advance_pending s after index spawn wait name hnext h
  | Status decl observed =>
    cases hnext
    rcases status_change s decl observed with hsame | ⟨_, reaped, _, _, hafter⟩
    · rwa [hsame] at h
    · rw [hafter] at h
      exact (setRecord_framed s decl.name reaped).pending name h
  | Tick found =>
    obtain ⟨_, last, crashed, _, hdetection, rfl⟩ := next_tick s found after hnext
    rcases h with (⟨decl, hdecl, _⟩ | ⟨code, decl, hmem, _⟩) | hcalls
    · cases hdecl
    · have hrunning := (hdetection.exited (name, code) hmem).1
      rw [hidle] at hrunning
      cases hrunning
    · rw [hdetection.framed.calls] at hcalls
      exact .inr hcalls
  | Loop outcome =>
    obtain ⟨_, hcalls, _⟩ := loopStep_frame s after outcome hnext
    rcases h with hloop | hpending
    · exact .inl (loopStep_restarts s after outcome name hnext hloop)
    · rw [hcalls] at hpending
      exact .inr hpending

-- A process more for the service, or the service running.
def Revived (s last : PactSupervisor) (name : String) : Prop :=
  last.running name = true ∨ spawnCount s name < spawnCount last name

theorem spawnCount_le (s last : PactSupervisor) (name : String) (h : s.table <+: last.table) :
    spawnCount s name ≤ spawnCount last name :=
  (h.sublist.map Process.service).count_le name

theorem spawnCount_append (s : PactSupervisor) (table : List Process) (name : String)
    (h : s.table = table ++ [⟨name, .Alive⟩]) :
    spawnCount s name = (table.map Process.service).count name + 1 := by
  simp [spawnCount, h]

theorem Watches.not_names {s : PactSupervisor} {step : Step} (name : String) (h : Watches s step) :
    ¬ step.Names name := by
  cases step with
  | Loop outcome => exact id
  | Tick found => exact id
  | _ => cases h

theorem attempts_revives (s : PactSupervisor) (name : String)
    (h : Inevitable next Watches (Attempting name) s) :
    ∃ steps last, Run next (fun _ step => ¬ step.Names name) s steps last ∧
      Revived s last name := by
  obtain ⟨steps, middle, hrun, decl, crashed, hloop, rfl⟩ := h.exists_run
  obtain ⟨-, spawned, htable⟩ := watches_table s middle steps hrun
  obtain ⟨after, hspawn, hafter⟩ : ∃ after, next middle (.Loop (.Spawned none)) = some after ∧
      after.table = middle.table ++ [⟨decl.name, .Alive⟩] := ⟨_, loopStep_spawned none hloop, rfl⟩
  refine ⟨steps ++ [.Loop (.Spawned none)], after,
    (hrun.weaken fun _ _ => Watches.not_names decl.name).append (.single id hspawn), .inr ?_⟩
  rw [spawnCount_append after middle.table decl.name hafter]
  exact Nat.lt_succ_of_le (spawnCount_le s middle decl.name (htable ▸ List.prefix_append _ _))

theorem loopRestarts_revives (s : PactSupervisor) (name : String) (h : LoopRestarts s name) :
    ∃ steps last, Run next (fun _ step => ¬ step.Names name) s steps last ∧
      Revived s last name := by
  rcases h with ⟨decl, hdecl, rfl⟩ | ⟨code, decl, hmem, hdecl, hrestart⟩
  · cases hloop : s.loop with
    | Delaying other crashed =>
      rw [hloop] at hdecl
      cases hdecl
      exact attempts_revives s _ (delaying_attempts s decl crashed hloop)
    | Cleared other crashed =>
      rw [hloop] at hdecl
      cases hdecl
      exact attempts_revives s _ (.reached ⟨decl, crashed, hloop, rfl⟩)
    | Spawned other child cgroupHandle crashed =>
      rw [hloop] at hdecl
      cases hdecl
      refine ⟨[.Loop .Failed], _, .single id (loopStep_store .Failed hloop), .inl ?_⟩
      have hrunning := (storeChild_view s decl child cgroupHandle).2.2.1
      change (storeChild decl child cgroupHandle s).running decl.name = true
      rw [hrunning, Function.update_self]
    | _ =>
      rw [hloop] at hdecl
      cases hdecl
  · refine attempts_revives s name ?_
    rw [← (declared_name _ _ _ hdecl).2]
    exact decided_attempts s decl code hrestart (queue_decided s decl name code hmem hdecl)

theorem start_spawned (s : PactSupervisor) (decl : ServiceDecl) :
    (start decl (.Spawned none) s).2 = true ∧ s.table <+: (start decl (.Spawned none) s).1.table ∧
      (s.running decl.name = true ∨
        (start decl (.Spawned none) s).1.table = s.table ++ [⟨decl.name, .Alive⟩]) := by
  cases hrunning : s.running decl.name with
  | true =>
    rw [start_of_running s decl (.Spawned none) hrunning]
    exact ⟨rfl, List.prefix_rfl, .inl rfl⟩
  | false =>
    obtain ⟨record, -, -, -, heq⟩ := start_spawned_of_idle s decl none hrunning
    rw [heq]
    exact ⟨rfl, List.prefix_append _ _, .inr rfl⟩

theorem advance_eq (s : PactSupervisor) (index : Nat) (call : Call) (spawn : SpawnOutcome)
    (wait : StopOutcome) (hcall : s.calls[index]? = some call) :
    next s (.Advance index spawn wait) = some { (callStep spawn wait s call).1 with
      calls := match (callStep spawn wait s call).2 with
        | some rest => s.calls.set index rest
        | none => s.calls.eraseIdx index } := by
  simp only [next, hcall]
  generalize callStep spawn wait s call = result
  obtain ⟨after, rest⟩ := result
  cases rest <;> rfl

theorem started_revived (s after : PactSupervisor) (decl : ServiceDecl)
    (htable : after.table = (start decl (.Spawned none) s).1.table) :
    s.running decl.name = true ∨ spawnCount s decl.name < spawnCount after decl.name := by
  obtain ⟨_, _, hrunning | happended⟩ := start_spawned s decl
  · exact .inl hrunning
  · refine .inr ?_
    rw [spawnCount_append after s.table decl.name (htable.trans happended)]
    exact Nat.lt_succ_self _

theorem starting_revives (s : PactSupervisor) (index : Nat) (services : List ServiceDecl)
    (name : String) (hcall : s.calls[index]? = some (.Starting services))
    (hnamed : ∃ decl ∈ services, decl.name = name) :
    ∃ steps last, Run next (fun _ step => ¬ step.Names name) s steps last ∧
      Revived s last name := by
  induction services generalizing s with
  | nil =>
    obtain ⟨decl, hdecl, _⟩ := hnamed
    cases hdecl
  | cons decl services ih =>
    have hnext := advance_eq s index _ (.Spawned none) .WaitError hcall
    obtain ⟨hstarted, hlonger, _⟩ := start_spawned s decl
    simp only [callStep, hstarted, if_true] at hnext
    by_cases hname : decl.name = name
    · subst hname
      rcases started_revived s { (start decl (.Spawned none) s).1 with
        calls := s.calls.set index (.Starting services) } decl rfl with hrunning | hmore
      · exact ⟨[], s, .nil s, .inl hrunning⟩
      · exact ⟨[.Advance index (.Spawned none) .WaitError], _, .single id hnext, .inr hmore⟩
    · obtain ⟨other, hother, heq⟩ := hnamed
      have hrest : other ∈ services :=
        (List.mem_cons.mp hother).resolve_left fun h => hname (h ▸ heq)
      have hindex : index < s.calls.length := (List.getElem?_eq_some_iff.mp hcall).1
      obtain ⟨steps, last, hrun, hrevived⟩ := ih { (start decl (.Spawned none) s).1 with
        calls := s.calls.set index (.Starting services) }
        (by simp [hindex]) ⟨other, hrest, heq⟩
      refine ⟨.Advance index (.Spawned none) .WaitError :: steps, last, .cons id hnext hrun, ?_⟩
      exact hrevived.imp_right (Nat.lt_of_le_of_lt (spawnCount_le s _ name hlonger))

theorem delaying_revives (s : PactSupervisor) (index : Nat) (decl : ServiceDecl)
    (hcall : s.calls[index]? = some (.Delaying decl)) :
    ∃ steps last, Run next (fun _ step => ¬ step.Names decl.name) s steps last ∧
      Revived s last decl.name := by
  have hnext := advance_eq s index _ (.Spawned none) .WaitError hcall
  simp only [callStep] at hnext
  rcases started_revived s { (start decl (.Spawned none) s).1 with
    calls := s.calls.eraseIdx index } decl rfl with hrunning | hmore
  · exact ⟨[], s, .nil s, .inl hrunning⟩
  · exact ⟨[.Advance index (.Spawned none) .WaitError], _, .single id hnext, .inr hmore⟩

theorem call_revives (s : PactSupervisor) (name : String) (call : Call) (hcall : call ∈ s.calls)
    (hstarts : call.Starts name) :
    ∃ steps last, Run next (fun _ step => ¬ step.Names name) s steps last ∧
      Revived s last name := by
  obtain ⟨index, hindex, hget⟩ := List.getElem_of_mem hcall
  have hcall : s.calls[index]? = some call := by rw [List.getElem?_eq_getElem hindex, hget]
  cases call with
  | Starting services => exact starting_revives s index services name hcall hstarts
  | Stopping services => cases hstarts
  | Delaying decl =>
    cases hstarts
    exact delaying_revives s index decl hcall
  | Stopped decl =>
    cases hstarts
    have hnext := advance_eq s index _ .Failed .WaitError hcall
    simp only [callStep] at hnext
    have htable : (markRestarting decl s).table = s.table := by
      unfold markRestarting
      split <;> rfl
    obtain ⟨steps, last, hrun, hrevived⟩ := delaying_revives { markRestarting decl s with
      calls := s.calls.set index (.Delaying decl) } index decl (by simp [hindex])
    refine ⟨.Advance index .Failed .WaitError :: steps, last, .cons id hnext hrun, ?_⟩
    exact hrevived.imp_right (Nat.lt_of_le_of_lt (spawnCount_le s _ decl.name
      (htable ▸ List.prefix_rfl)))

theorem stop_idle (s : PactSupervisor) (decl : ServiceDecl) (outcome : StopOutcome) :
    (stop decl outcome s).running decl.name = false := by
  unfold stop
  cases hget : s.processes.get decl.name with
  | none => simp [PactSupervisor.running, hget]
  | some record =>
    by_cases hstate : record.state = .Running
    · simp [hstate, PactSupervisor.running]
    · simp [hstate, running_eq s decl.name record hget]

theorem idle_run (s last : PactSupervisor) (name : String) (steps : List Step)
    (hidle : s.running name = false) (hpending : ¬ RestartPending s name)
    (run : Run next (fun _ step => ¬ step.Names name) s steps last) :
    last.running name = false ∧ spawnCount last name = spawnCount s name := by
  have h := run.invariant
    (fun reached => reached.running name = false ∧ ¬ RestartPending reached name ∧
      spawnCount reached name = spawnCount s name)
    (fun reached step after ⟨hidle, hpending, hcount⟩ hnames hnext => ?_)
    ⟨hidle, hpending, rfl⟩
  · exact ⟨h.1, h.2.2⟩
  · have hspawned : spawns reached step ≠ some name := fun hspawns =>
      (spawns_pending reached step name hspawns).elim hnames hpending
    have hhand : ∀ id, reached.loop.hand ≠ some (name, id) := fun id hid =>
      hpending (.inl (hand_restarts reached name id hid))
    obtain ⟨hafter, hsame⟩ := change_idle _ _ _ _ (next_change reached after step hnext) name hidle
      hspawned hhand
    exact ⟨hafter, fun h => hpending (next_pending reached after step name hidle hnames hnext h),
      hsame.trans hcount⟩

-- After a stop, the service stays down until a call names it exactly if at the stop the loop was
-- not restarting it, had not found it crashed to restart it, and no earlier call was still to
-- start it.
theorem stop_honoured_iff (s stopped : PactSupervisor) (decl : ServiceDecl)
    (outcome : StopOutcome) (hstop : next s (.Stop decl outcome) = some stopped) :
    (∀ steps last, Run next (fun _ step => ¬ step.Names decl.name) stopped steps last →
        last.running decl.name = false ∧
        spawnCount last decl.name = spawnCount stopped decl.name) ↔
      ¬ RestartPending s decl.name := by
  obtain rfl : stop decl outcome s = stopped := Option.some.inj hstop
  have hframed := (stop_change s decl outcome).1
  have hpending : RestartPending (stop decl outcome s) decl.name ↔ RestartPending s decl.name := by
    rw [RestartPending, LoopRestarts, hframed.loop, hframed.calls, hframed.serviceDecls]
    rfl
  rw [← hpending]
  constructor
  · intro h hpending
    obtain ⟨steps, last, hrun, hrevived⟩ : ∃ steps last,
        Run next (fun _ step => ¬ step.Names decl.name) (stop decl outcome s) steps last ∧
          Revived (stop decl outcome s) last decl.name := by
      rcases hpending with hloop | ⟨call, hcall, hstarts⟩
      · exact loopRestarts_revives _ _ hloop
      · exact call_revives _ _ call hcall hstarts
    obtain ⟨hidle, hcount⟩ := h steps last hrun
    rcases hrevived with hrunning | hmore
    · rw [hidle] at hrunning
      cases hrunning
    · omega
  · intro hnone steps last run
    exact idle_run _ last decl.name steps (stop_idle s decl outcome) hnone run

def cache : ServiceDecl := ⟨"cache", .Always, 0⟩

def cacheRunning : PactSupervisor where
  processes := PactSupervisor.new.processes.insert "cache" ⟨.Running, some 0, 0, none, some 0, none⟩
  serviceDecls := [cache]
  table := [⟨"cache", .Alive⟩]
  events := []
  loop := .Sleeping
  calls := []

theorem stop_honoured_cache :
    cacheRunning.running "cache" = true ∧ ¬ RestartPending cacheRunning "cache" ∧
      ∀ steps last,
        Run next (fun _ step => ¬ step.Names "cache") (stop cache .Killed cacheRunning) steps last →
        last.running "cache" = false ∧
        spawnCount last "cache" = spawnCount (stop cache .Killed cacheRunning) "cache" := by
  have hnone : ¬ RestartPending cacheRunning "cache" := by
    rintro ((⟨decl, hdecl, _⟩ | ⟨code, decl, hmem, _⟩) | ⟨call, hcall, _⟩)
    · cases hdecl
    · cases hmem
    · cases hcall
  exact ⟨by decide +kernel, hnone,
    (stop_honoured_iff cacheRunning _ cache .Killed rfl).mpr hnone⟩

-- The service has crashed and the loop is in its restart delay when it is stopped. The stop
-- returns at once, and the loop goes on to start the service.
theorem stop_in_restart_delay_undone :
    ∃ s stopped last,
      exec next .new
        [.StartAll [cache], .Advance 0 (.Spawned none) .WaitError, .Exit 0 (some 1),
          .Tick ["cache"], .Loop .Failed, .Loop .Failed] = some s ∧
      next s (.Stop cache .Killed) = some stopped ∧
      exec next stopped [.Loop .Failed, .Loop (.Spawned none), .Loop .Failed] = some last ∧
      last.running "cache" = true ∧ spawnCount stopped "cache" = 1 ∧
      spawnCount last "cache" = 2 := by
  refine ⟨_, _, _, rfl, rfl, rfl, by decide +kernel, by decide +kernel, by decide +kernel⟩

end Pact.Agent.Supervisor
