import Pact.Agent.Supervisor.Lemmas

namespace Pact.Agent.Supervisor

open Pact.Library

def Loop.restarting : Loop → Option ServiceDecl
  | .Delaying decl _ => some decl
  | .Cleared decl _ => some decl
  | .Spawned decl _ _ _ => some decl
  | _ => none

def Loop.queue : Loop → List (String × ExitCode)
  | .Sleeping => []
  | .Detected crashed => crashed
  | .Handling crashed => crashed
  | .Declining _ crashed => crashed
  | .Delaying _ crashed => crashed
  | .Cleared _ crashed => crashed
  | .Spawned _ _ _ crashed => crashed

theorem declared_name (services : List ServiceDecl) (name : String) (decl : ServiceDecl)
    (h : declared services name = some decl) : decl ∈ services ∧ decl.name = name :=
  ⟨List.mem_of_find?_eq_some h, by simpa using List.find?_some h⟩

def Loop.busyWith : Loop → Option ServiceDecl
  | .Declining decl _ => some decl
  | loop => loop.restarting

section LoopSteps

variable {s : PactSupervisor} {decl : ServiceDecl} {crashed : List (String × ExitCode)}
  (outcome : SpawnOutcome)

theorem loopStep_detected (hloop : s.loop = .Detected crashed) :
    loopStep outcome s = some { s with loop := .Handling crashed } := by
  rw [loopStep, hloop]

theorem loopStep_finished (hloop : s.loop = .Handling []) :
    loopStep outcome s = some { s with loop := .Sleeping } := by
  rw [loopStep, hloop]

theorem loopStep_undeclared {name : String} {code : ExitCode}
    (hloop : s.loop = .Handling ((name, code) :: crashed))
    (hdecl : declared s.serviceDecls name = none) :
    loopStep outcome s = some { s with loop := .Handling crashed } := by
  simp only [loopStep, hloop, hdecl]

theorem loopStep_declared {name : String} {code : ExitCode}
    (hloop : s.loop = .Handling ((name, code) :: crashed))
    (hdecl : declared s.serviceDecls name = some decl) :
    loopStep outcome s = some { s with
      events := s.events ++ [⟨name, code, decl.shouldRestart code⟩]
      loop := if decl.shouldRestart code then .Delaying decl crashed
        else .Declining decl crashed } := by
  simp only [loopStep, hloop, hdecl]

theorem loopStep_declining (hloop : s.loop = .Declining decl crashed) :
    loopStep outcome s = some { declineRestart decl s with loop := .Handling crashed } := by
  rw [loopStep, hloop]

theorem loopStep_delaying (hloop : s.loop = .Delaying decl crashed) :
    loopStep outcome s = some { clearScope decl s with loop := .Cleared decl crashed } := by
  rw [loopStep, hloop]

theorem loopStep_spawned (cgroupHandle : Option String) (hloop : s.loop = .Cleared decl crashed) :
    loopStep (.Spawned cgroupHandle) s = some { s with
      table := s.table ++ [⟨decl.name, .Alive⟩]
      loop := .Spawned decl s.table.length cgroupHandle crashed } := by
  simp only [loopStep, hloop]

theorem loopStep_store {child : ProcessId} {cgroupHandle : Option String}
    (hloop : s.loop = .Spawned decl child cgroupHandle crashed) :
    loopStep outcome s =
      some { storeChild decl child cgroupHandle s with loop := .Handling crashed } := by
  rw [loopStep, hloop]

end LoopSteps

section Records

variable (s : PactSupervisor) (decl : ServiceDecl) (other : String)

theorem get_setRecord_of_ne (record : ProcessState) (h : other ≠ decl.name) :
    (s.setRecord decl.name record).processes.get other = s.processes.get other :=
  Map.get_insert_of_ne _ _ h

theorem get_declineRestart_of_ne (h : other ≠ decl.name) :
    (declineRestart decl s).processes.get other = s.processes.get other := by
  unfold declineRestart
  split
  · split
    · exact get_setRecord_of_ne s decl other _ h
    · rfl
  · rfl

theorem declineRestart_table : (declineRestart decl s).table = s.table := by
  unfold declineRestart
  split
  · split <;> rfl
  · rfl

end Records

theorem loopStep_frame (s after : PactSupervisor) (outcome : SpawnOutcome)
    (h : loopStep outcome s = some after) :
    after.serviceDecls = s.serviceDecls ∧ after.calls = s.calls ∧
      (after.table = s.table ∨ ∃ service, after.table = s.table ++ [⟨service, .Alive⟩]) := by
  unfold loopStep at h
  split at h
  case h_1 => cases h
  case h_4 =>
    split at h <;> cases h <;> exact ⟨rfl, rfl, .inl rfl⟩
  case h_5 declined crashed hloop =>
    cases h
    have hframed := (declineRestart_change s declined).1
    exact ⟨hframed.serviceDecls, hframed.calls, .inl (declineRestart_table s declined)⟩
  case h_6 delayed crashed hloop =>
    cases h
    obtain ⟨hframed, hview⟩ := clearScope_view s delayed
    exact ⟨hframed.serviceDecls, hframed.calls, .inl (congrArg View.table hview)⟩
  case h_7 restarted crashed hloop =>
    split at h
    · cases h
      exact ⟨rfl, rfl, .inl rfl⟩
    · cases h
      exact ⟨rfl, rfl, .inr ⟨restarted.name, rfl⟩⟩
  case h_8 restarted child cgroupHandle crashed hloop =>
    cases h
    obtain ⟨hframed, htable, _⟩ := storeChild_view s restarted child cgroupHandle
    exact ⟨hframed.serviceDecls, hframed.calls, .inl htable⟩
  all_goals
    cases h
    exact ⟨rfl, rfl, .inl rfl⟩

-- How many steps the loop has at most before it sleeps.
def Loop.work : Loop → Nat
  | .Sleeping => 0
  | .Detected crashed => 4 * crashed.length + 2
  | .Handling crashed => 4 * crashed.length + 1
  | .Declining _ crashed => 4 * crashed.length + 2
  | .Delaying _ crashed => 4 * crashed.length + 4
  | .Cleared _ crashed => 4 * crashed.length + 3
  | .Spawned _ _ _ crashed => 4 * crashed.length + 2

-- A step of the loop takes at most the next service off what was found.
theorem loopStep_progress (s after : PactSupervisor) (outcome : SpawnOutcome)
    (h : loopStep outcome s = some after) :
    after.loop.work < s.loop.work ∧
      (after.loop.queue = s.loop.queue ∨ ∃ crash, s.loop = .Handling (crash :: after.loop.queue)) := by
  have hwork : ∀ (restart : Bool) (decl : ServiceDecl) (crashed : List (String × ExitCode)),
      (if restart then Loop.Delaying decl crashed else .Declining decl crashed).work ≤
          4 * crashed.length + 4 ∧
        (if restart then Loop.Delaying decl crashed else .Declining decl crashed).queue =
          crashed := by
    intro restart decl crashed
    cases restart with
    | false => exact ⟨by simp [Loop.work], rfl⟩
    | true => exact ⟨le_refl _, rfl⟩
  unfold loopStep at h
  split at h
  case h_1 => cases h
  case h_4 name code crashed hloop =>
    rw [hloop]
    split at h
    · cases h
      exact ⟨by simp [Loop.work], .inr ⟨_, rfl⟩⟩
    · cases h
      obtain ⟨hless, hqueue⟩ := hwork _ _ crashed
      refine ⟨hless.trans_lt ?_, .inr ⟨_, by rw [hqueue]⟩⟩
      simp only [Loop.work, List.length_cons]
      omega
  case h_7 decl crashed hloop =>
    rw [hloop]
    split at h <;> cases h <;> exact ⟨by simp [Loop.work], .inl rfl⟩
  all_goals
    rename_i hloop
    rw [hloop]
    cases h
    exact ⟨by simp [Loop.work], .inl rfl⟩

theorem exists_loopStep (s : PactSupervisor) (hawake : s.loop ≠ .Sleeping) :
    ∃ after, loopStep (.Spawned none) s = some after := by
  unfold loopStep
  split
  case h_1 hloop => exact absurd hloop hawake
  case h_4 => split <;> exact ⟨_, rfl⟩
  all_goals exact ⟨_, rfl⟩

-- The names are those of all running services whose children have exited, and maybe others.
def FindsAll (s : PactSupervisor) (found : List String) : Prop :=
  ∀ name id code, s.running name = true → s.child name = some id →
    exitCode s.table id = some code → name ∈ found

-- The supervision loop alone: ticks that find every child that has exited, and spawns that do not
-- fail.
def Watches (s : PactSupervisor) : Step → Prop
  | .Tick found => FindsAll s found
  | .Loop (.Spawned _) => True
  | _ => False

theorem exists_detection (s : PactSupervisor) (found : List String) (hnodup : found.Nodup)
    (hfound : ∀ name ∈ found, ∃ record crash,
      s.processes.get name = some record ∧ reap record s.table = some crash) :
    ∃ result, detectCrashedServices found s = some result := by
  induction found generalizing s with
  | nil => exact ⟨_, rfl⟩
  | cons name found ih =>
    obtain ⟨hnew, hnodup⟩ := List.nodup_cons.mp hnodup
    obtain ⟨⟨record, ⟨reaped, code⟩, hget, hreap⟩, hrest⟩ := List.forall_mem_cons.mp hfound
    let counted := { reaped with restarts := (reaped.restarts + 1) % 2 ^ 32 }
    have hlater : ∀ other ∈ found, ∃ record crash,
        (s.setRecord name counted).processes.get other = some record ∧
          reap record (s.setRecord name counted).table = some crash := by
      intro other hother
      obtain ⟨record, crash, hrecord, hcrash⟩ := hrest other hother
      have hne : other ≠ name := fun heq => hnew (heq ▸ hother)
      exact ⟨record, crash, (Map.get_insert_of_ne _ _ hne).trans hrecord, hcrash⟩
    obtain ⟨⟨last, crashed⟩, hlast⟩ := ih (s.setRecord name counted) hnodup hlater
    refine ⟨(last, (name, code) :: crashed), ?_⟩
    simp only [detectCrashedServices, hget, hreap, Option.bind_eq_bind, Option.bind_some]
    rw [hlast]
    rfl

theorem watches_enabled (s : PactSupervisor) :
    ∃ step after, Watches s step ∧ next s step = some after := by
  by_cases hawake : s.loop = .Sleeping
  · let exited := s.processes.toList.filter fun (_, record) => (reap record s.table).isSome
    have hnodup : (exited.map Prod.fst).Nodup :=
      (Map.keys_nodup s.processes).sublist (List.filter_sublist.map _)
    have hreaps : ∀ name ∈ exited.map Prod.fst, ∃ record crash,
        s.processes.get name = some record ∧ reap record s.table = some crash := by
      intro name hname
      obtain ⟨⟨_, record⟩, hmem, rfl⟩ := List.mem_map.mp hname
      obtain ⟨hstored, hreap⟩ := List.mem_filter.mp hmem
      obtain ⟨crash, hcrash⟩ := Option.isSome_iff_exists.mp hreap
      exact ⟨record, crash, (Map.mem_toList_iff ..).mp hstored, hcrash⟩
    obtain ⟨⟨last, crashed⟩, hlast⟩ := exists_detection s _ hnodup hreaps
    refine ⟨.Tick (exited.map Prod.fst), _, ?_, by rw [next, if_pos hawake, hlast]; rfl⟩
    intro name id code hrunning hchild hexit
    cases hget : s.processes.get name with
    | none => simp [PactSupervisor.running, hget] at hrunning
    | some record =>
      rw [running_eq s name record hget, decide_eq_true_iff] at hrunning
      rw [child_eq s name record hget] at hchild
      refine List.mem_map.mpr ⟨(name, record), List.mem_filter.mpr ⟨?_, ?_⟩, rfl⟩
      · exact (Map.mem_toList_iff ..).mpr hget
      · simp [reap, hrunning, hchild, hexit]
  · obtain ⟨after, hafter⟩ := exists_loopStep s hawake
    exact ⟨.Loop (.Spawned none), after, trivial, hafter⟩

theorem watches_awake (s after : PactSupervisor) (step : Step) (hawake : s.loop ≠ .Sleeping)
    (hallowed : Watches s step) (hnext : next s step = some after) :
    ∃ outcome, step = .Loop outcome ∧ loopStep outcome s = some after := by
  cases step with
  | Tick found => exact absurd (next_tick s found after hnext).1 hawake
  | Loop outcome => exact ⟨outcome, rfl, hnext⟩
  | _ => exact hallowed.elim

-- The loop ends no process, and leaves the declarations alone.
theorem watches_table (s last : PactSupervisor) (steps : List Step)
    (run : Run next Watches s steps last) :
    last.serviceDecls = s.serviceDecls ∧
      ∃ spawned : List String, last.table = s.table ++ spawned.map (⟨·, .Alive⟩) := by
  refine run.invariant (fun state => state.serviceDecls = s.serviceDecls ∧
    ∃ spawned : List String, state.table = s.table ++ spawned.map (⟨·, .Alive⟩)) ?_
    ⟨rfl, [], by simp⟩
  rintro state step after ⟨hdecls, spawned, htable⟩ hallowed hnext
  cases step with
  | Tick found =>
    obtain ⟨_, last, crashed, _, hdetection, rfl⟩ := next_tick state found after hnext
    exact ⟨hdetection.framed.serviceDecls.trans hdecls, spawned, hdetection.table.trans htable⟩
  | Loop outcome =>
    obtain ⟨hkept, _, hsame | ⟨service, hmore⟩⟩ := loopStep_frame state after outcome hnext
    · exact ⟨hkept.trans hdecls, spawned, hsame.trans htable⟩
    · exact ⟨hkept.trans hdecls, spawned ++ [service], by rw [hmore, htable]; simp⟩
  | _ => exact hallowed.elim

-- The loop has decided about the service whose process exited with the code.
def Decided (decl : ServiceDecl) (code : ExitCode) (s : PactSupervisor) : Prop :=
  ∃ rest, s.loop = if decl.shouldRestart code then .Delaying decl rest else .Declining decl rest

-- The loop is about to spawn a process for the service.
def Attempting (name : String) (s : PactSupervisor) : Prop :=
  ∃ decl crashed, s.loop = .Cleared decl crashed ∧ decl.name = name

section Progress

variable (s : PactSupervisor) (decl : ServiceDecl)

-- The loop comes to a service that it has found, and decides by its policy.
theorem queue_decided (name : String) (code : ExitCode) (hmem : (name, code) ∈ s.loop.queue)
    (hdecl : declared s.serviceDecls name = some decl) :
    Inevitable next Watches (Decided decl code) s := by
  refine .of_measure (fun state => state.loop.work)
    (fun state => (name, code) ∈ state.loop.queue ∧ declared state.serviceDecls name = some decl)
    (fun state _ => watches_enabled state) ?_ ⟨hmem, hdecl⟩
  rintro state step after ⟨hmem, hdecl⟩ hallowed hnext
  have hawake : state.loop ≠ .Sleeping := by
    intro hsleeping
    rw [hsleeping] at hmem
    cases hmem
  obtain ⟨outcome, rfl, hstep⟩ := watches_awake state after step hawake hallowed hnext
  obtain ⟨hless, hqueue | ⟨crash, hloop⟩⟩ := loopStep_progress state after outcome hstep
  · rw [← (loopStep_frame state after outcome hstep).1] at hdecl
    exact .inr ⟨⟨hqueue ▸ hmem, hdecl⟩, hless⟩
  · have hcases : (name, code) ∈ crash :: after.loop.queue := by
      rw [hloop] at hmem
      exact hmem
    rcases List.mem_cons.mp hcases with rfl | hlater
    · rw [loopStep_declared outcome hloop hdecl] at hstep
      exact .inl ⟨_, congrArg PactSupervisor.loop (Option.some.inj hstep).symm⟩
    · rw [← (loopStep_frame state after outcome hstep).1] at hdecl
      exact .inr ⟨⟨hlater, hdecl⟩, hless⟩

theorem delaying_attempts (crashed : List (String × ExitCode))
    (hloop : s.loop = .Delaying decl crashed) :
    Inevitable next Watches (Attempting decl.name) s := by
  refine .step (watches_enabled s) fun step after hallowed hnext => .reached ?_
  obtain ⟨outcome, rfl, hstep⟩ :=
    watches_awake s after step (by rw [hloop]; exact Loop.noConfusion) hallowed hnext
  rw [loopStep_delaying outcome hloop] at hstep
  cases hstep
  exact ⟨decl, crashed, rfl, rfl⟩

theorem decided_attempts (code : ExitCode) (hrestart : decl.shouldRestart code = true)
    (h : Inevitable next Watches (Decided decl code) s) :
    Inevitable next Watches (Attempting decl.name) s := by
  refine h.bind ?_
  rintro state ⟨rest, hloop⟩
  rw [if_pos hrestart] at hloop
  exact delaying_attempts state decl rest hloop

end Progress

end Pact.Agent.Supervisor
