import Pact.Agent.Supervisor

namespace Pact.Agent.Supervisor

open Pact.Library

def PactSupervisor.running (s : PactSupervisor) (name : String) : Bool :=
  (s.processes.get name).any (·.state = .Running)

def PactSupervisor.child (s : PactSupervisor) (name : String) : Option ProcessId :=
  (s.processes.get name).bind ProcessState.child

def Loop.hand : Loop → Option (String × ProcessId)
  | .Spawned decl child _ _ => some (decl.name, child)
  | _ => none

-- What a supervisor amounts to for the question who holds which process.
@[ext] structure View where
  table : List Process
  running : String → Bool
  child : String → Option ProcessId
  hand : Option (String × ProcessId)

def PactSupervisor.view (s : PactSupervisor) : View := ⟨s.table, s.running, s.child, s.loop.hand⟩

-- What one step can do to it. A step may spawn a process for a service, and it may give up a
-- stored child without having seen it end.
inductive Change (v : View) : Option String → Option ProcessId → View → Prop
  | Same : Change v none none v
  | Changed (id : ProcessId) (change : ProcessStatus → ProcessStatus)
      (hchange : ∀ status, change status = .Alive → status = .Alive) :
      Change v none none { v with table := changeProcess v.table id change }
  | Started (name : String) (hidle : v.running name = false) :
      Change v (some name) none { v with
        table := v.table ++ [⟨name, .Alive⟩]
        running := Function.update v.running name true
        child := Function.update v.child name (some v.table.length) }
  | Ended (name : String) (id : ProcessId) (code : ExitCode) (hchild : v.child name = some id) :
      Change v none none { v with
        table := exitProcess v.table id code
        running := Function.update v.running name false
        child := Function.update v.child name none }
  | Left (name : String) :
      Change v none (v.child name) { v with
        running := Function.update v.running name false
        child := Function.update v.child name none }
  | Reaped (names : List String)
      (hexited : ∀ name ∈ names, ∃ id code, v.child name = some id ∧
        exitCode v.table id = some code) :
      Change v none none { v with
        running := fun name => if name ∈ names then false else v.running name
        child := fun name => if name ∈ names then none else v.child name }
  | Marked (name : String) :
      Change v none none { v with running := Function.update v.running name false }
  | Spawned (name : String) (hhand : v.hand = none) :
      Change v (some name) none { v with
        table := v.table ++ [⟨name, .Alive⟩]
        hand := some (name, v.table.length) }
  | Stored (name : String) (id : ProcessId) (hhand : v.hand = some (name, id)) :
      Change v none (v.child name) { v with
        running := Function.update v.running name true
        child := Function.update v.child name (some id)
        hand := none }

theorem Change.of_eq {v w after : View} {spawned : Option String} {dropped : Option ProcessId}
    (h : Change v spawned dropped w) (heq : after = w) : Change v spawned dropped after := by
  rw [heq]
  exact h

theorem getElem?_changeProcess (table : List Process) (id other : ProcessId)
    (change : ProcessStatus → ProcessStatus) :
    (changeProcess table id change)[other]? = table[other]?.map fun process =>
      if id = other then { process with status := change process.status } else process := by
  rw [changeProcess, List.getElem?_modify]
  cases table[other]? with
  | none => rfl
  | some process => by_cases hid : id = other <;> simp [hid]

theorem exit_eq_alive (code : ExitCode) (status : ProcessStatus)
    (h : ProcessStatus.exit code status = .Alive) : status = .Alive := by
  cases status with
  | Alive => rfl
  | Exited code => exact h
  | Reaped code => exact h

theorem reap_eq_alive (status : ProcessStatus) (h : ProcessStatus.reap status = .Alive) :
    status = .Alive := by
  cases status with
  | Alive => rfl
  | Exited code => cases h
  | Reaped code => exact h

def View.Live (v : View) (name : String) (id : ProcessId) : Prop :=
  v.table[id]? = some ⟨name, .Alive⟩

theorem live_of_changeProcess (table : List Process) (id other : ProcessId)
    (change : ProcessStatus → ProcessStatus)
    (hchange : ∀ status, change status = .Alive → status = .Alive) (name : String)
    (h : (changeProcess table id change)[other]? = some ⟨name, .Alive⟩) :
    table[other]? = some ⟨name, .Alive⟩ := by
  rw [getElem?_changeProcess] at h
  obtain ⟨⟨service, status⟩, hget, hprocess⟩ := Option.map_eq_some_iff.mp h
  rw [hget]
  split at hprocess
  · obtain ⟨hservice, hstatus⟩ := Process.mk.inj hprocess
    rw [← hservice, ← hchange status hstatus]
  · rw [hprocess]

theorem live_exitProcess_iff (table : List Process) (id other : ProcessId) (code : ExitCode)
    (name : String) :
    (exitProcess table id code)[other]? = some ⟨name, .Alive⟩ ↔
      table[other]? = some ⟨name, .Alive⟩ ∧ other ≠ id := by
  rw [exitProcess, getElem?_changeProcess]
  cases table[other]? with
  | none => simp
  | some process =>
    obtain ⟨service, status⟩ := process
    by_cases hid : id = other
    · cases status <;> simp [hid, ProcessStatus.exit]
    · simp [hid, Ne.symm hid]

theorem exitCode_not_alive (table : List Process) (id : ProcessId) (code : ExitCode)
    (h : exitCode table id = some code) (name : String) : table[id]? ≠ some ⟨name, .Alive⟩ := by
  intro halive
  simp [exitCode, halive] at h

section Views

variable (s : PactSupervisor) (decl : ServiceDecl)

theorem running_setRecord (name : String) (record : ProcessState) :
    (s.setRecord name record).running =
      Function.update s.running name (record.state = .Running) := by
  funext other
  simp only [PactSupervisor.running, PactSupervisor.setRecord, Map.get_insert, Function.update_apply]
  split <;> rfl

theorem child_setRecord (name : String) (record : ProcessState) :
    (s.setRecord name record).child = Function.update s.child name record.child := by
  funext other
  simp only [PactSupervisor.child, PactSupervisor.setRecord, Map.get_insert, Function.update_apply]
  split <;> rfl

theorem running_eq (name : String) (record : ProcessState)
    (h : s.processes.get name = some record) :
    s.running name = decide (record.state = .Running) := by
  simp [PactSupervisor.running, h]

theorem child_eq (name : String) (record : ProcessState)
    (h : s.processes.get name = some record) : s.child name = record.child := by
  simp [PactSupervisor.child, h]

end Views

-- The operations on processes leave the rest of the supervisor alone.
structure Framed (s after : PactSupervisor) : Prop where
  loop : after.loop = s.loop
  calls : after.calls = s.calls
  serviceDecls : after.serviceDecls = s.serviceDecls
  events : after.events = s.events

theorem Framed.refl (s : PactSupervisor) : Framed s s := ⟨rfl, rfl, rfl, rfl⟩

theorem Framed.trans {s middle after : PactSupervisor} (first : Framed s middle)
    (second : Framed middle after) : Framed s after :=
  ⟨second.loop.trans first.loop, second.calls.trans first.calls,
    second.serviceDecls.trans first.serviceDecls, second.events.trans first.events⟩

theorem setRecord_framed (s : PactSupervisor) (name : String) (record : ProcessState) :
    Framed s (s.setRecord name record) := ⟨rfl, rfl, rfl, rfl⟩

section Operations

variable (s : PactSupervisor) (decl : ServiceDecl)

def startSpawns (outcome : SpawnOutcome) : Option String :=
  match outcome with
  | .Failed => none
  | .Spawned _ => if s.running decl.name then none else some decl.name

theorem start_of_running (outcome : SpawnOutcome) (hrunning : s.running decl.name = true) :
    start decl outcome s = (s, true) := by
  rw [PactSupervisor.running] at hrunning
  simp [start, hrunning]

theorem start_failed_of_idle (hidle : s.running decl.name = false) :
    start decl .Failed s = (s, false) := by
  rw [PactSupervisor.running] at hidle
  simp [start, hidle]

-- The record keeps the count of restarts, which no view of the supervisor shows.
theorem start_spawned_of_idle (cgroupHandle : Option String)
    (hidle : s.running decl.name = false) :
    ∃ record : ProcessState, record.state = .Running ∧ record.child = some s.table.length ∧
      record.cgroupHandle = cgroupHandle ∧
      start decl (.Spawned cgroupHandle) s =
        ({ s.setRecord decl.name record with table := s.table ++ [⟨decl.name, .Alive⟩] }, true) := by
  rw [PactSupervisor.running] at hidle
  simp only [start, hidle, Bool.false_eq_true, if_false]
  exact ⟨_, rfl, rfl, rfl, rfl⟩

theorem start_cases (outcome : SpawnOutcome) :
    startSpawns s decl outcome = none ∧ (start decl outcome s).1 = s ∨
      startSpawns s decl outcome = some decl.name ∧ s.running decl.name = false ∧
        Framed s (start decl outcome s).1 ∧
        (start decl outcome s).1.table = s.table ++ [⟨decl.name, .Alive⟩] ∧
        (start decl outcome s).1.running = Function.update s.running decl.name true ∧
        (start decl outcome s).1.child =
          Function.update s.child decl.name (some s.table.length) := by
  cases hrunning : s.running decl.name with
  | true =>
    rw [start_of_running s decl outcome hrunning]
    cases outcome <;> simp [startSpawns, hrunning]
  | false =>
    cases outcome with
    | Failed =>
      rw [start_failed_of_idle s decl hrunning]
      exact .inl ⟨rfl, rfl⟩
    | Spawned cgroupHandle =>
      obtain ⟨record, hstate, hchild, -, heq⟩ := start_spawned_of_idle s decl cgroupHandle hrunning
      rw [heq]
      refine .inr ⟨by simp [startSpawns, hrunning], rfl, ⟨rfl, rfl, rfl, rfl⟩, rfl, ?_, ?_⟩
      · exact (running_setRecord s decl.name record).trans (by simp [hstate])
      · exact (child_setRecord s decl.name record).trans (by rw [hchild])

theorem start_change (outcome : SpawnOutcome) :
    Framed s (start decl outcome s).1 ∧
      Change s.view (startSpawns s decl outcome) none (start decl outcome s).1.view := by
  rcases start_cases s decl outcome with
    ⟨hspawns, heq⟩ | ⟨hspawns, hidle, hframed, htable, hrunning, hchild⟩
  · rw [hspawns, heq]
    exact ⟨.refl s, .Same⟩
  · rw [hspawns]
    refine ⟨hframed, (Change.Started (v := s.view) decl.name hidle).of_eq ?_⟩
    exact View.ext htable hrunning hchild (congrArg Loop.hand hframed.loop)

def StopOutcome.ends : StopOutcome → Bool
  | .Exited _ => true
  | .Killed => true
  | .WaitError => false
  | .KillFailed => false

def stopDrops (outcome : StopOutcome) : Option ProcessId :=
  if s.running decl.name && !outcome.ends then s.child decl.name else none

theorem awaitChild_table (outcome : StopOutcome) (record : ProcessState) (table : List Process) :
    (awaitChild outcome record table).1 = table ∧
        (record.child = none ∨ outcome.ends = false) ∨
      outcome.ends = true ∧ ∃ id code, record.child = some id ∧
        (awaitChild outcome record table).1 = exitProcess table id code := by
  unfold awaitChild
  cases hchild : record.child with
  | none => exact .inl ⟨rfl, .inl rfl⟩
  | some id =>
    cases outcome with
    | Exited code => exact .inr ⟨rfl, id, code, rfl, rfl⟩
    | WaitError => exact .inl ⟨rfl, .inr rfl⟩
    | Killed => exact .inr ⟨rfl, id, none, rfl, rfl⟩
    | KillFailed => exact .inl ⟨rfl, .inr rfl⟩

theorem stop_change (outcome : StopOutcome) :
    Framed s (stop decl outcome s) ∧
      Change s.view none (stopDrops s decl outcome) (stop decl outcome s).view := by
  unfold stop stopDrops
  cases hget : s.processes.get decl.name with
  | none => simp [PactSupervisor.running, hget, Framed.refl, Change.Same]
  | some record =>
    rw [running_eq s decl.name record hget, child_eq s decl.name record hget]
    by_cases hstate : record.state = .Running
    · simp only [hstate, if_true, decide_true, Bool.true_and]
      refine ⟨⟨rfl, rfl, rfl, rfl⟩, ?_⟩
      have hchild : s.view.child decl.name = record.child := child_eq s decl.name record hget
      rcases awaitChild_table outcome record s.table with ⟨htable, hleft⟩ | ⟨hends, id, code, hid, htable⟩
      · have hdrops : (if (!outcome.ends) = true then record.child else none) =
            s.view.child decl.name := by
          rcases hleft with hnone | hends
          · simp [hchild, hnone]
          · simp [hchild, hends]
        rw [hdrops]
        convert Change.Left (v := s.view) decl.name using 1
        simp only [PactSupervisor.view, htable, View.mk.injEq, true_and, and_true]
        exact ⟨running_setRecord s decl.name _, child_setRecord s decl.name _⟩
      · simp only [hends, Bool.not_true, Bool.false_eq_true, if_false]
        convert Change.Ended (v := s.view) decl.name id code (hchild.trans hid) using 1
        simp only [PactSupervisor.view, htable, View.mk.injEq, true_and, and_true]
        exact ⟨running_setRecord s decl.name _, child_setRecord s decl.name _⟩
    · simp [hstate, Framed.refl, Change.Same]

theorem marked_change (record : ProcessState) (state : ServiceState) (restarts : Nat)
    (hget : s.processes.get decl.name = some record) (hstate : state ≠ .Running) :
    Change s.view none none
      (s.setRecord decl.name { record with state := state, restarts := restarts }).view := by
  convert Change.Marked (v := s.view) decl.name using 1
  simp only [PactSupervisor.view, View.mk.injEq]
  refine ⟨rfl, ?_, ?_, rfl⟩
  · rw [running_setRecord]
    simp [hstate]
  · rw [child_setRecord, ← child_eq s decl.name record hget, Function.update_eq_self]

theorem markRestarting_change :
    Framed s (markRestarting decl s) ∧ Change s.view none none (markRestarting decl s).view := by
  unfold markRestarting
  cases hget : s.processes.get decl.name with
  | none => exact ⟨.refl s, .Same⟩
  | some record =>
    exact ⟨setRecord_framed s _ _, marked_change s decl record .Restarting _ hget (by decide)⟩

theorem declineRestart_change :
    Framed s (declineRestart decl s) ∧ Change s.view none none (declineRestart decl s).view := by
  unfold declineRestart
  cases hget : s.processes.get decl.name with
  | none => exact ⟨.refl s, .Same⟩
  | some record =>
    dsimp only
    split
    · exact ⟨setRecord_framed s _ _,
        marked_change s decl record .Stopped record.restarts hget (by decide)⟩
    · exact ⟨.refl s, .Same⟩

theorem clearScope_view :
    Framed s (clearScope decl s) ∧ (clearScope decl s).view = s.view := by
  unfold clearScope
  cases hget : s.processes.get decl.name with
  | none => exact ⟨.refl s, rfl⟩
  | some record =>
    refine ⟨setRecord_framed s _ _, ?_⟩
    simp only [PactSupervisor.view, View.mk.injEq]
    refine ⟨rfl, ?_, ?_, rfl⟩
    · rw [running_setRecord, ← running_eq s decl.name record hget, Function.update_eq_self]
    · rw [child_setRecord, ← child_eq s decl.name record hget, Function.update_eq_self]

theorem storeChild_view (child : ProcessId) (cgroupHandle : Option String) :
    Framed s (storeChild decl child cgroupHandle s) ∧
      (storeChild decl child cgroupHandle s).table = s.table ∧
      (storeChild decl child cgroupHandle s).running = Function.update s.running decl.name true ∧
      (storeChild decl child cgroupHandle s).child =
        Function.update s.child decl.name (some child) := by
  unfold storeChild
  cases hget : s.processes.get decl.name with
  | none =>
    exact ⟨setRecord_framed s _ _, rfl, by simp [running_setRecord], by simp [child_setRecord]⟩
  | some record =>
    exact ⟨setRecord_framed s _ _, rfl, by simp [running_setRecord], by simp [child_setRecord]⟩

theorem reap_eq_some (record reaped : ProcessState) (table : List Process) (code : ExitCode)
    (h : reap record table = some (reaped, code)) :
    record.state = .Running ∧ reaped.state = .Failed ∧ reaped.child = none ∧
      ∃ id, record.child = some id ∧ exitCode table id = some code := by
  unfold reap at h
  split at h
  case isTrue hstate =>
    simp only [Option.map_eq_some_iff, Option.bind_eq_some_iff, Prod.mk.injEq] at h
    obtain ⟨found, ⟨id, hid, hexit⟩, rfl, rfl⟩ := h
    exact ⟨hstate, rfl, rfl, id, hid, hexit⟩
  case isFalse => cases h

def statusReaps (observed : Bool) : Prop :=
  observed = true ∧ s.running decl.name = true ∧
    ∃ id code, s.child decl.name = some id ∧ exitCode s.table id = some code

theorem status_change (observed : Bool) :
    (status decl observed s).1 = s ∨
      statusReaps s decl observed ∧ ∃ reaped, reaped.state = .Failed ∧ reaped.child = none ∧
        (status decl observed s).1 = s.setRecord decl.name reaped := by
  unfold status
  cases hget : s.processes.get decl.name with
  | none => exact .inl rfl
  | some record =>
    dsimp only
    split
    case h_1 reaped code hreap =>
      cases observed with
      | false => cases hreap
      | true =>
        obtain ⟨hstate, hfailed, hnone, id, hid, hexit⟩ :=
          reap_eq_some record reaped s.table code hreap
        refine .inr ⟨⟨rfl, ?_, id, code, ?_, hexit⟩, reaped, hfailed, hnone, rfl⟩
        · rw [running_eq s decl.name record hget]
          simp [hstate]
        · rw [child_eq s decl.name record hget, hid]
    case h_2 => exact .inl rfl

-- What a tick finds is exactly what it is told the polls saw, each once, and those services are
-- running no more.
structure Detection (found : List String) (crashed : List (String × ExitCode))
    (last : PactSupervisor) : Prop where
  framed : Framed s last
  table : last.table = s.table
  running : last.running = fun name => if name ∈ found then false else s.running name
  child : last.child = fun name => if name ∈ found then none else s.child name
  names : crashed.map Prod.fst = found
  nodup : found.Nodup
  exited : ∀ crash ∈ crashed, s.running crash.1 = true ∧
    ∃ id, s.child crash.1 = some id ∧ exitCode s.table id = some crash.2

theorem detectCrashedServices_detection (found : List String) (last : PactSupervisor)
    (crashed : List (String × ExitCode))
    (h : detectCrashedServices found s = some (last, crashed)) :
    Detection s found crashed last := by
  induction found generalizing s crashed with
  | nil =>
    cases h
    exact ⟨.refl _, rfl, by simp, by simp, rfl, .nil, by simp⟩
  | cons name found ih =>
    simp only [detectCrashedServices, Option.bind_eq_bind, Option.bind_eq_some_iff,
      Option.pure_def, Option.some.injEq, Prod.mk.injEq] at h
    obtain ⟨record, hget, ⟨reaped, code⟩, hreap, ⟨after, rest⟩, hrest, rfl, rfl⟩ := h
    obtain ⟨hstate, hfailed, hnone, id, hid, hexit⟩ := reap_eq_some record reaped s.table code hreap
    have hrunning : s.running name = true := by
      rw [running_eq s name record hget]
      simp [hstate]
    obtain ⟨hframed, htable, hrun, hchild, hnames, hnodup, hexited⟩ := ih _ _ hrest
    change ∀ crash ∈ rest, _ ∧ ∃ id, _ ∧ exitCode s.table id = some crash.2 at hexited
    rw [running_setRecord] at hrun
    rw [child_setRecord] at hchild
    simp only [running_setRecord, child_setRecord, Function.update_apply] at hexited
    have hne : ∀ crash ∈ rest, crash.1 ≠ name := by
      intro crash hcrash heq
      have := (hexited crash hcrash).1
      simp [heq, hfailed] at this
    have hnew : name ∉ found := by
      rw [← hnames]
      intro hmem
      obtain ⟨crash, hcrash, heq⟩ := List.mem_map.mp hmem
      exact hne crash hcrash heq
    refine ⟨(setRecord_framed s _ _).trans hframed, htable, ?_, ?_, by simp [hnames],
      List.nodup_cons.mpr ⟨hnew, hnodup⟩, ?_⟩
    · rw [hrun]
      funext other
      by_cases hother : other = name
      · simp [hother, hnew, hfailed]
      · simp [hother]
    · rw [hchild]
      funext other
      by_cases hother : other = name
      · simp [hother, hnew, hnone]
      · simp [hother]
    · intro crash hcrash
      rcases List.mem_cons.mp hcrash with rfl | hcrash
      · exact ⟨hrunning, id, by rw [child_eq s name record hget, hid], hexit⟩
      · simpa [hne crash hcrash] using hexited crash hcrash

theorem next_tick (found : List String) (after : PactSupervisor)
    (h : next s (.Tick found) = some after) :
    s.loop = .Sleeping ∧ ∃ last crashed, detectCrashedServices found s = some (last, crashed) ∧
      Detection s found crashed last ∧ after = { last with loop := .Detected crashed } := by
  simp only [next, Option.ite_none_right_eq_some, Option.map_eq_some_iff, Prod.exists] at h
  obtain ⟨hsleeping, last, crashed, hdetect, rfl⟩ := h
  have hdetection := detectCrashedServices_detection s found last crashed hdetect
  exact ⟨hsleeping, last, crashed, hdetect, hdetection, rfl⟩

theorem next_advance (index : Nat) (spawn : SpawnOutcome) (wait : StopOutcome)
    (after : PactSupervisor) (h : next s (.Advance index spawn wait) = some after) :
    ∃ call, s.calls[index]? = some call ∧ after = { (callStep spawn wait s call).1 with
      calls := match (callStep spawn wait s call).2 with
        | some rest => s.calls.set index rest
        | none => s.calls.eraseIdx index } := by
  simp only [next] at h
  split at h
  case h_1 call hcall =>
    refine ⟨call, hcall, ?_⟩
    split at h
    all_goals
      rename_i hstep
      cases h
      rw [hstep]
  case h_2 => cases h

end Operations

def spawns (s : PactSupervisor) : Step → Option String
  | .Start decl outcome => startSpawns s decl outcome
  | .Advance index spawn _ =>
    match s.calls[index]? with
    | some (.Delaying decl) => startSpawns s decl spawn
    | some (.Starting (decl :: _)) => startSpawns s decl spawn
    | _ => none
  | .Loop (.Spawned _) =>
    match s.loop with
    | .Cleared decl _ => some decl.name
    | _ => none
  | _ => none

-- The stored child a step gives up, or writes over, without having seen it end.
def drops (s : PactSupervisor) : Step → Option ProcessId
  | .Stop decl outcome => stopDrops s decl outcome
  | .Restart decl outcome => stopDrops s decl outcome
  | .Advance index _ wait =>
    match s.calls[index]? with
    | some (.Stopping (decl :: _)) => stopDrops s decl wait
    | _ => none
  | .Loop _ =>
    match s.loop with
    | .Spawned decl _ _ _ => s.child decl.name
    | _ => none
  | _ => none

theorem callStep_change (s : PactSupervisor) (index : Nat) (spawn : SpawnOutcome)
    (wait : StopOutcome) (call : Call) (hcall : s.calls[index]? = some call) :
    Framed s (callStep spawn wait s call).1 ∧
      Change s.view (spawns s (.Advance index spawn wait)) (drops s (.Advance index spawn wait))
        (callStep spawn wait s call).1.view := by
  cases call with
  | Stopped decl =>
    simp only [spawns, drops, hcall, callStep]
    exact markRestarting_change s decl
  | Delaying decl =>
    simp only [spawns, drops, hcall, callStep]
    exact start_change s decl spawn
  | Starting services =>
    cases services with
    | nil =>
      simp only [spawns, drops, hcall, callStep]
      exact ⟨.refl s, .Same⟩
    | cons decl services =>
      simp only [spawns, drops, hcall, callStep]
      exact start_change s decl spawn
  | Stopping services =>
    cases services with
    | nil =>
      simp only [spawns, drops, hcall, callStep]
      exact ⟨.refl s, .Same⟩
    | cons decl services =>
      simp only [spawns, drops, hcall, callStep]
      exact stop_change s decl wait

theorem view_eq (s other : PactSupervisor) (htable : s.table = other.table)
    (hprocesses : s.processes = other.processes) (hhand : s.loop.hand = other.loop.hand) :
    s.view = other.view := by
  have hrunning : s.running = other.running := by
    funext name
    rw [PactSupervisor.running, PactSupervisor.running, hprocesses]
  have hchild : s.child = other.child := by
    funext name
    rw [PactSupervisor.child, PactSupervisor.child, hprocesses]
  rw [PactSupervisor.view, PactSupervisor.view, htable, hrunning, hchild, hhand]

theorem loopStep_change (s after : PactSupervisor) (outcome : SpawnOutcome)
    (h : loopStep outcome s = some after) :
    Change s.view (spawns s (.Loop outcome)) (drops s (.Loop outcome)) after.view := by
  have hspawns : (∀ decl crashed, s.loop ≠ .Cleared decl crashed) →
      spawns s (.Loop outcome) = none := by
    intro hne
    cases outcome with
    | Failed => rfl
    | Spawned cgroupHandle =>
      unfold spawns
      cases hloop : s.loop with
      | Cleared decl crashed => exact absurd hloop (hne decl crashed)
      | _ => rfl
  unfold loopStep at h
  split at h
  case h_1 => cases h
  case h_2 crashed hloop =>
    cases h
    rw [hspawns (by simp [hloop])]
    simp only [drops, hloop]
    exact Change.Same.of_eq (view_eq _ s rfl rfl (by rw [hloop]; rfl))
  case h_3 hloop =>
    cases h
    rw [hspawns (by simp [hloop])]
    simp only [drops, hloop]
    exact Change.Same.of_eq (view_eq _ s rfl rfl (by rw [hloop]; rfl))
  case h_4 name code crashed hloop =>
    rw [hspawns (by simp [hloop])]
    simp only [drops, hloop]
    split at h
    · cases h
      exact Change.Same.of_eq (view_eq _ s rfl rfl (by rw [hloop]; rfl))
    · cases h
      refine Change.Same.of_eq (view_eq _ s rfl rfl ?_)
      rw [hloop]
      dsimp only
      split <;> rfl
  case h_5 decl crashed hloop =>
    cases h
    obtain ⟨hframed, hchange⟩ := declineRestart_change s decl
    rw [hspawns (by simp [hloop]),
      view_eq { declineRestart decl s with loop := .Handling crashed } (declineRestart decl s) rfl
        rfl (by rw [hframed.loop, hloop]; rfl)]
    simp only [drops, hloop]
    exact hchange
  case h_6 decl crashed hloop =>
    cases h
    obtain ⟨hframed, hview⟩ := clearScope_view s decl
    rw [hspawns (by simp [hloop])]
    simp only [drops, hloop]
    refine Change.Same.of_eq (Eq.trans ?_ hview)
    exact view_eq _ _ rfl rfl (by rw [hframed.loop, hloop]; rfl)
  case h_7 decl crashed hloop =>
    cases outcome with
    | Failed =>
      cases h
      simp only [spawns, drops, hloop]
      exact Change.Same.of_eq (view_eq _ s rfl rfl (by rw [hloop]; rfl))
    | Spawned cgroupHandle =>
      cases h
      simp only [spawns, drops, hloop]
      exact .Spawned (v := s.view) decl.name (by simp [PactSupervisor.view, hloop, Loop.hand])
  case h_8 decl child cgroupHandle crashed hloop =>
    cases h
    obtain ⟨_, htable, hrunning, hchild⟩ := storeChild_view s decl child cgroupHandle
    rw [hspawns (by simp [hloop])]
    simp only [drops, hloop]
    have hhand : s.view.hand = some (decl.name, child) := by
      simp [PactSupervisor.view, hloop, Loop.hand]
    exact (Change.Stored decl.name child hhand).of_eq (View.ext htable hrunning hchild rfl)

theorem next_change (s after : PactSupervisor) (step : Step) (h : next s step = some after) :
    Change s.view (spawns s step) (drops s step) after.view := by
  cases step with
  | Exit id code =>
    simp only [next] at h
    split at h
    · cases h
      exact .Changed (v := s.view) id _ (exit_eq_alive code)
    · cases h
  | Reap id =>
    simp only [next] at h
    split at h
    · cases h
      exact .Changed (v := s.view) id _ reap_eq_alive
    · cases h
  | Start decl outcome =>
    cases h
    exact (start_change s decl outcome).2
  | Stop decl outcome =>
    cases h
    exact (stop_change s decl outcome).2
  | Restart decl outcome =>
    cases h
    exact (stop_change s decl outcome).2
  | StartAll services =>
    simp only [next] at h
    split at h
    · cases h
      exact .Same
    · cases h
  | StopAll services =>
    cases h
    exact .Same
  | Advance index spawn wait =>
    obtain ⟨call, hcall, rfl⟩ := next_advance s index spawn wait after h
    exact (callStep_change s index spawn wait call hcall).2
  | Status decl observed =>
    cases h
    rcases status_change s decl observed with
      hsame | ⟨⟨_, _, id, code, hid, hexit⟩, reaped, hfailed, hnone, hafter⟩
    · rw [hsame]
      exact .Same
    · rw [hafter]
      refine (Change.Reaped (v := s.view) [decl.name] ?_).of_eq (View.ext rfl ?_ ?_ rfl)
      · intro name hname
        obtain rfl := List.mem_singleton.mp hname
        exact ⟨id, code, hid, hexit⟩
      · funext name
        simp [PactSupervisor.view, running_setRecord, Function.update_apply, hfailed]
      · funext name
        simp [PactSupervisor.view, child_setRecord, Function.update_apply, hnone]
  | Tick found =>
    obtain ⟨hsleeping, last, crashed, _, hdetection, rfl⟩ := next_tick s found after h
    have hhand : s.view.hand = none := by
      simp [PactSupervisor.view, hsleeping, Loop.hand]
    refine (Change.Reaped (v := s.view) found ?_).of_eq
      (View.ext hdetection.table hdetection.running hdetection.child hhand.symm)
    intro name hname
    rw [← hdetection.names] at hname
    obtain ⟨crash, hcrash, rfl⟩ := List.mem_map.mp hname
    obtain ⟨_, id, hid, hexit⟩ := hdetection.exited crash hcrash
    exact ⟨id, crash.2, hid, hexit⟩
  | Loop outcome => exact loopStep_change s after outcome h

end Pact.Agent.Supervisor
