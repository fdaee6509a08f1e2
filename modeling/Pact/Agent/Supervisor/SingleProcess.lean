import Pact.Agent.Supervisor.Lemmas

namespace Pact.Agent.Supervisor

open Pact.Library

-- The process was spawned for the service, whatever has become of it.
def SpawnedFor (table : List Process) (name : String) (id : ProcessId) : Prop :=
  ∃ status, table[id]? = some ⟨name, status⟩

-- A stored child, and one that the loop is about to store, are processes of that service, and
-- they are not the same.
structure View.Sound (v : View) : Prop where
  child : ∀ name id, v.child name = some id → SpawnedFor v.table name id
  hand : ∀ name id, v.hand = some (name, id) →
    SpawnedFor v.table name id ∧ ∀ other, v.child other ≠ some id

-- At most one live process for each service, and its handle is the one stored, or the one that
-- the loop holds between spawning a process and storing it.
structure View.Single (v : View) : Prop where
  unique : ∀ name id other, v.Live name id → v.Live name other → id = other
  held : ∀ name id, v.Live name id → v.child name = some id ∨ v.hand = some (name, id)

theorem SpawnedFor.changeProcess {table : List Process} {name : String} {id : ProcessId}
    (h : SpawnedFor table name id) (other : ProcessId) (change : ProcessStatus → ProcessStatus) :
    SpawnedFor (changeProcess table other change) name id := by
  obtain ⟨status, hget⟩ := h
  rw [SpawnedFor, getElem?_changeProcess, hget]
  simp only [Option.map_some, Option.some.injEq]
  split
  · exact ⟨_, rfl⟩
  · exact ⟨status, rfl⟩

theorem SpawnedFor.append {table : List Process} {name : String} {id : ProcessId}
    (h : SpawnedFor table name id) (process : Process) :
    SpawnedFor (table ++ [process]) name id := by
  obtain ⟨status, hget⟩ := h
  have hlt := (List.getElem?_eq_some_iff.mp hget).1
  exact ⟨status, by rw [List.getElem?_append_left hlt, hget]⟩

theorem spawnedFor_append_length (table : List Process) (name : String) :
    SpawnedFor (table ++ [⟨name, .Alive⟩]) name table.length :=
  ⟨.Alive, by simp⟩

theorem not_spawnedFor_length (table : List Process) (name : String) :
    ¬ SpawnedFor table name table.length := by
  rintro ⟨status, hget⟩
  simp at hget

-- Processes stay in the table; who only gives up children stays sound.
theorem View.Sound.mono {v w : View} (hsound : v.Sound)
    (htable : ∀ name id, SpawnedFor v.table name id → SpawnedFor w.table name id)
    (hchild : ∀ name id, w.child name = some id → v.child name = some id)
    (hhand : w.hand = v.hand) : w.Sound := by
  refine ⟨fun name id hid => htable name id (hsound.child name id (hchild name id hid)), ?_⟩
  intro name id hid
  obtain ⟨hprocess, hother⟩ := hsound.hand name id (hhand ▸ hid)
  exact ⟨htable name id hprocess, fun other hstored => hother other (hchild other id hstored)⟩

theorem of_update_none {child : String → Option ProcessId} {name other : String} {id : ProcessId}
    (h : Function.update child name none other = some id) : child other = some id := by
  rw [Function.update_apply] at h
  split at h
  · cases h
  · exact h

theorem of_ite_none {child : Option ProcessId} {p : Prop} [Decidable p] {id : ProcessId}
    (h : (if p then none else child) = some id) : ¬ p ∧ child = some id := by
  split at h
  case isTrue => cases h
  case isFalse hnot => exact ⟨hnot, h⟩

theorem change_sound (v w : View) (spawned : Option String) (dropped : Option ProcessId)
    (hchange : Change v spawned dropped w) (hsound : v.Sound) : w.Sound := by
  have hfresh : ∀ name, v.child name ≠ some v.table.length := fun name hname =>
    not_spawnedFor_length _ _ (hsound.child name _ hname)
  cases hchange with
  | Same => exact hsound
  | Changed id change hchange =>
    exact hsound.mono (fun _ _ h => h.changeProcess _ _) (fun _ _ h => h) rfl
  | Started name hidle =>
    refine ⟨fun other id hid => ?_, fun other id hid => ?_⟩
    · dsimp only at hid ⊢
      rw [Function.update_apply] at hid
      split at hid
      case isTrue heq =>
        cases hid
        rw [heq]
        exact spawnedFor_append_length _ _
      case isFalse => exact (hsound.child other id hid).append _
    · obtain ⟨hprocess, hother⟩ := hsound.hand other id hid
      refine ⟨hprocess.append _, fun stored hstored => ?_⟩
      dsimp only at hstored
      rw [Function.update_apply] at hstored
      split at hstored
      · cases hstored
        exact not_spawnedFor_length _ _ hprocess
      · exact hother stored hstored
  | Ended name id code hchild =>
    exact hsound.mono (fun _ _ h => h.changeProcess _ _) (fun _ _ => of_update_none) rfl
  | Left name => exact hsound.mono (fun _ _ h => h) (fun _ _ => of_update_none) rfl
  | Reaped names hexited =>
    exact hsound.mono (fun _ _ h => h) (fun _ _ hid => (of_ite_none hid).2) rfl
  | Marked name => exact hsound.mono (fun _ _ h => h) (fun _ _ h => h) rfl
  | Spawned name hhand =>
    refine ⟨fun other id hid => (hsound.child other id hid).append _, fun other id hid => ?_⟩
    cases hid
    exact ⟨spawnedFor_append_length _ _, hfresh⟩
  | Stored name id hhand =>
    refine ⟨fun other found hfound => ?_, fun other found hfound => by cases hfound⟩
    dsimp only at hfound ⊢
    rw [Function.update_apply] at hfound
    split at hfound
    case isTrue heq =>
      cases hfound
      rw [heq]
      exact (hsound.hand name id hhand).1
    case isFalse => exact hsound.child other found hfound

theorem View.Single.mono {v w : View} (hsingle : v.Single)
    (hlive : ∀ name id, w.Live name id → v.Live name id)
    (hheld : ∀ name id, w.Live name id → v.child name = some id ∨ v.hand = some (name, id) →
      w.child name = some id ∨ w.hand = some (name, id)) : w.Single :=
  ⟨fun name id other hid hother => hsingle.unique name id other (hlive name id hid)
      (hlive name other hother),
    fun name id hid => hheld name id hid (hsingle.held name id (hlive name id hid))⟩

theorem live_append_iff (table : List Process) (service name : String) (id : ProcessId) :
    (table ++ [⟨service, .Alive⟩])[id]? = some ⟨name, .Alive⟩ ↔
      table[id]? = some ⟨name, .Alive⟩ ∨ id = table.length ∧ name = service := by
  rcases Nat.lt_trichotomy id table.length with hlt | rfl | hgt
  · rw [List.getElem?_append_left hlt]
    simp [hlt.ne]
  · simp [eq_comm]
  · have hnone : table[id]? = none := List.getElem?_eq_none hgt.le
    have hout : (table ++ [(⟨service, .Alive⟩ : Process)])[id]? = none :=
      List.getElem?_eq_none (by simp; omega)
    simp [hnone, hout, hgt.ne']

-- A process more, held by whoever spawned it: nothing is wrong afterwards exactly if there was
-- none before.
theorem single_spawned_iff (v w : View) (service : String) (hsingle : v.Single)
    (htable : w.table = v.table ++ [⟨service, .Alive⟩])
    (hnew : w.child service = some v.table.length ∨ w.hand = some (service, v.table.length))
    (hkept : ∀ name id, name ≠ service → v.child name = some id ∨ v.hand = some (name, id) →
      w.child name = some id ∨ w.hand = some (name, id)) :
    w.Single ↔ ∀ id, ¬ v.Live service id := by
  have hlive : ∀ name id, w.Live name id ↔
      v.Live name id ∨ id = v.table.length ∧ name = service := by
    intro name id
    rw [View.Live, htable, live_append_iff]
    rfl
  constructor
  · intro hafter id hid
    have heq := hafter.unique service id v.table.length ((hlive _ _).mpr (.inl hid))
      ((hlive _ _).mpr (.inr ⟨rfl, rfl⟩))
    exact not_spawnedFor_length v.table service ⟨.Alive, heq ▸ hid⟩
  · intro hnone
    refine ⟨fun name id other hid hother => ?_, fun name id hid => ?_⟩
    · rcases (hlive name id).mp hid with hid | ⟨rfl, rfl⟩
      · rcases (hlive name other).mp hother with hother | ⟨rfl, rfl⟩
        · exact hsingle.unique name id other hid hother
        · exact absurd hid (hnone id)
      · rcases (hlive _ other).mp hother with hother | ⟨rfl, _⟩
        · exact absurd hother (hnone other)
        · rfl
    · rcases (hlive name id).mp hid with hid | ⟨rfl, rfl⟩
      · have hne : name ≠ service := by
          rintro rfl
          exact hnone id hid
        exact hkept name id hne (hsingle.held name id hid)
      · exact hnew

def View.Alive (v : View) (id : ProcessId) : Prop := ∃ name, v.Live name id

theorem View.Sound.live {v : View} (hsound : v.Sound) (name : String) (id : ProcessId)
    (hchild : v.child name = some id) (halive : v.Alive id) : v.Live name id := by
  obtain ⟨status, hget⟩ := hsound.child name id hchild
  obtain ⟨service, hlive⟩ := halive
  rw [View.Live, hget, Option.some.injEq, Process.mk.injEq] at hlive
  rw [View.Live, hget, hlive.2]

-- A child given up or written over: nothing is wrong afterwards exactly if it was not alive.
theorem single_dropped_iff (v w : View) (service : String) (hsound : v.Sound)
    (hsingle : v.Single) (htable : w.table = v.table)
    (hgone : ∀ id, v.child service = some id → w.child service ≠ some id)
    (hhand : ∀ id, v.child service = some id → w.hand ≠ some (service, id))
    (hkept : ∀ name id, (name = service → v.child service ≠ some id) →
      v.child name = some id ∨ v.hand = some (name, id) →
      w.child name = some id ∨ w.hand = some (name, id)) :
    w.Single ↔ ∀ id, v.child service = some id → ¬ v.Alive id := by
  have hlive : ∀ name id, w.Live name id ↔ v.Live name id := by
    intro name id
    rw [View.Live, htable]
    rfl
  constructor
  · intro hafter id hchild halive
    have hlive := (hlive service id).mpr (hsound.live service id hchild halive)
    rcases hafter.held service id hlive with hstored | hheld
    · exact hgone id hchild hstored
    · exact hhand id hchild hheld
  · intro hdead
    refine hsingle.mono (fun name id h => (hlive name id).mp h) fun name id hid hheld => ?_
    refine hkept name id ?_ hheld
    rintro rfl hchild
    exact hdead id hchild ⟨name, (hlive name id).mp hid⟩

theorem stored_update {child : String → Option ProcessId} {name other : String} {id : ProcessId}
    (value : Option ProcessId) (hstored : child other = some id)
    (hother : other = name → child name ≠ some id) :
    Function.update child name value other = some id := by
  rw [Function.update_of_ne, hstored]
  rintro rfl
  exact hother rfl hstored

section Single

variable (v : View)

theorem changed_single (hsingle : v.Single) (id : ProcessId)
    (change : ProcessStatus → ProcessStatus)
    (hchange : ∀ status, change status = .Alive → status = .Alive) :
    View.Single { v with table := changeProcess v.table id change } :=
  hsingle.mono (fun _ _ h => live_of_changeProcess _ _ _ _ hchange _ h) fun _ _ _ h => h

theorem ended_single (hsingle : v.Single) (name : String) (id : ProcessId) (code : ExitCode)
    (hchild : v.child name = some id) :
    View.Single { v with
      table := exitProcess v.table id code
      running := Function.update v.running name false
      child := Function.update v.child name none } := by
  refine hsingle.mono (fun _ _ h => ((live_exitProcess_iff _ _ _ _ _).mp h).1) ?_
  intro other found hfound hheld
  have hne := ((live_exitProcess_iff _ _ _ _ _).mp hfound).2
  refine hheld.imp_left fun hstored => stored_update none hstored fun _ hsame => ?_
  rw [hchild, Option.some.injEq] at hsame
  exact hne hsame.symm

theorem left_single_iff (hsound : v.Sound) (hsingle : v.Single) (name : String) :
    View.Single { v with
      running := Function.update v.running name false
      child := Function.update v.child name none } ↔
      ∀ id, v.child name = some id → ¬ v.Alive id := by
  refine single_dropped_iff v _ name hsound hsingle rfl ?_ ?_ ?_
  · intro id _
    simp
  · intro id hchild hhand
    exact (hsound.hand name id hhand).2 name hchild
  · intro other id hother hheld
    exact hheld.imp_left fun hstored => stored_update none hstored hother

theorem reaped_single (hsingle : v.Single) (names : List String)
    (hexited : ∀ name ∈ names, ∃ id code, v.child name = some id ∧
      exitCode v.table id = some code) :
    View.Single { v with
      running := fun name => if name ∈ names then false else v.running name
      child := fun name => if name ∈ names then none else v.child name } := by
  refine hsingle.mono (fun _ _ h => h) fun other id hlive hheld => ?_
  refine hheld.imp_left fun hstored => ?_
  dsimp only
  rw [if_neg, hstored]
  intro hmem
  obtain ⟨found, code, hfound, hexit⟩ := hexited other hmem
  rw [hfound, Option.some.injEq] at hstored
  subst hstored
  exact exitCode_not_alive v.table found code hexit other hlive

theorem stored_single_iff (hsound : v.Sound) (hsingle : v.Single) (name : String) (id : ProcessId)
    (hhand : v.hand = some (name, id)) :
    View.Single { v with
      running := Function.update v.running name true
      child := Function.update v.child name (some id)
      hand := none } ↔ ∀ found, v.child name = some found → ¬ v.Alive found := by
  refine single_dropped_iff v _ name hsound hsingle rfl ?_ ?_ ?_
  · intro found hchild hstored
    dsimp only at hstored
    rw [Function.update_self, Option.some.injEq] at hstored
    subst hstored
    exact (hsound.hand name id hhand).2 name hchild
  · intro found _
    simp
  · intro other found hother hheld
    refine .inl ?_
    rcases hheld with hstored | hheld
    · exact stored_update (some id) hstored hother
    · rw [hhand] at hheld
      cases hheld
      exact Function.update_self ..

end Single

-- A step keeps a single process for each service exactly if it spawns one only where none is
-- alive, and gives up only children that are not.
theorem change_single_iff (v w : View) (spawned : Option String) (dropped : Option ProcessId)
    (hchange : Change v spawned dropped w) (hsound : v.Sound) (hsingle : v.Single) :
    w.Single ↔ (∀ name, spawned = some name → ∀ id, ¬ v.Live name id) ∧
      ∀ id, dropped = some id → ¬ v.Alive id := by
  cases hchange with
  | Same => exact iff_of_true hsingle ⟨nofun, nofun⟩
  | Changed id change hchange =>
    exact iff_of_true (changed_single v hsingle id change hchange) ⟨nofun, nofun⟩
  | Started name hidle =>
    simp only [Option.some.injEq, forall_eq', reduceCtorEq, false_implies, implies_true, and_true]
    refine single_spawned_iff v _ name hsingle rfl (.inl (Function.update_self ..)) ?_
    intro other id hne hheld
    dsimp only
    rwa [Function.update_of_ne hne]
  | Ended name id code hchild =>
    exact iff_of_true (ended_single v hsingle name id code hchild) ⟨nofun, nofun⟩
  | Left name =>
    simp only [reduceCtorEq, false_implies, implies_true, true_and]
    exact left_single_iff v hsound hsingle name
  | Reaped names hexited =>
    exact iff_of_true (reaped_single v hsingle names hexited) ⟨nofun, nofun⟩
  | Marked name =>
    refine iff_of_true ?_ ⟨nofun, nofun⟩
    exact hsingle.mono (fun _ _ h => h) fun _ _ _ h => h
  | Spawned name hhand =>
    simp only [Option.some.injEq, forall_eq', reduceCtorEq, false_implies, implies_true, and_true]
    refine single_spawned_iff v _ name hsingle rfl (.inr rfl) ?_
    intro other id hne hheld
    refine .inl (hheld.resolve_right ?_)
    simp [hhand]
  | Stored name id hhand =>
    simp only [reduceCtorEq, false_implies, implies_true, true_and]
    exact stored_single_iff v hsound hsingle name id hhand

-- The step spawns a process only where none is alive, and gives up only children that are not.
def Safe (s : PactSupervisor) (step : Step) : Prop :=
  (∀ name, spawns s step = some name → ∀ id, ¬ s.view.Live name id) ∧
    ∀ id, drops s step = some id → ¬ s.view.Alive id

theorem new_sound : PactSupervisor.new.view.Sound where
  child name id h := by simp [PactSupervisor.view, PactSupervisor.new, PactSupervisor.child] at h
  hand name id h := by cases h

theorem new_single : PactSupervisor.new.view.Single where
  unique name id other h := by simp [View.Live, PactSupervisor.view, PactSupervisor.new] at h
  held name id h := by simp [View.Live, PactSupervisor.view, PactSupervisor.new] at h

theorem next_sound (s after : PactSupervisor) (step : Step) (hsound : s.view.Sound)
    (hnext : next s step = some after) : after.view.Sound :=
  change_sound _ _ _ _ (next_change s after step hnext) hsound

theorem next_single_iff (s after : PactSupervisor) (step : Step) (hsound : s.view.Sound)
    (hsingle : s.view.Single) (hnext : next s step = some after) :
    after.view.Single ↔ Safe s step :=
  change_single_iff _ _ _ _ (next_change s after step hnext) hsound hsingle

theorem change_spawnedFor (v w : View) (spawned : Option String) (dropped : Option ProcessId)
    (hchange : Change v spawned dropped w) (name : String) (id : ProcessId)
    (h : SpawnedFor v.table name id) : SpawnedFor w.table name id := by
  cases hchange with
  | Changed other change hchange => exact h.changeProcess other change
  | Started service hidle => exact h.append _
  | Ended service other code hchild => exact h.changeProcess other _
  | Spawned service hhand => exact h.append _
  | _ => exact h

theorem change_hand (v w : View) (spawned : Option String) (dropped : Option ProcessId)
    (hchange : Change v spawned dropped w) (name : String) (id : ProcessId)
    (h : w.hand = some (name, id)) : v.hand = some (name, id) ∨ id = v.table.length := by
  cases hchange with
  | Spawned service hhand =>
    cases h
    exact .inr rfl
  | Stored service other hhand => cases h
  | _ => exact .inl h

theorem child_kept_or_ended (s after : PactSupervisor) (step : Step) (hsound : s.view.Sound)
    (hsingle : after.view.Single) (hnext : next s step = some after) (name : String)
    (id : ProcessId) (hchild : s.child name = some id) :
    after.child name = some id ∨ ¬ after.view.Alive id := by
  have hchange := next_change s after step hnext
  have hspawned := hsound.child name id hchild
  rw [or_iff_not_imp_right, not_not]
  rintro ⟨service, hlive⟩
  obtain ⟨status, hget⟩ := change_spawnedFor _ _ _ _ hchange name id hspawned
  have hname : after.view.Live name id := by
    rw [View.Live, hget, Option.some.injEq, Process.mk.injEq] at hlive
    rw [View.Live, hget, hlive.2]
  refine (hsingle.held name id hname).resolve_right fun hhand => ?_
  rcases change_hand _ _ _ _ hchange name id hhand with hbefore | rfl
  · exact (hsound.hand name id hbefore).2 name hchild
  · exact not_spawnedFor_length _ _ hspawned

-- A service keeps a single process all along a run exactly if every step is safe. On such a run
-- a stored child stays stored until it has ended.
theorem single_process_iff (steps : List Step) (last : PactSupervisor)
    (run : Run next Unrestricted .new steps last) :
    ((∀ before rest middle, steps = before ++ rest →
        Run next Unrestricted .new before middle → middle.view.Single) ↔
      Run next Safe .new steps last) ∧
    (Run next Safe .new steps last → ∀ step after, Safe last step → next last step = some after →
      ∀ name id, last.child name = some id → after.child name = some id ∨ ¬ after.view.Alive id) := by
  refine ⟨?_, ?_⟩
  · exact run.always_iff_beside (fun s => s.view.Sound) (fun s => s.view.Single)
      (fun s step after => next_sound s after step) (fun s step after => next_single_iff s after step)
      new_sound new_single
  · intro hrun step after hsafe hnext name id hchild
    obtain ⟨hsound, hsingle⟩ := hrun.invariant (fun s => s.view.Sound ∧ s.view.Single)
      (fun s step after h hsafe hnext => ⟨next_sound s after step h.1 hnext,
        (next_single_iff s after step h.1 h.2 hnext).mpr hsafe⟩) ⟨new_sound, new_single⟩
    exact child_kept_or_ended last after step hsound
      ((next_single_iff last after step hsound hsingle hnext).mpr hsafe) hnext name id hchild

def web : ServiceDecl := ⟨"web", .Always, 0⟩

def webSteps : List Step :=
  [.StartAll [web], .Advance 0 (.Spawned none) .WaitError, .Exit 0 (some 1), .Tick ["web"],
    .Loop .Failed, .Loop .Failed, .Loop .Failed, .Loop (.Spawned none), .Loop .Failed]

instance (s : PactSupervisor) (step : Step) : Decidable (Safe s step) :=
  decidable_of_iff
    ((∀ name ∈ spawns s step, ∀ process ∈ s.table, process ≠ ⟨name, .Alive⟩) ∧
      ∀ id ∈ drops s step, ∀ process ∈ s.table[id]?, process.status ≠ .Alive) (by
    refine and_congr (forall₂_congr fun name _ => ⟨?_, ?_⟩) (forall₂_congr fun id _ => ⟨?_, ?_⟩)
    · exact fun h id hlive => h _ (List.mem_of_getElem? hlive) rfl
    · rintro h process hmem rfl
      obtain ⟨id, hlive⟩ := List.mem_iff_getElem?.mp hmem
      exact h id hlive
    · rintro h ⟨name, hlive⟩
      exact h _ hlive rfl
    · rintro h ⟨name, status⟩ hget rfl
      exact h ⟨name, hget⟩)

theorem single_process_web :
    ∃ last, Run next Safe .new webSteps last ∧ last.child "web" = some 1 ∧ last.view.Single := by
  have hexec : (execWhere next Safe .new webSteps).any (fun last => last.child "web" = some 1) =
      true := by
    decide +kernel
  obtain ⟨last, hlast, hchild⟩ := (Option.any_eq_true _ _).mp hexec
  have hrun := run_of_execWhere _ _ _ _ _ hlast
  refine ⟨last, hrun, of_decide_eq_true hchild, ?_⟩
  exact (single_process_iff webSteps last hrun.unrestricted).1.mpr hrun webSteps [] last
    (List.append_nil _).symm hrun.unrestricted

-- The service has crashed and the loop is in its restart delay when an operator starts it. The
-- loop then starts it once more and forgets the operator's process, which goes on.
def startedTwice : PactSupervisor where
  processes := PactSupervisor.new.processes.insert "web" ⟨.Running, some 2, 1, none, some 2, none⟩
  serviceDecls := [web]
  table := [⟨"web", .Exited (some 1)⟩, ⟨"web", .Alive⟩, ⟨"web", .Alive⟩]
  events := [⟨"web", some 1, true⟩]
  loop := .Handling []
  calls := [.Starting []]

theorem start_in_restart_delay_duplicates :
    exec next .new
        [.StartAll [web], .Advance 0 (.Spawned none) .WaitError, .Exit 0 (some 1), .Tick ["web"],
          .Loop .Failed, .Loop .Failed, .Start web (.Spawned none), .Loop .Failed,
          .Loop (.Spawned none), .Loop .Failed] = some startedTwice ∧
      startedTwice.view.Live "web" 1 ∧ startedTwice.view.Live "web" 2 ∧
      startedTwice.child "web" = some 2 ∧ startedTwice.loop.hand = none := by
  refine ⟨by decide +kernel, rfl, rfl, by decide +kernel, rfl⟩

end Pact.Agent.Supervisor
