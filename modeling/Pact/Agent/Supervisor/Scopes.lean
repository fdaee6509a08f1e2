import Pact.Agent.Supervisor.StopHonoured

namespace Pact.Agent.Supervisor

open Pact.Library

def PactSupervisor.scope (s : PactSupervisor) (name : String) : Option String :=
  (s.processes.get name).bind ProcessState.cgroupHandle

-- The scope the loop has made for the process in its hand.
def Loop.scope : Loop → Option String
  | .Spawned _ _ cgroupHandle _ => cgroupHandle
  | _ => none

-- A supervisor with the scopes there are. Scopes are told apart by their paths, so making one that
-- exists gives the same one.
structure Ledger where
  supervisor : PactSupervisor
  scopes : List String
  deriving DecidableEq

-- A step, with the scope that was made for a process which could then not be spawned.
structure ScopeStep where
  step : Step
  made : Option String
  deriving DecidableEq

def createScope (scope : Option String) (scopes : List String) : List String :=
  scope.toList ++ scopes

def destroyScope (scope : Option String) (scopes : List String) : List String :=
  scopes.filter fun other => scope ≠ some other

def startScopes (s : PactSupervisor) (decl : ServiceDecl) (outcome : SpawnOutcome)
    (made : Option String) (scopes : List String) : List String :=
  if s.running decl.name then scopes
  else
    match outcome with
    | .Failed => destroyScope made (createScope made scopes)
    | .Spawned cgroupHandle => createScope cgroupHandle scopes

def stopScopes (s : PactSupervisor) (decl : ServiceDecl) (scopes : List String) : List String :=
  if s.running decl.name then destroyScope (s.scope decl.name) scopes else scopes

def callScopes (s : PactSupervisor) (spawn : SpawnOutcome) (made : Option String)
    (scopes : List String) : Call → List String
  | .Delaying decl => startScopes s decl spawn made scopes
  | .Starting (decl :: _) => startScopes s decl spawn made scopes
  | .Stopping (decl :: _) => stopScopes s decl scopes
  | _ => scopes

-- A scope made for a restart by the loop is not taken back where the spawn fails.
def loopScopes (s : PactSupervisor) (outcome : SpawnOutcome) (made : Option String)
    (scopes : List String) : List String :=
  match s.loop, outcome with
  | .Delaying decl _, _ => destroyScope (s.scope decl.name) scopes
  | .Cleared _ _, .Failed => createScope made scopes
  | .Cleared _ _, .Spawned cgroupHandle => createScope cgroupHandle scopes
  | _, _ => scopes

def scopesAfter (l : Ledger) (label : ScopeStep) : List String :=
  match label.step with
  | .Start decl outcome => startScopes l.supervisor decl outcome label.made l.scopes
  | .Stop decl _ => stopScopes l.supervisor decl l.scopes
  | .Restart decl _ => stopScopes l.supervisor decl l.scopes
  | .Advance index spawn _ =>
    match l.supervisor.calls[index]? with
    | some call => callScopes l.supervisor spawn label.made l.scopes call
    | none => l.scopes
  | .Loop outcome => loopScopes l.supervisor outcome label.made l.scopes
  | _ => l.scopes

def scopeNext (l : Ledger) (label : ScopeStep) : Option Ledger :=
  (next l.supervisor label.step).map fun after => ⟨after, scopesAfter l label⟩

def Call.Restarts (name : String) : Call → Prop
  | .Stopped decl => decl.name = name
  | .Delaying decl => decl.name = name
  | _ => False

def BeingRestarted (s : PactSupervisor) (name : String) : Prop :=
  LoopRestarts s name ∨ ∃ call ∈ s.calls, call.Restarts name

-- The service of the scope is running or being restarted.
def Owned (s : PactSupervisor) (scope : String) : Prop :=
  (∃ name, s.scope name = some scope ∧ (s.running name = true ∨ BeingRestarted s name)) ∨
    s.loop.scope = some scope

def Ledger.Tidy (l : Ledger) : Prop := ∀ scope ∈ l.scopes, Owned l.supervisor scope

def Ledger.live (l : Ledger) (name : String) : Option String :=
  (l.supervisor.scope name).filter (· ∈ l.scopes)

-- The service, if it has crashed, is declared to be restarted after this exit.
def restartsAfterExit (s : PactSupervisor) (name : String) : Bool :=
  (declared s.serviceDecls name).any fun decl =>
    ((s.child name).bind (exitCode s.table)).any decl.shouldRestart

-- A start over a record that stores a scope makes the same scope again.
def StartSpares (l : Ledger) (decl : ServiceDecl) (outcome : SpawnOutcome) : Prop :=
  l.supervisor.running decl.name = true ∨ outcome = .Failed ∨
    ∀ scope ∈ l.live decl.name, outcome = .Spawned (some scope)

def LoopSpares (l : Ledger) (outcome : SpawnOutcome) (made : Option String) : Prop :=
  match l.supervisor.loop with
  | .Declining decl _ =>
    decl.restart = .Never → l.live decl.name = none ∨ BeingRestarted l.supervisor decl.name
  | .Cleared decl _ =>
    outcome = .Failed → made = none ∧
      (l.live decl.name = none ∨ l.supervisor.running decl.name = true)
  | .Spawned decl _ cgroupHandle _ => ∀ scope ∈ l.live decl.name, cgroupHandle = some scope
  | _ => True

-- The step leaves no scope behind: neither one that it makes, nor one that is stored with a
-- service that it starts anew, or finds to have ended for good.
def SparesScopes (l : Ledger) (label : ScopeStep) : Prop :=
  match label.step with
  | .Start decl outcome => StartSpares l decl outcome
  | .Advance index spawn _ =>
    match l.supervisor.calls[index]? with
    | some (.Delaying decl) =>
      l.supervisor.running decl.name = true ∨
        ∀ scope ∈ l.live decl.name, spawn = .Spawned (some scope)
    | some (.Starting (decl :: _)) => StartSpares l decl spawn
    | _ => True
  | .StartAll services =>
    ∀ crash ∈ l.supervisor.loop.queue, l.live crash.1 = none ∨
      l.supervisor.running crash.1 = true ∨
      (declared services crash.1).any (·.shouldRestart crash.2) = true
  | .Status decl observed =>
    observed = true → ((l.supervisor.child decl.name).bind (exitCode l.supervisor.table)).isSome →
      l.live decl.name = none ∨ BeingRestarted l.supervisor decl.name
  | .Tick found =>
    ∀ name ∈ found, l.live name = none ∨ restartsAfterExit l.supervisor name = true
  | .Loop outcome => LoopSpares l outcome label.made
  | _ => True

section Decidable

variable (l : Ledger) (s : PactSupervisor) (name : String)

instance (call : Call) : Decidable (call.Restarts name) := by
  unfold Call.Restarts
  split <;> infer_instance

instance : Decidable (LoopRestarts s name) :=
  decidable_of_iff
    (s.loop.restarting.any (·.name = name) = true ∨
      ∃ crash ∈ s.loop.queue, crash.1 = name ∧
        (declared s.serviceDecls name).any (·.shouldRestart crash.2) = true) (by
    simp only [LoopRestarts, Option.any_eq_true, decide_eq_true_eq, Prod.exists]
    refine or_congr_right ⟨?_, ?_⟩
    · rintro ⟨_, code, hmem, rfl, decl, hdecl, hrestart⟩
      exact ⟨code, decl, hmem, hdecl, hrestart⟩
    · rintro ⟨code, decl, hmem, hdecl, hrestart⟩
      exact ⟨name, code, hmem, rfl, decl, hdecl, hrestart⟩)

instance : Decidable (BeingRestarted s name) := by
  unfold BeingRestarted
  infer_instance

instance (scope : String) : Decidable (Owned s scope) :=
  decidable_of_iff
    ((∃ entry ∈ s.processes.toList, s.scope entry.1 = some scope ∧
      (s.running entry.1 = true ∨ BeingRestarted s entry.1)) ∨ s.loop.scope = some scope) (by
    refine or_congr_left ⟨?_, ?_⟩
    · rintro ⟨entry, _, hentry⟩
      exact ⟨entry.1, hentry⟩
    · rintro ⟨name, hscope, hkept⟩
      obtain ⟨record, hget, _⟩ := Option.bind_eq_some_iff.mp hscope
      exact ⟨(name, record), (Map.mem_toList_iff ..).mpr hget, hscope, hkept⟩)

instance (decl : ServiceDecl) (outcome : SpawnOutcome) : Decidable (StartSpares l decl outcome) := by
  unfold StartSpares
  infer_instance

instance (outcome : SpawnOutcome) (made : Option String) :
    Decidable (LoopSpares l outcome made) := by
  unfold LoopSpares
  split <;> infer_instance

instance (label : ScopeStep) : Decidable (SparesScopes l label) := by
  unfold SparesScopes
  split
  case h_2 => split <;> infer_instance
  all_goals infer_instance

end Decidable

theorem mem_createScope_iff (scope : Option String) (scopes : List String) (other : String) :
    other ∈ createScope scope scopes ↔ scope = some other ∨ other ∈ scopes := by
  simp [createScope, Option.mem_toList]

theorem mem_destroyScope_iff (scope : Option String) (scopes : List String) (other : String) :
    other ∈ destroyScope scope scopes ↔ other ∈ scopes ∧ scope ≠ some other := by
  simp [destroyScope]

theorem Ledger.mem_live_iff (l : Ledger) (name scope : String) :
    scope ∈ l.live name ↔ l.supervisor.scope name = some scope ∧ scope ∈ l.scopes := by
  simp [Ledger.live, Option.filter_eq_some_iff]

theorem Ledger.live_ne_none (l : Ledger) (name scope : String)
    (hscope : l.supervisor.scope name = some scope) (hmem : scope ∈ l.scopes) :
    l.live name ≠ none := by
  rw [Option.ne_none_iff_exists']
  exact ⟨scope, (l.mem_live_iff name scope).mpr ⟨hscope, hmem⟩⟩

section Records

variable (s : PactSupervisor) (decl : ServiceDecl)

theorem scope_setRecord (name : String) (record : ProcessState) :
    (s.setRecord name record).scope = Function.update s.scope name record.cgroupHandle := by
  funext other
  simp only [PactSupervisor.scope, PactSupervisor.setRecord, Map.get_insert, Function.update_apply]
  split <;> rfl

theorem scope_eq (name : String) (record : ProcessState)
    (h : s.processes.get name = some record) : s.scope name = record.cgroupHandle := by
  simp [PactSupervisor.scope, h]

theorem scope_setRecord_same (name : String) (record changed : ProcessState)
    (hget : s.processes.get name = some record)
    (hsame : changed.cgroupHandle = record.cgroupHandle) :
    (s.setRecord name changed).scope = s.scope := by
  rw [scope_setRecord, hsame, ← scope_eq s name record hget, Function.update_eq_self]

theorem start_scope (outcome : SpawnOutcome) :
    (start decl outcome s).1 = s ∧ (s.running decl.name = true ∨ outcome = .Failed) ∨
      ∃ cgroupHandle, outcome = .Spawned cgroupHandle ∧ s.running decl.name = false ∧
        (start decl outcome s).1.scope = Function.update s.scope decl.name cgroupHandle := by
  cases hrunning : s.running decl.name with
  | true =>
    rw [start_of_running s decl outcome hrunning]
    exact .inl ⟨rfl, .inl rfl⟩
  | false =>
    cases outcome with
    | Failed =>
      rw [start_failed_of_idle s decl hrunning]
      exact .inl ⟨rfl, .inr rfl⟩
    | Spawned cgroupHandle =>
      obtain ⟨record, -, -, hhandle, heq⟩ := start_spawned_of_idle s decl cgroupHandle hrunning
      rw [heq]
      refine .inr ⟨cgroupHandle, rfl, rfl, ?_⟩
      exact (scope_setRecord s decl.name record).trans (by rw [hhandle])

theorem stop_scope (outcome : StopOutcome) :
    stop decl outcome s = s ∧ s.running decl.name = false ∨
      s.running decl.name = true ∧
        (stop decl outcome s).running = Function.update s.running decl.name false ∧
        (stop decl outcome s).scope = Function.update s.scope decl.name none := by
  unfold stop
  cases hget : s.processes.get decl.name with
  | none => simp [PactSupervisor.running, hget]
  | some record =>
    rw [running_eq s decl.name record hget]
    by_cases hstate : record.state = .Running
    · simp only [hstate, if_true, decide_true]
      exact .inr ⟨trivial, running_setRecord s decl.name _, scope_setRecord s decl.name _⟩
    · simp [hstate]

theorem markRestarting_scope :
    (markRestarting decl s).scope = s.scope ∧
      ∀ name, name ≠ decl.name → (markRestarting decl s).running name = s.running name := by
  unfold markRestarting
  cases hget : s.processes.get decl.name with
  | none => exact ⟨rfl, fun _ _ => rfl⟩
  | some record =>
    refine ⟨scope_setRecord_same s decl.name record _ hget rfl, fun name hne => ?_⟩
    rw [running_setRecord, Function.update_of_ne hne]

theorem declineRestart_scope :
    (declineRestart decl s).scope = s.scope ∧
      ∀ name, name ≠ decl.name ∨ decl.restart ≠ .Never →
        (declineRestart decl s).running name = s.running name := by
  unfold declineRestart
  cases hget : s.processes.get decl.name with
  | none => exact ⟨rfl, fun _ _ => rfl⟩
  | some record =>
    dsimp only
    split
    case isTrue hnever =>
      refine ⟨scope_setRecord_same s decl.name record _ hget rfl, fun name h => ?_⟩
      rw [running_setRecord, Function.update_of_ne (h.resolve_right (not_not.mpr hnever))]
    case isFalse => exact ⟨rfl, fun _ _ => rfl⟩

theorem clearScope_scope :
    (clearScope decl s).scope = Function.update s.scope decl.name none ∧
      (clearScope decl s).running = s.running := by
  refine ⟨?_, congrArg View.running (clearScope_view s decl).2⟩
  unfold clearScope
  cases hget : s.processes.get decl.name with
  | none =>
    have hnone : s.scope decl.name = none := by simp [PactSupervisor.scope, hget]
    rw [← hnone, Function.update_eq_self]
  | some record => exact scope_setRecord s decl.name _

theorem storeChild_scope (child : ProcessId) (cgroupHandle : Option String) :
    (storeChild decl child cgroupHandle s).scope =
      Function.update s.scope decl.name cgroupHandle := by
  unfold storeChild
  cases hget : s.processes.get decl.name with
  | none => exact scope_setRecord s decl.name _
  | some record => exact scope_setRecord s decl.name _

theorem reap_scope (record reaped : ProcessState) (table : List Process) (code : ExitCode)
    (h : reap record table = some (reaped, code)) : reaped.cgroupHandle = record.cgroupHandle := by
  unfold reap at h
  split at h
  · simp only [Option.map_eq_some_iff, Prod.mk.injEq] at h
    obtain ⟨found, _, rfl, rfl⟩ := h
    rfl
  · cases h

theorem status_scope (observed : Bool) :
    (status decl observed s).1.scope = s.scope := by
  unfold status
  cases hget : s.processes.get decl.name with
  | none => rfl
  | some record =>
    dsimp only
    split
    case h_1 reaped code hreap =>
      refine scope_setRecord_same s decl.name record reaped hget ?_
      cases observed with
      | false => cases hreap
      | true => exact reap_scope record reaped s.table code hreap
    case h_2 => rfl

theorem detectCrashedServices_scope (found : List String) (last : PactSupervisor)
    (crashed : List (String × ExitCode))
    (h : detectCrashedServices found s = some (last, crashed)) : last.scope = s.scope := by
  induction found generalizing s crashed with
  | nil =>
    cases h
    rfl
  | cons name found ih =>
    simp only [detectCrashedServices, Option.bind_eq_bind, Option.bind_eq_some_iff,
      Option.pure_def, Option.some.injEq, Prod.mk.injEq] at h
    obtain ⟨record, hget, ⟨reaped, code⟩, hreap, ⟨after, rest⟩, hrest, rfl, rfl⟩ := h
    rw [ih _ _ hrest]
    exact scope_setRecord_same s name record _ hget (reap_scope record reaped s.table code hreap)

end Records

section Ownership

variable {s after : PactSupervisor} {name scope : String}

theorem Owned.elim (howned : Owned s scope) {goal : Prop}
    (hstored : ∀ name, s.scope name = some scope →
      s.running name = true ∨ BeingRestarted s name → goal)
    (hhand : s.loop.scope = some scope → goal) : goal := by
  rcases howned with ⟨name, hscope, hkept⟩ | hscope
  · exact hstored name hscope hkept
  · exact hhand hscope

theorem BeingRestarted.mono (h : BeingRestarted s name)
    (hloop : LoopRestarts s name → LoopRestarts after name)
    (hcalls : (∃ call ∈ s.calls, call.Restarts name) → ∃ call ∈ after.calls, call.Restarts name) :
    BeingRestarted after name := by
  rcases h with h | h
  · exact .inl (hloop h)
  · exact .inr (hcalls h)

theorem Framed.loopRestarts (hframed : Framed s after) (h : LoopRestarts s name) :
    LoopRestarts after name := by
  rw [LoopRestarts, hframed.loop, hframed.serviceDecls]
  exact h

theorem Owned.elsewhere (howned : Owned s scope) (service : String)
    (cgroupHandle : Option String) (running : Bool)
    (hscopes : after.scope = Function.update s.scope service cgroupHandle)
    (hruns : after.running = Function.update s.running service running)
    (hrestarts : ∀ name, name ≠ service → BeingRestarted s name → BeingRestarted after name)
    (hservice : s.scope service = some scope → Owned after scope)
    (hhand : s.loop.scope = some scope → Owned after scope) : Owned after scope := by
  refine howned.elim (fun name hscope hkept => ?_) hhand
  by_cases hname : name = service
  · subst hname
    exact hservice hscope
  · refine .inl ⟨name, ?_, hkept.imp (fun hrunning => ?_) (hrestarts name hname)⟩
    · rw [hscopes, Function.update_of_ne hname]
      exact hscope
    · rw [hruns, Function.update_of_ne hname]
      exact hrunning

theorem owned_stored (service : String) (scopes : String → Option String) (runs : String → Bool)
    (hscopes : after.scope = Function.update scopes service (some scope))
    (hruns : after.running = Function.update runs service true) : Owned after scope := by
  refine .inl ⟨service, ?_, .inl ?_⟩
  · rw [hscopes, Function.update_self]
  · rw [hruns, Function.update_self]

end Ownership

section Steps

variable (l : Ledger) (decl : ServiceDecl) (calls : List Call)

theorem mem_startScopes (outcome : SpawnOutcome) (made : Option String) (scope : String)
    (hstart : l.supervisor.running decl.name = true ∨ outcome = .Failed)
    (hmem : scope ∈ startScopes l.supervisor decl outcome made l.scopes) : scope ∈ l.scopes := by
  unfold startScopes at hmem
  split at hmem
  case isTrue => exact hmem
  case isFalse hidle =>
    obtain rfl := hstart.resolve_left hidle
    rw [mem_destroyScope_iff, mem_createScope_iff] at hmem
    exact hmem.1.resolve_left hmem.2

theorem start_tidy (htidy : l.Tidy) (outcome : SpawnOutcome) (made : Option String)
    (hspares : StartSpares l decl outcome)
    (hcalls : ∀ name, (∃ call ∈ l.supervisor.calls, call.Restarts name) →
      (∃ call ∈ calls, call.Restarts name) ∨ name = decl.name ∧
        (l.supervisor.running decl.name = true ∨
          ∀ scope ∈ l.live decl.name, outcome = .Spawned (some scope))) :
    Ledger.Tidy ⟨{ (start decl outcome l.supervisor).1 with calls := calls },
      startScopes l.supervisor decl outcome made l.scopes⟩ := by
  intro scope hmem
  have hframed := (start_change l.supervisor decl outcome).1
  rcases start_scope l.supervisor decl outcome with ⟨heq, hwhy⟩ | ⟨cgroupHandle, rfl, hidle, hscopes⟩
  · have hlive := mem_startScopes l decl outcome made scope hwhy hmem
    simp only [heq]
    refine (htidy scope hlive).elim (fun name hscope hkept => .inl ⟨name, hscope, ?_⟩) .inr
    rcases hkept with hrunning | hloop | hcall
    · exact .inl hrunning
    · exact .inr (.inl hloop)
    · rcases hcalls name hcall with hleft | ⟨rfl, hrunning | hsame⟩
      · exact .inr (.inr hleft)
      · exact .inl hrunning
      · rcases hwhy with hrunning | rfl
        · exact .inl hrunning
        · cases hsame scope ((l.mem_live_iff decl.name scope).mpr ⟨hscope, hlive⟩)
  · have hspawned : startSpawns l.supervisor decl (.Spawned cgroupHandle) ≠ none := by
      simp [startSpawns, hidle]
    obtain ⟨_, _, _, _, hrunning, _⟩ :=
      (start_cases l.supervisor decl (.Spawned cgroupHandle)).resolve_left fun h => hspawned h.1
    have hnew : ∀ stored, cgroupHandle = some stored → Owned
        { (start decl (.Spawned cgroupHandle) l.supervisor).1 with calls := calls } stored := by
      rintro stored rfl
      exact owned_stored decl.name _ _ hscopes hrunning
    rw [startScopes, if_neg (by simp [hidle]), mem_createScope_iff] at hmem
    rcases hmem with hmade | hlive
    · exact hnew scope hmade
    · refine (htidy scope hlive).elsewhere decl.name _ _ hscopes hrunning
        (fun name hname hrestarted => ?_) (fun hscope => ?_) fun hhand => ?_
      · refine hrestarted.mono (fun h => hframed.loopRestarts h) fun hcall => ?_
        exact (hcalls name hcall).resolve_right fun h => hname h.1
      · have hover := (hspares.resolve_left (by simp [hidle])).resolve_left (by simp)
        have hsame := hover scope ((l.mem_live_iff decl.name scope).mpr ⟨hscope, hlive⟩)
        exact hnew scope (SpawnOutcome.Spawned.inj hsame)
      · exact .inr ((congrArg Loop.scope hframed.loop).trans hhand)

theorem stop_tidy (htidy : l.Tidy) (outcome : StopOutcome)
    (hcalls : ∀ name, (∃ call ∈ l.supervisor.calls, call.Restarts name) →
      ∃ call ∈ calls, call.Restarts name) :
    Ledger.Tidy ⟨{ stop decl outcome l.supervisor with calls := calls },
      stopScopes l.supervisor decl l.scopes⟩ := by
  intro scope hmem
  have hframed := (stop_change l.supervisor decl outcome).1
  rcases stop_scope l.supervisor decl outcome with ⟨heq, hidle⟩ | ⟨hrunning, hruns, hscopes⟩
  · rw [stopScopes, if_neg (by simp [hidle])] at hmem
    simp only [heq]
    refine (htidy scope hmem).elim (fun name hscope hkept => .inl ⟨name, hscope, ?_⟩) .inr
    exact hkept.imp_right fun h => h.mono id (hcalls name)
  · rw [stopScopes, if_pos hrunning, mem_destroyScope_iff] at hmem
    refine (htidy scope hmem.1).elsewhere decl.name _ _ hscopes hruns
      (fun name _ hrestarted => ?_) (fun hscope => absurd hscope hmem.2) fun hhand => ?_
    · exact hrestarted.mono (fun h => hframed.loopRestarts h) (hcalls name)
    · exact .inr ((congrArg Loop.scope hframed.loop).trans hhand)

theorem kept_tidy (after : PactSupervisor) (htidy : l.Tidy)
    (hscopes : after.scope = l.supervisor.scope) (hhand : after.loop.scope = l.supervisor.loop.scope)
    (hkept : ∀ name, l.live name ≠ none →
      l.supervisor.running name = true ∨ BeingRestarted l.supervisor name →
      after.running name = true ∨ BeingRestarted after name) :
    Ledger.Tidy ⟨after, l.scopes⟩ := by
  intro scope hlive
  refine (htidy scope hlive).elim (fun name hscope hname => .inl ⟨name, ?_, ?_⟩) fun hscope => ?_
  · exact (congrFun hscopes name).trans hscope
  · exact hkept name (l.live_ne_none name scope hscope hlive) hname
  · exact .inr (hhand.trans hscope)

end Steps

section Calls

variable (calls : List Call) (index : Nat) (call rest : Call) (name : String)

theorem restarts_set (hcall : calls[index]? = some call)
    (hrest : call.Restarts name → rest.Restarts name)
    (h : ∃ call ∈ calls, call.Restarts name) :
    ∃ call ∈ calls.set index rest, call.Restarts name := by
  obtain ⟨other, hmem, hother⟩ := h
  obtain ⟨position, hposition⟩ := List.getElem?_of_mem hmem
  by_cases hsame : position = index
  · subst hsame
    obtain rfl := Option.some.inj (hcall.symm.trans hposition)
    have hbound := (List.getElem?_eq_some_iff.mp hcall).1
    exact ⟨rest, List.mem_iff_getElem?.mpr ⟨position, by simp [hbound]⟩, hrest hother⟩
  · refine ⟨other, List.mem_iff_getElem?.mpr ⟨position, ?_⟩, hother⟩
    rw [List.getElem?_set_ne (Ne.symm hsame)]
    exact hposition

theorem restarts_eraseIdx (hcall : calls[index]? = some call) (hnot : ¬call.Restarts name)
    (h : ∃ call ∈ calls, call.Restarts name) :
    ∃ call ∈ calls.eraseIdx index, call.Restarts name := by
  obtain ⟨other, hmem, hother⟩ := h
  obtain ⟨position, hposition⟩ := List.getElem?_of_mem hmem
  refine ⟨other, List.mem_eraseIdx_iff_getElem?.mpr ⟨position, ?_, hposition⟩, hother⟩
  rintro rfl
  obtain rfl := Option.some.inj (hcall.symm.trans hposition)
  exact hnot hother

end Calls

section Next

variable (l : Ledger)

theorem finished_tidy (htidy : l.Tidy) (index : Nat) (call : Call)
    (hcall : l.supervisor.calls[index]? = some call) (hnot : ∀ name, ¬call.Restarts name) :
    Ledger.Tidy ⟨{ l.supervisor with calls := l.supervisor.calls.eraseIdx index }, l.scopes⟩ := by
  refine kept_tidy l _ htidy rfl rfl fun name _ hkept => hkept.imp_right fun h => ?_
  exact h.mono id (restarts_eraseIdx l.supervisor.calls index call name hcall (hnot name))

theorem marked_tidy (htidy : l.Tidy) (index : Nat) (decl : ServiceDecl)
    (hcall : l.supervisor.calls[index]? = some (.Stopped decl)) :
    Ledger.Tidy ⟨{ markRestarting decl l.supervisor with
      calls := l.supervisor.calls.set index (.Delaying decl) }, l.scopes⟩ := by
  obtain ⟨hscopes, hruns⟩ := markRestarting_scope l.supervisor decl
  have hframed := (markRestarting_change l.supervisor decl).1
  refine kept_tidy l _ htidy hscopes (congrArg Loop.scope hframed.loop) fun name _ hkept => ?_
  by_cases hname : name = decl.name
  · refine .inr (.inr ⟨.Delaying decl, ?_, hname.symm⟩)
    have hbound := (List.getElem?_eq_some_iff.mp hcall).1
    exact List.mem_iff_getElem?.mpr ⟨index, by simp [hbound]⟩
  · refine hkept.imp (fun h => (hruns name hname).trans h) fun h => ?_
    exact h.mono (fun h => hframed.loopRestarts h)
      (restarts_set l.supervisor.calls index _ _ name hcall id)

theorem advance_tidy (htidy : l.Tidy) (index : Nat) (spawn : SpawnOutcome) (wait : StopOutcome)
    (made : Option String) (call : Call) (after : PactSupervisor)
    (hcall : l.supervisor.calls[index]? = some call)
    (hspares : SparesScopes l ⟨.Advance index spawn wait, made⟩)
    (hnext : next l.supervisor (.Advance index spawn wait) = some after) :
    Ledger.Tidy ⟨after, callScopes l.supervisor spawn made l.scopes call⟩ := by
  have hset : ∀ rest : Call, (∀ name, call.Restarts name → rest.Restarts name) → ∀ name,
      (∃ call ∈ l.supervisor.calls, call.Restarts name) →
      ∃ call ∈ l.supervisor.calls.set index rest, call.Restarts name := fun rest hrest name =>
    restarts_set l.supervisor.calls index call rest name hcall (hrest name)
  simp only [SparesScopes, hcall] at hspares
  cases call with
  | Stopped decl =>
    simp only [next, hcall, callStep, Option.some.injEq] at hnext
    subst hnext
    exact marked_tidy l htidy index decl hcall
  | Delaying decl =>
    simp only [next, hcall, callStep, Option.some.injEq] at hnext
    subst hnext
    refine start_tidy l decl _ htidy spawn made ?_ fun name h => ?_
    · exact hspares.imp_right .inr
    · by_cases hname : name = decl.name
      · exact .inr ⟨hname, hspares⟩
      · exact .inl (restarts_eraseIdx _ index _ name hcall (fun h => hname h.symm) h)
  | Starting services =>
    cases services with
    | nil =>
      simp only [next, hcall, callStep, Option.some.injEq] at hnext
      subst hnext
      exact finished_tidy l htidy index _ hcall fun _ h => h
    | cons decl services =>
      simp only [next, hcall, callStep] at hnext
      split at hnext
      all_goals
        rename_i hstart
        simp only [Prod.mk.injEq] at hstart
        obtain ⟨rfl, hrest⟩ := hstart
        obtain rfl := Option.some.inj hnext
        refine start_tidy l decl _ htidy spawn made hspares fun name h => .inl ?_
      · exact hset _ (fun _ h => h.elim) name h
      · exact restarts_eraseIdx _ index _ name hcall (fun h => h) h
  | Stopping services =>
    cases services with
    | nil =>
      simp only [next, hcall, callStep, Option.some.injEq] at hnext
      subst hnext
      exact finished_tidy l htidy index _ hcall fun _ h => h
    | cons decl services =>
      simp only [next, hcall, callStep, Option.some.injEq] at hnext
      subst hnext
      exact stop_tidy l decl _ htidy wait (hset _ fun _ h => h.elim)

theorem startAll_tidy (htidy : l.Tidy) (services : List ServiceDecl) (made : Option String)
    (after : PactSupervisor) (hspares : SparesScopes l ⟨.StartAll services, made⟩)
    (hnext : next l.supervisor (.StartAll services) = some after) :
    Ledger.Tidy ⟨after, l.scopes⟩ := by
  simp only [next, Option.ite_none_right_eq_some, Option.some.injEq] at hnext
  obtain ⟨hshares, rfl⟩ := hnext
  refine kept_tidy l _ htidy rfl rfl fun name hlive hkept => ?_
  rcases hkept with hrunning | (⟨decl, hdecl, _⟩ | ⟨code, decl, hmem, hdecl, hrestart⟩) |
    ⟨call, hcall, hname⟩
  · exact .inl hrunning
  · cases hloop : l.supervisor.loop <;> simp [hloop, Loop.restarting, Loop.sharesDecls] at hdecl hshares
  · rcases hspares (name, code) hmem with hnone | hrunning | hagain
    · exact absurd hnone hlive
    · exact .inl hrunning
    · obtain ⟨other, hother, hrestart⟩ := Option.any_eq_true _ _ |>.mp hagain
      exact .inr (.inl (.inr ⟨code, other, hmem, hother, hrestart⟩))
  · exact .inr (.inr ⟨call, List.mem_append_left _ hcall, hname⟩)

theorem status_tidy (htidy : l.Tidy) (decl : ServiceDecl) (observed : Bool) (made : Option String)
    (hspares : SparesScopes l ⟨.Status decl observed, made⟩) :
    Ledger.Tidy ⟨(status decl observed l.supervisor).1, l.scopes⟩ := by
  have hscopes := status_scope l.supervisor decl observed
  rcases status_change l.supervisor decl observed with
    hsame | ⟨⟨hobserved, _, id, code, hid, hexit⟩, reaped, _, _, hafter⟩
  · rw [hsame]
    exact htidy
  · have hframed : Framed l.supervisor (status decl observed l.supervisor).1 := by
      rw [hafter]
      exact setRecord_framed _ _ _
    refine kept_tidy l _ htidy hscopes (congrArg Loop.scope hframed.loop) fun name hlive hkept => ?_
    have hmono : BeingRestarted l.supervisor name →
        BeingRestarted (status decl observed l.supervisor).1 name := fun h =>
      h.mono (fun h => hframed.loopRestarts h) fun h => by rwa [hframed.calls]
    by_cases hname : name = decl.name
    · subst hname
      exact .inr (hmono ((hspares hobserved (by simp [hid, hexit])).resolve_left hlive))
    · refine hkept.imp (fun h => ?_) hmono
      rw [hafter, running_setRecord, Function.update_of_ne hname]
      exact h

theorem tick_tidy (htidy : l.Tidy) (found : List String) (made : Option String)
    (after : PactSupervisor) (hspares : SparesScopes l ⟨.Tick found, made⟩)
    (hnext : next l.supervisor (.Tick found) = some after) : Ledger.Tidy ⟨after, l.scopes⟩ := by
  obtain ⟨hsleeping, last, crashed, hdetect, hdetection, rfl⟩ := next_tick _ found after hnext
  have hscopes := detectCrashedServices_scope l.supervisor found last crashed hdetect
  refine kept_tidy l _ htidy hscopes (by rw [hsleeping]; rfl) fun name hlive hkept => ?_
  rcases hkept with hrunning | (⟨decl, hdecl, _⟩ | ⟨code, decl, hmem, _⟩) | hcall
  · by_cases hfound : name ∈ found
    · -- A service that was running is queued for the restart it is declared to have.
      have hrestarts := (hspares name hfound).resolve_left hlive
      rw [← hdetection.names] at hfound
      obtain ⟨⟨service, code⟩, hmem, rfl⟩ := List.mem_map.mp hfound
      obtain ⟨_, id, hid, hexit⟩ := hdetection.exited _ hmem
      obtain ⟨decl, hdecl, hexited⟩ := Option.any_eq_true _ _ |>.mp hrestarts
      simp only [hid, Option.bind_some, hexit, Option.any_some] at hexited
      refine .inr (.inl (.inr ⟨code, decl, hmem, ?_, hexited⟩))
      exact (congrArg (declared · service) hdetection.framed.serviceDecls).trans hdecl
    · refine .inl ((congrFun hdetection.running name).trans ?_)
      rw [if_neg hfound]
      exact hrunning
  · rw [hsleeping] at hdecl
    cases hdecl
  · rw [hsleeping] at hmem
    cases hmem
  · refine .inr (.inr ?_)
    rw [← hdetection.framed.calls] at hcall
    exact hcall

theorem BeingRestarted.queued {s after : PactSupervisor} {name : String}
    (h : BeingRestarted s name) (hdecls : after.serviceDecls = s.serviceDecls)
    (hcalls : after.calls = s.calls) (hqueue : after.loop.queue = s.loop.queue)
    (hrestarting : ∀ decl, s.loop.restarting = some decl → decl.name = name →
      after.loop.restarting = some decl) : BeingRestarted after name := by
  refine h.mono (fun h => ?_) fun h => by rwa [hcalls]
  rcases h with ⟨decl, hdecl, hname⟩ | ⟨code, decl, hmem, hdecl, hrestart⟩
  · exact .inl ⟨decl, hrestarting decl hdecl hname, hname⟩
  · exact .inr ⟨code, decl, hqueue ▸ hmem, hdecls ▸ hdecl, hrestart⟩

theorem loopRestarts_head {s : PactSupervisor} {name service : String} {code : ExitCode}
    {crashed : List (String × ExitCode)} (hloop : s.loop = .Handling ((service, code) :: crashed))
    (h : LoopRestarts s name) :
    (∃ decl, declared s.serviceDecls service = some decl ∧ decl.shouldRestart code = true ∧
      decl.name = name) ∨
    ∃ exit decl, (name, exit) ∈ crashed ∧ declared s.serviceDecls name = some decl ∧
      decl.shouldRestart exit = true := by
  rcases h with ⟨decl, hdecl, _⟩ | ⟨exit, decl, hmem, hdecl, hrestart⟩
  · rw [hloop] at hdecl
    cases hdecl
  · rw [hloop] at hmem
    rcases List.mem_cons.mp hmem with hhead | htail
    · cases hhead
      exact .inl ⟨decl, hdecl, hrestart, (declared_name _ _ _ hdecl).2⟩
    · exact .inr ⟨exit, decl, htail, hdecl, hrestart⟩

-- A crash that the loop takes up is passed over only if it is not to be followed by a restart.
theorem decide_tidy (htidy : l.Tidy) (service : String) (code : ExitCode)
    (crashed : List (String × ExitCode)) (outcome : SpawnOutcome) (after : PactSupervisor)
    (hloop : l.supervisor.loop = .Handling ((service, code) :: crashed))
    (hnext : loopStep outcome l.supervisor = some after) : Ledger.Tidy ⟨after, l.scopes⟩ := by
  cases hdeclared : declared l.supervisor.serviceDecls service with
  | none =>
    rw [loopStep_undeclared outcome hloop hdeclared] at hnext
    obtain rfl := Option.some.inj hnext
    refine kept_tidy l _ htidy rfl (by rw [hloop]; rfl) fun name _ hkept => ?_
    refine hkept.imp_right fun h => h.mono (fun h => ?_) id
    rcases loopRestarts_head hloop h with ⟨decl, hdecl, _⟩ | hlater
    · rw [hdeclared] at hdecl
      cases hdecl
    · exact .inr hlater
  | some decl =>
    rw [loopStep_declared outcome hloop hdeclared] at hnext
    obtain rfl := Option.some.inj hnext
    refine kept_tidy l _ htidy rfl ?_ fun name _ hkept => ?_
    · rw [hloop]
      dsimp only
      split <;> rfl
    refine hkept.imp_right fun h => h.mono (fun h => ?_) id
    rcases loopRestarts_head hloop h with ⟨other, hother, hrestart, hname⟩ |
      ⟨exit, other, hmem, hother, hrestart⟩
    · obtain rfl := Option.some.inj (hdeclared.symm.trans hother)
      refine .inl ⟨decl, ?_, hname⟩
      simp only [hrestart, if_true]
      rfl
    · refine .inr ⟨exit, other, ?_, hother, hrestart⟩
      dsimp only
      split <;> exact hmem

theorem decline_tidy (htidy : l.Tidy) (decl : ServiceDecl) (crashed : List (String × ExitCode))
    (hloop : l.supervisor.loop = .Declining decl crashed)
    (hspares : decl.restart = .Never →
      l.live decl.name = none ∨ BeingRestarted l.supervisor decl.name) :
    Ledger.Tidy ⟨{ declineRestart decl l.supervisor with loop := .Handling crashed }, l.scopes⟩ := by
  obtain ⟨hscopes, hruns⟩ := declineRestart_scope l.supervisor decl
  have hframed := (declineRestart_change l.supervisor decl).1
  refine kept_tidy l _ htidy hscopes (by rw [hloop]; rfl) fun name hlive hkept => ?_
  have hmono : BeingRestarted l.supervisor name →
      BeingRestarted { declineRestart decl l.supervisor with loop := .Handling crashed } name :=
    fun h => h.queued hframed.serviceDecls hframed.calls (by rw [hloop]; rfl)
      (by simp [hloop, Loop.restarting])
  by_cases hdeclined : name ≠ decl.name ∨ decl.restart ≠ .Never
  · exact hkept.imp (fun h => (hruns name hdeclined).trans h) hmono
  · obtain ⟨rfl, hnever⟩ : name = decl.name ∧ decl.restart = .Never := by simpa using hdeclined
    exact .inr (hmono ((hspares hnever).resolve_left hlive))

theorem clear_tidy (htidy : l.Tidy) (decl : ServiceDecl) (crashed : List (String × ExitCode))
    (hloop : l.supervisor.loop = .Delaying decl crashed) :
    Ledger.Tidy ⟨{ clearScope decl l.supervisor with loop := .Cleared decl crashed },
      destroyScope (l.supervisor.scope decl.name) l.scopes⟩ := by
  obtain ⟨hscopes, hruns⟩ := clearScope_scope l.supervisor decl
  have hframed := (clearScope_view l.supervisor decl).1
  intro scope hmem
  rw [mem_destroyScope_iff] at hmem
  rw [← Function.update_eq_self decl.name l.supervisor.running] at hruns
  refine (htidy scope hmem.1).elsewhere decl.name _ _ hscopes hruns
    (fun name _ hrestarted => ?_) (fun hscope => absurd hscope hmem.2) fun hhand => ?_
  · exact hrestarted.queued hframed.serviceDecls hframed.calls (by rw [hloop]; rfl)
      fun other hother _ => by rwa [hloop] at hother
  · rw [hloop] at hhand
    cases hhand

theorem respawn_tidy (htidy : l.Tidy) (decl : ServiceDecl) (cgroupHandle : Option String)
    (crashed : List (String × ExitCode)) (table : List Process) (child : ProcessId)
    (hloop : l.supervisor.loop = .Cleared decl crashed) :
    Ledger.Tidy ⟨{ l.supervisor with
        table := table, loop := .Spawned decl child cgroupHandle crashed },
      createScope cgroupHandle l.scopes⟩ := by
  intro scope hmem
  rcases (mem_createScope_iff cgroupHandle l.scopes scope).mp hmem with hmade | hlive
  · exact .inr hmade
  · refine (htidy scope hlive).elim (fun name hscope hkept => ?_) fun hhand => ?_
    · refine .inl ⟨name, hscope, hkept.imp_right fun h => ?_⟩
      exact h.queued rfl rfl (by rw [hloop]; rfl) fun other hother _ => by rwa [hloop] at hother
    · rw [hloop] at hhand
      cases hhand

theorem respawn_failed_tidy (htidy : l.Tidy) (decl : ServiceDecl)
    (crashed : List (String × ExitCode)) (hloop : l.supervisor.loop = .Cleared decl crashed)
    (hspares : l.live decl.name = none ∨ l.supervisor.running decl.name = true) :
    Ledger.Tidy ⟨{ l.supervisor with loop := .Handling crashed }, l.scopes⟩ := by
  refine kept_tidy l _ htidy rfl (by rw [hloop]; rfl) fun name hlive hkept => ?_
  by_cases hname : name = decl.name
  · subst hname
    exact .inl (hspares.resolve_left hlive)
  · refine hkept.imp_right fun h => h.queued rfl rfl (by rw [hloop]; rfl) fun other hother heq => ?_
    rw [hloop] at hother
    cases hother
    exact absurd heq.symm hname

theorem store_tidy (htidy : l.Tidy) (decl : ServiceDecl) (child : ProcessId)
    (cgroupHandle : Option String) (crashed : List (String × ExitCode))
    (hloop : l.supervisor.loop = .Spawned decl child cgroupHandle crashed)
    (hspares : ∀ scope ∈ l.live decl.name, cgroupHandle = some scope) :
    Ledger.Tidy ⟨{ storeChild decl child cgroupHandle l.supervisor with loop := .Handling crashed },
      l.scopes⟩ := by
  obtain ⟨hframed, _, hruns, _⟩ := storeChild_view l.supervisor decl child cgroupHandle
  have hscopes := storeChild_scope l.supervisor decl child cgroupHandle
  have hstored : ∀ scope, cgroupHandle = some scope → Owned
      { storeChild decl child cgroupHandle l.supervisor with loop := .Handling crashed } scope := by
    rintro scope rfl
    exact owned_stored decl.name _ _ hscopes hruns
  intro scope hlive
  refine (htidy scope hlive).elsewhere decl.name _ _ hscopes hruns
    (fun name hname hrestarted => ?_) (fun hscope => ?_) fun hhand => ?_
  · refine hrestarted.queued hframed.serviceDecls hframed.calls (by rw [hloop]; rfl)
      fun other hother heq => ?_
    rw [hloop] at hother
    cases hother
    exact absurd heq.symm hname
  · exact hstored scope (hspares scope ((l.mem_live_iff decl.name scope).mpr ⟨hscope, hlive⟩))
  · rw [hloop] at hhand
    exact hstored scope hhand

theorem loop_tidy (htidy : l.Tidy) (outcome : SpawnOutcome) (made : Option String)
    (after : PactSupervisor) (hspares : LoopSpares l outcome made)
    (hnext : loopStep outcome l.supervisor = some after) :
    Ledger.Tidy ⟨after, loopScopes l.supervisor outcome made l.scopes⟩ := by
  cases hloop : l.supervisor.loop with
  | Sleeping => simp [loopStep, hloop] at hnext
  | Detected crashed =>
    rw [loopStep_detected outcome hloop] at hnext
    obtain rfl := Option.some.inj hnext
    simp only [loopScopes, hloop]
    refine kept_tidy l _ htidy rfl (by rw [hloop]; rfl) fun name _ hkept => hkept.imp_right ?_
    exact fun h => h.queued rfl rfl (by rw [hloop]; rfl) (by simp [hloop, Loop.restarting])
  | Handling crashed =>
    simp only [loopScopes, hloop]
    cases crashed with
    | nil =>
      rw [loopStep_finished outcome hloop] at hnext
      obtain rfl := Option.some.inj hnext
      refine kept_tidy l _ htidy rfl (by rw [hloop]; rfl) fun name _ hkept => hkept.imp_right ?_
      exact fun h => h.queued rfl rfl (by rw [hloop]; rfl) (by simp [hloop, Loop.restarting])
    | cons crash crashed =>
      exact decide_tidy l htidy crash.1 crash.2 crashed outcome after hloop hnext
  | Declining decl crashed =>
    rw [loopStep_declining outcome hloop] at hnext
    obtain rfl := Option.some.inj hnext
    simp only [LoopSpares, hloop] at hspares
    simp only [loopScopes, hloop]
    exact decline_tidy l htidy decl crashed hloop hspares
  | Delaying decl crashed =>
    rw [loopStep_delaying outcome hloop] at hnext
    obtain rfl := Option.some.inj hnext
    simp only [loopScopes, hloop]
    exact clear_tidy l htidy decl crashed hloop
  | Cleared decl crashed =>
    simp only [LoopSpares, hloop] at hspares
    cases outcome with
    | Failed =>
      obtain ⟨rfl, hrunning⟩ := hspares rfl
      simp only [loopStep, hloop, Option.some.injEq] at hnext
      subst hnext
      simp only [loopScopes, hloop]
      exact respawn_failed_tidy l htidy decl crashed hloop hrunning
    | Spawned cgroupHandle =>
      rw [loopStep_spawned cgroupHandle hloop] at hnext
      obtain rfl := Option.some.inj hnext
      simp only [loopScopes, hloop]
      exact respawn_tidy l htidy decl cgroupHandle crashed _ _ hloop
  | Spawned decl child cgroupHandle crashed =>
    rw [loopStep_store outcome hloop] at hnext
    obtain rfl := Option.some.inj hnext
    simp only [LoopSpares, hloop] at hspares
    simp only [loopScopes, hloop]
    exact store_tidy l htidy decl child cgroupHandle crashed hloop hspares

theorem scopeNext_tidy (label : ScopeStep) (l' : Ledger) (htidy : l.Tidy)
    (hspares : SparesScopes l label) (hnext : scopeNext l label = some l') : l'.Tidy := by
  obtain ⟨step, made⟩ := label
  simp only [scopeNext, Option.map_eq_some_iff] at hnext
  obtain ⟨after, hnext, rfl⟩ := hnext
  cases step with
  | Exit id code =>
    simp only [next] at hnext
    split at hnext
    · obtain rfl := Option.some.inj hnext
      exact htidy
    · cases hnext
  | Reap id =>
    simp only [next] at hnext
    split at hnext
    · obtain rfl := Option.some.inj hnext
      exact htidy
    · cases hnext
  | Start decl outcome =>
    obtain rfl := Option.some.inj hnext
    have hcalls := (start_change l.supervisor decl outcome).1.calls
    have hstarted := start_tidy l decl l.supervisor.calls htidy outcome made hspares fun _ h => .inl h
    rw [← hcalls] at hstarted
    exact hstarted
  | Stop decl outcome =>
    obtain rfl := Option.some.inj hnext
    have hcalls := (stop_change l.supervisor decl outcome).1.calls
    have hstopped := stop_tidy l decl l.supervisor.calls htidy outcome fun _ h => h
    rw [← hcalls] at hstopped
    exact hstopped
  | Restart decl outcome =>
    obtain rfl := Option.some.inj hnext
    have hcalls := (stop_change l.supervisor decl outcome).1.calls
    refine stop_tidy l decl _ htidy outcome ?_
    rintro name ⟨call, hcall, hname⟩
    rw [hcalls]
    exact ⟨call, List.mem_append_left _ hcall, hname⟩
  | StartAll services => exact startAll_tidy l htidy services made after hspares hnext
  | StopAll services =>
    obtain rfl := Option.some.inj hnext
    refine kept_tidy l _ htidy rfl rfl fun name _ hkept => hkept.imp_right fun h => h.mono id ?_
    rintro ⟨call, hcall, hname⟩
    exact ⟨call, List.mem_append_left _ hcall, hname⟩
  | Advance index spawn wait =>
    cases hcall : l.supervisor.calls[index]? with
    | none => simp [next, hcall] at hnext
    | some call =>
      simp only [scopesAfter, hcall]
      exact advance_tidy l htidy index spawn wait made call after hcall hspares hnext
  | Status decl observed =>
    obtain rfl := Option.some.inj hnext
    exact status_tidy l htidy decl observed made hspares
  | Tick found => exact tick_tidy l htidy found made after hspares hnext
  | Loop outcome => exact loop_tidy l htidy outcome made after hspares hnext

end Next

theorem scopes_owned (labels : List ScopeStep) (last : Ledger)
    (run : Run scopeNext SparesScopes ⟨.new, []⟩ labels last) (scope : String)
    (hexists : scope ∈ last.scopes) : Owned last.supervisor scope := by
  have htidy := run.invariant Ledger.Tidy
    (fun l label l' htidy hspares hnext => scopeNext_tidy l label l' htidy hspares hnext)
    (fun _ hmem => (List.not_mem_nil hmem).elim)
  exact htidy scope hexists

def workerScope : String := "pact.slice/infra.slice/worker.scope"

def workerUp (restart : RestartPolicy) : List ScopeStep :=
  [⟨.StartAll [⟨"worker", restart, 0⟩], none⟩,
    ⟨.Advance 0 (.Spawned (some workerScope)) .WaitError, none⟩,
    ⟨.Advance 0 .Failed .WaitError, none⟩]

def workerCrash : List ScopeStep :=
  [⟨.Exit 0 (some 1), none⟩, ⟨.Tick ["worker"], none⟩, ⟨.Loop .Failed, none⟩, ⟨.Loop .Failed, none⟩]

def workerRespawn (outcome : SpawnOutcome) (made : Option String) : List ScopeStep :=
  [⟨.Loop .Failed, none⟩, ⟨.Loop outcome, made⟩, ⟨.Loop .Failed, none⟩]

def ledgerAfter (labels : List ScopeStep) : Ledger :=
  (exec scopeNext ⟨.new, []⟩ labels).getD ⟨.new, []⟩

theorem scopes_owned_restarted :
    workerScope ∈ (ledgerAfter (workerUp .Always ++ workerCrash ++
      workerRespawn (.Spawned (some workerScope)) none)).scopes ∧
    Owned (ledgerAfter (workerUp .Always ++ workerCrash ++
      workerRespawn (.Spawned (some workerScope)) none)).supervisor workerScope := by
  have hmem : workerScope ∈ (ledgerAfter (workerUp .Always ++ workerCrash ++
      workerRespawn (.Spawned (some workerScope)) none)).scopes := by decide +kernel
  exact ⟨hmem, scopes_owned (workerUp .Always ++ workerCrash ++
    workerRespawn (.Spawned (some workerScope)) none) _
    (run_of_execWhere _ _ _ _ _ (by decide +kernel)) workerScope hmem⟩

def Ledger.Orphaned (l : Ledger) (scope : String) : Prop :=
  scope ∈ l.scopes ∧ ¬Owned l.supervisor scope

instance (l : Ledger) (scope : String) : Decidable (l.Orphaned scope) := by
  unfold Ledger.Orphaned
  infer_instance

-- A respawn by the loop that fails leaves the new scope behind. So does a crash under the policy
-- Never, with the old one; and where making the scope fails on the next start, the record that
-- had it is written over.
theorem scope_orphaned :
    (exec scopeNext ⟨.new, []⟩ (workerUp .Always ++ workerCrash ++
      workerRespawn .Failed (some workerScope))).isSome ∧
    (ledgerAfter (workerUp .Always ++ workerCrash ++
      workerRespawn .Failed (some workerScope))).Orphaned workerScope ∧
    (exec scopeNext ⟨.new, []⟩ (workerUp .Never ++ workerCrash ++
      [⟨.Loop .Failed, none⟩, ⟨.Loop .Failed, none⟩])).isSome ∧
    (ledgerAfter (workerUp .Never ++ workerCrash ++
      [⟨.Loop .Failed, none⟩, ⟨.Loop .Failed, none⟩])).Orphaned workerScope ∧
    (exec scopeNext ⟨.new, []⟩ (workerUp .Never ++ workerCrash ++
      [⟨.Loop .Failed, none⟩, ⟨.Loop .Failed, none⟩,
        ⟨.Start ⟨"worker", .Never, 0⟩ (.Spawned none), none⟩])).isSome ∧
    (ledgerAfter (workerUp .Never ++ workerCrash ++
      [⟨.Loop .Failed, none⟩, ⟨.Loop .Failed, none⟩,
        ⟨.Start ⟨"worker", .Never, 0⟩ (.Spawned none), none⟩])).Orphaned workerScope := by
  refine ⟨?_, ?_, ?_, ?_, ?_, ?_⟩ <;> decide +kernel

end Pact.Agent.Supervisor
