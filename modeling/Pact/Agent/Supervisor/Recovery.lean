import Pact.Agent.Supervisor.Life

namespace Pact.Agent.Supervisor

open Pact.Library

-- A declared service whose last process has exited, and whose policy says so, gets to where the
-- loop spawns a process for it. The exits of its processes are reported in order, none twice, and
-- in the end all of them. Both come about however the ticks and the steps of the loop go on.
structure Recovered (s : PactSupervisor) : Prop where
  restarted : ∀ name decl code, declared s.serviceDecls name = some decl →
    lastCode (trail s.table name) = some code → decl.shouldRestart code = true →
    Inevitable next Watches (Attempting name) s
  once : ∀ name decl, declared s.serviceDecls name = some decl →
    reported s.events name <+: codes (trail s.table name)
  audited : ∀ name decl, declared s.serviceDecls name = some decl →
    Inevitable next Watches (fun last => reported last.events name = codes (trail s.table name)) s

structure Supervised (s : PactSupervisor) : Prop where
  starting : OnlyStarting s
  phase : ∀ name decl, declared s.serviceDecls name = some decl → Phase decl (s.standing name)

theorem supervised_step (s : PactSupervisor) (step : Step) (after : PactSupervisor)
    (h : Supervised s) (hallowed : Undisturbed s step) (hnext : next s step = some after) :
    Supervised after := by
  obtain ⟨hdecls, hstarting, hlife⟩ := next_life s step after h.starting hallowed hnext
  refine ⟨hstarting, fun name decl hdecl => ?_⟩
  rw [hdecls] at hdecl
  exact life_phase decl _ _ (hlife name decl hdecl) (h.phase name decl hdecl)

theorem watches_undisturbed (s : PactSupervisor) (step : Step) (h : Watches s step) :
    Undisturbed s step := by
  cases step with
  | Tick found => trivial
  | Loop outcome =>
    cases outcome with
    | Failed => exact h.elim
    | Spawned cgroupHandle => trivial
  | _ => exact h.elim

theorem watches_decls (s after : PactSupervisor) (step : Step) (hallowed : Watches s step)
    (hnext : next s step = some after) : after.serviceDecls = s.serviceDecls :=
  (watches_table s after [step] (.single hallowed hnext)).1

theorem watches_codes (s after : PactSupervisor) (step : Step) (name : String)
    (hallowed : Watches s step) (hnext : next s step = some after) :
    codes (trail after.table name) = codes (trail s.table name) := by
  obtain ⟨-, spawned, htable⟩ := watches_table s after [step] (.single hallowed hnext)
  rw [htable]
  clear htable
  induction spawned using List.reverseRecOn with
  | nil => simp
  | append_singleton spawned service ih =>
    rw [List.map_append, ← List.append_assoc, List.map_singleton, trail_append, codes_append, ih]
    split <;> simp [codes, ProcessStatus.ended]

-- The exit of the last process is there to be found, at the latest once the loop has stored it.
inductive Unseen (code : ExitCode) : Standing → Prop
  | Held (id : ProcessId) (before : List (ProcessId × ProcessStatus)) (reported : List ExitCode)
      (hsettled : Settled before) :
      Unseen code ⟨true, some id, before ++ [(id, .Exited code)], .Away, [], reported⟩
  | Holding (child : Option ProcessId) (id : ProcessId) (before : List (ProcessId × ProcessStatus))
      (reported : List ExitCode) (hsettled : Settled before) :
      Unseen code ⟨false, child, before ++ [(id, .Exited code)], .Holding id, [], reported⟩

theorem life_unseen (decl : ServiceDecl) (code : ExitCode) (v w : Standing)
    (hlife : Life decl v w) (hunseen : Unseen code v) : Unseen code w ∨ w.queued = [code] := by
  have hother : ∀ id last : ProcessId, last ≠ id →
      changeEntry id .reap (last, .Exited code) = (last, .Exited code) := by
    intro id last hne
    rw [changeEntry, if_neg hne]
  cases hlife with
  | Same => exact .inl hunseen
  | Exit id found =>
    cases hunseen with
    | Held last before reported hsettled =>
      rw [(hsettled.concat last _ code rfl).map_exit]
      exact .inl (.Held last before reported hsettled)
    | Holding child last before reported hsettled =>
      rw [(hsettled.concat last _ code rfl).map_exit]
      exact .inl (.Holding child last before reported hsettled)
  | Collect id hchild hhand =>
    cases hunseen with
    | Held last before reported hsettled =>
      have hne : last ≠ id := fun heq => hchild rfl (congrArg some heq)
      rw [map_changeEntry_concat, hother id last hne]
      exact .inl (.Held last _ reported (hsettled.map_reap id))
    | Holding child last before reported hsettled =>
      have hne : last ≠ id := fun heq => hhand (congrArg Stage.Holding heq)
      rw [map_changeEntry_concat, hother id last hne]
      exact .inl (.Holding child last _ reported (hsettled.map_reap id))
  | Start id hidle haway hqueued =>
    cases hunseen with
    | Held => cases hidle
    | Holding => cases haway
  | Detect id found hrunning hchild hexited =>
    cases hunseen with
    | Held last before reported hsettled =>
      cases hchild
      cases hexited (.Exited code) (by simp)
      exact .inr rfl
    | Holding => cases hrunning
  | Decide found rest hqueued => cases hunseen <;> cases hqueued
  | Decline running hstage hrunning => cases hunseen <;> cases hstage
  | Spawn id hstage => cases hunseen <;> cases hstage
  | Store id hstage =>
    cases hunseen with
    | Held => cases hstage
    | Holding child last before reported hsettled =>
      cases hstage
      exact .inl (.Held id before reported hsettled)

section Supervised

variable (s : PactSupervisor) (name : String) (decl : ServiceDecl) (code : ExitCode)

theorem tick_queues (after : PactSupervisor) (found : List String)
    (hunseen : Unseen code (s.standing name)) (hallowed : Watches s (.Tick found))
    (hnext : next s (.Tick found) = some after) : ¬Unseen code (after.standing name) := by
  obtain ⟨hsleeping, last, crashed, _, hdetection, rfl⟩ := next_tick s found after hnext
  generalize hv : s.standing name = v at hunseen
  cases hunseen with
  | Held id before reported hsettled =>
    have htrail : trail s.table name = before ++ [(id, .Exited code)] := congrArg Standing.trail hv
    have hexit : exitCode s.table id = some code := by
      have hmem : (id, .Exited code) ∈ trail s.table name := by simp [htrail]
      simp [exitCode, (mem_trail_iff s.table name id _).mp hmem]
    have hmem := hallowed name id code (congrArg Standing.running hv) (congrArg Standing.child hv)
      hexit
    have hstopped : last.running name = false :=
      (congrFun hdetection.running name).trans (if_pos hmem)
    intro hagain
    generalize hw : PactSupervisor.standing { last with loop := .Detected crashed } name = w at hagain
    have hrunning : last.running name = w.running := congrArg Standing.running hw
    have hstage : Stage.Away = w.stage := congrArg Standing.stage hw
    cases hagain with
    | Held => rw [hstopped] at hrunning; cases hrunning
    | Holding => cases hstage
  | Holding child id before reported hsettled =>
    have hstage : s.loop.stage name = .Holding id := congrArg Standing.stage hv
    rw [hsleeping] at hstage
    cases hstage

-- It is found, at the latest, by the next tick after the loop is through with what it is at.
theorem unseen_queued (hsupervised : Supervised s)
    (hdecl : declared s.serviceDecls name = some decl) (hunseen : Unseen code (s.standing name)) :
    Inevitable next Watches (fun last => (name, code) ∈ last.loop.queue) s := by
  refine .of_measure (fun state => state.loop.work)
    (fun state => Supervised state ∧ declared state.serviceDecls name = some decl ∧
      Unseen code (state.standing name))
    (fun state _ => watches_enabled state) ?_ ⟨hsupervised, hdecl, hunseen⟩
  rintro state step after ⟨hsupervised, hdecl, hunseen⟩ hallowed hnext
  have hundisturbed := watches_undisturbed state step hallowed
  obtain ⟨hdecls, -, hlife⟩ := next_life state step after hsupervised.starting hundisturbed hnext
  rcases life_unseen decl code _ _ (hlife name decl hdecl) hunseen with hstill | hqueued
  · refine .inr ⟨⟨supervised_step state step after hsupervised hundisturbed hnext, ?_, hstill⟩, ?_⟩
    · rw [hdecls, hdecl]
    · cases step with
      | Tick found => exact absurd hstill (tick_queues state name code after found hunseen hallowed hnext)
      | Loop outcome => exact (loopStep_progress state after outcome hnext).1
      | _ => exact hallowed.elim
  · refine .inl ((mem_queuedFor_iff name after.loop.queue code).mp ?_)
    have hname : queuedFor after.loop.queue name = [code] := hqueued
    rw [hname]
    exact List.mem_singleton_self code

theorem unseen_decided (hsupervised : Supervised s)
    (hdecl : declared s.serviceDecls name = some decl) (hunseen : Unseen code (s.standing name)) :
    Inevitable next Watches (Decided decl code) s := by
  have hqueued := (unseen_queued s name decl code hsupervised hdecl hunseen).beside
    (fun state => declared state.serviceDecls name = some decl)
    (fun state step after h hallowed hnext => by
      rw [watches_decls state after step hallowed hnext, h]) hdecl
  refine hqueued.bind ?_
  rintro state ⟨hmem, hdecl⟩
  exact queue_decided state decl name code hmem hdecl

end Supervised

theorem phase_once (decl : ServiceDecl) (v : Standing) (h : Phase decl v) :
    v.reported <+: codes v.trail := by
  cases h with
  | Held id status before hsettled hkept => exact codes_append before _ ▸ List.prefix_append _ _
  | Queued child id status code before hsettled hended =>
    exact codes_append before _ ▸ List.prefix_append _ _
  | Holding child id status before hsettled hkept =>
    exact codes_append before _ ▸ List.prefix_append _ _
  | _ => exact List.prefix_rfl

theorem phase_decided (decl : ServiceDecl) (v : Standing) (h : Phase decl v)
    (hstage : v.stage = .Restarting ∨ v.stage = .Declining) : v.reported = codes v.trail := by
  cases h with
  | Idle => rfl
  | Declining => rfl
  | Restarting => rfl
  | _ => rcases hstage with hstage | hstage <;> cases hstage

theorem phase_alive (decl : ServiceDecl) (v : Standing) (h : Phase decl v)
    (hlast : lastCode v.trail = none) : v.reported = codes v.trail := by
  have hcodes : ∀ (before : List (ProcessId × ProcessStatus)) (id : ProcessId)
      (status : ProcessStatus), lastCode (before ++ [(id, status)]) = none →
      codes before = codes (before ++ [(id, status)]) := by
    intro before id status hnone
    rw [lastCode_concat] at hnone
    rw [codes_append]
    simp [codes, hnone]
  cases h with
  | Held id status before hsettled hkept => exact hcodes before id status hlast
  | Queued child id status code before hsettled hended => exact hcodes before id status hlast
  | Holding child id status before hsettled hkept => exact hcodes before id status hlast
  | _ => rfl

theorem loop_of_restarting (loop : Loop) (name : String) (h : loop.stage name = .Restarting) :
    ∃ decl crashed, decl.name = name ∧
      (loop = .Delaying decl crashed ∨ loop = .Cleared decl crashed) := by
  unfold Loop.stage at h
  split at h
  case h_2 decl crashed =>
    split at h
    case isTrue hname => exact ⟨decl, crashed, hname, .inl rfl⟩
    case isFalse => cases h
  case h_3 decl crashed =>
    split at h
    case isTrue hname => exact ⟨decl, crashed, hname, .inr rfl⟩
    case isFalse => cases h
  case h_1 => split at h <;> cases h
  case h_4 => split at h <;> cases h
  case h_5 => cases h

theorem exited_of_kept (status : ProcessStatus) (code : ExitCode) (hended : status.ended = some code)
    (hkept : ∀ code, status ≠ .Reaped code) : status = .Exited code := by
  cases status with
  | Alive => cases hended
  | Exited found => cases hended; rfl
  | Reaped found => exact absurd rfl (hkept found)

section Recovered

variable (s : PactSupervisor) (name : String) (decl : ServiceDecl) (code : ExitCode)

-- Wherever the service is in its life, the exit of its last process has been seen to, or the
-- loop comes to it.
theorem exited_cases (hsupervised : Supervised s)
    (hdecl : declared s.serviceDecls name = some decl)
    (hlast : lastCode (trail s.table name) = some code) :
    Inevitable next Watches (Decided decl code) s ∨
      reported s.events name = codes (trail s.table name) ∧
        (decl.shouldRestart code = true → Inevitable next Watches (Attempting name) s) := by
  have hphase := hsupervised.phase name decl hdecl
  have hunseen := unseen_decided s name decl code hsupervised hdecl
  generalize hv : s.standing name = v at hphase hunseen
  have htrail : trail s.table name = v.trail := congrArg Standing.trail hv
  have hstage : s.loop.stage name = v.stage := congrArg Standing.stage hv
  have hqueued : queuedFor s.loop.queue name = v.queued := congrArg Standing.queued hv
  have hreported : reported s.events name = v.reported := congrArg Standing.reported hv
  rw [htrail] at hlast ⊢
  rw [hreported]
  cases hphase with
  | Idle child processes hsettled hdone =>
    exact .inr ⟨rfl, fun hrestart => by simp [hdone code hlast] at hrestart⟩
  | Held id status before hsettled hkept =>
    rw [lastCode_concat] at hlast
    rw [exited_of_kept status code hlast hkept] at hunseen
    exact .inl (hunseen (.Held id before _ hsettled))
  | Queued child id status found before hsettled hended =>
    rw [lastCode_concat, hended, Option.some.injEq] at hlast
    have hmem : (name, code) ∈ s.loop.queue := by
      rw [← mem_queuedFor_iff, hqueued, hlast]
      exact List.mem_singleton.mpr rfl
    exact .inl (queue_decided s decl name code hmem hdecl)
  | Declining child processes hsettled hdone =>
    exact .inr ⟨rfl, fun hrestart => by simp [hdone code hlast] at hrestart⟩
  | Restarting child processes hsettled =>
    refine .inr ⟨rfl, fun _ => ?_⟩
    obtain ⟨found, crashed, rfl, hloop | hloop⟩ := loop_of_restarting s.loop name hstage
    · exact delaying_attempts s found crashed hloop
    · exact .reached ⟨found, crashed, hloop, rfl⟩
  | Holding child id status before hsettled hkept =>
    rw [lastCode_concat] at hlast
    rw [exited_of_kept status code hlast hkept] at hunseen
    exact .inl (hunseen (.Holding child id before _ hsettled))

theorem supervised_audited (hsupervised : Supervised s)
    (hdecl : declared s.serviceDecls name = some decl) :
    Inevitable next Watches
      (fun last => reported last.events name = codes (trail s.table name)) s := by
  cases hlast : lastCode (trail s.table name) with
  | none => exact .reached (phase_alive decl _ (hsupervised.phase name decl hdecl) hlast)
  | some code =>
    rcases exited_cases s name decl code hsupervised hdecl hlast with hdecides | ⟨hreported, _⟩
    · have hkept := hdecides.beside
        (fun state => Supervised state ∧ declared state.serviceDecls name = some decl ∧
          codes (trail state.table name) = codes (trail s.table name))
        (fun state step after h hallowed hnext =>
          ⟨supervised_step state step after h.1 (watches_undisturbed state step hallowed) hnext,
            by rw [watches_decls state after step hallowed hnext, h.2.1],
            (watches_codes state after step name hallowed hnext).trans h.2.2⟩)
        ⟨hsupervised, hdecl, rfl⟩
      refine hkept.bind ?_
      rintro last ⟨⟨rest, hloop⟩, hsupervised, hdecl, hcodes⟩
      have hstage : last.loop.stage name = .Restarting ∨ last.loop.stage name = .Declining := by
        rw [hloop, ← (declared_name _ _ _ hdecl).2]
        split <;> simp [Loop.stage]
      exact .reached
        ((phase_decided decl _ (hsupervised.phase name decl hdecl) hstage).trans hcodes)
    · exact .reached hreported

end Recovered

theorem supervised_recovered (s : PactSupervisor) (hsupervised : Supervised s) : Recovered s where
  restarted name decl code hdecl hlast hrestart := by
    rcases exited_cases s name decl code hsupervised hdecl hlast with hdecides | ⟨_, hattempts⟩
    · rw [← (declared_name _ _ _ hdecl).2]
      exact decided_attempts s decl code hrestart hdecides
    · exact hattempts hrestart
  once name decl hdecl := phase_once decl _ (hsupervised.phase name decl hdecl)
  audited name decl hdecl := supervised_audited s name decl hsupervised hdecl

theorem startAll_supervised (services : List ServiceDecl) (started : PactSupervisor)
    (hstart : next .new (.StartAll services) = some started) : Supervised started := by
  cases hstart
  refine ⟨fun call hcall => ?_, fun name decl _ => ?_⟩
  · exact ⟨_, List.mem_singleton.mp hcall⟩
  · exact .Idle none [] (fun entry h => by cases h) fun code h => by cases h

-- From when start_all is called on, whatever exits whenever, and wherever the loop is.
theorem crashed_services_recovered (services : List ServiceDecl)
    (started last : PactSupervisor) (steps : List Step)
    (hstart : next .new (.StartAll services) = some started)
    (run : Run next Undisturbed started steps last) : Recovered last :=
  supervised_recovered last
    (run.invariant Supervised supervised_step (startAll_supervised services started hstart))

theorem phase_live (decl : ServiceDecl) (v : Standing) (hphase : Phase decl v) (id : ProcessId)
    (hlive : (id, .Alive) ∈ v.trail) :
    (∀ other, (other, .Alive) ∈ v.trail → other = id) ∧
      (v.child = some id ∨ v.stage = .Holding id) := by
  have hlast : ∀ (before : List (ProcessId × ProcessStatus)) (last : ProcessId)
      (status : ProcessStatus), Settled before → ∀ other,
      (other, .Alive) ∈ before ++ [(last, status)] → other = last ∧ status = .Alive := by
    intro before last status hsettled other hmem
    rcases List.mem_append.mp hmem with hold | hnew
    · exact absurd rfl (hsettled _ hold)
    · cases List.mem_singleton.mp hnew
      exact ⟨rfl, rfl⟩
  cases hphase with
  | Idle child processes hsettled => exact absurd rfl (hsettled _ hlive)
  | Held last status before hsettled =>
    obtain ⟨rfl, -⟩ := hlast before last status hsettled id hlive
    exact ⟨fun other hmem => (hlast before id status hsettled other hmem).1, .inl rfl⟩
  | Queued child last status code before hsettled hended =>
    obtain ⟨-, rfl⟩ := hlast before last status hsettled id hlive
    cases hended
  | Declining child processes hsettled => exact absurd rfl (hsettled _ hlive)
  | Restarting child processes hsettled => exact absurd rfl (hsettled _ hlive)
  | Holding child last status before hsettled =>
    obtain ⟨rfl, -⟩ := hlast before last status hsettled id hlive
    exact ⟨fun other hmem => (hlast before id status hsettled other hmem).1, .inr rfl⟩

-- Where no call comes between the loop and a declared service, the service has a single process,
-- and its handle is stored or in the hand of the loop.
theorem undisturbed_single (services : List ServiceDecl) (started last : PactSupervisor)
    (steps : List Step) (hstart : next .new (.StartAll services) = some started)
    (run : Run next Undisturbed started steps last) (name : String) (decl : ServiceDecl)
    (hdecl : declared last.serviceDecls name = some decl) (id : ProcessId)
    (hlive : last.view.Live name id) :
    (∀ other, last.view.Live name other → other = id) ∧
      (last.child name = some id ∨ last.loop.hand = some (name, id)) := by
  have hsupervised := run.invariant Supervised supervised_step
    (startAll_supervised services started hstart)
  obtain ⟨hunique, hheld⟩ := phase_live decl _ (hsupervised.phase name decl hdecl) id
    ((mem_trail_iff last.table name id .Alive).mpr hlive)
  refine ⟨fun other hother => hunique other ((mem_trail_iff _ name other .Alive).mpr hother), ?_⟩
  refine hheld.imp_right fun hstage => ?_
  obtain ⟨found, cgroupHandle, crashed, rfl, hloop⟩ := loop_of_holding last.loop name id hstage
  rw [hloop]
  rfl

def worker : ServiceDecl := ⟨"worker", .Always, 0⟩

def workerStarting : PactSupervisor where
  processes := .empty
  serviceDecls := [worker]
  table := []
  events := []
  loop := .Sleeping
  calls := [.Starting [worker]]

def workerRunning : PactSupervisor := { workerStarting with
  processes := PactSupervisor.new.processes.insert "worker" ⟨.Running, some 0, 0, none, some 0, none⟩
  table := [⟨"worker", .Alive⟩]
  calls := [.Starting []] }

def workerExited : PactSupervisor := { workerRunning with table := [⟨"worker", .Exited (some 1)⟩] }

theorem crashed_services_recovered_worker : Recovered workerExited := by
  have hadvance : Run next Undisturbed workerStarting [.Advance 0 (.Spawned none) .WaitError]
      workerRunning := .single (fun _ _ => ⟨rfl, rfl⟩) (by decide +kernel)
  have hexit : Run next Undisturbed workerRunning [.Exit 0 (some 1)] workerExited :=
    .single trivial (by decide +kernel)
  exact crashed_services_recovered [worker] workerStarting workerExited _ (by decide +kernel)
    (hadvance.append hexit)

-- No child of a running service is there to be found, and the loop has nothing to do.
structure Dormant (s : PactSupervisor) : Prop where
  unseen : ∀ name id, s.running name = true → s.child name = some id → exitCode s.table id = none
  busyWith : s.loop.busyWith = none
  queue : s.loop.queue = []

theorem dormant_step (s : PactSupervisor) (step : Step) (after : PactSupervisor) (h : Dormant s)
    (hallowed : Watches s step) (hnext : next s step = some after) : Dormant after := by
  obtain ⟨hunseen, hbusy, hqueue⟩ := h
  cases step with
  | Tick found =>
    obtain ⟨_, last, crashed, _, hdetection, rfl⟩ := next_tick s found _ hnext
    have hnone : crashed = [] := by
      refine List.eq_nil_iff_forall_not_mem.mpr fun crash hcrash => ?_
      obtain ⟨hrunning, id, hchild, hexit⟩ := hdetection.exited crash hcrash
      rw [hunseen crash.1 id hrunning hchild] at hexit
      cases hexit
    have hfound : found = [] := by rw [← hdetection.names, hnone]; rfl
    refine ⟨fun name id hrunning hchild => ?_, rfl, hnone⟩
    have hruns : last.running name = s.running name :=
      (congrFun hdetection.running name).trans (if_neg (by simp [hfound]))
    have hstored : last.child name = s.child name :=
      (congrFun hdetection.child name).trans (if_neg (by simp [hfound]))
    exact (congrArg (exitCode · id) hdetection.table).trans
      (hunseen name id (hruns.symm.trans hrunning) (hstored.symm.trans hchild))
  | Loop outcome =>
    cases hloop : s.loop with
    | Sleeping =>
      simp only [next, loopStep, hloop] at hnext
      cases hnext
    | Detected crashed =>
      rw [next, loopStep_detected outcome hloop] at hnext
      cases hnext
      rw [hloop] at hqueue
      exact ⟨hunseen, rfl, hqueue⟩
    | Handling crashed =>
      rw [hloop] at hqueue
      obtain rfl : crashed = [] := hqueue
      rw [next, loopStep_finished outcome hloop] at hnext
      cases hnext
      exact ⟨hunseen, rfl, rfl⟩
    | _ =>
      rw [hloop] at hbusy
      cases hbusy
  | _ => exact hallowed.elim

theorem dormant_not_recovered (s : PactSupervisor) (name : String) (decl : ServiceDecl)
    (code : ExitCode) (hdormant : Dormant s) (hdecl : declared s.serviceDecls name = some decl)
    (hlast : lastCode (trail s.table name) = some code)
    (hrestart : decl.shouldRestart code = true) : ¬ Recovered s := by
  intro hrecovered
  obtain ⟨steps, last, hrun, found, crashed, hloop, _⟩ :=
    (hrecovered.restarted name decl code hdecl hlast hrestart).exists_run
  have hbusy := (hrun.invariant Dormant dormant_step hdormant).busyWith
  rw [hloop] at hbusy
  cases hbusy

-- A status call has seen the exit before the loop did.
def workerReaped : PactSupervisor := { workerExited with
  processes := PactSupervisor.new.processes.insert "worker" ⟨.Failed, none, 0, some 1, none, none⟩ }

-- The reaper of process 1 has taken the exit status before the loop could.
def workerCollected : PactSupervisor := { workerRunning with
  table := [⟨"worker", .Reaped (some 1)⟩] }

-- The loop has seen it, and then could not spawn a process.
def workerFailed : PactSupervisor := { workerExited with
  processes := PactSupervisor.new.processes.insert "worker" ⟨.Failed, none, 1, some 1, none, none⟩
  events := [⟨"worker", some 1, true⟩]
  loop := .Handling [] }

theorem worker_unseen (record : ProcessState) (s : PactSupervisor)
    (h : s.processes = PactSupervisor.new.processes.insert "worker" record)
    (hrecord : record.state = .Failed ∨ ∀ id, record.child = some id → exitCode s.table id = none)
    (name : String) (id : ProcessId) (hrunning : s.running name = true)
    (hchild : s.child name = some id) : exitCode s.table id = none := by
  rw [PactSupervisor.running, h, Map.get_insert] at hrunning
  rw [PactSupervisor.child, h, Map.get_insert] at hchild
  split at hrunning
  case isTrue hname =>
    rw [if_pos hname] at hchild
    rcases hrecord with hfailed | hgone
    · simp [hfailed] at hrunning
    · exact hgone id hchild
  case isFalse => cases hrunning

-- In none of the three is the service ever restarted. In the first two, its exit is not reported
-- either, and in the second the service counts as running.
theorem exit_seen_by_status_lost :
    exec next .new [.StartAll [worker], .Advance 0 (.Spawned none) .WaitError, .Exit 0 (some 1),
        .Status worker true] = some workerReaped ∧
      ¬ Recovered workerReaped ∧
      exec next .new [.StartAll [worker], .Advance 0 (.Spawned none) .WaitError, .Exit 0 (some 1),
        .Reap 0] = some workerCollected ∧
      workerCollected.running "worker" = true ∧ ¬ Recovered workerCollected ∧
      exec next .new [.StartAll [worker], .Advance 0 (.Spawned none) .WaitError, .Exit 0 (some 1),
        .Tick ["worker"], .Loop .Failed, .Loop .Failed, .Loop .Failed, .Loop .Failed] =
          some workerFailed ∧
      ¬ Recovered workerFailed := by
  refine ⟨by decide +kernel, ?_, by decide +kernel, by decide +kernel, ?_, by decide +kernel, ?_⟩
  · exact dormant_not_recovered workerReaped "worker" worker (some 1)
      ⟨worker_unseen _ _ rfl (.inl rfl), rfl, rfl⟩ (by decide +kernel) (by decide +kernel) rfl
  · refine dormant_not_recovered workerCollected "worker" worker (some 1)
      ⟨worker_unseen _ _ rfl (.inr ?_), rfl, rfl⟩ (by decide +kernel) (by decide +kernel) rfl
    rintro id hid
    cases hid
    rfl
  · exact dormant_not_recovered workerFailed "worker" worker (some 1)
      ⟨worker_unseen _ _ rfl (.inl rfl), rfl, rfl⟩ (by decide +kernel) (by decide +kernel) rfl

end Pact.Agent.Supervisor
