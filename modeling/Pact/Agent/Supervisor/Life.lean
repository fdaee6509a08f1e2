import Pact.Agent.Supervisor.Progress

namespace Pact.Agent.Supervisor

open Pact.Library

def trail (table : List Process) (name : String) : List (ProcessId × ProcessStatus) :=
  table.zipIdx.filterMap fun (process, id) =>
    if process.service = name then some (id, process.status) else none

def codes (processes : List (ProcessId × ProcessStatus)) : List ExitCode :=
  processes.filterMap fun (_, status) => status.ended

def lastCode (processes : List (ProcessId × ProcessStatus)) : Option ExitCode :=
  processes.getLast?.bind fun (_, status) => status.ended

def reported (events : List CrashEvent) (name : String) : List ExitCode :=
  events.filterMap fun event => if event.service = name then some event.exitCode else none

def queuedFor (crashed : List (String × ExitCode)) (name : String) : List ExitCode :=
  crashed.filterMap fun (service, code) => if service = name then some code else none

inductive Stage
  | Away
  | Declining
  | Restarting
  | Holding (id : ProcessId)
  deriving DecidableEq

def Loop.stage (loop : Loop) (name : String) : Stage :=
  match loop with
  | .Declining decl _ => if decl.name = name then .Declining else .Away
  | .Delaying decl _ => if decl.name = name then .Restarting else .Away
  | .Cleared decl _ => if decl.name = name then .Restarting else .Away
  | .Spawned decl child _ _ => if decl.name = name then .Holding child else .Away
  | _ => .Away

-- What a supervisor amounts to for one service.
@[ext] structure Standing where
  running : Bool
  child : Option ProcessId
  trail : List (ProcessId × ProcessStatus)
  stage : Stage
  queued : List ExitCode
  reported : List ExitCode

def PactSupervisor.standing (s : PactSupervisor) (name : String) : Standing where
  running := s.running name
  child := s.child name
  trail := trail s.table name
  stage := s.loop.stage name
  queued := queuedFor s.loop.queue name
  reported := reported s.events name

def changeEntry (id : ProcessId) (change : ProcessStatus → ProcessStatus)
    (entry : ProcessId × ProcessStatus) : ProcessId × ProcessStatus :=
  (entry.1, if entry.1 = id then change entry.2 else entry.2)

-- The life of one declared service while nobody interferes with its supervision.
inductive Life (decl : ServiceDecl) (v : Standing) : Standing → Prop
  | Same : Life decl v v
  | Exit (id : ProcessId) (code : ExitCode) :
      Life decl v { v with trail := v.trail.map (changeEntry id (.exit code)) }
  | Collect (id : ProcessId) (hchild : v.running = true → v.child ≠ some id)
      (hhand : v.stage ≠ .Holding id) :
      Life decl v { v with trail := v.trail.map (changeEntry id .reap) }
  | Start (id : ProcessId) (hidle : v.running = false) (haway : v.stage = .Away)
      (hqueued : v.queued = []) :
      Life decl v { v with
        running := true, child := some id, trail := v.trail ++ [(id, .Alive)] }
  | Detect (id : ProcessId) (code : ExitCode) (hrunning : v.running = true)
      (hchild : v.child = some id)
      (hexited : ∀ status, (id, status) ∈ v.trail → status = .Exited code) :
      Life decl v { v with running := false, child := none, queued := [code] }
  | Decide (code : ExitCode) (rest : List ExitCode) (hqueued : v.queued = code :: rest) :
      Life decl v { v with
        stage := if decl.shouldRestart code then .Restarting else .Declining
        queued := rest
        reported := v.reported ++ [code] }
  | Decline (running : Bool) (hstage : v.stage = .Declining)
      (hrunning : running = true → v.running = true) :
      Life decl v { v with running := running, stage := .Away }
  | Spawn (id : ProcessId) (hstage : v.stage = .Restarting) :
      Life decl v { v with trail := v.trail ++ [(id, .Alive)], stage := .Holding id }
  | Store (id : ProcessId) (hstage : v.stage = .Holding id) :
      Life decl v { v with running := true, child := some id, stage := .Away }

def Settled (processes : List (ProcessId × ProcessStatus)) : Prop :=
  ∀ entry ∈ processes, entry.2 ≠ .Alive

-- The policy does not ask for a restart after the last exit.
def ServiceDecl.Done (decl : ServiceDecl) (processes : List (ProcessId × ProcessStatus)) : Prop :=
  ∀ code, lastCode processes = some code → decl.shouldRestart code = false

-- Where a service can be in its life. Only its last process may be alive, and only the exit of
-- that one may be without an event.
inductive Phase (decl : ServiceDecl) : Standing → Prop
  | Idle (child : Option ProcessId) (processes : List (ProcessId × ProcessStatus))
      (hsettled : Settled processes) (hdone : decl.Done processes) :
      Phase decl ⟨false, child, processes, .Away, [], codes processes⟩
  | Held (id : ProcessId) (status : ProcessStatus) (before : List (ProcessId × ProcessStatus))
      (hsettled : Settled before) (hkept : ∀ code, status ≠ .Reaped code) :
      Phase decl ⟨true, some id, before ++ [(id, status)], .Away, [], codes before⟩
  | Queued (child : Option ProcessId) (id : ProcessId) (status : ProcessStatus) (code : ExitCode)
      (before : List (ProcessId × ProcessStatus)) (hsettled : Settled before)
      (hended : status.ended = some code) :
      Phase decl ⟨false, child, before ++ [(id, status)], .Away, [code], codes before⟩
  | Declining (child : Option ProcessId) (processes : List (ProcessId × ProcessStatus))
      (hsettled : Settled processes) (hdone : decl.Done processes) :
      Phase decl ⟨false, child, processes, .Declining, [], codes processes⟩
  | Restarting (child : Option ProcessId) (processes : List (ProcessId × ProcessStatus))
      (hsettled : Settled processes) :
      Phase decl ⟨false, child, processes, .Restarting, [], codes processes⟩
  | Holding (child : Option ProcessId) (id : ProcessId) (status : ProcessStatus)
      (before : List (ProcessId × ProcessStatus)) (hsettled : Settled before)
      (hkept : ∀ code, status ≠ .Reaped code) :
      Phase decl ⟨false, child, before ++ [(id, status)], .Holding id, [], codes before⟩

theorem codes_append (first second : List (ProcessId × ProcessStatus)) :
    codes (first ++ second) = codes first ++ codes second :=
  List.filterMap_append

theorem lastCode_concat (processes : List (ProcessId × ProcessStatus)) (id : ProcessId)
    (status : ProcessStatus) : lastCode (processes ++ [(id, status)]) = status.ended := by
  rw [lastCode, List.getLast?_concat]
  rfl

theorem Settled.concat {processes : List (ProcessId × ProcessStatus)} (h : Settled processes)
    (id : ProcessId) (status : ProcessStatus) (code : ExitCode) (hended : status.ended = some code) :
    Settled (processes ++ [(id, status)]) := by
  intro entry hentry
  rcases List.mem_append.mp hentry with hmem | hmem
  · exact h entry hmem
  · rw [List.mem_singleton.mp hmem]
    rintro rfl
    cases hended

theorem map_changeEntry_concat (before : List (ProcessId × ProcessStatus)) (last id : ProcessId)
    (status : ProcessStatus) (change : ProcessStatus → ProcessStatus) :
    (before ++ [(last, status)]).map (changeEntry id change) =
      before.map (changeEntry id change) ++ [(last, (changeEntry id change (last, status)).2)] := by
  rw [List.map_append]
  rfl

theorem Settled.map_exit {processes : List (ProcessId × ProcessStatus)} (h : Settled processes)
    (id : ProcessId) (code : ExitCode) : processes.map (changeEntry id (.exit code)) = processes := by
  refine (List.map_congr_left fun entry hentry => ?_).trans (List.map_id processes)
  obtain ⟨found, status⟩ := entry
  have hdead := h _ hentry
  cases status with
  | Alive => exact absurd rfl hdead
  | Exited _ => simp [changeEntry, ProcessStatus.exit]
  | Reaped _ => simp [changeEntry, ProcessStatus.exit]

theorem reap_ended (status : ProcessStatus) : status.reap.ended = status.ended := by
  cases status <;> rfl

section Reap

variable (id : ProcessId) (processes : List (ProcessId × ProcessStatus))

theorem changeEntry_reap_ended (entry : ProcessId × ProcessStatus) :
    (changeEntry id .reap entry).2.ended = entry.2.ended := by
  rw [changeEntry]
  dsimp only
  split
  · exact reap_ended entry.2
  · rfl

theorem codes_map_reap : codes (processes.map (changeEntry id .reap)) = codes processes := by
  rw [codes, List.filterMap_map]
  exact List.filterMap_congr fun entry _ => changeEntry_reap_ended id entry

theorem lastCode_map_reap :
    lastCode (processes.map (changeEntry id .reap)) = lastCode processes := by
  rw [lastCode, lastCode, List.getLast?_map, Option.bind_map]
  exact congrArg _ (funext fun entry => changeEntry_reap_ended id entry)

theorem Settled.map_reap {processes : List (ProcessId × ProcessStatus)} (h : Settled processes) :
    Settled (processes.map (changeEntry id .reap)) := by
  intro entry hentry
  obtain ⟨before, hbefore, rfl⟩ := List.mem_map.mp hentry
  intro halive
  have hended := changeEntry_reap_ended id before
  rw [halive] at hended
  refine h before hbefore ?_
  cases hstatus : before.2 with
  | Alive => rfl
  | Exited code => rw [hstatus] at hended; cases hended
  | Reaped code => rw [hstatus] at hended; cases hended

end Reap

theorem exit_phase (decl : ServiceDecl) (v : Standing) (id : ProcessId) (code : ExitCode)
    (hphase : Phase decl v) :
    Phase decl { v with trail := v.trail.map (changeEntry id (.exit code)) } := by
  have hkept : ∀ (last : ProcessId) (status : ProcessStatus), (∀ code, status ≠ .Reaped code) →
      ∀ found, (changeEntry id (.exit code) (last, status)).2 ≠ .Reaped found := by
    intro last status hstatus found
    rw [changeEntry]
    dsimp only
    split
    · cases status with
      | Alive => exact ProcessStatus.noConfusion
      | Exited _ => exact ProcessStatus.noConfusion
      | Reaped other => exact absurd rfl (hstatus other)
    · exact hstatus found
  cases hphase with
  | Idle child processes hsettled hdone =>
    simpa only [hsettled.map_exit] using Phase.Idle child processes hsettled hdone
  | Held last status before hsettled hstatus =>
    simpa only [map_changeEntry_concat, hsettled.map_exit] using
      Phase.Held last _ before hsettled (hkept last status hstatus)
  | Queued child last status found before hsettled hended =>
    simpa only [(hsettled.concat last status found hended).map_exit] using
      Phase.Queued child last status found before hsettled hended
  | Declining child processes hsettled hdone =>
    simpa only [hsettled.map_exit] using Phase.Declining child processes hsettled hdone
  | Restarting child processes hsettled =>
    simpa only [hsettled.map_exit] using Phase.Restarting child processes hsettled
  | Holding child last status before hsettled hstatus =>
    simpa only [map_changeEntry_concat, hsettled.map_exit] using
      Phase.Holding child last _ before hsettled (hkept last status hstatus)

-- The reaper changes nothing of a process but who has its exit status.
theorem collect_phase (decl : ServiceDecl) (v : Standing) (id : ProcessId)
    (hchild : v.running = true → v.child ≠ some id) (hhand : v.stage ≠ .Holding id)
    (hphase : Phase decl v) :
    Phase decl { v with trail := v.trail.map (changeEntry id .reap) } := by
  have hother : ∀ last : ProcessId, last ≠ id → ∀ status : ProcessStatus,
      changeEntry id .reap (last, status) = (last, status) := by
    intro last hne status
    rw [changeEntry, if_neg hne]
  cases hphase with
  | Idle child processes hsettled hdone =>
    simpa only [codes_map_reap] using Phase.Idle child _ (hsettled.map_reap id)
      (fun code h => hdone code ((lastCode_map_reap id processes).symm.trans h))
  | Held last status before hsettled hstatus =>
    have hne : last ≠ id := fun heq => hchild rfl (congrArg some heq)
    simpa only [map_changeEntry_concat, codes_map_reap, hother last hne] using
      @Phase.Held decl last status _ (hsettled.map_reap id) hstatus
  | Queued child last status found before hsettled hended =>
    simpa only [map_changeEntry_concat, codes_map_reap] using
      @Phase.Queued decl child last _ found _ (hsettled.map_reap id)
        ((changeEntry_reap_ended id (last, status)).trans hended)
  | Declining child processes hsettled hdone =>
    simpa only [codes_map_reap] using Phase.Declining child _ (hsettled.map_reap id)
      (fun code h => hdone code ((lastCode_map_reap id processes).symm.trans h))
  | Restarting child processes hsettled =>
    simpa only [codes_map_reap] using
      @Phase.Restarting decl child _ (hsettled.map_reap id)
  | Holding child last status before hsettled hstatus =>
    have hne : last ≠ id := fun heq => hhand (congrArg Stage.Holding heq)
    simpa only [map_changeEntry_concat, codes_map_reap, hother last hne] using
      @Phase.Holding decl child last status _ (hsettled.map_reap id) hstatus

-- The exit that was queued is the last one, and gets its event now.
theorem decided_phase (decl : ServiceDecl) (child : Option ProcessId) (id : ProcessId)
    (status : ProcessStatus) (code : ExitCode) (before : List (ProcessId × ProcessStatus))
    (hsettled : Settled before) (hended : status.ended = some code) :
    Phase decl ⟨false, child, before ++ [(id, status)],
      if decl.shouldRestart code then .Restarting else .Declining, [], codes before ++ [code]⟩ := by
  have hcodes : codes before ++ [code] = codes (before ++ [(id, status)]) := by
    rw [codes_append]
    simp [codes, hended]
  have hall := hsettled.concat id status code hended
  rw [hcodes]
  by_cases hrestart : decl.shouldRestart code = true
  · rw [if_pos hrestart]
    exact .Restarting child _ hall
  · rw [if_neg hrestart]
    refine .Declining child _ hall fun found hlast => ?_
    rw [lastCode_concat, hended, Option.some.injEq] at hlast
    simpa [← hlast] using hrestart

theorem life_phase (decl : ServiceDecl) (v w : Standing) (hlife : Life decl v w)
    (hphase : Phase decl v) : Phase decl w := by
  cases hlife with
  | Same => exact hphase
  | Exit id code => exact exit_phase decl v id code hphase
  | Collect id hchild hhand => exact collect_phase decl v id hchild hhand hphase
  | Start id hidle haway hqueued =>
    cases hphase with
    | Idle child processes hsettled hdone =>
      exact .Held id .Alive processes hsettled fun _ => ProcessStatus.noConfusion
    | Held => cases hidle
    | Queued => cases hqueued
    | Declining => cases haway
    | Restarting => cases haway
    | Holding => cases haway
  | Detect id code hrunning hchild hexited =>
    cases hphase with
    | Held last status before hsettled hstatus =>
      cases hchild
      rw [hexited status (by simp)]
      exact .Queued none id _ code before hsettled rfl
    | _ => cases hrunning
  | Decide code rest hqueued =>
    cases hphase with
    | Queued child id status found before hsettled hended =>
      cases hqueued
      exact decided_phase decl child id status code before hsettled hended
    | _ => cases hqueued
  | Decline running hstage hrunning =>
    cases hphase with
    | Declining child processes hsettled hdone =>
      cases running with
      | false => exact .Idle child processes hsettled hdone
      | true => cases hrunning rfl
    | _ => cases hstage
  | Spawn id hstage =>
    cases hphase with
    | Restarting child processes hsettled =>
      exact .Holding child id .Alive processes hsettled fun _ => ProcessStatus.noConfusion
    | _ => cases hstage
  | Store id hstage =>
    cases hphase with
    | Holding child last status before hsettled hstatus =>
      cases hstage
      exact .Held id status before hsettled hstatus
    | _ => cases hstage

section Projections

variable (table : List Process) (name : String)

theorem mem_trail_iff (id : ProcessId) (status : ProcessStatus) :
    (id, status) ∈ trail table name ↔ table[id]? = some ⟨name, status⟩ := by
  simp only [trail, List.mem_filterMap, Prod.exists, List.mem_zipIdx_iff_getElem?]
  constructor
  · rintro ⟨⟨service, found⟩, index, hget, heq⟩
    split at heq
    case isTrue hname =>
      cases heq
      rw [hget, ← hname]
    case isFalse => cases heq
  · intro hget
    exact ⟨⟨name, status⟩, id, hget, if_pos rfl⟩

theorem trail_append (process : Process) :
    trail (table ++ [process]) name = trail table name ++
      if process.service = name then [(table.length, process.status)] else [] := by
  rw [trail, List.zipIdx_append, List.filterMap_append, trail]
  split <;> simp_all

theorem trail_changeProcess (id : ProcessId) (change : ProcessStatus → ProcessStatus) :
    trail (changeProcess table id change) name = (trail table name).map (changeEntry id change) := by
  have hzip : (changeProcess table id change).zipIdx = table.zipIdx.map fun (process, index) =>
      (if id = index then { process with status := change process.status } else process, index) := by
    refine List.ext_getElem? fun index => ?_
    rw [List.getElem?_map, List.getElem?_zipIdx, List.getElem?_zipIdx, getElem?_changeProcess]
    simp [Option.map_map, Function.comp_def]
  rw [trail, hzip, List.filterMap_map, trail, List.map_filterMap]
  refine List.filterMap_congr fun entry _ => ?_
  obtain ⟨⟨service, status⟩, index⟩ := entry
  by_cases hid : id = index
  · by_cases hname : service = name <;> simp [hid, hname, changeEntry]
  · by_cases hname : service = name <;> simp [hid, Ne.symm hid, hname, changeEntry]

theorem reported_append (events : List CrashEvent) (event : CrashEvent) :
    reported (events ++ [event]) name = reported events name ++
      if event.service = name then [event.exitCode] else [] := by
  rw [reported, List.filterMap_append, reported]
  split <;> simp_all

theorem queuedFor_cons (service : String) (code : ExitCode) (crashed : List (String × ExitCode)) :
    queuedFor ((service, code) :: crashed) name =
      (if service = name then [code] else []) ++ queuedFor crashed name := by
  rw [queuedFor, List.filterMap_cons]
  split <;> simp_all [queuedFor]

theorem queuedFor_eq_nil_iff (crashed : List (String × ExitCode)) :
    queuedFor crashed name = [] ↔ name ∉ crashed.map Prod.fst := by
  induction crashed with
  | nil => simp [queuedFor]
  | cons crash crashed ih =>
    obtain ⟨service, code⟩ := crash
    rw [queuedFor_cons, List.append_eq_nil_iff, ih]
    by_cases hname : service = name
    · simp [hname]
    · simp [hname, Ne.symm hname]

theorem mem_queuedFor_iff (crashed : List (String × ExitCode)) (code : ExitCode) :
    code ∈ queuedFor crashed name ↔ (name, code) ∈ crashed := by
  simp [queuedFor]

theorem queuedFor_of_nodup (crashed : List (String × ExitCode)) (code : ExitCode)
    (hnodup : (crashed.map Prod.fst).Nodup) (hmem : (name, code) ∈ crashed) :
    queuedFor crashed name = [code] := by
  induction crashed with
  | nil => cases hmem
  | cons crash crashed ih =>
    obtain ⟨service, found⟩ := crash
    obtain ⟨hnew, hnodup⟩ := List.nodup_cons.mp hnodup
    rw [queuedFor_cons]
    rcases List.mem_cons.mp hmem with heq | hmem
    · cases heq
      rw [if_pos rfl, (queuedFor_eq_nil_iff name crashed).mpr hnew]
      rfl
    · have hne : service ≠ name := by
        rintro rfl
        exact hnew (List.mem_map.mpr ⟨_, hmem, rfl⟩)
      rw [if_neg hne, ih hnodup hmem]
      rfl

end Projections

-- Status calls find no child exited that the loop has not seen, and the reaper takes the exit of no
-- child that a running service has or the loop is about to store. The loop's attempts to spawn a
-- process succeed, and nothing is started that the loop is at work on.
def Undisturbed (s : PactSupervisor) : Step → Prop
  | .Exit _ _ => True
  | .Reap id => ∀ name, (s.running name = true → s.child name ≠ some id) ∧
      s.loop.hand ≠ some (name, id)
  | .Tick _ => True
  | .Status decl observed => ¬ statusReaps s decl observed
  | .Loop .Failed => ∀ decl crashed, s.loop ≠ .Cleared decl crashed
  | .Loop (.Spawned _) => True
  | .Advance index spawn wait => ∀ name, spawns s (.Advance index spawn wait) = some name →
      s.loop.stage name = .Away ∧ queuedFor s.loop.queue name = []
  | _ => False

section Steps

variable (s : PactSupervisor) (name : String) (decl : ServiceDecl)

theorem Life.of_eq {decl : ServiceDecl} {v w after : Standing} (h : Life decl v w)
    (heq : after = w) : Life decl v after := by
  rw [heq]
  exact h

theorem start_life (started : ServiceDecl) (outcome : SpawnOutcome)
    (hfree : ∀ name, startSpawns s started outcome = some name →
      s.loop.stage name = .Away ∧ queuedFor s.loop.queue name = []) :
    Life decl (s.standing name) ((start started outcome s).1.standing name) := by
  rcases start_cases s started outcome with
    ⟨_, heq⟩ | ⟨hspawns, hidle, hframed, htable, hrunning, hchild⟩
  · rw [heq]
    exact .Same
  · obtain ⟨hloop, _, _, hevents⟩ := hframed
    obtain ⟨haway, hqueued⟩ := hfree _ hspawns
    by_cases hname : started.name = name
    · subst hname
      refine (Life.Start s.table.length hidle haway hqueued).of_eq ?_
      simp [PactSupervisor.standing, hloop, hevents, htable, hrunning, hchild, trail_append]
    · refine Life.Same.of_eq ?_
      simp [PactSupervisor.standing, hloop, hevents, htable, hrunning, hchild, trail_append, hname,
        Ne.symm hname]

theorem tick_life (found : List String) (crashed : List (String × ExitCode))
    (last : PactSupervisor) (hsleeping : s.loop = .Sleeping)
    (hdetection : Detection s found crashed last) :
    Life decl (s.standing name)
      (PactSupervisor.standing { last with loop := .Detected crashed } name) := by
  obtain ⟨hframed, htable, hrunning, hchild, hnames, hnodup, hexited⟩ := hdetection
  by_cases hmem : name ∈ found
  · obtain ⟨⟨service, code⟩, hcrash, rfl⟩ := List.mem_map.mp (hnames ▸ hmem)
    obtain ⟨hrun, id, hid, hexit⟩ := hexited _ hcrash
    have hstatus : ∀ status, (id, status) ∈ trail s.table service → status = .Exited code := by
      intro status hstatus
      rw [mem_trail_iff] at hstatus
      cases status <;> simp_all [exitCode]
    refine (Life.Detect id code hrun hid hstatus).of_eq (Standing.ext ?_ ?_ ?_ ?_ ?_ ?_)
    · exact (congrFun hrunning service).trans (if_pos hmem)
    · exact (congrFun hchild service).trans (if_pos hmem)
    · exact congrArg (trail · service) htable
    · simp [PactSupervisor.standing, Loop.stage, hsleeping]
    · exact queuedFor_of_nodup service crashed code (hnames ▸ hnodup) hcrash
    · exact congrArg (reported · service) hframed.events
  · refine Life.Same.of_eq (Standing.ext ?_ ?_ ?_ ?_ ?_ ?_)
    · exact (congrFun hrunning name).trans (if_neg hmem)
    · exact (congrFun hchild name).trans (if_neg hmem)
    · exact congrArg (trail · name) htable
    · simp [PactSupervisor.standing, Loop.stage, hsleeping]
    · have hnone := (queuedFor_eq_nil_iff name crashed).mpr (hnames ▸ hmem)
      simpa [PactSupervisor.standing, Loop.queue, hsleeping, queuedFor] using hnone
    · exact congrArg (reported · name) hframed.events

theorem decline_life (declined : ServiceDecl) (crashed : List (String × ExitCode))
    (hloop : s.loop = .Declining declined crashed) :
    Life decl (s.standing name)
      (PactSupervisor.standing { declineRestart declined s with loop := .Handling crashed } name) := by
  have hframed := (declineRestart_change s declined).1
  have htable := declineRestart_table s declined
  by_cases hname : declined.name = name
  · subst hname
    have hchild : (declineRestart declined s).child declined.name = s.child declined.name := by
      unfold declineRestart
      cases hget : s.processes.get declined.name with
      | none => rfl
      | some record =>
        dsimp only
        split
        · rw [child_setRecord, Function.update_self, child_eq s _ record hget]
        · rfl
    have hrunning : (declineRestart declined s).running declined.name = true →
        s.running declined.name = true := by
      unfold declineRestart
      cases hget : s.processes.get declined.name with
      | none => exact id
      | some record =>
        dsimp only
        split
        · rw [running_setRecord, Function.update_self]
          simp
        · exact id
    refine (Life.Decline _ (by simp [PactSupervisor.standing, hloop, Loop.stage]) hrunning).of_eq
      (Standing.ext rfl hchild (congrArg (trail · declined.name) htable) rfl ?_
        (congrArg (reported · declined.name) hframed.events))
    simp [PactSupervisor.standing, hloop, Loop.queue]
  · have hget := get_declineRestart_of_ne s declined name (Ne.symm hname)
    refine Life.Same.of_eq (Standing.ext ?_ ?_ (congrArg (trail · name) htable) ?_ ?_
      (congrArg (reported · name) hframed.events))
    · exact congrArg (fun record : Option ProcessState => record.any (·.state = .Running)) hget
    · exact congrArg (fun record : Option ProcessState => record.bind ProcessState.child) hget
    · simp [PactSupervisor.standing, hloop, Loop.stage, hname]
    · simp [PactSupervisor.standing, hloop, Loop.queue]

theorem decide_life (service : String) (code : ExitCode) (crashed : List (String × ExitCode))
    (found : ServiceDecl) (hloop : s.loop = .Handling ((service, code) :: crashed))
    (hfound : declared s.serviceDecls service = some found)
    (hdecl : declared s.serviceDecls name = some decl) :
    Life decl (s.standing name) (PactSupervisor.standing { s with
      events := s.events ++ [⟨service, code, found.shouldRestart code⟩]
      loop := if found.shouldRestart code then .Delaying found crashed
        else .Declining found crashed } name) := by
  have hqueue : ∀ p : Prop, [Decidable p] →
      (if p then Loop.Delaying found crashed else .Declining found crashed).queue = crashed :=
    fun p _ => by split <;> rfl
  have hservice := (declared_name _ _ _ hfound).2
  by_cases hname : service = name
  · subst hname
    obtain rfl : found = decl := by
      rw [hfound, Option.some.injEq] at hdecl
      exact hdecl
    have hqueued : (s.standing service).queued = code :: queuedFor crashed service := by
      simp [PactSupervisor.standing, hloop, Loop.queue, queuedFor_cons]
    refine (Life.Decide code (queuedFor crashed service) hqueued).of_eq
      (Standing.ext rfl rfl rfl ?_ ?_ ?_)
    · simp only [PactSupervisor.standing]
      split <;> simp [Loop.stage, hservice]
    · simp only [PactSupervisor.standing, hqueue]
    · simp [PactSupervisor.standing, reported_append]
  · refine Life.Same.of_eq (Standing.ext rfl rfl rfl ?_ ?_ ?_)
    · simp only [PactSupervisor.standing, hloop]
      split <;> simp [Loop.stage, hservice, hname]
    · simp only [PactSupervisor.standing, hqueue, hloop]
      simp [Loop.queue, queuedFor_cons, hname]
    · simp [PactSupervisor.standing, reported_append, hname]

theorem store_life (restarted : ServiceDecl) (child : ProcessId) (cgroupHandle : Option String)
    (crashed : List (String × ExitCode))
    (hloop : s.loop = .Spawned restarted child cgroupHandle crashed) :
    Life decl (s.standing name) (PactSupervisor.standing
      { storeChild restarted child cgroupHandle s with loop := .Handling crashed } name) := by
  obtain ⟨hframed, htable, hrunning, hchild⟩ := storeChild_view s restarted child cgroupHandle
  have hrun := congrFun hrunning name
  have hstored := congrFun hchild name
  have hqueued : (s.standing name).queued = queuedFor crashed name := by
    simp [PactSupervisor.standing, hloop, Loop.queue]
  by_cases hname : restarted.name = name
  · subst hname
    rw [Function.update_self] at hrun hstored
    have hstage : (s.standing restarted.name).stage = .Holding child := by
      simp [PactSupervisor.standing, hloop, Loop.stage]
    exact (Life.Store child hstage).of_eq (Standing.ext hrun hstored
      (congrArg (trail · restarted.name) htable) rfl hqueued.symm
      (congrArg (reported · restarted.name) hframed.events))
  · rw [Function.update_of_ne (Ne.symm hname)] at hrun hstored
    refine Life.Same.of_eq (Standing.ext hrun hstored (congrArg (trail · name) htable) ?_
      hqueued.symm (congrArg (reported · name) hframed.events))
    simp [PactSupervisor.standing, hloop, Loop.stage, hname]

theorem spawn_life (restarted : ServiceDecl) (cgroupHandle : Option String)
    (crashed : List (String × ExitCode)) (hloop : s.loop = .Cleared restarted crashed) :
    Life decl (s.standing name) (PactSupervisor.standing { s with
      table := s.table ++ [⟨restarted.name, .Alive⟩]
      loop := .Spawned restarted s.table.length cgroupHandle crashed } name) := by
  have hqueued : (s.standing name).queued = queuedFor crashed name := by
    simp [PactSupervisor.standing, hloop, Loop.queue]
  by_cases hname : restarted.name = name
  · have hstage : (s.standing name).stage = .Restarting := by
      simp [PactSupervisor.standing, hloop, Loop.stage, hname]
    refine (Life.Spawn s.table.length hstage).of_eq
      (Standing.ext rfl rfl ?_ ?_ hqueued.symm rfl)
    · simp [PactSupervisor.standing, trail_append, hname]
    · simp [PactSupervisor.standing, Loop.stage, hname]
  · refine Life.Same.of_eq (Standing.ext rfl rfl ?_ ?_ hqueued.symm rfl)
    · simp [PactSupervisor.standing, trail_append, hname]
    · simp [PactSupervisor.standing, Loop.stage, hname, hloop]

theorem loop_life (outcome : SpawnOutcome) (after : PactSupervisor)
    (hdecl : declared s.serviceDecls name = some decl)
    (hallowed : Undisturbed s (.Loop outcome)) (hnext : loopStep outcome s = some after) :
    Life decl (s.standing name) (after.standing name) := by
  cases hloop : s.loop with
  | Sleeping =>
    rw [loopStep, hloop] at hnext
    cases hnext
  | Detected crashed =>
    rw [loopStep_detected outcome hloop] at hnext
    cases hnext
    exact Life.Same.of_eq (by simp [PactSupervisor.standing, PactSupervisor.running,
      PactSupervisor.child, hloop, Loop.stage, Loop.queue])
  | Handling crashed =>
    cases crashed with
    | nil =>
      rw [loopStep_finished outcome hloop] at hnext
      cases hnext
      exact Life.Same.of_eq (by simp [PactSupervisor.standing, PactSupervisor.running,
        PactSupervisor.child, hloop, Loop.stage, Loop.queue])
    | cons crash crashed =>
      obtain ⟨service, code⟩ := crash
      cases hfound : declared s.serviceDecls service with
      | none =>
        rw [loopStep_undeclared outcome hloop hfound] at hnext
        cases hnext
        have hne : service ≠ name := by
          rintro rfl
          rw [hfound] at hdecl
          cases hdecl
        exact Life.Same.of_eq (by simp [PactSupervisor.standing, PactSupervisor.running,
          PactSupervisor.child, hloop, Loop.stage, Loop.queue, queuedFor_cons, hne])
      | some found =>
        rw [loopStep_declared outcome hloop hfound] at hnext
        cases hnext
        exact decide_life s name decl service code crashed found hloop hfound hdecl
  | Declining declined crashed =>
    rw [loopStep_declining outcome hloop] at hnext
    cases hnext
    exact decline_life s name decl declined crashed hloop
  | Delaying delayed crashed =>
    rw [loopStep_delaying outcome hloop] at hnext
    cases hnext
    obtain ⟨hframed, hview⟩ := clearScope_view s delayed
    refine Life.Same.of_eq (Standing.ext (congrFun (congrArg View.running hview) name)
      (congrFun (congrArg View.child hview) name)
      (congrArg (trail · name) (congrArg View.table hview)) ?_ ?_
      (congrArg (reported · name) hframed.events))
    · simp [PactSupervisor.standing, hloop, Loop.stage]
    · simp [PactSupervisor.standing, hloop, Loop.queue]
  | Cleared restarted crashed =>
    cases outcome with
    | Failed => exact absurd hloop (hallowed restarted crashed)
    | Spawned cgroupHandle =>
      rw [loopStep_spawned cgroupHandle hloop] at hnext
      cases hnext
      exact spawn_life s name decl restarted cgroupHandle crashed hloop
  | Spawned restarted child cgroupHandle crashed =>
    rw [loopStep_store outcome hloop] at hnext
    cases hnext
    exact store_life s name decl restarted child cgroupHandle crashed hloop

theorem loop_of_holding (loop : Loop) (name : String) (id : ProcessId)
    (h : loop.stage name = .Holding id) :
    ∃ decl cgroupHandle crashed, decl.name = name ∧
      loop = .Spawned decl id cgroupHandle crashed := by
  unfold Loop.stage at h
  split at h
  case h_4 decl child cgroupHandle crashed =>
    split at h
    case isTrue hname =>
      cases h
      exact ⟨decl, cgroupHandle, crashed, hname, rfl⟩
    case isFalse => cases h
  case h_5 => cases h
  all_goals split at h <;> cases h

def OnlyStarting : Prop := ∀ call ∈ s.calls, ∃ services, call = .Starting services

theorem advance_cases (index : Nat) (spawn : SpawnOutcome) (wait : StopOutcome)
    (after : PactSupervisor) (hstarting : OnlyStarting s)
    (hnext : next s (.Advance index spawn wait) = some after) :
    OnlyStarting after ∧ ((∃ calls, after = { s with calls := calls }) ∨
      ∃ started calls, spawns s (.Advance index spawn wait) = startSpawns s started spawn ∧
        after = { (start started spawn s).1 with calls := calls }) := by
  simp only [next] at hnext
  cases hcall : s.calls[index]? with
  | none =>
    rw [hcall] at hnext
    cases hnext
  | some call =>
    obtain ⟨services, rfl⟩ := hstarting call (List.mem_of_getElem? hcall)
    have herased : ∀ call ∈ s.calls.eraseIdx index, ∃ services, call = .Starting services :=
      fun call h => hstarting call (List.mem_of_mem_eraseIdx h)
    cases services with
    | nil =>
      simp only [hcall, callStep] at hnext
      cases hnext
      exact ⟨herased, .inl ⟨_, rfl⟩⟩
    | cons started services =>
      have hspawns : spawns s (.Advance index spawn wait) = startSpawns s started spawn := by
        simp only [spawns, hcall]
      simp only [hcall, callStep] at hnext
      split at hnext
      case h_1 heq =>
        cases hnext
        split at heq
        · cases heq
          refine ⟨fun call h => ?_, .inr ⟨started, _, hspawns, rfl⟩⟩
          rcases List.mem_or_eq_of_mem_set h with h | rfl
          · exact hstarting call h
          · exact ⟨services, rfl⟩
        · cases heq
      case h_2 heq =>
        cases hnext
        split at heq
        · cases heq
        · cases heq
          exact ⟨herased, .inr ⟨started, _, hspawns, rfl⟩⟩

theorem next_life (step : Step) (after : PactSupervisor) (hstarting : OnlyStarting s)
    (hallowed : Undisturbed s step) (hnext : next s step = some after) :
    after.serviceDecls = s.serviceDecls ∧ OnlyStarting after ∧
      ∀ name decl, declared s.serviceDecls name = some decl →
        Life decl (s.standing name) (after.standing name) := by
  cases step with
  | Exit id code =>
    simp only [next] at hnext
    split at hnext
    · cases hnext
      refine ⟨rfl, hstarting, fun name decl _ => (Life.Exit id code).of_eq ?_⟩
      exact Standing.ext rfl rfl (trail_changeProcess s.table name id _) rfl rfl rfl
    · cases hnext
  | Reap id =>
    simp only [next] at hnext
    split at hnext
    · cases hnext
      refine ⟨rfl, hstarting, fun name decl _ => ?_⟩
      have hhand : s.loop.stage name ≠ .Holding id := by
        intro hstage
        obtain ⟨found, cgroupHandle, crashed, rfl, hloop⟩ := loop_of_holding s.loop name id hstage
        exact (hallowed found.name).2 (by rw [hloop]; rfl)
      exact (Life.Collect (v := s.standing name) id (hallowed name).1 hhand).of_eq
        (Standing.ext rfl rfl (trail_changeProcess s.table name id _) rfl rfl rfl)
    · cases hnext
  | Tick found =>
    obtain ⟨hsleeping, last, crashed, _, hdetection, rfl⟩ := next_tick s found _ hnext
    refine ⟨hdetection.framed.serviceDecls, ?_, fun name decl _ =>
      tick_life s name decl found crashed last hsleeping hdetection⟩
    have hcalls : last.calls = s.calls := hdetection.framed.calls
    exact fun call h => hstarting call (hcalls ▸ h)
  | Status decl observed =>
    have heq : (status decl observed s).1 = s :=
      (status_change s decl observed).resolve_right fun h => hallowed h.1
    simp only [next, heq, Option.some.injEq] at hnext
    subst hnext
    exact ⟨rfl, hstarting, fun _ _ _ => .Same⟩
  | Loop outcome =>
    obtain ⟨hdecls, hcalls, _⟩ := loopStep_frame s after outcome hnext
    exact ⟨hdecls, fun call h => hstarting call (hcalls ▸ h), fun name decl hdecl =>
      loop_life s name decl outcome after hdecl hallowed hnext⟩
  | Advance index spawn wait =>
    obtain ⟨hafter, ⟨calls, rfl⟩ | ⟨started, calls, hspawns, rfl⟩⟩ :=
      advance_cases s index spawn wait after hstarting hnext
    · exact ⟨rfl, hafter, fun _ _ _ => .Same⟩
    · exact ⟨(start_change s started spawn).1.serviceDecls, hafter, fun name decl _ =>
        start_life s name decl started spawn fun found hfound =>
          hallowed found (hspawns.trans hfound)⟩
  | Start decl outcome => exact hallowed.elim
  | Stop decl outcome => exact hallowed.elim
  | Restart decl outcome => exact hallowed.elim
  | StartAll services => exact hallowed.elim
  | StopAll services => exact hallowed.elim

end Steps

end Pact.Agent.Supervisor
