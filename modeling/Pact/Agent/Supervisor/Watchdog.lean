import Pact.Agent.Supervisor.Order
import Pact.Agent.Supervisor.Progress
import Pact.Library.Pace
import Pact.Library.Trace

namespace Pact.Agent.Supervisor

open Pact.Library

structure SupervisionConfig where
  idleIntervalMs : Nat
  activeIntervalMs : Nat
  deriving DecidableEq

def SupervisionConfig.default : SupervisionConfig := ⟨500, 2000⟩

def SupervisionConfig.intervalMs (config : SupervisionConfig) (active : Bool) : Nat :=
  if active then config.activeIntervalMs else config.idleIntervalMs

-- A supervisor with the declarations in full and the interval chosen at the last tick.
structure Watched where
  supervisor : PactSupervisor
  decls : List Declaration
  intervalMs : Nat
  deriving DecidableEq

def Watched.new : Watched := ⟨.new, [], 0⟩

-- The two steps that say more here than those of the supervisor, and all others.
inductive WatchStep
  | StartAll (decls : List Declaration)
  | Tick (active : Bool) (found : List String)
  | Other (step : Step)
  deriving DecidableEq

def watchNext (config : SupervisionConfig) (w : Watched) : WatchStep → Option Watched
  | .StartAll decls =>
    (next w.supervisor (.StartAll (decls.map Declaration.toServiceDecl))).map
      fun supervisor => ⟨supervisor, decls, w.intervalMs⟩
  | .Tick active found =>
    (next w.supervisor (.Tick found)).map
      fun supervisor => ⟨supervisor, w.decls, config.intervalMs active⟩
  | .Other (.StartAll _) => none
  | .Other (.Tick _) => none
  | .Other step =>
    (next w.supervisor step).map fun supervisor => { w with supervisor := supervisor }

-- The seconds the loop waits before the restart it comes to in this step.
def restartDelay (w : Watched) : WatchStep → Nat
  | .Other (.Loop _) =>
    match w.supervisor.loop with
    | .Handling ((name, code) :: _) =>
      match w.decls.find? fun decl => decl.name = name with
      | some decl => if decl.shouldRestart code then decl.restartDelaySeconds else 0
      | none => 0
    | _ => 0
  | _ => 0

-- The effects of the loop: a pet of the watchdog is a mark with the interval chosen for its tick,
-- and a requested sleep is a wait in milliseconds.
def loopBeats (config : SupervisionConfig) (watchdogPet : Bool) (w : Watched) :
    WatchStep → List Beat
  | .Tick active _ => if watchdogPet then [.Mark (config.intervalMs active)] else []
  | .Other (.Loop outcome) =>
    if w.supervisor.loop = .Handling [] then [.Wait w.intervalMs]
    else if restartDelay w (.Other (.Loop outcome)) > 0 then
      [.Wait (restartDelay w (.Other (.Loop outcome)) * 1000)]
    else []
  | _ => []

def Prompt (watchdogPet : Bool) (w : Watched) (step : WatchStep) : Prop :=
  watchdogPet = true → restartDelay w step = 0

instance (watchdogPet : Bool) (w : Watched) (step : WatchStep) :
    Decidable (Prompt watchdogPet w step) :=
  inferInstanceAs (Decidable (_ → _))

section Supervisor

variable (s after : PactSupervisor)

-- Steps other than those of the loop leave it where it is, and only start_all sets the
-- declarations.
theorem next_kept (step : Step) (h : next s step = some after) (htick : ∀ found, step ≠ .Tick found)
    (hloop : ∀ outcome, step ≠ .Loop outcome) :
    after.loop = s.loop ∧
      ((∀ services, step ≠ .StartAll services) → after.serviceDecls = s.serviceDecls) := by
  cases step with
  | Exit id code =>
    simp only [next] at h
    split at h <;> cases h
    exact ⟨rfl, fun _ => rfl⟩
  | Reap id =>
    simp only [next] at h
    split at h <;> cases h
    exact ⟨rfl, fun _ => rfl⟩
  | Start decl outcome =>
    cases h
    have hframed := (start_change s decl outcome).1
    exact ⟨hframed.loop, fun _ => hframed.serviceDecls⟩
  | Stop decl outcome =>
    cases h
    have hframed := (stop_change s decl outcome).1
    exact ⟨hframed.loop, fun _ => hframed.serviceDecls⟩
  | Restart decl outcome =>
    cases h
    have hframed := (stop_change s decl outcome).1
    exact ⟨hframed.loop, fun _ => hframed.serviceDecls⟩
  | StartAll services =>
    simp only [next] at h
    split at h <;> cases h
    exact ⟨rfl, fun hother => absurd rfl (hother services)⟩
  | StopAll services =>
    cases h
    exact ⟨rfl, fun _ => rfl⟩
  | Advance index spawn wait =>
    obtain ⟨call, hcall, rfl⟩ := next_advance s index spawn wait after h
    have hframed := (callStep_change s index spawn wait call hcall).1
    exact ⟨hframed.loop, fun _ => hframed.serviceDecls⟩
  | Status decl observed =>
    cases h
    rcases status_change s decl observed with hsame | ⟨_, reaped, _, _, hafter⟩
    · rw [hsame]
      exact ⟨rfl, fun _ => rfl⟩
    · rw [hafter]
      exact ⟨rfl, fun _ => rfl⟩
  | Tick found => exact absurd rfl (htick found)
  | Loop outcome => exact absurd rfl (hloop outcome)

theorem loopStep_busy (outcome : SpawnOutcome) (h : loopStep outcome s = some after) :
    s.loop ≠ .Sleeping ∧ (after.loop = .Sleeping ↔ s.loop = .Handling []) := by
  unfold loopStep at h
  split at h
  case h_1 => cases h
  case h_4 name code crashed hloop =>
    rw [hloop]
    split at h
    · cases h
      simp
    · cases h
      dsimp only
      split <;> simp
  case h_7 decl crashed hloop =>
    rw [hloop]
    cases outcome <;> cases h <;> simp
  all_goals
    rename_i hloop
    cases h
    rw [hloop]
    simp

end Supervisor

inductive Shown (w after : Watched) (delay : Nat) : List Beat → Prop
  | Silent (hdelay : delay = 0)
      (hloop : after.supervisor.loop = .Sleeping ↔ w.supervisor.loop = .Sleeping)
      (hinterval : after.intervalMs = w.intervalMs) : Shown w after delay []
  | Petted (hdelay : delay = 0) (hbefore : w.supervisor.loop = .Sleeping)
      (hafter : after.supervisor.loop ≠ .Sleeping) : Shown w after delay [.Mark after.intervalMs]
  | Rested (hdelay : delay = 0) (hbefore : w.supervisor.loop ≠ .Sleeping)
      (hafter : after.supervisor.loop = .Sleeping) : Shown w after delay [.Wait w.intervalMs]
  | Delayed (hdelay : 0 < delay) (hbefore : w.supervisor.loop ≠ .Sleeping)
      (hafter : after.supervisor.loop ≠ .Sleeping) (hinterval : after.intervalMs = w.intervalMs) :
      Shown w after delay [.Wait (delay * 1000)]

section Shown

variable (config : SupervisionConfig) (w after : Watched)

theorem loop_shown (outcome : SpawnOutcome)
    (hnext : watchNext config w (.Other (.Loop outcome)) = some after) :
    Shown w after (restartDelay w (.Other (.Loop outcome)))
      (loopBeats config true w (.Other (.Loop outcome))) := by
  simp only [watchNext, Option.map_eq_some_iff] at hnext
  obtain ⟨supervisor, hstep, rfl⟩ := hnext
  obtain ⟨hawake, hrests⟩ := loopStep_busy w.supervisor supervisor outcome hstep
  rw [loopBeats]
  split
  case isTrue hdone =>
    have hdelay : restartDelay w (.Other (.Loop outcome)) = 0 := by rw [restartDelay, hdone]
    exact .Rested hdelay hawake (hrests.mpr hdone)
  case isFalse hmore =>
    have hafter : supervisor.loop ≠ .Sleeping := fun hsleeping => hmore (hrests.mp hsleeping)
    split
    case isTrue hdelay => exact .Delayed hdelay hawake hafter rfl
    case isFalse hnone => exact .Silent (Nat.eq_zero_of_not_pos hnone) (iff_of_false hafter hawake) rfl

theorem watchNext_shown (step : WatchStep) (hnext : watchNext config w step = some after) :
    Shown w after (restartDelay w step) (loopBeats config true w step) := by
  cases step with
  | StartAll decls =>
    simp only [watchNext, Option.map_eq_some_iff] at hnext
    obtain ⟨supervisor, hstep, rfl⟩ := hnext
    exact .Silent rfl (by rw [(next_kept w.supervisor supervisor _ hstep nofun nofun).1]) rfl
  | Tick active found =>
    simp only [watchNext, Option.map_eq_some_iff] at hnext
    obtain ⟨supervisor, hstep, rfl⟩ := hnext
    obtain ⟨hsleeping, last, crashed, _, _, rfl⟩ := next_tick w.supervisor found supervisor hstep
    exact .Petted rfl hsleeping Loop.noConfusion
  | Other step =>
    cases step with
    | Loop outcome => exact loop_shown config w after outcome hnext
    | StartAll services => cases hnext
    | Tick found => cases hnext
    | _ =>
      simp only [watchNext, Option.map_eq_some_iff] at hnext
      obtain ⟨supervisor, hstep, rfl⟩ := hnext
      exact .Silent rfl (by rw [(next_kept w.supervisor supervisor _ hstep nofun nofun).1]) rfl

end Shown

-- As long as no restart is delayed: nothing is waited within a tick, and its interval after it.
structure OnTime (beats : List Beat) (w : Watched) : Prop where
  paced : Paced beats
  resting : w.supervisor.loop = .Sleeping →
    ∀ limit total, sinceMark beats = some (limit, total) → total ≤ limit
  working : w.supervisor.loop ≠ .Sleeping → sinceMark beats = some (w.intervalMs, 0)

-- Once one was: the next pet comes too late, or one has come too late already.
def Late (beats : List Beat) (w : Watched) : Prop :=
  ¬Paced beats ∨ ∃ limit total, sinceMark beats = some (limit, total) ∧
    (w.supervisor.loop = .Sleeping → limit < total) ∧
    (w.supervisor.loop ≠ .Sleeping → limit = w.intervalMs ∧ 0 < total)

section Pace

variable {w after : Watched} {delay : Nat} {beats shown : List Beat}

theorem OnTime.step (h : OnTime beats w) (hshown : Shown w after delay shown) (hdelay : delay = 0) :
    OnTime (beats ++ shown) after := by
  cases hshown with
  | Silent _ hloop hinterval =>
    rw [List.append_nil]
    exact ⟨h.paced, fun hsleeping => h.resting (hloop.mp hsleeping),
      fun hawake => hinterval ▸ h.working (hloop.not.mp hawake)⟩
  | Petted _ hbefore hafter =>
    refine ⟨(paced_mark_iff beats _).mpr ⟨h.paced, h.resting hbefore⟩,
      fun hsleeping => absurd hsleeping hafter, fun _ => sinceMark_mark beats _⟩
  | Rested _ hbefore hafter =>
    refine ⟨(paced_wait_iff beats _).mpr h.paced, ?_, fun hawake => absurd hafter hawake⟩
    intro _ limit total hsince
    rw [sinceMark_wait, h.working hbefore, Option.map_some, Option.some.injEq, Prod.mk.injEq] at hsince
    omega
  | Delayed hpositive => omega

theorem OnTime.delayed (h : OnTime beats w) (hshown : Shown w after delay shown) (hdelay : delay ≠ 0) :
    Late (beats ++ shown) after := by
  cases hshown with
  | Silent hnone => exact absurd hnone hdelay
  | Petted hnone => exact absurd hnone hdelay
  | Rested hnone => exact absurd hnone hdelay
  | Delayed hpositive hbefore hafter hinterval =>
    refine .inr ⟨w.intervalMs, 0 + delay * 1000, ?_, fun hsleeping => absurd hsleeping hafter,
      fun _ => ⟨hinterval.symm, by omega⟩⟩
    rw [sinceMark_wait, h.working hbefore, Option.map_some]

theorem Late.step (h : Late beats w) (hshown : Shown w after delay shown) :
    Late (beats ++ shown) after := by
  rcases h with hbroken | ⟨limit, total, hsince, hresting, hworking⟩
  · -- What is not paced stays so.
    left
    cases hshown with
    | Silent => rwa [List.append_nil]
    | Petted => exact fun hpaced => hbroken ((paced_mark_iff beats _).mp hpaced).1
    | Rested => exact fun hpaced => hbroken ((paced_wait_iff beats _).mp hpaced)
    | Delayed => exact fun hpaced => hbroken ((paced_wait_iff beats _).mp hpaced)
  · cases hshown with
    | Silent _ hloop hinterval =>
      rw [List.append_nil]
      exact .inr ⟨limit, total, hsince, fun hsleeping => hresting (hloop.mp hsleeping),
        fun hawake => hinterval ▸ hworking (hloop.not.mp hawake)⟩
    | Petted _ hbefore =>
      refine .inl fun hpaced => ?_
      have hwithin := ((paced_mark_iff beats _).mp hpaced).2 limit total hsince
      exact absurd (hresting hbefore) (Nat.not_lt_of_le hwithin)
    | Rested _ hbefore hafter =>
      obtain ⟨hlimit, hpositive⟩ := hworking hbefore
      refine .inr ⟨limit, total + w.intervalMs, by rw [sinceMark_wait, hsince, Option.map_some],
        fun _ => by omega, fun hawake => absurd hafter hawake⟩
    | Delayed hdelay hbefore hafter hinterval =>
      obtain ⟨hlimit, hpositive⟩ := hworking hbefore
      refine .inr ⟨limit, total + delay * 1000, by rw [sinceMark_wait, hsince, Option.map_some],
        fun hsleeping => absurd hsleeping hafter, fun _ => ⟨hlimit.trans hinterval.symm, by omega⟩⟩

theorem Late.petted (h : Late beats w) (hsleeping : w.supervisor.loop = .Sleeping) (limit : Nat) :
    ¬Paced (beats ++ [.Mark limit]) := by
  rw [paced_mark_iff]
  rintro ⟨hpaced, hwithin⟩
  rcases h with hbroken | ⟨earlier, total, hsince, hresting, _⟩
  · exact hbroken hpaced
  · exact absurd (hresting hsleeping) (Nat.not_lt_of_le (hwithin earlier total hsince))

end Pace

section Runs

variable (config : SupervisionConfig) (steps : List WatchStep) (last : Watched)

-- By induction on the run from its end: no restart has been delayed so far, or the loop is late.
theorem onTime_or_late (run : Run (watchNext config) Unrestricted .new steps last) :
    (Run (watchNext config) (Prompt true) .new steps last ∧
      OnTime (trace (watchNext config) (loopBeats config true) .new steps) last) ∨
    (¬Run (watchNext config) (Prompt true) .new steps last ∧
      Late (trace (watchNext config) (loopBeats config true) .new steps) last) := by
  induction steps using List.reverseRecOn generalizing last with
  | nil =>
    cases run
    refine .inl ⟨.nil _, ⟨?_, ?_, fun hawake => absurd rfl hawake⟩⟩
    · intro before limit between later rest hsplit
      simp [trace] at hsplit
    · intro _ limit total hsince
      cases hsince
  | append_singleton steps step ih =>
    obtain ⟨middle, hbefore, _, hnext⟩ := run.snoc_cases
    have hshown := watchNext_shown config middle last step hnext
    rw [hbefore.trace_append, trace_cons hnext, trace, List.append_nil, hbefore.snoc_iff hnext]
    rcases ih middle hbefore with ⟨hprompt, hontime⟩ | ⟨hnot, hlate⟩
    · by_cases hdelay : restartDelay middle step = 0
      · exact .inl ⟨⟨hprompt, fun _ => hdelay⟩, hontime.step hshown hdelay⟩
      · refine .inr ⟨fun hall => ?_, hontime.delayed hshown hdelay⟩
        exact hdelay (hall.2 rfl)
    · refine .inr ⟨fun hall => ?_, hlate.step hshown⟩
      exact hnot hall.1

theorem no_marks (beat : Beat) (labels : List WatchStep) (w : Watched)
    (h : beat ∈ trace (watchNext config) (loopBeats config false) w labels) (limit : Nat) :
    beat ≠ .Mark limit := by
  induction labels generalizing w with
  | nil => cases h
  | cons step labels ih =>
    rw [trace] at h
    split at h
    case h_1 => cases h
    case h_2 after hnext =>
      rcases List.mem_append.mp h with hshown | hrest
      · unfold loopBeats at hshown
        split at hshown
        case h_1 => cases hshown
        case h_2 =>
          split at hshown
          · rw [List.mem_singleton.mp hshown]
            exact Beat.noConfusion
          · split at hshown
            · rw [List.mem_singleton.mp hshown]
              exact Beat.noConfusion
            · cases hshown
        case h_3 => cases hshown
      · exact ih after hrest

-- Between two pets no more sleep is requested than the interval of the tick, exactly if no restart
-- that the loop comes to is delayed. The pet after the last tick of the run is counted with it.
theorem pets_paced_iff (watchdogPet : Bool)
    (run : Run (watchNext config) Unrestricted .new steps last) :
    (Run (watchNext config) (Prompt watchdogPet) .new steps last →
      Paced (trace (watchNext config) (loopBeats config watchdogPet) .new steps)) ∧
    ∀ active found after, watchNext config last (.Tick active found) = some after →
      (Paced (trace (watchNext config) (loopBeats config watchdogPet) .new
          (steps ++ [.Tick active found])) ↔
        Run (watchNext config) (Prompt watchdogPet) .new steps last) := by
  cases watchdogPet with
  | false =>
    have hpaced : ∀ labels,
        Paced (trace (watchNext config) (loopBeats config false) .new labels) := by
      intro labels before limit between later rest hsplit
      refine absurd rfl (no_marks config (.Mark limit) labels .new ?_ limit)
      rw [hsplit]
      simp
    have hprompt : Run (watchNext config) (Prompt false) .new steps last :=
      run.weaken fun _ _ _ => nofun
    exact ⟨fun _ => hpaced steps, fun _ _ _ _ => iff_of_true (hpaced _) hprompt⟩
  | true =>
    rcases onTime_or_late config steps last run with ⟨hprompt, hontime⟩ | ⟨hnot, hlate⟩
    · refine ⟨fun _ => hontime.paced, fun active found after hnext => ?_⟩
      have hafter := hontime.step (watchNext_shown config last after _ hnext) rfl
      rw [run.trace_append, trace_cons hnext, trace, List.append_nil]
      exact iff_of_true hafter.paced hprompt
    · refine ⟨fun hprompt => absurd hprompt hnot, fun active found after hnext => ?_⟩
      have hsleeping : last.supervisor.loop = .Sleeping := by
        simp only [watchNext, Option.map_eq_some_iff] at hnext
        obtain ⟨supervisor, hstep, _⟩ := hnext
        exact (next_tick last.supervisor found supervisor hstep).1
      rw [run.trace_append, trace_cons hnext, trace, List.append_nil]
      exact iff_of_false (hlate.petted hsleeping _) hnot

end Runs

def flaky (restartDelaySeconds : Nat) : Declaration :=
  ⟨⟨"worker", .OnFailure, 1⟩, restartDelaySeconds, []⟩

def crashSteps (restartDelaySeconds : Nat) : List WatchStep :=
  [.StartAll [flaky restartDelaySeconds],
    .Other (.Start (flaky restartDelaySeconds).toServiceDecl (.Spawned none)),
    .Other (.Exit 0 (some 1)), .Tick false ["worker"], .Other (.Loop .Failed),
    .Other (.Loop .Failed), .Other (.Loop .Failed), .Other (.Loop (.Spawned none)),
    .Other (.Loop .Failed), .Other (.Loop .Failed)]

theorem pets_paced_prompt :
    Paced (trace (watchNext .default) (loopBeats .default true) .new
      (crashSteps 0 ++ [.Tick false []])) := by
  obtain ⟨last, hlast⟩ : ∃ last,
      execWhere (watchNext .default) (Prompt true) .new (crashSteps 0) = some last :=
    Option.isSome_iff_exists.mp (by decide +kernel)
  have hrun := run_of_execWhere _ _ _ _ _ hlast
  obtain ⟨after, hafter⟩ : ∃ after, watchNext .default last (.Tick false []) = some after := by
    cases hlast
    exact Option.isSome_iff_exists.mp (by decide +kernel)
  exact ((pets_paced_iff .default (crashSteps 0) last true hrun.unrestricted).2
    false [] after hafter).mpr hrun

-- A restart delay of half a minute is slept through between two pets that are to be half a second
-- apart.
theorem restart_delay_between_pets :
    ∃ last, Run (watchNext .default) Unrestricted .new (crashSteps 30 ++ [.Tick false []]) last ∧
      trace (watchNext .default) (loopBeats .default true) .new (crashSteps 30 ++ [.Tick false []]) =
        [.Mark 500, .Wait 30000, .Wait 500, .Mark 500] ∧
      ¬Paced (trace (watchNext .default) (loopBeats .default true) .new
        (crashSteps 30 ++ [.Tick false []])) := by
  have htrace : trace (watchNext .default) (loopBeats .default true) .new
      (crashSteps 30 ++ [.Tick false []]) = [.Mark 500, .Wait 30000, .Wait 500, .Mark 500] := by
    decide +kernel
  obtain ⟨last, hlast⟩ : ∃ last, exec (watchNext .default) .new (crashSteps 30 ++ [.Tick false []]) =
      some last := Option.isSome_iff_exists.mp (by decide +kernel)
  refine ⟨last, (exec_eq_some_iff _ _ _ _).mp hlast, htrace, ?_⟩
  rw [htrace]
  intro hpaced
  exact absurd (hpaced [] 500 [.Wait 30000, .Wait 500] 500 [] rfl (by simp)) (by decide)

end Pact.Agent.Supervisor
