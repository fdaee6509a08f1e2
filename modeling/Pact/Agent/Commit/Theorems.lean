import Pact.Agent.Commit
import Pact.Library.Run

namespace Pact.Agent

open Pact.Library Pact.Common CommitWindowManager

-- The commit window of an agent outside emergency mode, and its clock.
structure Window where
  manager : CommitWindowManager
  clock : DateTime
  deriving DecidableEq

inductive WindowStep
  | Pass (now : DateTime)
  | Open (driftMagnitude : F64)
  | Extend (additionalMinutes : UInt32)
  | UpdateConfig (baseWindowSeconds : UInt32) (driftSensitivity : F64)
      (emergencyWindowSeconds : UInt32)
  | Commit
  | Rollback
  | RollbackWithCheck (activeConsumers : Nat)
  | Tick
  deriving DecidableEq

-- Time passes between the calls, and does not go back.
def windowNext (floats : Floats) (enforcementMode : String) (window : Window) :
    WindowStep → Option Window
  | .Pass now => if window.clock ≤ now then some { window with clock := now } else none
  | .Open driftMagnitude =>
    some { window with manager := window.manager.openWindow floats window.clock driftMagnitude }
  | .Extend additionalMinutes =>
    some { window with
      manager := (extendCommitWindow window.clock additionalMinutes window.manager).1 }
  | .UpdateConfig baseWindowSeconds driftSensitivity emergencyWindowSeconds =>
    some { window with
      manager := window.manager.updateConfig baseWindowSeconds driftSensitivity
        emergencyWindowSeconds }
  | .Commit => some { window with manager := window.manager.commit }
  | .Rollback => some { window with manager := window.manager.rollback }
  | .RollbackWithCheck activeConsumers =>
    some { window with manager := (window.manager.rollbackWithCheck activeConsumers).1 }
  | .Tick =>
    some { window with
      manager := autoRollback enforcementMode false window.clock window.manager }

-- The deadline of the window has been reached, and the window has not ended.
def Lapsed (window : Window) : Prop :=
  match window.manager.state with
  | .Idle => False
  | .Open _ deadline => deadline ≤ window.clock
  | .Expired _ _ => True

-- A commit or a rollback, by a call that is not blocked or by the timer where it is enforced.
def EndsWindow (enforcementMode : String) : WindowStep → Prop
  | .Commit => True
  | .Rollback => True
  | .RollbackWithCheck activeConsumers => activeConsumers = 0
  | .Tick => enforcementMode ≠ "observe"
  | _ => False

-- A call on a lapsed window gives it no time beyond the present: it opens a window of no length,
-- which the lower bound of a minute rules out, or extends by no more than the time gone by.
def NotRevived (floats : Floats) (window : Window) : WindowStep → Prop
  | .Open driftMagnitude =>
    Lapsed window → window.manager.calculateWindowSeconds floats driftMagnitude = 0
  | .Extend additionalMinutes =>
    match window.manager.state with
    | .Open _ deadline => deadline ≤ window.clock →
        deadline + DateTime.seconds (additionalMinutes * 60).toNat ≤ window.clock
    | _ => True
  | _ => True

instance (window : Window) : Decidable (Lapsed window) := by
  unfold Lapsed
  split <;> infer_instance

instance (floats : Floats) (window : Window) (step : WindowStep) :
    Decidable (NotRevived floats window step) := by
  unfold NotRevived
  split
  · infer_instance
  · split <;> infer_instance
  · infer_instance

section Steps

variable (floats : Floats) (enforcementMode : String)

theorem add_seconds_le_iff (time : DateTime) (count : Nat) :
    time + DateTime.seconds count ≤ time ↔ count = 0 := by
  have h : time + DateTime.seconds count ≤ time ↔ (count : Int) * 1000000000 ≤ 0 :=
    add_le_iff_nonpos_right time
  rw [h]
  omega

theorem open_lapsed_iff (window : Window) (driftMagnitude : F64)
    (hemergency : window.manager.emergency = false) :
    Lapsed { window with manager := window.manager.openWindow floats window.clock driftMagnitude } ↔
      window.manager.calculateWindowSeconds floats driftMagnitude = 0 := by
  simp only [Lapsed, openWindow, hemergency, Bool.false_eq_true, if_false, add_seconds_le_iff]
  rw [← UInt32.toNat_inj, UInt32.toNat_zero]

theorem extendCommitWindow_fst (now : DateTime) (additionalMinutes : UInt32)
    (manager : CommitWindowManager) :
    (extendCommitWindow now additionalMinutes manager).1 =
      manager.extend (additionalMinutes * 60) := by
  unfold extendCommitWindow
  split_ifs with hzero
  · subst hzero
    obtain ⟨config, state, emergency⟩ := manager
    cases state with
    | Open openedAt deadline =>
      have hsame : deadline + DateTime.seconds ((0 * 60 : UInt32).toNat : Int) = deadline :=
        Int.add_zero deadline
      simp only [CommitWindowManager.extend, hsame]
    | _ => rfl
  · rfl

theorem extend_lapsed_iff (window : Window) (additionalMinutes : UInt32) (hlapsed : Lapsed window) :
    Lapsed { window with
        manager := (extendCommitWindow window.clock additionalMinutes window.manager).1 } ↔
      NotRevived floats window (.Extend additionalMinutes) := by
  rw [extendCommitWindow_fst]
  unfold Lapsed at hlapsed ⊢
  cases hstate : window.manager.state with
  | Open openedAt deadline =>
    simp only [hstate] at hlapsed
    simp [NotRevived, CommitWindowManager.extend, hstate, hlapsed]
  | Expired => simp [NotRevived, CommitWindowManager.extend, hstate]
  | Idle => simp [hstate] at hlapsed

-- No call but a commit or rollback takes a window out of the lapsed state, if it is not revived.
theorem windowNext_lapsed_iff (window : Window) (step : WindowStep) (after : Window)
    (hemergency : window.manager.emergency = false)
    (hnext : windowNext floats enforcementMode window step = some after) :
    (Lapsed window → ¬EndsWindow enforcementMode step → Lapsed after) ↔
      NotRevived floats window step := by
  cases step with
  | Pass now =>
    simp only [windowNext, Option.ite_none_right_eq_some, Option.some.injEq] at hnext
    obtain ⟨hclock, rfl⟩ := hnext
    refine iff_of_true ?_ trivial
    intro hlapsed _
    unfold Lapsed at hlapsed ⊢
    cases hstate : window.manager.state with
    | Open openedAt deadline =>
      simp only [hstate] at hlapsed ⊢
      exact hlapsed.trans hclock
    | Expired => trivial
    | Idle => simp [hstate] at hlapsed
  | Open driftMagnitude =>
    cases hnext
    simp only [EndsWindow, not_false_eq_true, true_implies, NotRevived,
      open_lapsed_iff floats window driftMagnitude hemergency]
  | Extend additionalMinutes =>
    cases hnext
    by_cases hlapsed : Lapsed window
    · simp only [hlapsed, EndsWindow, not_false_eq_true, true_implies]
      exact extend_lapsed_iff floats window additionalMinutes hlapsed
    · refine iff_of_true (fun h => absurd h hlapsed) ?_
      cases hstate : window.manager.state with
      | Open openedAt deadline =>
        simp only [Lapsed, hstate] at hlapsed
        simp only [NotRevived, hstate, hlapsed, false_implies]
      | _ => simp only [NotRevived, hstate]
  | UpdateConfig =>
    cases hnext
    exact iff_of_true (fun hlapsed _ => hlapsed) trivial
  | Commit => exact iff_of_true (fun _ hends => absurd trivial hends) trivial
  | Rollback => exact iff_of_true (fun _ hends => absurd trivial hends) trivial
  | RollbackWithCheck activeConsumers =>
    cases hnext
    refine iff_of_true (fun hlapsed hends => ?_) trivial
    simpa only [rollbackWithCheck, if_pos (Nat.pos_of_ne_zero hends)] using hlapsed
  | Tick =>
    cases hnext
    refine iff_of_true (fun hlapsed hends => ?_) trivial
    simpa only [autoRollback, if_pos (Or.inl (not_not.mp hends))] using hlapsed

theorem extend_emergency (additionalSeconds : UInt32) (manager : CommitWindowManager) :
    (manager.extend additionalSeconds).emergency = manager.emergency := by
  unfold CommitWindowManager.extend
  split <;> rfl

theorem autoRollback_emergency (now : DateTime) (manager : CommitWindowManager) :
    (autoRollback enforcementMode false now manager).emergency = manager.emergency := by
  have hchecked : (manager.checkExpired now).1.emergency = manager.emergency := by
    unfold checkExpired
    split
    · split <;> rfl
    · rfl
    · rfl
  unfold autoRollback
  split
  · rfl
  · dsimp only
    split <;> exact hchecked

theorem windowNext_emergency (window : Window) (step : WindowStep) (after : Window)
    (hemergency : window.manager.emergency = false)
    (hnext : windowNext floats enforcementMode window step = some after) :
    after.manager.emergency = false := by
  cases step with
  | Pass now =>
    simp only [windowNext, Option.ite_none_right_eq_some, Option.some.injEq] at hnext
    rw [← hnext.2]
    exact hemergency
  | Extend additionalMinutes =>
    cases hnext
    rw [extendCommitWindow_fst, extend_emergency]
    exact hemergency
  | RollbackWithCheck activeConsumers =>
    cases hnext
    unfold rollbackWithCheck
    split <;> exact hemergency
  | Tick =>
    cases hnext
    rw [autoRollback_emergency]
    exact hemergency
  | _ =>
    cases hnext
    exact hemergency

theorem autoRollback_idle (window : Window) (hmode : enforcementMode ≠ "observe")
    (hemergency : window.manager.emergency = false) (hlapsed : Lapsed window) :
    (autoRollback enforcementMode false window.clock window.manager).state = .Idle := by
  unfold Lapsed at hlapsed
  cases hstate : window.manager.state with
  | Idle => simp [hstate] at hlapsed
  | Open openedAt deadline =>
    simp only [hstate] at hlapsed
    simp [autoRollback, checkExpired, hmode, hstate, hemergency, hlapsed, rollbackWithCheck]
  | Expired => simp [autoRollback, checkExpired, hmode, hstate, rollbackWithCheck]

-- The calls that end a lapsed window do so at once: the timer needs a single round.
theorem endsWindow_idle (window : Window) (step : WindowStep) (after : Window)
    (hemergency : window.manager.emergency = false) (hlapsed : Lapsed window)
    (hends : EndsWindow enforcementMode step)
    (hnext : windowNext floats enforcementMode window step = some after) :
    after.manager.state = .Idle := by
  cases step with
  | Commit =>
    cases hnext
    rfl
  | Rollback =>
    cases hnext
    rfl
  | RollbackWithCheck activeConsumers =>
    obtain rfl : activeConsumers = 0 := hends
    cases hnext
    rfl
  | Tick =>
    cases hnext
    exact autoRollback_idle enforcementMode window hends hemergency hlapsed
  | _ => cases hends

theorem expiry_final_iff (config : CommitWindowConfig) (clock : DateTime) (steps : List WindowStep)
    (last : Window)
    (run : Run (windowNext floats enforcementMode) Unrestricted ⟨.new config, clock⟩ steps last) :
    (∀ before between rest lapsed later, steps = before ++ between ++ rest →
      Run (windowNext floats enforcementMode) Unrestricted ⟨.new config, clock⟩ before lapsed →
      Run (windowNext floats enforcementMode) Unrestricted lapsed between later →
      Lapsed lapsed → (∀ step ∈ between, ¬EndsWindow enforcementMode step) → Lapsed later) ↔
    Run (windowNext floats enforcementMode) (NotRevived floats) ⟨.new config, clock⟩ steps last :=
  run.until_iff (fun window => window.manager.emergency = false) Lapsed
    (EndsWindow enforcementMode) (windowNext_emergency floats enforcementMode)
    (windowNext_lapsed_iff floats enforcementMode) rfl

end Steps

def quarterHour : Floats := ⟨fun _ _ _ => 900⟩

def quarterHourConfig : CommitWindowConfig := ⟨900, ⟨0⟩, 14400⟩

def lapsedSteps : List WindowStep := [.Open ⟨0⟩, .Pass (DateTime.seconds 1000)]

-- The window of 900 seconds is extended to 960 when 1000 have gone by, and then rolled back.
theorem expiry_final_short_extension :
    Run (windowNext quarterHour "enforce") Unrestricted ⟨.new quarterHourConfig, 0⟩
        (lapsedSteps ++ [.Extend 1, .UpdateConfig 600 ⟨0⟩ 14400, .Tick])
        ⟨⟨⟨600, ⟨0⟩, 14400⟩, .Idle, false⟩, DateTime.seconds 1000⟩ ∧
    ∀ before between rest lapsed later,
      lapsedSteps ++ [.Extend 1, .UpdateConfig 600 ⟨0⟩ 14400, .Tick] = before ++ between ++ rest →
      Run (windowNext quarterHour "enforce") Unrestricted ⟨.new quarterHourConfig, 0⟩ before lapsed →
      Run (windowNext quarterHour "enforce") Unrestricted lapsed between later →
      Lapsed lapsed → (∀ step ∈ between, ¬EndsWindow "enforce" step) → Lapsed later := by
  have hrun : Run (windowNext quarterHour "enforce") (NotRevived quarterHour)
      ⟨.new quarterHourConfig, 0⟩
      (lapsedSteps ++ [.Extend 1, .UpdateConfig 600 ⟨0⟩ 14400, .Tick])
      ⟨⟨⟨600, ⟨0⟩, 14400⟩, .Idle, false⟩, DateTime.seconds 1000⟩ :=
    run_of_execWhere _ _ _ _ _ (by decide +kernel)
  exact ⟨hrun.unrestricted,
    (expiry_final_iff quarterHour "enforce" quarterHourConfig 0 _ _ hrun.unrestricted).mpr hrun⟩

def lapsedWindow : Window :=
  ⟨⟨quarterHourConfig, .Open 0 (DateTime.seconds 900), false⟩, DateTime.seconds 1000⟩

-- Another change, or an extension by two minutes, makes the lapsed window a live one: the timer
-- does not find it expired any more.
theorem lapsed_window_revived :
    exec (windowNext quarterHour "enforce") ⟨.new quarterHourConfig, 0⟩ lapsedSteps =
      some lapsedWindow ∧
    Lapsed lapsedWindow ∧
    exec (windowNext quarterHour "enforce") lapsedWindow [.Open ⟨0⟩, .Tick] =
      some { lapsedWindow with
        manager := ⟨quarterHourConfig, .Open 0 (DateTime.seconds 1900), false⟩ } ∧
    exec (windowNext quarterHour "enforce") lapsedWindow [.Extend 2, .Tick] =
      some { lapsedWindow with
        manager := ⟨quarterHourConfig, .Open 0 (DateTime.seconds 1020), false⟩ } := by
  refine ⟨?_, ?_, ?_, ?_⟩ <;> decide +kernel

end Pact.Agent
