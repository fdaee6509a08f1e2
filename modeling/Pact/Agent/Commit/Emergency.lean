import Pact.Agent.Commit
import Pact.Library.Run

namespace Pact.Agent

open Pact.Library Pact.Common CommitWindowManager

-- The calls on a commit window with what the clock shows at each of them, which may be anything.
inductive WindowCall
  | Open (now : DateTime) (driftMagnitude : F64)
  | CheckExpired (now : DateTime)
  | Commit
  | Rollback
  | RollbackWithCheck (activeConsumers : Nat)
  | Extend (additionalSeconds : UInt32)
  | EnterEmergency (now : DateTime)
  | ExitEmergency
  | UpdateConfig (baseWindowSeconds : UInt32) (driftSensitivity : F64)
      (emergencyWindowSeconds : UInt32)
  deriving DecidableEq

def WindowCall.run (floats : Floats) (manager : CommitWindowManager) :
    WindowCall → CommitWindowManager
  | .Open now driftMagnitude => manager.openWindow floats now driftMagnitude
  | .CheckExpired now => (manager.checkExpired now).1
  | .Commit => manager.commit
  | .Rollback => manager.rollback
  | .RollbackWithCheck activeConsumers => (manager.rollbackWithCheck activeConsumers).1
  | .Extend additionalSeconds => manager.extend additionalSeconds
  | .EnterEmergency now => manager.enterEmergency now
  | .ExitEmergency => manager.exitEmergency
  | .UpdateConfig baseWindowSeconds driftSensitivity emergencyWindowSeconds =>
    manager.updateConfig baseWindowSeconds driftSensitivity emergencyWindowSeconds

def callNext (floats : Floats) (manager : CommitWindowManager) (call : WindowCall) :
    Option CommitWindowManager :=
  some (call.run floats manager)

def HasExpired : WindowState → Prop
  | .Expired _ _ => True
  | _ => False

-- In an emergency a check of the window finds no expiry, whenever it is made, and changes nothing.
def ExpirySuspended (manager : CommitWindowManager) : Prop :=
  manager.emergency = true → ∀ now, manager.checkExpired now = (manager, false)

-- The emergency does not begin with a window that has expired before.
def EntersUnexpired (manager : CommitWindowManager) : WindowCall → Prop
  | .EnterEmergency _ => ¬HasExpired manager.state
  | _ => True

instance (state : WindowState) : Decidable (HasExpired state) := by
  unfold HasExpired
  split <;> infer_instance

instance (manager : CommitWindowManager) (call : WindowCall) :
    Decidable (EntersUnexpired manager call) := by
  unfold EntersUnexpired
  split <;> infer_instance

section Emergency

variable (floats : Floats) (manager : CommitWindowManager)

theorem expirySuspended_iff :
    ExpirySuspended manager ↔ (manager.emergency = true → ¬HasExpired manager.state) := by
  unfold ExpirySuspended
  refine imp_congr_right fun hemergency => ?_
  cases hstate : manager.state with
  | Idle => simp [checkExpired, hstate, HasExpired]
  | Open openedAt deadline => simp [checkExpired, hstate, hemergency, HasExpired]
  | Expired openedAt expiredAt => simp [checkExpired, hstate, HasExpired]

theorem checkExpired_suspended (now : DateTime) (hsuspended : ExpirySuspended manager) :
    ExpirySuspended (manager.checkExpired now).1 := by
  cases hemergency : manager.emergency with
  | true =>
    rw [hsuspended hemergency now]
    exact hsuspended
  | false =>
    have hafter : (manager.checkExpired now).1.emergency = false := by
      unfold checkExpired
      split
      · split <;> exact hemergency
      · exact hemergency
      · exact hemergency
    exact fun h => absurd (hafter.symm.trans h) Bool.false_ne_true

theorem extend_suspended (additionalSeconds : UInt32) (hsuspended : ExpirySuspended manager) :
    ExpirySuspended (manager.extend additionalSeconds) := by
  unfold CommitWindowManager.extend
  split
  · rw [expirySuspended_iff]
    exact fun _ => not_false
  · exact hsuspended

theorem enterEmergency_suspended_iff (now : DateTime) :
    ExpirySuspended (manager.enterEmergency now) ↔ ¬HasExpired manager.state := by
  rw [expirySuspended_iff]
  cases hstate : manager.state <;> simp [enterEmergency, hstate, HasExpired]

theorem callNext_suspended_iff (call : WindowCall) (after : CommitWindowManager)
    (hsuspended : ExpirySuspended manager) (hnext : callNext floats manager call = some after) :
    ExpirySuspended after ↔ EntersUnexpired manager call := by
  cases hnext
  have hlive : ∀ after : CommitWindowManager, ¬HasExpired after.state → ExpirySuspended after :=
    fun after hstate => (expirySuspended_iff after).mpr fun _ => hstate
  cases call with
  | Open now driftMagnitude => exact iff_of_true (hlive _ not_false) trivial
  | CheckExpired now => exact iff_of_true (checkExpired_suspended manager now hsuspended) trivial
  | Commit => exact iff_of_true (hlive _ not_false) trivial
  | Rollback => exact iff_of_true (hlive _ not_false) trivial
  | RollbackWithCheck activeConsumers =>
    refine iff_of_true ?_ trivial
    simp only [WindowCall.run, rollbackWithCheck]
    split
    · exact hsuspended
    · exact hlive _ not_false
  | Extend additionalSeconds =>
    exact iff_of_true (extend_suspended manager additionalSeconds hsuspended) trivial
  | EnterEmergency now => exact enterEmergency_suspended_iff manager now
  | ExitEmergency => exact iff_of_true nofun trivial
  | UpdateConfig =>
    refine iff_of_true ?_ trivial
    rw [expirySuspended_iff] at hsuspended ⊢
    exact hsuspended

theorem emergency_suspends_iff (config : CommitWindowConfig) (calls : List WindowCall)
    (last : CommitWindowManager)
    (run : Run (callNext floats) Unrestricted (.new config) calls last) :
    (∀ before rest manager, calls = before ++ rest →
      Run (callNext floats) Unrestricted (.new config) before manager →
      ExpirySuspended manager) ↔
    Run (callNext floats) EntersUnexpired (.new config) calls last :=
  run.always_iff ExpirySuspended (callNext_suspended_iff floats) nofun

end Emergency

def hourly : Floats := ⟨fun _ _ _ => 3600⟩

def hourlyConfig : CommitWindowConfig := ⟨3600, ⟨0⟩, 14400⟩

def emergencyFromOpen : List WindowCall :=
  [.Open 0 ⟨0⟩, .EnterEmergency (DateTime.seconds 60), .CheckExpired (DateTime.seconds 20000)]

theorem emergency_suspends_open :
    Run (callNext hourly) Unrestricted (.new hourlyConfig) emergencyFromOpen
        ⟨hourlyConfig, .Open (DateTime.seconds 60) (DateTime.seconds 14460), true⟩ ∧
    ∀ before rest manager, emergencyFromOpen = before ++ rest →
      Run (callNext hourly) Unrestricted (.new hourlyConfig) before manager →
      ExpirySuspended manager := by
  have hrun : Run (callNext hourly) EntersUnexpired (.new hourlyConfig) emergencyFromOpen
      ⟨hourlyConfig, .Open (DateTime.seconds 60) (DateTime.seconds 14460), true⟩ :=
    run_of_execWhere _ _ _ _ _ (by decide +kernel)
  exact ⟨hrun.unrestricted,
    (emergency_suspends_iff hourly hourlyConfig _ _ hrun.unrestricted).mpr hrun⟩

def expiredThenEmergency : List WindowCall :=
  [.Open 0 ⟨0⟩, .CheckExpired (DateTime.seconds 3600), .EnterEmergency (DateTime.seconds 3601)]

-- The window is found expired before the emergency begins, and goes on to be reported so in it.
theorem expired_window_in_emergency :
    exec (callNext hourly) (.new hourlyConfig) expiredThenEmergency =
      some ⟨hourlyConfig, .Expired 0 (DateTime.seconds 3600), true⟩ ∧
    ∀ now, (checkExpired now
      ⟨hourlyConfig, .Expired 0 (DateTime.seconds 3600), true⟩).2 = true := by
  refine ⟨?_, ?_⟩
  · decide +kernel
  · exact fun _ => rfl

end Pact.Agent
