import Pact.Agent.Commit

namespace Pact.Agent

open Pact.Common CommitWindowManager

-- The last instant that a DateTime can hold: the end of the year 262142.
def maxUtc : DateTime := DateTime.seconds 8210266876799 + 999999999

-- None stands for a panic: of the product where overflow is checked, which it is not in a release
-- build, or of the sum that gives the new deadline.
def timesSixty (overflowChecks : Bool) (minutes : UInt32) : Option UInt32 :=
  if overflowChecks ∧ minutes.toNat * 60 ≥ 2 ^ 32 then none else some (minutes * 60)

def tryExtend (additionalSeconds : UInt32) (manager : CommitWindowManager) :
    Option CommitWindowManager :=
  match manager.state with
  | .Open _ deadline =>
    if deadline + DateTime.seconds additionalSeconds.toNat ≤ maxUtc then
      some (manager.extend additionalSeconds)
    else none
  | _ => some manager

-- The same request with the panics that can end it.
def tryExtendCommitWindow (overflowChecks : Bool) (now : DateTime) (additionalMinutes : UInt32)
    (manager : CommitWindowManager) : Option (CommitWindowManager × ExtendWindowResponse) :=
  if additionalMinutes = 0 then
    some (manager, ⟨false, 0, some "additional_minutes must be > 0"⟩)
  else do
    let additionalSeconds ← timesSixty overflowChecks additionalMinutes
    let extended ← tryExtend additionalSeconds manager
    some (extended, ⟨true, extended.secondsRemaining now, none⟩)

-- The whole seconds from an instant to a deadline, of which there are none once it is past.
def wholeSecondsUntil (now deadline : DateTime) : Nat :=
  ((deadline - now) / DateTime.seconds 1).toNat

-- The request returns, and where it reports success, the deadline of an open window has moved by
-- the minutes asked for, and the seconds in the answer are those that are left.
def AsReported (overflowChecks : Bool) (now : DateTime) (additionalMinutes : UInt32)
    (manager : CommitWindowManager) : Prop :=
  ∃ after response,
    tryExtendCommitWindow overflowChecks now additionalMinutes manager = some (after, response) ∧
    (response.success = true →
      ∃ openedAt deadline, manager.state = .Open openedAt deadline ∧
        after.state =
          .Open openedAt (deadline + DateTime.seconds (60 * additionalMinutes.toNat)) ∧
        response.newDeadlineSeconds.toNat =
          wholeSecondsUntil now (deadline + DateTime.seconds (60 * additionalMinutes.toNat)))

-- The product fits u32, the new deadline is a date, and the seconds left fit u32.
def Extendable (now : DateTime) (additionalMinutes : UInt32) : WindowState → Prop
  | .Open _ deadline =>
    let moved := deadline + DateTime.seconds (60 * additionalMinutes.toNat)
    additionalMinutes.toNat * 60 < 2 ^ 32 ∧ moved ≤ maxUtc ∧ wholeSecondsUntil now moved < 2 ^ 32
  | _ => False

instance (now : DateTime) (additionalMinutes : UInt32) (state : WindowState) :
    Decidable (Extendable now additionalMinutes state) := by
  unfold Extendable
  split <;> infer_instance

section Extension

variable (overflowChecks : Bool) (now : DateTime) (additionalMinutes : UInt32)
  (manager : CommitWindowManager)

theorem tryExtend_eq (additionalSeconds : UInt32) (extended : CommitWindowManager)
    (hextend : tryExtend additionalSeconds manager = some extended) :
    extended = manager.extend additionalSeconds := by
  unfold tryExtend at hextend
  unfold CommitWindowManager.extend
  cases hstate : manager.state with
  | Open openedAt deadline =>
    simp only [hstate, Option.ite_none_right_eq_some, Option.some.injEq] at hextend
    simp only [← hextend.2, CommitWindowManager.extend, hstate]
  | _ =>
    simp only [hstate, Option.some.injEq] at hextend
    exact hextend.symm

theorem tryExtend_open (openedAt deadline : DateTime) (additionalSeconds : UInt32)
    (hstate : manager.state = .Open openedAt deadline) :
    tryExtend additionalSeconds manager =
      if deadline + DateTime.seconds additionalSeconds.toNat ≤ maxUtc then
        some { manager with
          state := .Open openedAt (deadline + DateTime.seconds additionalSeconds.toNat) }
      else none := by
  simp only [tryExtend, CommitWindowManager.extend, hstate]

theorem tryExtendCommitWindow_eq_some_iff (hminutes : additionalMinutes ≠ 0)
    (after : CommitWindowManager) (response : ExtendWindowResponse) :
    tryExtendCommitWindow overflowChecks now additionalMinutes manager = some (after, response) ↔
      (overflowChecks = true → additionalMinutes.toNat * 60 < 2 ^ 32) ∧
        tryExtend (additionalMinutes * 60) manager = some after ∧
        response = ⟨true, after.secondsRemaining now, none⟩ := by
  simp only [tryExtendCommitWindow, if_neg hminutes, timesSixty, Option.bind_eq_bind,
    Option.bind_eq_some_iff, Option.ite_none_left_eq_some, Option.some.injEq, Prod.mk.injEq]
  constructor
  · rintro ⟨_, ⟨hfits, rfl⟩, _, hextend, rfl, rfl⟩
    exact ⟨fun hchecks => by simpa [hchecks] using hfits, hextend, rfl⟩
  · rintro ⟨hfits, hextend, rfl⟩
    refine ⟨_, ⟨?_, rfl⟩, after, hextend, rfl, rfl⟩
    rintro ⟨hchecks, hlarge⟩
    exact absurd (hfits hchecks) (Nat.not_lt.mpr hlarge)

theorem tryExtendCommitWindow_eq (result : CommitWindowManager × ExtendWindowResponse)
    (hresult : tryExtendCommitWindow overflowChecks now additionalMinutes manager = some result) :
    result = extendCommitWindow now additionalMinutes manager := by
  by_cases hminutes : additionalMinutes = 0
  · simp only [tryExtendCommitWindow, if_pos hminutes, Option.some.injEq] at hresult
    simp only [extendCommitWindow, if_pos hminutes, hresult]
  · obtain ⟨after, response⟩ := result
    obtain ⟨_, hextend, rfl⟩ := (tryExtendCommitWindow_eq_some_iff overflowChecks now
      additionalMinutes manager hminutes after response).mp hresult
    obtain rfl := tryExtend_eq manager _ after hextend
    simp only [extendCommitWindow, if_neg hminutes]

theorem timesSixty_toNat_iff :
    (additionalMinutes * 60).toNat = 60 * additionalMinutes.toNat ↔
      additionalMinutes.toNat * 60 < 2 ^ 32 := by
  have hproduct : (additionalMinutes * 60).toNat = additionalMinutes.toNat * 60 % 2 ^ 32 :=
    UInt32.toNat_mul _ _
  omega

theorem seconds_injective (count other : Int) (h : DateTime.seconds count = DateTime.seconds other) :
    count = other := by
  unfold DateTime.seconds at h
  omega

theorem secondsRemaining_open (openedAt deadline : DateTime)
    (hstate : manager.state = .Open openedAt deadline) :
    (manager.secondsRemaining now).toNat = wholeSecondsUntil now deadline % 2 ^ 32 := by
  have htruncated : ((deadline - now).tdiv (DateTime.seconds 1)).toNat =
      wholeSecondsUntil now deadline := by
    unfold wholeSecondsUntil
    rcases Int.le_total 0 (deadline - now) with hleft | hpast
    · rw [Int.tdiv_eq_ediv_of_nonneg hleft]
    · have hgone : 0 ≤ (-(deadline - now)).tdiv (DateTime.seconds 1) :=
        Int.tdiv_nonneg (Int.neg_nonneg_of_nonpos hpast) (by decide)
      rw [Int.neg_tdiv, Int.neg_nonneg] at hgone
      have hfloor : (deadline - now) / DateTime.seconds 1 ≤ 0 :=
        Int.ediv_nonpos_of_nonpos_of_neg hpast (by decide)
      rw [Int.toNat_of_nonpos hgone, Int.toNat_of_nonpos hfloor]
  simp only [secondsRemaining, hstate, htruncated, UInt32.toNat_ofNat']

theorem extendable_of_asReported (hminutes : additionalMinutes ≠ 0)
    (hreported : AsReported overflowChecks now additionalMinutes manager) :
    Extendable now additionalMinutes manager.state := by
  obtain ⟨after, response, hresult, hreported⟩ := hreported
  obtain ⟨_, hextend, rfl⟩ := (tryExtendCommitWindow_eq_some_iff overflowChecks now
    additionalMinutes manager hminutes after response).mp hresult
  obtain ⟨openedAt, deadline, hstate, hafter, hseconds⟩ := hreported rfl
  rw [tryExtend_open manager openedAt deadline _ hstate, Option.ite_none_right_eq_some,
    Option.some.injEq] at hextend
  obtain ⟨hdate, rfl⟩ := hextend
  have hproduct := seconds_injective _ _ (Int.add_left_cancel (WindowState.Open.inj hafter).2)
  rw [hstate]
  refine ⟨(timesSixty_toNat_iff additionalMinutes).mp (by exact_mod_cast hproduct), ?_, ?_⟩
  · rwa [hproduct] at hdate
  · rw [← hseconds]
    exact UInt32.toNat_lt _

theorem asReported_of_extendable (openedAt deadline : DateTime) (hminutes : additionalMinutes ≠ 0)
    (hstate : manager.state = .Open openedAt deadline)
    (hextendable : Extendable now additionalMinutes (.Open openedAt deadline)) :
    AsReported overflowChecks now additionalMinutes manager := by
  obtain ⟨hfits, hdate, hseconds⟩ := hextendable
  have hproduct : ((additionalMinutes * 60).toNat : Int) = 60 * additionalMinutes.toNat := by
    exact_mod_cast (timesSixty_toNat_iff additionalMinutes).mpr hfits
  have hextend := tryExtend_open manager openedAt deadline (additionalMinutes * 60) hstate
  rw [hproduct, if_pos hdate] at hextend
  refine ⟨_, _, (tryExtendCommitWindow_eq_some_iff overflowChecks now additionalMinutes manager
    hminutes _ _).mpr ⟨fun _ => hfits, hextend, rfl⟩, fun _ => ?_⟩
  refine ⟨openedAt, deadline, hstate, rfl, ?_⟩
  rw [secondsRemaining_open now _ openedAt _ rfl, Nat.mod_eq_of_lt hseconds]

theorem extension_as_reported_iff :
    AsReported overflowChecks now additionalMinutes manager ↔
      additionalMinutes = 0 ∨ Extendable now additionalMinutes manager.state := by
  by_cases hminutes : additionalMinutes = 0
  · refine iff_of_true ⟨manager, ⟨false, 0, some "additional_minutes must be > 0"⟩, ?_, nofun⟩
      (.inl hminutes)
    simp only [tryExtendCommitWindow, if_pos hminutes]
  · rw [or_iff_right hminutes]
    refine ⟨extendable_of_asReported overflowChecks now additionalMinutes manager hminutes, ?_⟩
    intro hextendable
    cases hstate : manager.state with
    | Open openedAt deadline =>
      rw [hstate] at hextendable
      exact asReported_of_extendable overflowChecks now additionalMinutes manager openedAt deadline
        hminutes hstate hextendable
    | _ =>
      rw [hstate] at hextendable
      exact hextendable.elim

end Extension

def openUntil (deadline : DateTime) : CommitWindowManager :=
  ⟨⟨900, ⟨0⟩, 14400⟩, .Open 0 deadline, false⟩

def neverOpened : CommitWindowManager := .new ⟨900, ⟨0⟩, 14400⟩

-- Success is reported without an open window. And 71582789 minutes are 44 seconds more than u32
-- counts: a release build moves the deadline by 44 seconds, a build with checks panics.
theorem extension_misreported :
    tryExtendCommitWindow false 0 1 neverOpened = some (neverOpened, ⟨true, 0, none⟩) ∧
    ¬AsReported false 0 1 neverOpened ∧
    tryExtendCommitWindow false 0 71582789 (openUntil (DateTime.seconds 900)) =
      some (openUntil (DateTime.seconds 944), ⟨true, 944, none⟩) ∧
    ¬AsReported false 0 71582789 (openUntil (DateTime.seconds 900)) ∧
    tryExtendCommitWindow true 0 71582789 (openUntil (DateTime.seconds 900)) = none := by
  have hidle : tryExtendCommitWindow false 0 1 neverOpened =
      some (neverOpened, ⟨true, 0, none⟩) := by decide +kernel
  have hwrapped : tryExtendCommitWindow false 0 71582789 (openUntil (DateTime.seconds 900)) =
      some (openUntil (DateTime.seconds 944), ⟨true, 944, none⟩) := by decide +kernel
  refine ⟨hidle, ?_, hwrapped, ?_, by decide +kernel⟩
  · rintro ⟨after, response, hresult, hreported⟩
    rw [hidle] at hresult
    cases hresult
    obtain ⟨openedAt, deadline, hstate, _⟩ := hreported rfl
    cases hstate
  · rintro ⟨after, response, hresult, hreported⟩
    rw [hwrapped] at hresult
    cases hresult
    obtain ⟨openedAt, deadline, hstate, hafter, _⟩ := hreported rfl
    obtain ⟨rfl, rfl⟩ := WindowState.Open.inj hstate
    exact absurd hafter (by decide +kernel)

end Pact.Agent
