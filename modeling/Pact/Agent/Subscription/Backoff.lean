import Pact.Agent.Subscription
import Pact.Library.Arithmetic

namespace Pact.Agent.Subscription

open Pact.Library

-- on_disconnected with the panics that can end it.
def tryOnDisconnected (overflowChecks : Bool) (config : SubscriptionConfig)
    (state : SubscriptionState) : Option (SubscriptionState × Option Nat) := do
  let attempts ← wordResult overflowChecks 32 (state.reconnectAttempts + 1)
  let after := { state with connected := false, reconnectAttempts := attempts }
  if attempts > config.maxReconnectAttempts then some (after, none)
  else do
    let delay ← wordResult overflowChecks 64 (config.reconnectBaseMs * 2 ^ min attempts 10)
    some (after, some (min delay config.reconnectMaxMs))

-- What so many disconnects in a row return, if none of them panics.
def disconnects (overflowChecks : Bool) (config : SubscriptionConfig) :
    Nat → SubscriptionState → Option (List (Option Nat))
  | 0, _ => some []
  | calls + 1, state => do
      let (after, delay) ← tryOnDisconnected overflowChecks config state
      let later ← disconnects overflowChecks config calls after
      some (delay :: later)

def exactDelay (config : SubscriptionConfig) (attempt : Nat) : Nat :=
  min (config.reconnectBaseMs * 2 ^ min attempt 10) config.reconnectMaxMs

-- Once connected, the disconnects in a row return so many exact delays and then give up, whether
-- or not the build checks for overflow.
def BackoffWellBehaved (config : SubscriptionConfig) : Prop :=
  ∀ overflowChecks state, state.reconnectAttempts = 0 → ∃ delays : List Nat,
    disconnects overflowChecks config (config.maxReconnectAttempts + 1) state =
      some (delays.map some ++ [none]) ∧
    delays.length = config.maxReconnectAttempts ∧
    delays = (List.range config.maxReconnectAttempts).map
      (fun before => exactDelay config (before + 1)) ∧
    (∀ delay ∈ delays, delay ≤ config.reconnectMaxMs) ∧ delays.Pairwise (· ≤ ·)

-- The counter of the attempts can exceed their maximum, and the longest delay fits before it is
-- capped.
def BackoffFits (config : SubscriptionConfig) : Prop :=
  config.maxReconnectAttempts + 1 < 2 ^ 32 ∧
    (config.maxReconnectAttempts = 0 ∨
      config.reconnectBaseMs * 2 ^ min config.maxReconnectAttempts 10 < 2 ^ 64)

instance (config : SubscriptionConfig) : Decidable (BackoffFits config) :=
  inferInstanceAs (Decidable (_ ∧ (_ ∨ _)))

theorem tryOnDisconnected_unchecked (config : SubscriptionConfig) (state : SubscriptionState) :
    tryOnDisconnected false config state = some (onDisconnected config state) := by
  simp only [tryOnDisconnected, onDisconnected, wordResult_unchecked, Option.bind_eq_bind,
    Option.bind_some]
  split_ifs <;> rfl

section Disconnects

variable (overflowChecks : Bool) (config : SubscriptionConfig)

theorem product_le (attempt : Nat) (h : attempt ≤ config.maxReconnectAttempts) :
    config.reconnectBaseMs * 2 ^ min attempt 10 ≤
      config.reconnectBaseMs * 2 ^ min config.maxReconnectAttempts 10 := by
  have hexp : min attempt 10 ≤ min config.maxReconnectAttempts 10 := by omega
  exact Nat.mul_le_mul_left _ (Nat.pow_le_pow_right (by omega) hexp)

theorem exactDelay_mono (attempt later : Nat) (h : attempt ≤ later) :
    exactDelay config attempt ≤ exactDelay config later := by
  have hexp : min attempt 10 ≤ min later 10 := by omega
  have hproduct := Nat.mul_le_mul_left config.reconnectBaseMs
    (Nat.pow_le_pow_right (Nat.two_pos) hexp)
  simp only [exactDelay]
  omega

theorem tryOnDisconnected_retry (state : SubscriptionState) (hfits : BackoffFits config)
    (hmore : state.reconnectAttempts < config.maxReconnectAttempts) :
    tryOnDisconnected overflowChecks config state =
      some ({ state with connected := false, reconnectAttempts := state.reconnectAttempts + 1 },
        some (exactDelay config (state.reconnectAttempts + 1))) := by
  obtain ⟨hcount, hproduct⟩ := hfits
  have hle := product_le config (state.reconnectAttempts + 1) (by omega)
  have hattempts := wordResult_of_lt overflowChecks 32 (state.reconnectAttempts + 1) (by omega)
  have hdelay := wordResult_of_lt overflowChecks 64
    (config.reconnectBaseMs * 2 ^ min (state.reconnectAttempts + 1) 10)
    (Nat.lt_of_le_of_lt hle (hproduct.resolve_left (by omega)))
  simp only [tryOnDisconnected, hattempts, Option.bind_eq_bind, Option.bind_some, hdelay,
    if_neg (show ¬state.reconnectAttempts + 1 > config.maxReconnectAttempts by omega), exactDelay]

theorem tryOnDisconnected_giveUp (state : SubscriptionState) (hfits : BackoffFits config)
    (hlast : state.reconnectAttempts = config.maxReconnectAttempts) :
    tryOnDisconnected overflowChecks config state =
      some ({ state with connected := false, reconnectAttempts := state.reconnectAttempts + 1 },
        none) := by
  have hattempts := wordResult_of_lt overflowChecks 32 (state.reconnectAttempts + 1)
    (hlast ▸ hfits.1)
  simp only [tryOnDisconnected, hattempts, Option.bind_eq_bind, Option.bind_some,
    if_pos (show state.reconnectAttempts + 1 > config.maxReconnectAttempts by omega)]

theorem disconnects_eq (left : Nat) (state : SubscriptionState) (hfits : BackoffFits config)
    (hleft : state.reconnectAttempts + left = config.maxReconnectAttempts) :
    disconnects overflowChecks config (left + 1) state =
      some ((List.range left).map
        (fun before => some (exactDelay config (state.reconnectAttempts + before + 1))) ++
          [none]) := by
  induction left generalizing state with
  | zero =>
    have hcall := tryOnDisconnected_giveUp overflowChecks config state hfits hleft
    simp only [disconnects, hcall, Option.bind_eq_bind, Option.bind_some, List.range_zero,
      List.map_nil, List.nil_append]
  | succ left ih =>
    have hcall := tryOnDisconnected_retry overflowChecks config state hfits (by omega)
    have hlater := ih
      { state with connected := false, reconnectAttempts := state.reconnectAttempts + 1 }
      (by simp only; omega)
    rw [disconnects, hcall]
    simp only [Option.bind_eq_bind, Option.bind_some, hlater, List.range_succ_eq_map,
      List.map_cons, List.map_map, List.cons_append, Nat.add_zero, Option.some.injEq,
      List.cons.injEq, true_and, List.append_cancel_right_eq]
    refine List.map_congr_left fun before _ => ?_
    simp only [Function.comp_apply, Nat.succ_eq_add_one]
    congr 3
    omega

-- A build that checks comes through so many calls only where none of their results overflows.
theorem fits_of_disconnects (calls : Nat) (state : SubscriptionState)
    (results : List (Option Nat)) (h : disconnects true config calls state = some results)
    (before : Nat) (hbefore : before < calls) :
    state.reconnectAttempts + before + 1 < 2 ^ 32 ∧
      (state.reconnectAttempts + before + 1 ≤ config.maxReconnectAttempts →
        config.reconnectBaseMs * 2 ^ min (state.reconnectAttempts + before + 1) 10 < 2 ^ 64) := by
  induction calls generalizing state results before with
  | zero => omega
  | succ calls ih =>
    simp only [disconnects, Option.bind_eq_bind, Option.bind_eq_some_iff] at h
    obtain ⟨⟨after, delay⟩, hcall, later, hlater, -⟩ := h
    simp only [tryOnDisconnected, Option.bind_eq_bind, Option.bind_eq_some_iff] at hcall
    obtain ⟨attempts, hattempts, hcall⟩ := hcall
    have hcount : state.reconnectAttempts + 1 < 2 ^ 32 := by
      by_contra hover
      rw [wordResult_checked 32 _ (by omega)] at hattempts
      cases hattempts
    rw [wordResult_of_lt true 32 _ hcount, Option.some.injEq] at hattempts
    subst attempts
    have hafter : after.reconnectAttempts = state.reconnectAttempts + 1 := by
      split_ifs at hcall
      · cases hcall
        rfl
      · simp only [Option.bind_eq_some_iff, Option.some.injEq, Prod.mk.injEq] at hcall
        obtain ⟨-, -, rfl, -⟩ := hcall
        rfl
    cases before with
    | zero =>
      refine ⟨hcount, fun hretry => ?_⟩
      rw [if_neg (by omega)] at hcall
      by_contra hover
      rw [Nat.add_zero] at hover
      rw [wordResult_checked 64 _ (by omega)] at hcall
      cases hcall
    | succ before =>
      have hnext := ih after later hlater before (by omega)
      rw [hafter, Nat.add_right_comm _ 1 before] at hnext
      exact hnext

end Disconnects

theorem backoff_well_behaved_iff (config : SubscriptionConfig) :
    BackoffWellBehaved config ↔ BackoffFits config := by
  constructor
  · intro hwell
    obtain ⟨delays, hrun, -⟩ := hwell true .default rfl
    have hcalls := fits_of_disconnects config _ _ _ hrun
    refine ⟨?_, ?_⟩
    · have hlast := (hcalls config.maxReconnectAttempts (by omega)).1
      simpa only [SubscriptionState.default, Nat.zero_add] using hlast
    · by_cases hnone : config.maxReconnectAttempts = 0
      · exact Or.inl hnone
      · have hlast := (hcalls (config.maxReconnectAttempts - 1) (by omega)).2
        simp only [SubscriptionState.default, Nat.zero_add,
          Nat.sub_add_cancel (Nat.one_le_iff_ne_zero.mpr hnone)] at hlast
        exact Or.inr (hlast (Nat.le_refl _))
  · intro hfits overflowChecks state hconnected
    have hrun := disconnects_eq overflowChecks config config.maxReconnectAttempts state hfits
      (by omega)
    refine ⟨_, ?_, ?_, rfl, ?_, ?_⟩
    · simpa only [hconnected, Nat.zero_add, List.map_map, Function.comp_def] using hrun
    · simp only [List.length_map, List.length_range]
    · intro delay hdelay
      obtain ⟨before, -, rfl⟩ := List.mem_map.mp hdelay
      exact Nat.min_le_right _ _
    · rw [List.pairwise_map]
      refine List.Pairwise.imp (fun {before later} hlt => ?_) List.pairwise_lt_range
      exact exactDelay_mono config _ _ (by omega)

-- A base of 2^60 ms: the fourth delay wraps to nothing, or the build that checks panics. With the
-- greatest maximum, the counter wraps where the subscription ought to give up.
theorem backoff_wraps :
    disconnects false ⟨2 ^ 60, 2 ^ 63, 4⟩ 5 .default =
      some [some (2 ^ 61), some (2 ^ 62), some (2 ^ 63), some 0, none] ∧
    disconnects true ⟨2 ^ 60, 2 ^ 63, 4⟩ 5 .default = none ∧
    tryOnDisconnected false ⟨1000, 60000, 2 ^ 32 - 1⟩ ⟨0, 2 ^ 32 - 1, false⟩ =
      some (⟨0, 0, false⟩, some 1000) ∧
    tryOnDisconnected true ⟨1000, 60000, 2 ^ 32 - 1⟩ ⟨0, 2 ^ 32 - 1, false⟩ = none := by
  refine ⟨?_, ?_, ?_, ?_⟩ <;> decide +kernel

example : BackoffFits .default := by decide +kernel

end Pact.Agent.Subscription
