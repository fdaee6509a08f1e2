import Pact.Journal.RateLimiter

namespace Pact.Journal

open Pact.Library

-- How many tokens there are, however they are kept: an address without a bucket has a full one.
@[ext]
structure Levels where
  shared : ℚ
  own : IpAddr → ℚ

structure Limits where
  shared : ℚ
  own : ℚ
  shared_nonneg : 0 ≤ shared
  own_nonneg : 0 ≤ own

namespace Levels

def advance (limits : Limits) (elapsed : ℚ) (levels : Levels) : Levels where
  shared := refill limits.shared (limits.shared / 60) elapsed levels.shared
  own := fun ip => refill limits.own (limits.own / 60) elapsed (levels.own ip)

def serve (call : LimiterCall) (levels : Levels) : Levels × Option Bool :=
  match call with
  | .TryAcquire =>
    if 1 ≤ levels.shared then ({ levels with shared := levels.shared - 1 }, some true)
    else (levels, some false)
  | .TryAcquireForIp ip =>
    if 1 ≤ levels.shared then
      if 1 ≤ levels.own ip then
        (⟨levels.shared - 1, Function.update levels.own ip (levels.own ip - 1)⟩, some true)
      else ({ levels with shared := levels.shared - 1 }, some false)
    else (levels, some false)
  | .CleanupStale => (levels, none)

end Levels

structure TimedLevels where
  levels : Levels
  clock : ℚ

section Levels

variable (limits : Limits)

theorem Limits.sharedRate_nonneg : 0 ≤ limits.shared / 60 :=
  div_nonneg limits.shared_nonneg (by norm_num)

theorem Limits.ownRate_nonneg : 0 ≤ limits.own / 60 := div_nonneg limits.own_nonneg (by norm_num)

def TimedLevels.now (state : TimedLevels) (now : ℚ) : Levels :=
  state.levels.advance limits (now - state.clock)

def levelNext (state : TimedLevels) (step : LimiterStep) : Option TimedLevels :=
  if state.clock ≤ step.now then some ⟨((state.now limits step.now).serve step.call).1, step.now⟩
  else none

def levelReply (state : TimedLevels) (step : LimiterStep) : List (LimiterStep × Bool) :=
  reply step ((state.now limits step.now).serve step.call).2

variable {limits} in
theorem levelNext_eq_some_iff {state after : TimedLevels} {step : LimiterStep} :
    levelNext limits state step = some after ↔ state.clock ≤ step.now ∧
      ⟨((state.now limits step.now).serve step.call).1, step.now⟩ = after := by
  rw [levelNext, Option.ite_none_right_eq_some, Option.some.injEq]

theorem Levels.advance_advance (elapsed more : ℚ) (hmore : 0 ≤ more) (levels : Levels) :
    (levels.advance limits elapsed).advance limits more = levels.advance limits (elapsed + more) := by
  ext
  · exact refill_refill more limits.sharedRate_nonneg hmore
  · exact refill_refill more limits.ownRate_nonneg hmore

theorem TimedLevels.now_now (state : TimedLevels) (first later : ℚ) (hlater : first ≤ later) :
    TimedLevels.now limits ⟨state.now limits first, first⟩ later = state.now limits later := by
  rw [TimedLevels.now, TimedLevels.now,
    Levels.advance_advance limits _ _ (sub_nonneg.mpr hlater), TimedLevels.now]
  congr 1
  ring

end Levels

-- A bucket of the given capacity that has been looked at before.
structure Bucket.Valid (capacity clock : ℚ) (bucket : Bucket) : Prop where
  maxTokens : bucket.maxTokens = capacity
  refillRate : bucket.refillRate = capacity / 60
  nonneg : 0 ≤ bucket.tokens
  le : bucket.tokens ≤ capacity
  last : bucket.lastRefill ≤ clock

namespace Bucket.Valid

variable {capacity clock : ℚ} {bucket : Bucket}

theorem new (hcapacity : 0 ≤ capacity) : (Bucket.new capacity clock).Valid capacity clock :=
  ⟨rfl, rfl, hcapacity, le_rfl, le_rfl⟩

theorem later (h : bucket.Valid capacity clock) (now : ℚ) (hnow : clock ≤ now) :
    bucket.Valid capacity now :=
  ⟨h.maxTokens, h.refillRate, h.nonneg, h.le, h.last.trans hnow⟩

theorem refilled_eq (h : bucket.Valid capacity clock) :
    bucket.refilled clock =
      refill capacity (capacity / 60) (clock - bucket.lastRefill) bucket.tokens := by
  have helapsed : bucket.elapsed clock = clock - bucket.lastRefill :=
    max_eq_left (sub_nonneg.mpr h.last)
  rw [refilled, helapsed, h.maxTokens, h.refillRate]

theorem refilled_later (h : bucket.Valid capacity clock) (hcapacity : 0 ≤ capacity) (now : ℚ)
    (hnow : clock ≤ now) :
    bucket.refilled now = refill capacity (capacity / 60) (now - clock) (bucket.refilled clock) := by
  have hrate : 0 ≤ capacity / 60 := div_nonneg hcapacity (by norm_num)
  rw [(h.later now hnow).refilled_eq, h.refilled_eq, refill_refill _ hrate (sub_nonneg.mpr hnow)]
  congr 1
  ring

theorem refilled_nonneg (h : bucket.Valid capacity clock) (hcapacity : 0 ≤ capacity) :
    0 ≤ bucket.refilled clock := by
  have hrate : 0 ≤ capacity / 60 := div_nonneg hcapacity (by norm_num)
  rw [h.refilled_eq]
  exact h.nonneg.trans (le_refill hrate (sub_nonneg.mpr h.last) h.le)

theorem refilled_le (h : bucket.Valid capacity clock) : bucket.refilled clock ≤ capacity := by
  rw [h.refilled_eq]
  exact refill_le

theorem refilled_of_stale (h : bucket.Valid capacity clock) (hcapacity : 0 ≤ capacity)
    (hstale : 300 ≤ (bucket.elapsed clock).floor) : bucket.refilled clock = capacity := by
  have hlong : (300 : ℚ) ≤ clock - bucket.lastRefill := by
    have helapsed : bucket.elapsed clock = clock - bucket.lastRefill :=
      max_eq_left (sub_nonneg.mpr h.last)
    rw [helapsed] at hstale
    exact_mod_cast Rat.le_floor_iff.mp hstale
  rw [h.refilled_eq]
  refine refill_eq_capacity h.nonneg ?_
  calc capacity ≤ 300 * (capacity / 60) := by linarith
    _ ≤ (clock - bucket.lastRefill) * (capacity / 60) := by gcongr

theorem refilled_now (h : bucket.Valid capacity clock) (tokens : ℚ) (hnonneg : 0 ≤ tokens)
    (hle : tokens ≤ capacity) :
    ({ bucket with tokens := tokens, lastRefill := clock } : Bucket).Valid capacity clock ∧
      ({ bucket with tokens := tokens, lastRefill := clock } : Bucket).refilled clock = tokens := by
  have hvalid : ({ bucket with tokens := tokens, lastRefill := clock } : Bucket).Valid capacity
      clock := ⟨h.maxTokens, h.refillRate, hnonneg, hle, le_rfl⟩
  refine ⟨hvalid, ?_⟩
  rw [hvalid.refilled_eq, sub_self, refill_zero hle]

end Bucket.Valid

inductive Acquired (capacity now : ℚ) (bucket : Bucket) : Bucket × Bool → Prop
  | Granted (after : Bucket) (hone : 1 ≤ bucket.refilled now) (hvalid : after.Valid capacity now)
      (htokens : after.tokens = bucket.refilled now - 1)
      (hlevel : after.refilled now = bucket.refilled now - 1) :
      Acquired capacity now bucket (after, true)
  | Refused (after : Bucket) (hnone : ¬1 ≤ bucket.refilled now) (hvalid : after.Valid capacity now)
      (htokens : after.tokens = bucket.refilled now)
      (hlevel : after.refilled now = bucket.refilled now) :
      Acquired capacity now bucket (after, false)

theorem Bucket.Valid.tryAcquire {capacity now : ℚ} {bucket : Bucket}
    (h : bucket.Valid capacity now) (hcapacity : 0 ≤ capacity) :
    Acquired capacity now bucket (bucket.tryAcquire now) := by
  have hle := h.refilled_le
  unfold Bucket.tryAcquire
  dsimp only
  split_ifs with hone
  · obtain ⟨hvalid, hlevel⟩ := h.refilled_now (bucket.refilled now - 1) (sub_nonneg.mpr hone)
      (by linarith)
    exact .Granted _ hone hvalid rfl hlevel
  · obtain ⟨hvalid, hlevel⟩ := h.refilled_now (bucket.refilled now) (h.refilled_nonneg hcapacity) hle
    exact .Refused _ hone hvalid rfl hlevel

structure RateLimiter.Valid (limits : Limits) (clock : ℚ) (limiter : RateLimiter) : Prop where
  global : limiter.global.Valid limits.shared clock
  perIpMax : limiter.perIpMax = limits.own
  perIp : ∀ ip bucket, limiter.perIp ip = some bucket → bucket.Valid limits.own clock

def RateLimiter.levels (now : ℚ) (limiter : RateLimiter) : Levels where
  shared := limiter.global.refilled now
  own := fun ip => ((limiter.perIp ip).map (Bucket.refilled now)).getD limiter.perIpMax

section Refinement

variable {limits : Limits} {limiter : RateLimiter}

theorem RateLimiter.Valid.later {clock : ℚ} (h : limiter.Valid limits clock) (now : ℚ)
    (hnow : clock ≤ now) : limiter.Valid limits now :=
  ⟨h.global.later now hnow, h.perIpMax, fun ip bucket hget => (h.perIp ip bucket hget).later now hnow⟩

theorem RateLimiter.Valid.levels_later {clock : ℚ} (h : limiter.Valid limits clock) (now : ℚ)
    (hnow : clock ≤ now) :
    limiter.levels now = (limiter.levels clock).advance limits (now - clock) := by
  ext ip
  · exact h.global.refilled_later limits.shared_nonneg now hnow
  · simp only [RateLimiter.levels, Levels.advance]
    cases hget : limiter.perIp ip with
    | none =>
      rw [Option.map_none, Option.getD_none, Option.map_none, Option.getD_none, h.perIpMax,
        refill_capacity limits.ownRate_nonneg (sub_nonneg.mpr hnow)]
    | some bucket =>
      exact (h.perIp ip bucket hget).refilled_later limits.own_nonneg now hnow

variable {now : ℚ}

theorem RateLimiter.Valid.own (h : limiter.Valid limits now) (ip : IpAddr) :
    ((limiter.perIp ip).getD (.new limiter.perIpMax now)).Valid limits.own now ∧
      ((limiter.perIp ip).getD (.new limiter.perIpMax now)).refilled now =
        (limiter.levels now).own ip := by
  simp only [RateLimiter.levels]
  cases hget : limiter.perIp ip with
  | none =>
    have hnew : (Bucket.new limits.own now).Valid limits.own now := .new limits.own_nonneg
    rw [Option.getD_none, Option.map_none, Option.getD_none, h.perIpMax]
    refine ⟨hnew, ?_⟩
    rw [hnew.refilled_eq]
    exact refill_capacity limits.ownRate_nonneg (sub_nonneg.mpr le_rfl)
  | some bucket => exact ⟨h.perIp ip bucket hget, rfl⟩

theorem RateLimiter.levels_update (global bucket : Bucket) (ip : IpAddr) :
    RateLimiter.levels now { limiter with
        global := global, perIp := Function.update limiter.perIp ip (some bucket) } =
      ⟨global.refilled now,
        Function.update (limiter.levels now).own ip (bucket.refilled now)⟩ := by
  ext other
  · rfl
  · by_cases hother : other = ip
    · subst hother
      simp [RateLimiter.levels]
    · simp [RateLimiter.levels, hother]

theorem RateLimiter.Valid.update (h : limiter.Valid limits now) (global bucket : Bucket)
    (ip : IpAddr) (hglobal : global.Valid limits.shared now) (hbucket : bucket.Valid limits.own now) :
    RateLimiter.Valid limits now { limiter with
      global := global, perIp := Function.update limiter.perIp ip (some bucket) } := by
  refine ⟨hglobal, h.perIpMax, ?_⟩
  intro other found hget
  by_cases hother : other = ip
  · subst hother
    simp only [Function.update_self, Option.some.injEq] at hget
    exact hget ▸ hbucket
  · simp only [Function.update_of_ne hother] at hget
    exact h.perIp other found hget

theorem RateLimiter.Valid.cleanupStale (h : limiter.Valid limits now) :
    (limiter.cleanupStale now).Valid limits now ∧
      (limiter.cleanupStale now).levels now = limiter.levels now := by
  refine ⟨⟨h.global, h.perIpMax, ?_⟩, ?_⟩
  · intro ip bucket hget
    exact h.perIp ip bucket (Option.filter_eq_some_iff.mp hget).1
  · ext ip
    · rfl
    · simp only [RateLimiter.levels, RateLimiter.cleanupStale]
      cases hget : limiter.perIp ip with
      | none => rfl
      | some bucket =>
        by_cases hfresh : (bucket.elapsed now).floor < 300
        · simp [Option.filter, hfresh]
        · have hfull := (h.perIp ip bucket hget).refilled_of_stale limits.own_nonneg
            (not_lt.mp hfresh)
          simp [Option.filter, hfresh, hfull, h.perIpMax]

theorem RateLimiter.Valid.serve (call : LimiterCall) (h : limiter.Valid limits now) :
    (limiter.serve ⟨now, call⟩).1.Valid limits now ∧
      (limiter.serve ⟨now, call⟩).1.levels now = ((limiter.levels now).serve call).1 ∧
      (limiter.serve ⟨now, call⟩).2 = ((limiter.levels now).serve call).2 := by
  have hglobal := h.global.tryAcquire limits.shared_nonneg
  cases call with
  | TryAcquire =>
    simp only [RateLimiter.serve, RateLimiter.tryAcquire, Levels.serve]
    generalize limiter.global.tryAcquire now = result at hglobal ⊢
    cases hglobal with
    | Granted global hone hvalid _ hlevel =>
      rw [if_pos (show 1 ≤ (limiter.levels now).shared from hone)]
      exact ⟨⟨hvalid, h.perIpMax, h.perIp⟩, Levels.ext hlevel rfl, rfl⟩
    | Refused global hnone hvalid _ hlevel =>
      rw [if_neg (show ¬1 ≤ (limiter.levels now).shared from hnone)]
      exact ⟨⟨hvalid, h.perIpMax, h.perIp⟩, Levels.ext hlevel rfl, rfl⟩
  | TryAcquireForIp ip =>
    obtain ⟨hown, hlevelOwn⟩ := h.own ip
    have hacquired := hown.tryAcquire limits.own_nonneg
    simp only [RateLimiter.serve, RateLimiter.tryAcquireForIp, Levels.serve]
    generalize limiter.global.tryAcquire now = result at hglobal ⊢
    generalize (Bucket.tryAcquire now ((limiter.perIp ip).getD (.new limiter.perIpMax now))) =
      found at hacquired ⊢
    cases hglobal with
    | Granted global hone hvalid _ hlevel =>
      rw [if_pos (show 1 ≤ (limiter.levels now).shared from hone)]
      cases hacquired with
      | Granted bucket honeOwn hvalidOwn _ hlevelAfter =>
        rw [hlevelOwn] at honeOwn hlevelAfter
        rw [if_pos honeOwn]
        refine ⟨h.update global bucket ip hvalid hvalidOwn, ?_, rfl⟩
        dsimp only
        rw [if_pos rfl, RateLimiter.levels_update, hlevel, hlevelAfter]
        rfl
      | Refused bucket hnoneOwn hvalidOwn _ hlevelAfter =>
        rw [hlevelOwn] at hnoneOwn hlevelAfter
        rw [if_neg hnoneOwn]
        refine ⟨h.update global bucket ip hvalid hvalidOwn, ?_, rfl⟩
        dsimp only
        rw [if_pos rfl, RateLimiter.levels_update, hlevel, hlevelAfter,
          Function.update_eq_self]
        rfl
    | Refused global hnone hvalid _ hlevel =>
      rw [if_neg (show ¬1 ≤ (limiter.levels now).shared from hnone)]
      exact ⟨⟨hvalid, h.perIpMax, h.perIp⟩, Levels.ext hlevel rfl, rfl⟩
  | CleanupStale =>
    obtain ⟨hvalid, hlevels⟩ := h.cleanupStale
    exact ⟨hvalid, hlevels, rfl⟩

end Refinement

end Pact.Journal
