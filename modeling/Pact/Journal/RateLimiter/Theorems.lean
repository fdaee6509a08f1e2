import Pact.Journal.RateLimiter.Lemmas

namespace Pact.Journal

open Pact.Library

def limitsOf (globalPerMinute : Nat) : Limits where
  shared := globalPerMinute
  own := max (globalPerMinute / 10) 5
  shared_nonneg := Nat.cast_nonneg globalPerMinute
  own_nonneg := le_max_of_le_right (by norm_num)

def TimedLimiter.levels (state : TimedLimiter) : TimedLevels :=
  ⟨state.limiter.levels state.clock, state.clock⟩

section Refinement

variable {limits : Limits} {state after : TimedLimiter} {step : LimiterStep}

theorem limiterNext_eq_some_iff : limiterNext state step = some after ↔
    state.clock ≤ step.now ∧ ⟨(state.limiter.serve step).1, step.now⟩ = after := by
  rw [limiterNext, Option.ite_none_right_eq_some, Option.some.injEq]

theorem levels_now (hvalid : state.limiter.Valid limits state.clock) {now : ℚ}
    (hle : state.clock ≤ now) : state.levels.now limits now = state.limiter.levels now :=
  (hvalid.levels_later now hle).symm

theorem limiterNext_valid (hvalid : state.limiter.Valid limits state.clock)
    (hnext : limiterNext state step = some after) : after.limiter.Valid limits after.clock := by
  obtain ⟨hle, rfl⟩ := limiterNext_eq_some_iff.mp hnext
  exact ((hvalid.later step.now hle).serve step.call).1

theorem limiterNext_levels (hvalid : state.limiter.Valid limits state.clock) (step : LimiterStep) :
    levelNext limits state.levels step = (limiterNext state step).map TimedLimiter.levels := by
  by_cases hle : state.clock ≤ step.now
  · obtain ⟨_, hserved, _⟩ := (hvalid.later step.now hle).serve step.call
    rw [levelNext, if_pos (show state.levels.clock ≤ step.now from hle), levels_now hvalid hle,
      ← hserved, limiterNext, if_pos hle]
    rfl
  · rw [levelNext, if_neg (show ¬state.levels.clock ≤ step.now from hle), limiterNext, if_neg hle]
    rfl

theorem limiterReply_levels (hvalid : state.limiter.Valid limits state.clock)
    (hnext : limiterNext state step = some after) :
    limiterReply state step = levelReply limits state.levels step := by
  obtain ⟨hle, _⟩ := limiterNext_eq_some_iff.mp hnext
  obtain ⟨_, _, hanswer⟩ := (hvalid.later step.now hle).serve step.call
  rw [limiterReply, levelReply, levels_now hvalid hle, ← hanswer]

theorem answers_eq_levels (hvalid : state.limiter.Valid limits state.clock)
    (steps : List LimiterStep) :
    answers state steps = trace (levelNext limits) (levelReply limits) state.levels steps :=
  trace_image (fun state => state.limiter.Valid limits state.clock) TimedLimiter.levels
    (fun _ _ _ => limiterNext_valid) (fun _ step h => limiterNext_levels h step)
    (fun _ _ _ => limiterReply_levels) hvalid steps

theorem run_levels {allowed : TimedLimiter → LimiterStep → Prop}
    {permitted : TimedLevels → LimiterStep → Prop} {steps : List LimiterStep} {last : TimedLimiter}
    (hpermitted : ∀ state step after, state.limiter.Valid limits state.clock → allowed state step →
      limiterNext state step = some after → permitted state.levels step)
    (hvalid : state.limiter.Valid limits state.clock)
    (run : Run limiterNext allowed state steps last) :
    Run (levelNext limits) permitted state.levels steps last.levels :=
  run.image (fun state => state.limiter.Valid limits state.clock) TimedLimiter.levels
    (fun _ _ _ => limiterNext_valid) (fun _ step h => limiterNext_levels h step) hpermitted hvalid

theorem run_valid {steps : List LimiterStep} {last : TimedLimiter}
    (hvalid : state.limiter.Valid limits state.clock)
    (run : Run limiterNext Unrestricted state steps last) :
    last.limiter.Valid limits last.clock :=
  run.invariant (fun state => state.limiter.Valid limits state.clock)
    (fun _ _ _ h _ hnext => limiterNext_valid h hnext) hvalid

theorem exists_run_of_sorted (state : TimedLimiter) (steps : List LimiterStep)
    (hsorted : (state.clock :: steps.map LimiterStep.now).Pairwise (· ≤ ·)) :
    ∃ last, Run limiterNext Unrestricted state steps last := by
  induction steps generalizing state with
  | nil => exact ⟨state, .nil state⟩
  | cons step rest ih =>
    rw [List.map_cons, List.pairwise_cons] at hsorted
    have hnext : limiterNext state step = some ⟨(state.limiter.serve step).1, step.now⟩ :=
      limiterNext_eq_some_iff.mpr ⟨hsorted.1 step.now List.mem_cons_self, rfl⟩
    obtain ⟨last, hrest⟩ := ih ⟨(state.limiter.serve step).1, step.now⟩ hsorted.2
    exact ⟨last, .cons trivial hnext hrest⟩

theorem TimedLimiter.valid_new (globalPerMinute : Nat) (now : ℚ) :
    (TimedLimiter.new globalPerMinute now).limiter.Valid (limitsOf globalPerMinute) now :=
  ⟨.new (limitsOf globalPerMinute).shared_nonneg, rfl, nofun⟩

theorem Bucket.refilled_new (capacity now : ℚ) (hcapacity : 0 ≤ capacity) :
    (Bucket.new capacity now).refilled now = capacity := by
  have hvalid : (Bucket.new capacity now).Valid capacity now := .new hcapacity
  rw [hvalid.refilled_eq]
  exact refill_capacity (div_nonneg hcapacity (by norm_num)) (sub_nonneg.mpr le_rfl)

theorem TimedLimiter.levels_new (globalPerMinute : Nat) (now : ℚ) :
    (TimedLimiter.new globalPerMinute now).levels =
      ⟨⟨(limitsOf globalPerMinute).shared, fun _ => (limitsOf globalPerMinute).own⟩, now⟩ := by
  have hshared := Bucket.refilled_new globalPerMinute now (Nat.cast_nonneg globalPerMinute)
  exact congrArg (fun shared => TimedLevels.mk ⟨shared, _⟩ now) hshared

end Refinement

section Rate

def acceptedAt (counts : LimiterCall → Bool) (replies : List (LimiterStep × Bool)) : List ℚ :=
  (replies.filter fun reply => reply.2 && counts reply.1.call).map fun reply => reply.1.now

def forIp (ip : IpAddr) (call : LimiterCall) : Bool := call = .TryAcquireForIp ip

def anyCall (_ : LimiterCall) : Bool := true

structure LevelsRationed (limits : Limits) (replies : List (LimiterStep × Bool))
    (state : TimedLevels) : Prop where
  shared : Rationed limits.shared (limits.shared / 60) (acceptedAt anyCall replies) state.clock
    state.levels.shared
  own : ∀ ip, Rationed limits.own (limits.own / 60) (acceptedAt (forIp ip) replies) state.clock
    (state.levels.own ip)

variable {limits : Limits} {replies : List (LimiterStep × Bool)}

theorem acceptedAt_append (counts : LimiterCall → Bool) (more : List (LimiterStep × Bool)) :
    acceptedAt counts (replies ++ more) = acceptedAt counts replies ++ acceptedAt counts more := by
  simp only [acceptedAt, List.filter_append, List.map_append]

theorem acceptedAt_refused (counts : LimiterCall → Bool) (step : LimiterStep) :
    acceptedAt counts (replies ++ reply step (some false)) = acceptedAt counts replies := by
  rw [acceptedAt_append]
  simp [acceptedAt, reply]

theorem acceptedAt_granted (counts : LimiterCall → Bool) (now : ℚ) (call : LimiterCall) :
    acceptedAt counts (replies ++ reply ⟨now, call⟩ (some true)) =
      if counts call then acceptedAt counts replies ++ [now] else acceptedAt counts replies := by
  rw [acceptedAt_append]
  by_cases hcounts : counts call = true <;> simp [acceptedAt, reply, hcounts]

theorem LevelsRationed.now {state : TimedLevels} (h : LevelsRationed limits replies state) (now : ℚ)
    (hnow : state.clock ≤ now) : LevelsRationed limits replies ⟨state.now limits now, now⟩ :=
  ⟨h.shared.refilled limits.sharedRate_nonneg now hnow,
    fun ip => (h.own ip).refilled limits.ownRate_nonneg now hnow⟩

theorem LevelsRationed.refused {state : TimedLevels} (h : LevelsRationed limits replies state)
    (step : LimiterStep) : LevelsRationed limits (replies ++ reply step (some false)) state := by
  refine ⟨?_, ?_⟩
  · rw [acceptedAt_refused]
    exact h.shared
  · intro ip
    rw [acceptedAt_refused]
    exact h.own ip

theorem LevelsRationed.serve {levels : Levels} {now : ℚ} (call : LimiterCall)
    (h : LevelsRationed limits replies ⟨levels, now⟩) :
    LevelsRationed limits (replies ++ reply ⟨now, call⟩ (levels.serve call).2)
      ⟨(levels.serve call).1, now⟩ := by
  have hshared := h.shared
  have hown := h.own
  cases call with
  | TryAcquire =>
    by_cases hone : 1 ≤ levels.shared
    · simp only [Levels.serve, if_pos hone]
      refine ⟨?_, ?_⟩
      · rw [acceptedAt_granted]
        exact hshared.spent limits.sharedRate_nonneg hone
      · intro ip
        rw [acceptedAt_granted]
        exact hown ip
    · simp only [Levels.serve, if_neg hone]
      exact h.refused _
  | TryAcquireForIp source =>
    by_cases hone : 1 ≤ levels.shared
    · by_cases honeOwn : 1 ≤ levels.own source
      · simp only [Levels.serve, if_pos hone, if_pos honeOwn]
        refine ⟨?_, ?_⟩
        · rw [acceptedAt_granted]
          exact hshared.spent limits.sharedRate_nonneg hone
        · intro ip
          rw [acceptedAt_granted]
          by_cases hip : ip = source
          · subst hip
            simpa [forIp] using (hown ip).spent limits.ownRate_nonneg honeOwn
          · simpa [forIp, Ne.symm hip, hip] using hown ip
      · have hlowered : LevelsRationed limits replies
            ⟨{ levels with shared := levels.shared - 1 }, now⟩ :=
          ⟨hshared.lowered _ (sub_nonneg.mpr hone) (sub_le_self _ zero_le_one), hown⟩
        simp only [Levels.serve, if_pos hone, if_neg honeOwn]
        exact hlowered.refused _
    · simp only [Levels.serve, if_neg hone]
      exact h.refused _
  | CleanupStale =>
    simp only [Levels.serve, reply, Option.map_none, Option.toList_none, List.append_nil]
    exact h

theorem LevelsRationed.next {state after : TimedLevels} {step : LimiterStep}
    (h : LevelsRationed limits replies state) (hnext : levelNext limits state step = some after) :
    LevelsRationed limits (replies ++ levelReply limits state step) after := by
  obtain ⟨hle, rfl⟩ := levelNext_eq_some_iff.mp hnext
  exact (h.now step.now hle).serve step.call

theorem levelsRationed_full (limits : Limits) (start : ℚ) :
    LevelsRationed limits [] ⟨⟨limits.shared, fun _ => limits.own⟩, start⟩ :=
  ⟨.full limits.shared_nonneg limits.sharedRate_nonneg,
    fun _ => .full limits.own_nonneg limits.ownRate_nonneg⟩

theorem limiter_rationed (globalPerMinute : Nat) (start : ℚ) (steps : List LimiterStep)
    (last : TimedLimiter)
    (run : Run limiterNext Unrestricted (.new globalPerMinute start) steps last) :
    last.limiter.Valid (limitsOf globalPerMinute) last.clock ∧
      LevelsRationed (limitsOf globalPerMinute) (answers (.new globalPerMinute start) steps)
        last.levels := by
  have hvalid := TimedLimiter.valid_new globalPerMinute start
  have hrun : Run (levelNext (limitsOf globalPerMinute)) Unrestricted
      (TimedLimiter.new globalPerMinute start).levels steps last.levels :=
    run_levels (fun _ _ _ _ _ _ => trivial) hvalid run
  refine ⟨run_valid hvalid run, ?_⟩
  rw [answers_eq_levels hvalid]
  refine hrun.observed (levelReply _) (LevelsRationed (limitsOf globalPerMinute)) ?_ [] ?_
  · intro replies state step after h _ hnext
    exact h.next hnext
  · rw [TimedLimiter.levels_new]
    exact levelsRationed_full _ start

theorem bucket_rationed (capacity start : ℚ) (hcapacity : 0 ≤ capacity) (times : List ℚ)
    (last : TimedBucket)
    (run : Run bucketNext Unrestricted ⟨.new capacity start, start⟩ times last) :
    last.bucket.Valid capacity last.clock ∧
      Rationed capacity (capacity / 60) (trace bucketNext bucketGrant ⟨.new capacity start, start⟩ times)
        last.clock (last.bucket.refilled last.clock) := by
  have hrate : 0 ≤ capacity / 60 := div_nonneg hcapacity (by norm_num)
  refine run.observed bucketGrant (fun grants state => state.bucket.Valid capacity state.clock ∧
    Rationed capacity (capacity / 60) grants state.clock (state.bucket.refilled state.clock)) ?_ []
    ⟨.new hcapacity, ?_⟩
  · rintro grants state now after ⟨hvalid, hrationed⟩ _ hnext
    unfold bucketNext at hnext
    split_ifs at hnext with hle
    obtain rfl := Option.some.inj hnext
    have hfilled := hrationed.refilled hrate now hle
    rw [← hvalid.refilled_later hcapacity now hle] at hfilled
    have hacquired := (hvalid.later now hle).tryAcquire hcapacity
    unfold bucketGrant
    generalize state.bucket.tryAcquire now = result at hacquired ⊢
    cases hacquired with
    | Granted bucket hone hafter _ hlevel =>
      refine ⟨hafter, ?_⟩
      simp only [hlevel, if_true]
      exact hfilled.spent hrate hone
    | Refused bucket hnone hafter _ hlevel =>
      refine ⟨hafter, ?_⟩
      simpa only [hlevel, Bool.false_eq_true, if_false, List.append_nil] using hfilled
  · rw [Bucket.refilled_new capacity start hcapacity]
    exact .full hcapacity hrate

def within (first length : ℚ) (times : List ℚ) : Nat :=
  times.countP fun time => first ≤ time ∧ time ≤ first + length

theorem within_le {capacity last level : ℚ} {grants : List ℚ}
    (h : Rationed capacity (capacity / 60) grants last level) (first length : ℚ)
    (hlength : 0 ≤ length) :
    (within first length grants : ℚ) ≤ capacity + length * (capacity / 60) := by
  have hwindow := h.window first (first + length) (le_add_of_nonneg_right hlength)
  rw [add_sub_cancel_left, mul_comm] at hwindow
  exact hwindow

-- A bucket that is full at first grants no more in any interval than it can hold and gains in it.
-- So does the limiter, over all calls by its shared bucket, and for every address by the bucket
-- of the address.
theorem rate_bound :
    (∀ (capacity start : ℚ) (times : List ℚ) (last : TimedBucket), 0 ≤ capacity →
      Run bucketNext Unrestricted ⟨.new capacity start, start⟩ times last →
      (0 ≤ last.bucket.tokens ∧ last.bucket.tokens ≤ capacity) ∧
      ∀ first length, 0 ≤ length →
        (within first length
          (trace bucketNext bucketGrant ⟨.new capacity start, start⟩ times) : ℚ) ≤
            capacity + length * (capacity / 60)) ∧
    ∀ (globalPerMinute : Nat) (start : ℚ) (steps : List LimiterStep) (last : TimedLimiter),
      Run limiterNext Unrestricted (.new globalPerMinute start) steps last →
      (0 ≤ last.limiter.global.tokens ∧ last.limiter.global.tokens ≤ globalPerMinute) ∧
      (∀ ip bucket, last.limiter.perIp ip = some bucket →
        0 ≤ bucket.tokens ∧ bucket.tokens ≤ max ((globalPerMinute : ℚ) / 10) 5) ∧
      ∀ first length, 0 ≤ length →
        (within first length
          (acceptedAt anyCall (answers (.new globalPerMinute start) steps)) : ℚ) ≤
            globalPerMinute + length * (globalPerMinute / 60) ∧
        ∀ ip, (within first length
          (acceptedAt (forIp ip) (answers (.new globalPerMinute start) steps)) : ℚ) ≤
            max ((globalPerMinute : ℚ) / 10) 5 +
              length * (max ((globalPerMinute : ℚ) / 10) 5 / 60) := by
  refine ⟨?_, ?_⟩
  · intro capacity start times last hcapacity run
    obtain ⟨hvalid, hrationed⟩ := bucket_rationed capacity start hcapacity times last run
    exact ⟨⟨hvalid.nonneg, hvalid.le⟩, within_le hrationed⟩
  · intro globalPerMinute start steps last run
    obtain ⟨hvalid, hrationed⟩ := limiter_rationed globalPerMinute start steps last run
    refine ⟨⟨hvalid.global.nonneg, hvalid.global.le⟩, ?_, ?_⟩
    · intro ip bucket hget
      have hbucket := hvalid.perIp ip bucket hget
      exact ⟨hbucket.nonneg, hbucket.le⟩
    · intro first length hlength
      exact ⟨within_le hrationed.shared first length hlength,
        fun ip => within_le (hrationed.own ip) first length hlength⟩

-- Seven calls from one address at once, under a limit of 60 per minute and 6 for an address.
def burst : List LimiterStep := List.replicate 7 ⟨0, .TryAcquireForIp (.V4 10 0 0 1)⟩

theorem rate_bound_burst :
    (∃ last, Run limiterNext Unrestricted (.new 60 0) burst last) ∧
      (within 0 30 (acceptedAt (forIp (.V4 10 0 0 1)) (answers (.new 60 0) burst)) : ℚ) ≤
        max ((60 : Nat) / 10 : ℚ) 5 + 30 * (max ((60 : Nat) / 10 : ℚ) 5 / 60) := by
  obtain ⟨last, hrun⟩ := exists_run_of_sorted (.new 60 0) burst (by decide +kernel)
  obtain ⟨_, _, hbound⟩ := rate_bound.2 60 0 burst last hrun
  exact ⟨⟨last, hrun⟩, (hbound 0 30 (by norm_num)).2 (.V4 10 0 0 1)⟩

end Rate

section Cleanup

variable {limits : Limits}

-- Two states that cannot be told apart from the later of their times on.
structure Ahead (limits : Limits) (state other : TimedLevels) : Prop where
  clock : other.clock ≤ state.clock
  same : ∀ now, state.clock ≤ now → other.now limits now = state.now limits now

def isCleanup (step : LimiterStep) : Bool := step.call = .CleanupStale

theorem Ahead.refl (limits : Limits) (state : TimedLevels) : Ahead limits state state :=
  ⟨le_rfl, fun _ _ => rfl⟩

theorem Ahead.cleanup {state other after : TimedLevels} {step : LimiterStep}
    (h : Ahead limits state other) (hcall : step.call = .CleanupStale)
    (hnext : levelNext limits state step = some after) :
    Ahead limits after other ∧ levelReply limits state step = [] := by
  obtain ⟨hle, rfl⟩ := levelNext_eq_some_iff.mp hnext
  rw [levelReply, hcall]
  refine ⟨⟨h.clock.trans hle, ?_⟩, rfl⟩
  intro now hnow
  rw [h.same now (hle.trans hnow)]
  exact (TimedLevels.now_now limits state step.now now hnow).symm

theorem Ahead.next {state other after : TimedLevels} {step : LimiterStep}
    (h : Ahead limits state other) (hnext : levelNext limits state step = some after) :
    levelNext limits other step = some after ∧
      levelReply limits other step = levelReply limits state step := by
  obtain ⟨hle, hafter⟩ := levelNext_eq_some_iff.mp hnext
  have hsame := h.same step.now hle
  rw [levelReply, hsame, levelReply]
  exact ⟨levelNext_eq_some_iff.mpr ⟨h.clock.trans hle, by rw [hsame, hafter]⟩, rfl⟩

theorem trace_without_cleanup {state last : TimedLevels} {steps : List LimiterStep}
    (run : Run (levelNext limits) Unrestricted state steps last) :
    trace (levelNext limits) (levelReply limits) state (steps.filter fun step => !isCleanup step) =
      trace (levelNext limits) (levelReply limits) state steps := by
  refine run.trace_filter (Ahead limits) (fun step => !isCleanup step) ?_ ?_ state
    (.refl limits state)
  · intro state other step after h _ hnext _
    obtain ⟨hother, hreply⟩ := h.next hnext
    exact ⟨after, hother, .refl limits after, hreply⟩
  · intro state other step after h _ hnext hcleanup
    have hcall : step.call = .CleanupStale := by simpa [isCleanup] using hcleanup
    exact h.cleanup hcall hnext

-- Calls of cleanup_stale, wherever they are put in, change no answer.
theorem cleanup_invisible (globalPerMinute : Nat) (start : ℚ) (steps : List LimiterStep)
    (last : TimedLimiter)
    (run : Run limiterNext Unrestricted (.new globalPerMinute start) steps last) :
    answers (.new globalPerMinute start) steps =
      answers (.new globalPerMinute start) (steps.filter fun step => !isCleanup step) := by
  have hvalid := TimedLimiter.valid_new globalPerMinute start
  have hrun : Run (levelNext (limitsOf globalPerMinute)) Unrestricted
      (TimedLimiter.new globalPerMinute start).levels steps last.levels :=
    run_levels (fun _ _ _ _ _ _ => trivial) hvalid run
  rw [answers_eq_levels hvalid, answers_eq_levels hvalid]
  exact (trace_without_cleanup hrun).symm

-- The bucket of the address is dropped after five minutes and made again.
def interruptedCalls : List LimiterStep :=
  [⟨0, .TryAcquireForIp (.V4 10 0 0 1)⟩, ⟨200, .CleanupStale⟩, ⟨301, .CleanupStale⟩,
    ⟨302, .TryAcquireForIp (.V4 10 0 0 1)⟩]

theorem cleanup_invisible_interrupted :
    answers (.new 60 0) interruptedCalls =
      answers (.new 60 0) [⟨0, .TryAcquireForIp (.V4 10 0 0 1)⟩,
        ⟨302, .TryAcquireForIp (.V4 10 0 0 1)⟩] := by
  obtain ⟨last, hrun⟩ := exists_run_of_sorted (.new 60 0) interruptedCalls (by decide +kernel)
  exact cleanup_invisible 60 0 interruptedCalls last hrun

end Cleanup

section Budget

variable {limits : Limits}

-- The shared bucket has a token when the call comes, and the bucket of its address has none.
def RefusedByOwn (limiter : RateLimiter) (now : ℚ) (ip : IpAddr) : Prop :=
  1 ≤ (limiter.levels now).shared ∧ (limiter.levels now).own ip < 1

instance (limiter : RateLimiter) (now : ℚ) (ip : IpAddr) :
    Decidable (RefusedByOwn limiter now ip) :=
  inferInstanceAs (Decidable (_ ∧ _))

def OnlyRefilled (limiter : RateLimiter) (now : ℚ) (ip : IpAddr) : Prop :=
  (limiter.tryAcquireForIp now ip).1.global.tokens = limiter.global.refilled now

def toOthers (ip : IpAddr) (replies : List (LimiterStep × Bool)) : List (LimiterStep × Bool) :=
  replies.filter fun reply => !forIp ip reply.1.call

-- Nobody else would get another answer if the call had not been made.
def DeletionUnseen (start : TimedLimiter) (before after : List LimiterStep) (now : ℚ)
    (ip : IpAddr) : Prop :=
  toOthers ip (answers start (before ++ ⟨now, .TryAcquireForIp ip⟩ :: after)) =
    toOthers ip (answers start (before ++ after))

def SharedPasses (state : TimedLimiter) (step : LimiterStep) : Prop :=
  step.call = .CleanupStale ∨ 1 ≤ (state.limiter.levels step.now).shared

instance (state : TimedLimiter) (step : LimiterStep) : Decidable (SharedPasses state step) :=
  inferInstanceAs (Decidable (_ ∨ _))

def SharedHas (limits : Limits) (state : TimedLevels) (step : LimiterStep) : Prop :=
  step.call = .CleanupStale ∨ 1 ≤ (state.now limits step.now).shared

theorem Bucket.tryAcquire_iff (bucket : Bucket) (now : ℚ) :
    (bucket.tryAcquire now).2 = true ↔ 1 ≤ bucket.refilled now := by
  unfold Bucket.tryAcquire
  dsimp only
  split_ifs with hone <;> simp [hone]

theorem refusedByOwn_iff (limiter : RateLimiter) (clock now : ℚ) (ip : IpAddr)
    (hvalid : limiter.Valid limits clock) (hle : clock ≤ now) :
    RefusedByOwn limiter now ip ↔
      (limiter.tryAcquire now).2 = true ∧ (limiter.tryAcquireForIp now ip).2 = false := by
  have hown := Bucket.tryAcquire_iff ((limiter.perIp ip).getD (.new limiter.perIpMax now)) now
  rw [((hvalid.later now hle).own ip).2] at hown
  have hshared : 1 ≤ (limiter.levels now).shared ↔ (limiter.tryAcquire now).2 = true :=
    (Bucket.tryAcquire_iff limiter.global now).symm
  rw [RefusedByOwn, hshared]
  refine and_congr_right fun hpassed => ?_
  replace hpassed : (limiter.global.tryAcquire now).2 = true := hpassed
  simp only [RateLimiter.tryAcquireForIp, hpassed, if_true]
  rw [← not_le, ← hown, Bool.not_eq_true]

theorem not_onlyRefilled (limiter : RateLimiter) (now : ℚ) (ip : IpAddr)
    (hrefused : RefusedByOwn limiter now ip) : ¬OnlyRefilled limiter now ip := by
  have hone : 1 ≤ limiter.global.refilled now := hrefused.1
  have hspent : (limiter.tryAcquireForIp now ip).1.global.tokens =
      limiter.global.refilled now - 1 := by
    simp [RateLimiter.tryAcquireForIp, Bucket.tryAcquire, hone]
  rw [OnlyRefilled, hspent]
  exact (sub_one_lt _).ne

-- The other state has the same tokens for every address, and no fewer to share.
structure Richer (limits : Limits) (state other : TimedLevels) : Prop where
  clock : other.clock ≤ state.clock
  own : ∀ now, state.clock ≤ now → (other.now limits now).own = (state.now limits now).own
  shared : ∀ now, state.clock ≤ now →
    (state.now limits now).shared ≤ (other.now limits now).shared

theorem richer_of_levels (levels other : Levels) (now : ℚ) (hown : other.own = levels.own)
    (hshared : levels.shared ≤ other.shared) : Richer limits ⟨levels, now⟩ ⟨other, now⟩ := by
  refine ⟨le_rfl, ?_, ?_⟩
  · intro later _
    simp only [TimedLevels.now, Levels.advance, hown]
  · intro later _
    exact refill_mono hshared

-- As long as the shared bucket refuses nothing, having more in it makes no difference.
theorem serve_richer (levels other : Levels) (call : LimiterCall)
    (hhas : call = .CleanupStale ∨ 1 ≤ levels.shared) (hown : other.own = levels.own)
    (hshared : levels.shared ≤ other.shared) :
    (other.serve call).2 = (levels.serve call).2 ∧
      (other.serve call).1.own = (levels.serve call).1.own ∧
      (levels.serve call).1.shared ≤ (other.serve call).1.shared := by
  cases call with
  | TryAcquire =>
    have hone : 1 ≤ levels.shared := hhas.resolve_left (by simp)
    simp [Levels.serve, hone, hone.trans hshared, hown, hshared]
  | TryAcquireForIp ip =>
    have hone : 1 ≤ levels.shared := hhas.resolve_left (by simp)
    by_cases honeOwn : 1 ≤ levels.own ip <;>
      simp [Levels.serve, hone, hone.trans hshared, hown, hshared, honeOwn]
  | CleanupStale => exact ⟨rfl, hown, hshared⟩

theorem Richer.next {state other after : TimedLevels} {step : LimiterStep}
    (h : Richer limits state other) (hhas : SharedHas limits state step)
    (hnext : levelNext limits state step = some after) :
    ∃ otherAfter, levelNext limits other step = some otherAfter ∧ Richer limits after otherAfter ∧
      levelReply limits other step = levelReply limits state step := by
  obtain ⟨hle, rfl⟩ := levelNext_eq_some_iff.mp hnext
  obtain ⟨hanswer, hown, hshared⟩ := serve_richer (state.now limits step.now)
    (other.now limits step.now) step.call hhas (h.own step.now hle) (h.shared step.now hle)
  refine ⟨_, levelNext_eq_some_iff.mpr ⟨h.clock.trans hle, rfl⟩,
    richer_of_levels _ _ step.now hown hshared, ?_⟩
  rw [levelReply, hanswer, levelReply]

theorem sharedHas_of_passes (state : TimedLimiter) (step : LimiterStep) (after : TimedLimiter)
    (hvalid : state.limiter.Valid limits state.clock) (hpasses : SharedPasses state step)
    (hnext : limiterNext state step = some after) : SharedHas limits state.levels step := by
  refine hpasses.imp id ?_
  intro hone
  rwa [levels_now hvalid (limiterNext_eq_some_iff.mp hnext).1]

theorem refused_richer (state : TimedLimiter) (now : ℚ) (ip : IpAddr)
    (hvalid : state.limiter.Valid limits state.clock) (hle : state.clock ≤ now)
    (hrefused : RefusedByOwn state.limiter now ip) :
    Richer limits (TimedLimiter.mk (state.limiter.tryAcquireForIp now ip).1 now).levels
      state.levels := by
  have hlevels := levels_now hvalid hle
  obtain ⟨_, hserved, _⟩ := (hvalid.later now hle).serve (.TryAcquireForIp ip)
  have hone := hrefused.1
  have hnone := not_le.mpr hrefused.2
  have hafter : (TimedLimiter.mk (state.limiter.tryAcquireForIp now ip).1 now).levels =
      ⟨{ state.limiter.levels now with shared := (state.limiter.levels now).shared - 1 }, now⟩ := by
    have hserved' : (state.limiter.tryAcquireForIp now ip).1.levels now =
        { state.limiter.levels now with shared := (state.limiter.levels now).shared - 1 } := by
      simpa [RateLimiter.serve, Levels.serve, hone, hnone] using hserved
    rw [TimedLimiter.levels, hserved']
  have hlater : Richer limits
      ⟨{ state.limiter.levels now with shared := (state.limiter.levels now).shared - 1 }, now⟩
      ⟨state.limiter.levels now, now⟩ :=
    richer_of_levels _ _ now rfl (sub_le_self _ zero_le_one)
  rw [hafter]
  refine ⟨hle, ?_, ?_⟩
  · intro later hnow
    rw [← hlater.own later hnow, ← hlevels, TimedLevels.now_now limits _ now later hnow]
  · intro later hnow
    refine (hlater.shared later hnow).trans_eq ?_
    rw [← hlevels, TimedLevels.now_now limits _ now later hnow]

theorem deletionUnseen_of_passes (start state last : TimedLimiter) (before after : List LimiterStep)
    (now : ℚ) (ip : IpAddr) (hstart : start.limiter.Valid limits start.clock)
    (hbefore : Run limiterNext Unrestricted start before state) (hle : state.clock ≤ now)
    (hrefused : RefusedByOwn state.limiter now ip)
    (hafter : Run limiterNext SharedPasses ⟨(state.limiter.tryAcquireForIp now ip).1, now⟩ after
      last) :
    DeletionUnseen start before after now ip := by
  have hvalid := run_valid hstart hbefore
  have hnext : limiterNext state ⟨now, .TryAcquireForIp ip⟩ =
      some ⟨(state.limiter.tryAcquireForIp now ip).1, now⟩ := if_pos hle
  have hvalidNext := limiterNext_valid hvalid hnext
  have hrun : Run (levelNext limits) (SharedHas limits)
      (TimedLimiter.mk (state.limiter.tryAcquireForIp now ip).1 now).levels after last.levels :=
    run_levels sharedHas_of_passes hvalidNext hafter
  have hsame : answers ⟨(state.limiter.tryAcquireForIp now ip).1, now⟩ after =
      answers state after := by
    rw [answers_eq_levels hvalidNext, answers_eq_levels hvalid]
    refine (hrun.trace_related (Richer limits) ?_ state.levels
      (refused_richer state now ip hvalid hle hrefused)).symm
    intro levels other step next h hhas hlevel
    exact h.next hhas hlevel
  have hcall : toOthers ip (limiterReply state ⟨now, .TryAcquireForIp ip⟩) = [] := by
    simp [toOthers, limiterReply, reply, RateLimiter.serve, forIp]
  unfold DeletionUnseen answers
  rw [hbefore.trace_append, hbefore.trace_append, trace_cons hnext]
  unfold toOthers at hcall ⊢
  rw [List.filter_append, List.filter_append, List.filter_append, hcall, List.nil_append]
  exact congrArg (fun replies => _ ++ List.filter _ replies) hsame

-- What is claimed of the shared budget, of all the calls in a sequence that the shared bucket
-- would let pass and that are refused.
def LeavesBudget (start : TimedLimiter) (steps : List LimiterStep) : Prop :=
  ∀ before after now ip state, steps = before ++ ⟨now, .TryAcquireForIp ip⟩ :: after →
    Run limiterNext Unrestricted start before state → (state.limiter.tryAcquire now).2 = true →
    (state.limiter.tryAcquireForIp now ip).2 = false →
    OnlyRefilled state.limiter now ip ∧ DeletionUnseen start before after now ip

-- A call refused by the bucket of its address has already spent a shared token, so the budget is
-- left alone exactly in the sequences without such a call. Others notice the loss only when the
-- shared bucket refuses something later.
theorem leavesBudget_iff (globalPerMinute : Nat) (start : ℚ) (steps : List LimiterStep)
    (last : TimedLimiter)
    (run : Run limiterNext Unrestricted (.new globalPerMinute start) steps last) :
    (LeavesBudget (.new globalPerMinute start) steps ↔
      ∀ before after now ip state, steps = before ++ ⟨now, .TryAcquireForIp ip⟩ :: after →
        Run limiterNext Unrestricted (.new globalPerMinute start) before state →
        ¬RefusedByOwn state.limiter now ip) ∧
    ∀ before after now ip state, steps = before ++ ⟨now, .TryAcquireForIp ip⟩ :: after →
      Run limiterNext Unrestricted (.new globalPerMinute start) before state →
      RefusedByOwn state.limiter now ip →
      Run limiterNext SharedPasses ⟨(state.limiter.tryAcquireForIp now ip).1, now⟩ after last →
      DeletionUnseen (.new globalPerMinute start) before after now ip := by
  have hreached : ∀ before after now ip state, steps = before ++ ⟨now, .TryAcquireForIp ip⟩ :: after →
      Run limiterNext Unrestricted (.new globalPerMinute start) before state →
      state.clock ≤ now ∧ (RefusedByOwn state.limiter now ip ↔
        (state.limiter.tryAcquire now).2 = true ∧ (state.limiter.tryAcquireForIp now ip).2 = false) := by
    rintro before after now ip state rfl hbefore
    obtain ⟨reached, hreached, hrest⟩ := run.split
    obtain rfl := hreached.unique hbefore
    have hle : reached.clock ≤ now := by
      cases hrest with
      | cons _ hnext _ => exact (limiterNext_eq_some_iff.mp hnext).1
    exact ⟨hle, refusedByOwn_iff _ _ now ip
      (run_valid (TimedLimiter.valid_new globalPerMinute start) hbefore) hle⟩
  refine ⟨⟨?_, ?_⟩, ?_⟩
  · intro hleaves before after now ip state hsplit hbefore hrefused
    obtain ⟨hpassed, hanswer⟩ := (hreached before after now ip state hsplit hbefore).2.mp hrefused
    exact not_onlyRefilled state.limiter now ip hrefused
      (hleaves before after now ip state hsplit hbefore hpassed hanswer).1
  · intro hnever before after now ip state hsplit hbefore hpassed hanswer
    exact absurd ((hreached before after now ip state hsplit hbefore).2.mpr ⟨hpassed, hanswer⟩)
      (hnever before after now ip state hsplit hbefore)
  · intro before after now ip state hsplit hbefore hrefused hpasses
    exact deletionUnseen_of_passes _ state last before after now ip
      (TimedLimiter.valid_new globalPerMinute start) hbefore
      (hreached before after now ip state hsplit hbefore).1 hrefused hpasses

def crowd (count : Nat) : List LimiterStep :=
  List.replicate count ⟨0, .TryAcquireForIp (.V4 10 0 0 1)⟩

def bystander : LimiterStep := ⟨0, .TryAcquireForIp (.V4 10 0 0 2)⟩

-- The state in which an address that has used up its own tokens calls again, with enough left in
-- the shared bucket for the next caller.
theorem crowded_state : ∃ state, Run limiterNext Unrestricted (.new 60 0) (crowd 6) state ∧
    state.clock ≤ 0 ∧ RefusedByOwn state.limiter 0 (.V4 10 0 0 1) ∧
    SharedPasses ⟨(state.limiter.tryAcquireForIp 0 (.V4 10 0 0 1)).1, 0⟩ bystander := by
  have hreached : ((exec limiterNext (.new 60 0) (crowd 6)).any fun state =>
      state.clock ≤ 0 ∧ RefusedByOwn state.limiter 0 (.V4 10 0 0 1) ∧
        SharedPasses ⟨(state.limiter.tryAcquireForIp 0 (.V4 10 0 0 1)).1, 0⟩ bystander) = true := by
    decide +kernel
  obtain ⟨state, hexec, hstate⟩ := (Option.any_eq_true _ _).mp hreached
  exact ⟨state, (exec_eq_some_iff _ _ _ _).mp hexec, of_decide_eq_true hstate⟩

theorem leavesBudget_crowded :
    DeletionUnseen (.new 60 0) (crowd 6) [bystander] 0 (.V4 10 0 0 1) := by
  obtain ⟨state, hrun, hclock, hrefused, hpasses⟩ := crowded_state
  have hcall : limiterNext state ⟨0, .TryAcquireForIp (.V4 10 0 0 1)⟩ =
      some ⟨(state.limiter.tryAcquireForIp 0 (.V4 10 0 0 1)).1, 0⟩ := if_pos hclock
  have hnext : limiterNext ⟨(state.limiter.tryAcquireForIp 0 (.V4 10 0 0 1)).1, 0⟩ bystander =
      some ⟨(RateLimiter.serve bystander (state.limiter.tryAcquireForIp 0 (.V4 10 0 0 1)).1).1, 0⟩ :=
    if_pos le_rfl
  have hlast := Run.single hpasses hnext
  have hall := hrun.append (.cons trivial hcall hlast.unrestricted)
  exact (leavesBudget_iff 60 0 _ _ hall).2 (crowd 6) [bystander] 0 _ state rfl hrun hrefused hlast

-- Ten calls from one address use up a budget of ten, although only five are accepted. Without one
-- of the refused calls the next address would get through.
theorem refused_calls_starve_bystander :
    toOthers (.V4 10 0 0 1) (answers (.new 10 0) (crowd 5 ++ crowd 5 ++ [bystander])) =
      [(bystander, false)] ∧
    toOthers (.V4 10 0 0 1) (answers (.new 10 0) (crowd 5 ++ crowd 4 ++ [bystander])) =
      [(bystander, true)] ∧
    ¬LeavesBudget (.new 10 0) (crowd 5 ++ crowd 5 ++ [bystander]) := by
  refine ⟨by decide +kernel, by decide +kernel, ?_⟩
  intro hleaves
  have hreached : ((exec limiterNext (.new 10 0) (crowd 5)).any fun state =>
      (state.limiter.tryAcquire 0).2 = true ∧
        (state.limiter.tryAcquireForIp 0 (.V4 10 0 0 1)).2 = false) = true := by
    decide +kernel
  obtain ⟨state, hexec, hrefused⟩ := (Option.any_eq_true _ _).mp hreached
  obtain ⟨hpassed, hanswer⟩ := of_decide_eq_true hrefused
  obtain ⟨_, hunseen⟩ := hleaves (crowd 5) (crowd 4 ++ [bystander]) 0 (.V4 10 0 0 1) state rfl
    ((exec_eq_some_iff _ _ _ _).mp hexec) hpassed hanswer
  unfold DeletionUnseen at hunseen
  revert hunseen
  decide +kernel

end Budget

end Pact.Journal
