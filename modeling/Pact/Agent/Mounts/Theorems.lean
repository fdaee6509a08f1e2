import Pact.Agent.Mounts

namespace Pact.Agent.Mounts

open Pact.Library MountRefManager

theorem isExpired_iff (now : Nat) (manager : MountRefManager) (state : MountRefState) :
    manager.isExpired now state = true ↔
      state.refcount = 0 ∧ ∃ start, state.holdStart = some start ∧
        manager.holdDuration ≤ now - start := by
  simp [isExpired]

theorem mem_expired_iff (now : Nat) (manager : MountRefManager) (imagePath : String) :
    imagePath ∈ (manager.checkExpiredHolds now).2 ↔
      ∃ state, manager.mounts.get imagePath = some state ∧ manager.isExpired now state = true := by
  simp only [checkExpiredHolds, List.mem_map, List.mem_filter, Prod.exists, Map.mem_toList_iff,
    exists_and_right, exists_eq_right]

inductive ImageChange (imagePath : String) (now : Nat) (manager : MountRefManager)
    (before : Option MountRefState) (call : MountCall) : Option MountRefState → Prop
  | Same (hacquire : call ≠ .Acquire imagePath)
      (hrelease : call = .Release imagePath → before = none) :
      ImageChange imagePath now manager before call before
  | Mounted (hcall : call = .Acquire imagePath) (hbefore : before = none) :
      ImageChange imagePath now manager before call
        (some ⟨imagePath, manager.mountPoint imagePath, 1, none⟩)
  | Acquired (state : MountRefState) (hcall : call = .Acquire imagePath)
      (hbefore : before = some state) :
      ImageChange imagePath now manager before call
        (some { state with refcount := state.refcount + 1, holdStart := none })
  | Released (state : MountRefState) (hcall : call = .Release imagePath)
      (hbefore : before = some state) (hpositive : 0 < state.refcount) :
      ImageChange imagePath now manager before call
        (some { state with
          refcount := state.refcount - 1
          holdStart := if state.refcount - 1 = 0 then some now else state.holdStart })
  | Unmounted (state : MountRefState) (hcall : call = .CheckExpiredHolds)
      (hbefore : before = some state) (hexpired : manager.isExpired now state = true) :
      ImageChange imagePath now manager before call none

section Calls

variable (imagePath : String) (now : Nat) (manager after : MountRefManager)

theorem acquire_change (acquired : String) :
    ImageChange imagePath now manager (manager.mounts.get imagePath) (.Acquire acquired)
      ((manager.acquire acquired).1.mounts.get imagePath) := by
  by_cases himage : imagePath = acquired
  · subst himage
    cases hget : manager.mounts.get imagePath with
    | none =>
      simp only [acquire, hget, store, Map.get_insert_self]
      exact .Mounted rfl rfl
    | some state =>
      simp only [acquire, hget, store, Map.get_insert_self]
      exact .Acquired state rfl rfl
  · have hsame : (manager.acquire acquired).1.mounts.get imagePath = manager.mounts.get imagePath := by
      unfold acquire
      split <;> exact Map.get_insert_of_ne _ _ himage
    rw [hsame]
    refine .Same ?_ ?_
    · rintro ⟨⟩
      exact himage rfl
    · rintro ⟨⟩

theorem release_change (released : String) (hrelease : manager.release released now = some after) :
    ImageChange imagePath now manager (manager.mounts.get imagePath) (.Release released)
      (after.mounts.get imagePath) := by
  unfold release at hrelease
  cases hget : manager.mounts.get released with
  | none =>
    simp only [hget, Option.some.injEq] at hrelease
    subst hrelease
    refine .Same MountCall.noConfusion ?_
    rintro ⟨⟩
    exact hget
  | some state =>
    simp only [hget, Option.ite_none_right_eq_some, Option.some.injEq] at hrelease
    obtain ⟨hpositive, rfl⟩ := hrelease
    by_cases himage : imagePath = released
    · subst himage
      rw [hget, store, Map.get_insert_self]
      exact .Released state rfl rfl hpositive
    · rw [store, Map.get_insert_of_ne _ _ himage]
      refine .Same MountCall.noConfusion ?_
      rintro ⟨⟩
      exact absurd rfl himage

theorem checkExpiredHolds_get :
    (manager.checkExpiredHolds now).1.mounts.get imagePath =
      if imagePath ∈ (manager.checkExpiredHolds now).2 then none
      else manager.mounts.get imagePath :=
  Map.get_foldl_erase _ _ _

theorem checkExpiredHolds_change :
    ImageChange imagePath now manager (manager.mounts.get imagePath) .CheckExpiredHolds
      ((manager.checkExpiredHolds now).1.mounts.get imagePath) := by
  rw [checkExpiredHolds_get]
  split
  case isTrue hmem =>
    obtain ⟨state, hget, hexpired⟩ := (mem_expired_iff now manager imagePath).mp hmem
    exact .Unmounted state rfl hget hexpired
  case isFalse => exact .Same MountCall.noConfusion MountCall.noConfusion

theorem run_change (call : MountCall) (hrun : call.run now manager = some after) :
    ImageChange imagePath now manager (manager.mounts.get imagePath) call
      (after.mounts.get imagePath) := by
  cases call with
  | Acquire acquired =>
    cases hrun
    exact acquire_change imagePath now manager acquired
  | Release released => exact release_change imagePath now manager after released hrun
  | CheckExpiredHolds =>
    cases hrun
    exact checkExpiredHolds_change imagePath now manager

end Calls

theorem mountNext_cases (mounts after : TimedMounts) (step : MountStep)
    (hnext : mountNext mounts step = some after) :
    mounts.clock ≤ step.now ∧ after.clock = step.now ∧
      step.call.run step.now mounts.manager = some after.manager := by
  simp only [mountNext, Option.ite_none_right_eq_some, Option.map_eq_some_iff] at hnext
  obtain ⟨hclock, manager, hrun, rfl⟩ := hnext
  exact ⟨hclock, rfl, hrun⟩

theorem mountNext_change (imagePath : String) (mounts after : TimedMounts) (step : MountStep)
    (hnext : mountNext mounts step = some after) :
    ImageChange imagePath step.now mounts.manager (mounts.manager.mounts.get imagePath) step.call
      (after.manager.mounts.get imagePath) :=
  run_change imagePath step.now mounts.manager after.manager step.call
    (mountNext_cases mounts after step hnext).2.2

-- The hold timer runs exactly while nobody uses the image.
def Timed (state : MountRefState) : Prop := state.holdStart.isSome ↔ state.refcount = 0

theorem Timed.holdStart_eq_none {state : MountRefState} (htimed : Timed state)
    (hpositive : 0 < state.refcount) : state.holdStart = none := by
  rw [← Option.not_isSome_iff_eq_none, show state.holdStart.isSome ↔ _ from htimed]
  omega

theorem mountNext_timed (mounts : TimedMounts) (step : MountStep) (after : TimedMounts)
    (htimed : ∀ imagePath state, mounts.manager.mounts.get imagePath = some state → Timed state)
    (hnext : mountNext mounts step = some after) :
    ∀ imagePath state, after.manager.mounts.get imagePath = some state → Timed state := by
  intro imagePath state hget
  have hchange := mountNext_change imagePath mounts after step hnext
  have hbefore := htimed imagePath
  rw [hget] at hchange
  generalize mounts.manager.mounts.get imagePath = found at hchange hbefore
  cases hchange with
  | Same => exact hbefore state rfl
  | Mounted => simp [Timed]
  | Acquired => simp [Timed]
  | Released old _ hold hpositive =>
    have hnone := (hbefore old hold).holdStart_eq_none hpositive
    by_cases hlast : old.refcount - 1 = 0 <;> simp [Timed, hlast, hnone]

def acquires (imagePath : String) (steps : List MountStep) : Nat :=
  steps.countP fun step => step.call = .Acquire imagePath

def releases (imagePath : String) (steps : List MountStep) : Nat :=
  steps.countP fun step => step.call = .Release imagePath

def Tracked (imagePath : String) (mounts : TimedMounts) : Prop :=
  ∃ state, mounts.manager.mounts.get imagePath = some state

-- The last part of a history: it starts with the acquire that mounted the image, which has been
-- tracked ever since.
def SinceMounted (start : TimedMounts) (steps : List MountStep) (imagePath : String)
    (since : List MountStep) : Prop :=
  ∃ before now rest middle mounted last, steps = before ++ since ∧
    since = ⟨now, .Acquire imagePath⟩ :: rest ∧
    Run mountNext Unrestricted start before middle ∧ ¬Tracked imagePath middle ∧
    mountNext middle ⟨now, .Acquire imagePath⟩ = some mounted ∧
    Run mountNext (fun mounts _ => Tracked imagePath mounts) mounted rest last

theorem refcount_step (imagePath : String) (mounts after : TimedMounts) (step : MountStep)
    (state state' : MountRefState) (hnext : mountNext mounts step = some after)
    (hget : mounts.manager.mounts.get imagePath = some state)
    (hget' : after.manager.mounts.get imagePath = some state') :
    state'.refcount + releases imagePath [step] = state.refcount + acquires imagePath [step] := by
  have hchange := mountNext_change imagePath mounts after step hnext
  rw [hget, hget'] at hchange
  cases hchange with
  | Same hacquire hrelease =>
    have hrelease : step.call ≠ .Release imagePath := fun h => nomatch hrelease h
    simp [releases, acquires, hacquire, hrelease]
  | Mounted _ hbefore => cases hbefore
  | Acquired _ hcall hbefore =>
    cases hbefore
    simp [releases, acquires, hcall]
  | Released _ hcall hbefore hpositive =>
    cases hbefore
    simp [releases, acquires, hcall]
    omega

theorem mounted_state (imagePath : String) (mounts after : TimedMounts) (step : MountStep)
    (hnext : mountNext mounts step = some after) (hbefore : ¬Tracked imagePath mounts)
    (hafter : Tracked imagePath after) :
    step.call = .Acquire imagePath ∧ ∃ state, after.manager.mounts.get imagePath = some state ∧
      state.refcount = 1 := by
  obtain ⟨state, hget⟩ := hafter
  have hnone : mounts.manager.mounts.get imagePath = none := by
    rw [Option.eq_none_iff_forall_ne_some]
    exact fun old hold => hbefore ⟨old, hold⟩
  have hchange := mountNext_change imagePath mounts after step hnext
  rw [hnone, hget] at hchange
  cases hchange with
  | Mounted hcall => exact ⟨hcall, _, hget, rfl⟩
  | Acquired _ _ hbefore => cases hbefore
  | Released _ _ hbefore => cases hbefore

theorem refcount_run (imagePath : String) (mounted last : TimedMounts) (rest : List MountStep)
    (run : Run mountNext (fun mounts _ => Tracked imagePath mounts) mounted rest last)
    (state state' : MountRefState) (hget : mounted.manager.mounts.get imagePath = some state)
    (hget' : last.manager.mounts.get imagePath = some state') :
    state'.refcount + releases imagePath rest = state.refcount + acquires imagePath rest := by
  have hcount := run.history
    (fun past mounts => ∀ now, mounts.manager.mounts.get imagePath = some now →
      now.refcount + releases imagePath past = state.refcount + acquires imagePath past)
    (by
      intro past mounts step after hpast htracked hnext now hnow
      obtain ⟨old, hold⟩ := htracked
      have hstep := refcount_step imagePath mounts after step old now hnext hold hnow
      have hold := hpast old hold
      simp only [releases, acquires, List.countP_append] at hstep hold ⊢
      omega) []
    (by
      intro now hnow
      rw [← Option.some.inj (hget.symm.trans hnow)]
      rfl)
  exact hcount state' hget'

theorem refcount_since (start last : TimedMounts) (steps : List MountStep) (imagePath : String)
    (run : Run mountNext Unrestricted start steps last) (hstart : ¬Tracked imagePath start)
    (state : MountRefState) (hget : last.manager.mounts.get imagePath = some state) :
    ∃ since, SinceMounted start steps imagePath since ∧
      state.refcount + releases imagePath since = acquires imagePath since := by
  obtain ⟨before, step, rest, middle, mounted, rfl, hbefore, hnot, -, hnext, htracked, hrest⟩ :=
    run.since (Tracked imagePath) hstart ⟨state, hget⟩
  obtain ⟨hcall, first, hfirst, hone⟩ := mounted_state imagePath middle mounted step hnext hnot htracked
  have hrest := hrest.weaken (fun _ _ h => h.1)
  have hcount := refcount_run imagePath mounted last rest hrest first state hfirst hget
  obtain ⟨now, call⟩ := step
  obtain rfl : call = .Acquire imagePath := hcall
  refine ⟨_, ⟨before, now, rest, middle, mounted, last, rfl, rfl, hbefore, hnot, hnext, hrest⟩, ?_⟩
  simp only [releases, acquires, List.countP_cons] at hcount ⊢
  simp
  omega

-- Nobody has acquired or released the image since its release at this time.
def HeldSince (steps : List MountStep) (imagePath : String) (start : Nat) : Prop :=
  ∃ before rest, steps = before ++ ⟨start, .Release imagePath⟩ :: rest ∧
    ∀ step ∈ rest, step.call ≠ .Acquire imagePath ∧ step.call ≠ .Release imagePath

theorem held_step (imagePath : String) (mounts after : TimedMounts) (step : MountStep)
    (state : MountRefState) (start : Nat) (hstart : state.holdStart = some start)
    (hnext : mountNext mounts step = some after)
    (hget : mounts.manager.mounts.get imagePath ≠ some state)
    (hget' : after.manager.mounts.get imagePath = some state)
    (htimed : ∀ old, mounts.manager.mounts.get imagePath = some old → Timed old) :
    step = ⟨start, .Release imagePath⟩ := by
  have hchange := mountNext_change imagePath mounts after step hnext
  rw [hget'] at hchange
  generalize mounts.manager.mounts.get imagePath = found at hchange hget htimed
  cases hchange with
  | Same => exact absurd rfl hget
  | Mounted => cases hstart
  | Acquired => cases hstart
  | Released old hcall hold hpositive =>
    rw [(htimed old hold).holdStart_eq_none hpositive, Option.ite_none_right_eq_some] at hstart
    obtain ⟨now, call⟩ := step
    simp only [Option.some.injEq] at hstart hcall
    rw [hcall, hstart.2]

theorem held_since (start last : TimedMounts) (steps : List MountStep) (imagePath : String)
    (run : Run mountNext Unrestricted start steps last) (hnew : ¬Tracked imagePath start)
    (htimed : ∀ imagePath state, start.manager.mounts.get imagePath = some state → Timed state)
    (state : MountRefState) (hget : last.manager.mounts.get imagePath = some state)
    (held : Nat) (hheld : state.holdStart = some held) : HeldSince steps imagePath held := by
  obtain ⟨before, step, rest, middle, released, rfl, hbefore, hnot, -, hnext, hkept, hrest⟩ :=
    run.since (fun mounts => mounts.manager.mounts.get imagePath = some state)
      (fun h => hnew ⟨state, h⟩) hget
  have hmiddle := hbefore.invariant
    (fun mounts => ∀ imagePath state, mounts.manager.mounts.get imagePath = some state → Timed state)
    (fun mounts step after h _ hnext => mountNext_timed mounts step after h hnext) htimed
  obtain rfl := held_step imagePath middle released step state held hheld hnext hnot hkept
    (hmiddle imagePath)
  refine ⟨before, rest, rfl, hrest.forall_labels _ ?_⟩
  rintro mounts other after ⟨hsame, hsame'⟩ hother
  have hcount := refcount_step imagePath mounts after other state state hother hsame
    (hsame' after hother)
  constructor <;> intro hcall <;> simp [acquires, releases, hcall] at hcount

-- A timer was set in the past, and the hold time is the one the manager was made with.
structure Clocked (holdDuration : Nat) (mounts : TimedMounts) : Prop where
  duration : mounts.manager.holdDuration = holdDuration
  started : ∀ imagePath state start, mounts.manager.mounts.get imagePath = some state →
    state.holdStart = some start → start ≤ mounts.clock

theorem run_holdDuration (now : Nat) (manager after : MountRefManager) (call : MountCall)
    (hrun : call.run now manager = some after) : after.holdDuration = manager.holdDuration := by
  cases call with
  | Acquire imagePath =>
    cases hrun
    unfold acquire
    split <;> rfl
  | Release imagePath =>
    simp only [MountCall.run, release] at hrun
    split at hrun
    · simp only [Option.ite_none_right_eq_some, Option.some.injEq] at hrun
      rw [← hrun.2, store]
    · rw [Option.some.inj hrun]
  | CheckExpiredHolds =>
    cases hrun
    rfl

theorem mountNext_clocked (holdDuration : Nat) (mounts : TimedMounts) (step : MountStep)
    (after : TimedMounts) (hclocked : Clocked holdDuration mounts)
    (hnext : mountNext mounts step = some after) : Clocked holdDuration after := by
  obtain ⟨hclock, hnow, hrun⟩ := mountNext_cases mounts after step hnext
  refine ⟨(run_holdDuration _ _ _ _ hrun).trans hclocked.duration, ?_⟩
  intro imagePath state start hget hstart
  have hchange := mountNext_change imagePath mounts after step hnext
  have hbefore := hclocked.started imagePath
  rw [hget] at hchange
  rw [hnow]
  generalize mounts.manager.mounts.get imagePath = found at hchange hbefore
  cases hchange with
  | Same => exact (hbefore state start rfl hstart).trans hclock
  | Mounted => cases hstart
  | Acquired => cases hstart
  | Released old _ hold _ =>
    by_cases hlast : old.refcount - 1 = 0
    · simp only [hlast, if_true, Option.some.injEq] at hstart
      omega
    · simp only [hlast, if_false] at hstart
      exact (hbefore old start hold hstart).trans hclock

theorem release_eq_none_iff (imagePath : String) (now : Nat) (manager : MountRefManager) :
    manager.release imagePath now = none ↔
      ∃ state, manager.mounts.get imagePath = some state ∧ state.refcount = 0 := by
  unfold release
  cases manager.mounts.get imagePath with
  | none => simp
  | some state => simp

theorem Clocked.mem_expired_iff {holdDuration : Nat} {mounts : TimedMounts}
    (hclocked : Clocked holdDuration mounts) (imagePath : String) (now : Nat)
    (hnow : mounts.clock ≤ now) :
    imagePath ∈ (mounts.manager.checkExpiredHolds now).2 ↔
      ∃ state start, mounts.manager.mounts.get imagePath = some state ∧ state.refcount = 0 ∧
        state.holdStart = some start ∧ start + holdDuration ≤ now := by
  rw [Mounts.mem_expired_iff]
  constructor
  · rintro ⟨state, hget, hexpired⟩
    obtain ⟨hzero, start, hstart, hlong⟩ := (isExpired_iff now mounts.manager state).mp hexpired
    have hpast := hclocked.started imagePath state start hget hstart
    rw [hclocked.duration] at hlong
    exact ⟨state, start, hget, hzero, hstart, by omega⟩
  · rintro ⟨state, start, hget, hzero, hstart, hlong⟩
    refine ⟨state, hget, (isExpired_iff now mounts.manager state).mpr ⟨hzero, start, hstart, ?_⟩⟩
    rw [hclocked.duration]
    omega

theorem refcounts_exact (mountBase : String) (holdDurationSecs clock : Nat)
    (steps : List MountStep) (last : TimedMounts)
    (run : Run mountNext Unrestricted ⟨.new mountBase holdDurationSecs, clock⟩ steps last) :
    (∀ imagePath state, last.manager.mounts.get imagePath = some state →
      (∃ since,
        SinceMounted ⟨.new mountBase holdDurationSecs, clock⟩ steps imagePath since ∧
        state.refcount + releases imagePath since = acquires imagePath since) ∧
      (state.holdStart.isSome ↔ state.refcount = 0) ∧
      ∀ start, state.holdStart = some start → HeldSince steps imagePath start) ∧
    (∀ imagePath now, last.manager.release imagePath now = none ↔
      ∃ state, last.manager.mounts.get imagePath = some state ∧ state.refcount = 0) ∧
    ∀ imagePath now, last.clock ≤ now →
      (imagePath ∈ (last.manager.checkExpiredHolds now).2 ↔
        ∃ state start, last.manager.mounts.get imagePath = some state ∧ state.refcount = 0 ∧
          state.holdStart = some start ∧ start + holdDurationSecs * 1000000000 ≤ now) ∧
      (last.manager.checkExpiredHolds now).1.mounts.get imagePath =
        if imagePath ∈ (last.manager.checkExpiredHolds now).2 then none
        else last.manager.mounts.get imagePath := by
  have hempty : ∀ imagePath state, (MountRefManager.new mountBase holdDurationSecs).mounts.get
      imagePath ≠ some state := by simp [MountRefManager.new]
  have hnew : ∀ imagePath, ¬Tracked imagePath ⟨.new mountBase holdDurationSecs, clock⟩ :=
    fun imagePath ⟨state, hget⟩ => hempty imagePath state hget
  have htimed := run.invariant
    (fun mounts => ∀ imagePath state, mounts.manager.mounts.get imagePath = some state → Timed state)
    (fun mounts step after h _ hnext => mountNext_timed mounts step after h hnext)
    (fun imagePath state hget => absurd hget (hempty imagePath state))
  have hclocked := run.invariant (Clocked (holdDurationSecs * 1000000000))
    (fun mounts step after h _ hnext => mountNext_clocked _ mounts step after h hnext)
    ⟨rfl, fun imagePath state _ hget => absurd hget (hempty imagePath state)⟩
  refine ⟨?_, fun imagePath now => release_eq_none_iff imagePath now last.manager, ?_⟩
  · intro imagePath state hget
    refine ⟨refcount_since _ last steps imagePath run (hnew imagePath) state hget,
      htimed imagePath state hget, ?_⟩
    exact held_since _ last steps imagePath run (hnew imagePath)
      (fun imagePath state hget => absurd hget (hempty imagePath state)) state hget
  · intro imagePath now hnow
    exact ⟨hclocked.mem_expired_iff imagePath now hnow,
      checkExpiredHolds_get imagePath now last.manager⟩

def sharedSteps : List MountStep :=
  [⟨1, .Acquire "/images/pytorch-2.5.sqfs"⟩, ⟨2, .Acquire "/images/pytorch-2.5.sqfs"⟩,
    ⟨3, .Release "/images/pytorch-2.5.sqfs"⟩, ⟨4, .Release "/images/pytorch-2.5.sqfs"⟩]

def sharedMounts : TimedMounts :=
  ⟨(MountRefManager.new "/run/uenv" 60).store "/images/pytorch-2.5.sqfs"
    ⟨"/images/pytorch-2.5.sqfs", "/run/uenv/pytorch-2.5", 0, some 4⟩, 4⟩

theorem refcounts_exact_shared :
    Run mountNext Unrestricted ⟨.new "/run/uenv" 60, 0⟩ sharedSteps sharedMounts ∧
    "/images/pytorch-2.5.sqfs" ∈ (sharedMounts.manager.checkExpiredHolds 60000000004).2 ∧
    sharedMounts.manager.release "/images/pytorch-2.5.sqfs" 5 = none := by
  have hrun : Run mountNext Unrestricted ⟨.new "/run/uenv" 60, 0⟩ sharedSteps sharedMounts :=
    (exec_eq_some_iff _ _ _ _).mp (by decide +kernel)
  obtain ⟨-, hrelease, hexpired⟩ := refcounts_exact "/run/uenv" 60 0 sharedSteps sharedMounts hrun
  have hget : sharedMounts.manager.mounts.get "/images/pytorch-2.5.sqfs" =
      some ⟨"/images/pytorch-2.5.sqfs", "/run/uenv/pytorch-2.5", 0, some 4⟩ :=
    Map.get_insert_self _ _ _
  exact ⟨hrun, (hexpired _ 60000000004 (by decide)).1.mpr ⟨_, 4, hget, rfl, rfl, by decide⟩,
    (hrelease _ 5).mpr ⟨_, hget, rfl⟩⟩

end Pact.Agent.Mounts
