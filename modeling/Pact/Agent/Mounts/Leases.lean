import Pact.Agent.Mounts.Theorems
import Pact.Library.Arithmetic

namespace Pact.Agent.Mounts

open Pact.Library MountRefManager

-- What a consumer holds from an acquire until the release that belongs to it: a share in one
-- mount of an image, which is told from the later ones by its number.
structure Lease (C : Type) where
  consumer : C
  imagePath : String
  mount : Nat
  deriving DecidableEq

-- The manager, how often each image has been mounted, the leases that have not been given back,
-- and whether a release has tripped the assertion.
structure Ledger (C : Type) where
  manager : MountRefManager
  mounted : Map String Nat
  leases : List (Lease C)
  tripped : Bool
  deriving DecidableEq

inductive LeaseStep (C : Type)
  | Acquire (consumer : C) (imagePath : String)
  | Release (lease : Lease C) (now : Nat)
  | ForceUnmount (imagePath : String)
  | CheckExpiredHolds (now : Nat)
  deriving DecidableEq

namespace Ledger

variable {C : Type}

def new (mountBase : String) (holdDurationSecs : Nat) : Ledger C :=
  ⟨.new mountBase holdDurationSecs, .empty, [], false⟩

def mount (imagePath : String) (ledger : Ledger C) : Nat := (ledger.mounted.get imagePath).getD 0

-- The number of the mount that an acquire gives a share in.
def mountToShare (imagePath : String) (ledger : Ledger C) : Nat :=
  match ledger.manager.mounts.get imagePath with
  | some _ => ledger.mount imagePath
  | none => ledger.mount imagePath + 1

def inUse (imagePath : String) (ledger : Ledger C) (lease : Lease C) : Bool :=
  lease.imagePath = imagePath ∧ lease.mount = ledger.mount imagePath

-- How many have acquired the image since it was last mounted and not released it yet.
def active (imagePath : String) (ledger : Ledger C) : Nat :=
  ledger.leases.countP (ledger.inUse imagePath)

end Ledger

-- The count in a word of 32 bits. None stands for the panic of a build with overflow checks.
def acquireWord (overflowChecks : Bool) (imagePath : String) (manager : MountRefManager) :
    Option MountRefManager :=
  match manager.mounts.get imagePath with
  | some state =>
    (wordResult overflowChecks 32 (state.refcount + 1)).map fun refcount =>
      manager.store imagePath { state with refcount := refcount, holdStart := none }
  | none => some (manager.acquire imagePath).1

-- Only what was acquired can be released, and only once. An acquire that panics gives no lease,
-- and a release that trips the assertion leaves the manager as it is.
def leaseNext {C : Type} [DecidableEq C] (overflowChecks : Bool) (ledger : Ledger C) :
    LeaseStep C → Option (Ledger C)
  | .Acquire consumer imagePath =>
    let mount := ledger.mountToShare imagePath
    match acquireWord overflowChecks imagePath ledger.manager with
    | some manager =>
      some { ledger with
        manager := manager
        mounted := ledger.mounted.insert imagePath mount
        leases := ledger.leases ++ [⟨consumer, imagePath, mount⟩] }
    | none => some ledger
  | .Release lease now =>
    if lease ∈ ledger.leases then
      match ledger.manager.release lease.imagePath now with
      | some manager =>
        some { ledger with manager := manager, leases := ledger.leases.erase lease }
      | none => some { ledger with leases := ledger.leases.erase lease, tripped := true }
    else none
  | .ForceUnmount imagePath => some { ledger with manager := ledger.manager.forceUnmount imagePath }
  | .CheckExpiredHolds now =>
    some { ledger with manager := (ledger.manager.checkExpiredHolds now).1 }

section Leases

variable {C : Type}

structure Accurate (ledger : Ledger C) : Prop where
  untripped : ledger.tripped = false
  counts : ∀ imagePath state, ledger.manager.mounts.get imagePath = some state →
    state.refcount = ledger.active imagePath

-- No lease is from a mount that is still to come.
def Numbered (ledger : Ledger C) : Prop :=
  ∀ lease ∈ ledger.leases, lease.mount ≤ ledger.mount lease.imagePath

-- A lease from before a forced unmount is not given back while the image is mounted again, and a
-- count does not wrap.
def Timely (overflowChecks : Bool) (ledger : Ledger C) : LeaseStep C → Prop
  | .Acquire _ imagePath => (ledger.manager.mounts.get imagePath).isSome → overflowChecks = false →
      ledger.active imagePath + 1 < 2 ^ 32
  | .Release lease _ => ∀ state, ledger.manager.mounts.get lease.imagePath = some state →
      lease.mount = ledger.mount lease.imagePath
  | _ => True

variable (ledger : Ledger C)

theorem mount_le_mountToShare (imagePath : String) :
    ledger.mount imagePath ≤ ledger.mountToShare imagePath := by
  unfold Ledger.mountToShare
  split <;> omega

theorem mount_insert (imagePath other : String) (number : Nat) (manager : MountRefManager)
    (leases : List (Lease C)) (tripped : Bool) :
    Ledger.mount other ⟨manager, ledger.mounted.insert imagePath number, leases, tripped⟩ =
      if other = imagePath then number else ledger.mount other := by
  simp only [Ledger.mount, Map.get_insert]
  split_ifs <;> rfl

theorem active_eq (imagePath : String) : ledger.active imagePath =
    ledger.leases.countP fun lease =>
      lease.imagePath = imagePath ∧ lease.mount = ledger.mount imagePath := rfl

theorem active_acquire (hnumbered : Numbered ledger) (consumer : C) (imagePath other : String)
    (manager : MountRefManager) (tripped : Bool) :
    Ledger.active other ⟨manager,
        ledger.mounted.insert imagePath (ledger.mountToShare imagePath),
        ledger.leases ++ [⟨consumer, imagePath, ledger.mountToShare imagePath⟩], tripped⟩ =
      if other = imagePath then
        match ledger.manager.mounts.get imagePath with
        | some _ => ledger.active imagePath + 1
        | none => 1
      else ledger.active other := by
  simp only [active_eq, mount_insert, List.countP_append, List.countP_singleton]
  by_cases hother : other = imagePath
  · subst hother
    simp only [if_true, and_self, decide_true, Ledger.mountToShare]
    split
    · rfl
    · have hnone : ledger.leases.countP (fun lease => lease.imagePath = other ∧
          lease.mount = ledger.mount other + 1) = 0 := by
        rw [List.countP_eq_zero]
        intro lease hmem hnew
        have hle := hnumbered lease hmem
        obtain ⟨rfl, hmount⟩ := of_decide_eq_true hnew
        omega
      rw [hnone]
  · simp [hother, Ne.symm hother]

theorem dropped_accurate (haccurate : Accurate ledger) (manager : MountRefManager)
    (hkept : ∀ imagePath state, manager.mounts.get imagePath = some state →
      ledger.manager.mounts.get imagePath = some state) :
    Accurate { ledger with manager := manager } :=
  ⟨haccurate.untripped, fun imagePath state hget =>
    haccurate.counts imagePath state (hkept imagePath state hget)⟩

theorem acquire_accurate (hnumbered : Numbered ledger) (haccurate : Accurate ledger) (consumer : C)
    (imagePath : String) :
    Accurate { ledger with
      manager := (ledger.manager.acquire imagePath).1
      mounted := ledger.mounted.insert imagePath (ledger.mountToShare imagePath)
      leases := ledger.leases ++ [⟨consumer, imagePath, ledger.mountToShare imagePath⟩] } := by
  refine ⟨haccurate.untripped, ?_⟩
  intro other state hget
  rw [active_acquire ledger hnumbered]
  have hchange := acquire_change other 0 ledger.manager imagePath
  rw [hget] at hchange
  have hbefore := haccurate.counts other
  generalize hfound : ledger.manager.mounts.get other = found at hchange hbefore
  cases hchange with
  | Same hacquire _ =>
    rw [if_neg (by rintro rfl; exact hacquire rfl)]
    exact hbefore state rfl
  | Mounted hcall hnone =>
    cases hcall
    subst hnone
    rw [if_pos rfl, hfound]
  | Acquired old hcall hold =>
    cases hcall
    rw [if_pos rfl, hfound, hold]
    exact congrArg (· + 1) (hbefore old hold)
  | Released _ hcall => cases hcall

variable [DecidableEq C]

theorem active_erase (lease : Lease C) (hmem : lease ∈ ledger.leases) (imagePath : String)
    (manager : MountRefManager) (tripped : Bool) :
    Ledger.active imagePath ⟨manager, ledger.mounted, ledger.leases.erase lease, tripped⟩ +
      (if ledger.inUse imagePath lease then 1 else 0) = ledger.active imagePath := by
  have hcount := (List.perm_cons_erase hmem).countP_eq (ledger.inUse imagePath)
  rw [List.countP_cons] at hcount
  exact hcount.symm

theorem active_erase_of_not (lease : Lease C) (hmem : lease ∈ ledger.leases) (imagePath : String)
    (manager : MountRefManager) (tripped : Bool)
    (hother : ¬(lease.imagePath = imagePath ∧ lease.mount = ledger.mount imagePath)) :
    Ledger.active imagePath ⟨manager, ledger.mounted, ledger.leases.erase lease, tripped⟩ =
      ledger.active imagePath := by
  have herased := active_erase ledger lease hmem imagePath manager tripped
  rwa [Ledger.inUse, decide_eq_false hother, if_neg Bool.false_ne_true, Nat.add_zero] at herased

theorem active_erase_of_inUse (lease : Lease C) (hmem : lease ∈ ledger.leases)
    (manager : MountRefManager) (tripped : Bool)
    (hcurrent : lease.mount = ledger.mount lease.imagePath) :
    Ledger.active lease.imagePath ⟨manager, ledger.mounted, ledger.leases.erase lease, tripped⟩ + 1 =
      ledger.active lease.imagePath := by
  have herased := active_erase ledger lease hmem lease.imagePath manager tripped
  rwa [Ledger.inUse, decide_eq_true ⟨rfl, hcurrent⟩, if_pos rfl] at herased

variable {overflowChecks : Bool}

theorem leaseNext_numbered (step : LeaseStep C) (after : Ledger C) (hnumbered : Numbered ledger)
    (hnext : leaseNext overflowChecks ledger step = some after) : Numbered after := by
  cases step with
  | Acquire consumer imagePath =>
    simp only [leaseNext] at hnext
    split at hnext
    case h_2 => exact Option.some.inj hnext ▸ hnumbered
    obtain rfl := Option.some.inj hnext
    intro lease hmem
    rw [mount_insert]
    rcases List.mem_append.mp hmem with hold | hnew
    · have hle := hnumbered lease hold
      split_ifs with himage
      · rw [himage] at hle
        exact hle.trans (mount_le_mountToShare ledger imagePath)
      · exact hle
    · rw [List.mem_singleton.mp hnew, if_pos rfl]
  | Release lease now =>
    simp only [leaseNext, Option.ite_none_right_eq_some] at hnext
    obtain ⟨_, hnext⟩ := hnext
    have hkept : ∀ other ∈ ledger.leases.erase lease, other.mount ≤ ledger.mount other.imagePath :=
      fun other hmem => hnumbered other (List.mem_of_mem_erase hmem)
    split at hnext <;> (obtain rfl := Option.some.inj hnext; exact hkept)
  | ForceUnmount imagePath =>
    obtain rfl := Option.some.inj hnext
    exact hnumbered
  | CheckExpiredHolds now =>
    obtain rfl := Option.some.inj hnext
    exact hnumbered

theorem acquireWord_of_lt (imagePath : String) (manager : MountRefManager)
    (hfits : ∀ state, manager.mounts.get imagePath = some state → state.refcount + 1 < 2 ^ 32) :
    acquireWord overflowChecks imagePath manager = some (manager.acquire imagePath).1 := by
  unfold acquireWord
  cases hget : manager.mounts.get imagePath with
  | none => rfl
  | some state =>
    simp only [wordResult_of_lt overflowChecks 32 _ (hfits state hget), Option.map_some,
      MountRefManager.acquire, hget]

theorem acquire_accurate_iff (hnumbered : Numbered ledger) (haccurate : Accurate ledger)
    (consumer : C) (imagePath : String) (after : Ledger C)
    (hnext : leaseNext overflowChecks ledger (.Acquire consumer imagePath) = some after) :
    Accurate after ↔ Timely overflowChecks ledger (.Acquire consumer imagePath) := by
  by_cases hfits : ∀ state, ledger.manager.mounts.get imagePath = some state →
      state.refcount + 1 < 2 ^ 32
  · simp only [leaseNext, acquireWord_of_lt imagePath ledger.manager hfits, Option.some.injEq] at hnext
    subst hnext
    refine iff_of_true (acquire_accurate ledger hnumbered haccurate consumer imagePath) ?_
    intro hmounted _
    obtain ⟨state, hget⟩ := Option.isSome_iff_exists.mp hmounted
    exact haccurate.counts imagePath state hget ▸ hfits state hget
  · obtain ⟨state, hget, hfull⟩ : ∃ state, ledger.manager.mounts.get imagePath = some state ∧
        2 ^ 32 ≤ state.refcount + 1 := by simpa using hfits
    have hcount := haccurate.counts imagePath state hget
    simp only [leaseNext, acquireWord, hget] at hnext
    cases overflowChecks with
    | true =>
      simp only [wordResult_checked 32 _ hfull, Option.map_none, Option.some.injEq] at hnext
      subst hnext
      exact iff_of_true haccurate fun _ => Bool.noConfusion
    | false =>
      simp only [wordResult_unchecked, Option.map_some, Option.some.injEq] at hnext
      subst hnext
      refine iff_of_false ?_ ?_
      · intro hafter
        have hwrapped := hafter.counts imagePath _ (Map.get_insert_self _ _ _)
        simp only [active_acquire ledger hnumbered, if_true, hget] at hwrapped
        have hlt := Nat.mod_lt (state.refcount + 1) (Nat.two_pow_pos 32)
        rw [hwrapped, ← hcount] at hlt
        exact absurd hlt (Nat.not_lt.mpr hfull)
      · intro htimely
        have hlt := htimely (by rw [hget]; rfl) rfl
        omega

theorem release_counts (imagePath : String) (now : Nat) (before manager : MountRefManager)
    (state : MountRefState) (hget : before.mounts.get imagePath = some state)
    (hrelease : before.release imagePath now = some manager) :
    0 < state.refcount ∧ ∃ released : MountRefState, released.refcount = state.refcount - 1 ∧
      ∀ other, manager.mounts.get other =
        if other = imagePath then some released else before.mounts.get other := by
  simp only [release, hget, Option.ite_none_right_eq_some, Option.some.injEq] at hrelease
  obtain ⟨hpositive, rfl⟩ := hrelease
  refine ⟨hpositive, _, ?_, fun other => Map.get_insert _ _ _ _⟩
  rfl

theorem released_accurate_iff (haccurate : Accurate ledger) (lease : Lease C) (now : Nat)
    (hmem : lease ∈ ledger.leases) (state : MountRefState)
    (hget : ledger.manager.mounts.get lease.imagePath = some state) (manager : MountRefManager)
    (hrelease : ledger.manager.release lease.imagePath now = some manager) :
    Accurate { ledger with manager := manager, leases := ledger.leases.erase lease } ↔
      lease.mount = ledger.mount lease.imagePath := by
  obtain ⟨hpositive, released, hreleased, hmanager⟩ :=
    release_counts lease.imagePath now ledger.manager manager state hget hrelease
  have hbefore := haccurate.counts lease.imagePath state hget
  by_cases hcurrent : lease.mount = ledger.mount lease.imagePath
  · refine iff_of_true ⟨haccurate.untripped, ?_⟩ hcurrent
    intro other found hfound
    rw [hmanager, ite_eq_iff] at hfound
    rcases hfound with ⟨rfl, ⟨⟩⟩ | ⟨hother, hfound⟩
    · have hfewer := active_erase_of_inUse ledger lease hmem manager ledger.tripped hcurrent
      omega
    · rw [active_erase_of_not ledger lease hmem other manager ledger.tripped
        fun h => hother h.1.symm]
      exact haccurate.counts other found hfound
  · refine iff_of_false ?_ hcurrent
    intro hafter
    have hcount := hafter.counts lease.imagePath released (by rw [hmanager, if_pos rfl])
    have hsame := active_erase_of_not ledger lease hmem lease.imagePath manager ledger.tripped
      fun h => hcurrent h.2
    omega

theorem unmounted_accurate (haccurate : Accurate ledger) (lease : Lease C)
    (hmem : lease ∈ ledger.leases) (hget : ledger.manager.mounts.get lease.imagePath = none) :
    Accurate { ledger with leases := ledger.leases.erase lease } := by
  refine ⟨haccurate.untripped, ?_⟩
  intro other state hother
  have hne : lease.imagePath ≠ other := by
    rintro rfl
    exact nomatch hget.symm.trans hother
  rw [active_erase_of_not ledger lease hmem other ledger.manager ledger.tripped fun h => hne h.1]
  exact haccurate.counts other state hother

theorem release_accurate_iff (haccurate : Accurate ledger) (lease : Lease C) (now : Nat)
    (after : Ledger C) (hnext : leaseNext overflowChecks ledger (.Release lease now) = some after) :
    Accurate after ↔ Timely overflowChecks ledger (.Release lease now) := by
  simp only [leaseNext, Option.ite_none_right_eq_some] at hnext
  obtain ⟨hmem, hnext⟩ := hnext
  cases hget : ledger.manager.mounts.get lease.imagePath with
  | none =>
    simp only [release, hget, Option.some.injEq] at hnext
    subst hnext
    refine iff_of_true (unmounted_accurate ledger haccurate lease hmem hget) ?_
    intro state hstate
    rw [hget] at hstate
    cases hstate
  | some state =>
    have htimely : Timely overflowChecks ledger (.Release lease now) ↔
        lease.mount = ledger.mount lease.imagePath := by
      simp [Timely, hget]
    rw [htimely]
    cases hrelease : ledger.manager.release lease.imagePath now with
    | some manager =>
      rw [hrelease] at hnext
      obtain rfl := Option.some.inj hnext
      exact released_accurate_iff ledger haccurate lease now hmem state hget manager hrelease
    | none =>
      rw [hrelease] at hnext
      obtain rfl := Option.some.inj hnext
      refine iff_of_false ?_ ?_
      · intro hafter
        cases hafter.untripped
      · -- The count is zero, so the lease is not among those that are counted.
        intro hcurrent
        obtain ⟨found, hfound, hzero⟩ := (release_eq_none_iff _ _ _).mp hrelease
        have hcount := haccurate.counts lease.imagePath found hfound
        rw [hzero, eq_comm, Ledger.active, List.countP_eq_zero] at hcount
        exact hcount lease hmem (by simp [Ledger.inUse, hcurrent])

theorem leaseNext_accurate_iff (step : LeaseStep C) (after : Ledger C) (hnumbered : Numbered ledger)
    (haccurate : Accurate ledger) (hnext : leaseNext overflowChecks ledger step = some after) :
    Accurate after ↔ Timely overflowChecks ledger step := by
  cases step with
  | Acquire consumer imagePath =>
    exact acquire_accurate_iff ledger hnumbered haccurate consumer imagePath after hnext
  | Release lease now => exact release_accurate_iff ledger haccurate lease now after hnext
  | ForceUnmount imagePath =>
    obtain rfl := Option.some.inj hnext
    refine iff_of_true (dropped_accurate ledger haccurate _ ?_) trivial
    intro other state hget
    rw [forceUnmount, Map.get_erase] at hget
    split_ifs at hget
    exact hget
  | CheckExpiredHolds now =>
    obtain rfl := Option.some.inj hnext
    refine iff_of_true (dropped_accurate ledger haccurate _ ?_) trivial
    intro other state hget
    rw [checkExpiredHolds_get] at hget
    split_ifs at hget
    exact hget

-- The counts stay accurate, and no release trips the assertion, exactly in the runs in which no
-- lease from before a forced unmount is given back while the image is mounted again: the manager
-- takes such a release for one of the new mount. Without overflow checks no count may wrap either.
theorem leases_accurate_iff (overflowChecks : Bool) (mountBase : String) (holdDurationSecs : Nat)
    (steps : List (LeaseStep C)) (last : Ledger C)
    (run : Run (leaseNext overflowChecks) Unrestricted (.new mountBase holdDurationSecs) steps last) :
    (∀ ran rest middle, steps = ran ++ rest →
      Run (leaseNext overflowChecks) Unrestricted (.new mountBase holdDurationSecs) ran middle →
      Accurate middle) ↔
    Run (leaseNext overflowChecks) (Timely overflowChecks) (.new mountBase holdDurationSecs) steps
      last := by
  refine Run.always_iff_beside Numbered Accurate (fun ledger => leaseNext_numbered ledger)
    (fun ledger => leaseNext_accurate_iff ledger) run ?_ ?_
  · intro lease hmem
    cases hmem
  · refine ⟨rfl, ?_⟩
    intro imagePath state hget
    simp [Ledger.new, MountRefManager.new] at hget

end Leases

-- The lease of alice outlives a forced unmount, and is given back before bob mounts the image
-- again.
def earlyReturn : List (LeaseStep String) :=
  [.Acquire "alice" "/images/pytorch-2.5.sqfs", .ForceUnmount "/images/pytorch-2.5.sqfs",
    .Release ⟨"alice", "/images/pytorch-2.5.sqfs", 1⟩ 5,
    .Acquire "bob" "/images/pytorch-2.5.sqfs"]

instance {C : Type} (overflowChecks : Bool) (ledger : Ledger C) (step : LeaseStep C) :
    Decidable (Timely overflowChecks ledger step) :=
  match step with
  | .Release lease _ =>
    match hget : ledger.manager.mounts.get lease.imagePath with
    | none => isTrue fun _ hstate => nomatch hget.symm.trans hstate
    | some state => decidable_of_iff (lease.mount = ledger.mount lease.imagePath)
        ⟨fun h _ _ => h, fun h => h state hget⟩
  | .Acquire _ _ => inferInstanceAs (Decidable (_ → _ → _))
  | .ForceUnmount _ => isTrue trivial
  | .CheckExpiredHolds _ => isTrue trivial

theorem leases_accurate_early : ∃ last,
    Run (leaseNext false) (Timely false) (.new "/run/uenv" 60) earlyReturn last ∧
      Accurate last := by
  obtain ⟨last, hrun⟩ := exists_run_of_execWhere (leaseNext false) (Timely false)
    (.new "/run/uenv" 60) earlyReturn (by decide +kernel)
  have hany := hrun.unrestricted
  exact ⟨last, hrun, (leases_accurate_iff false "/run/uenv" 60 earlyReturn last hany).mpr hrun earlyReturn
    [] last (List.append_nil _).symm hany⟩

def lateReturn : List (LeaseStep String) :=
  [.Acquire "alice" "/images/pytorch-2.5.sqfs", .ForceUnmount "/images/pytorch-2.5.sqfs",
    .Acquire "bob" "/images/pytorch-2.5.sqfs", .Release ⟨"alice", "/images/pytorch-2.5.sqfs", 1⟩ 5]

-- The image counts as unused while bob uses it, and the release by bob trips the assertion.
theorem late_return_miscounts : ∃ ledger,
    exec (leaseNext false) (.new "/run/uenv" 60) lateReturn = some ledger ∧
      (ledger.manager.mounts.get "/images/pytorch-2.5.sqfs").map MountRefState.refcount = some 0 ∧
      ledger.active "/images/pytorch-2.5.sqfs" = 1 ∧ ¬Accurate ledger ∧
      (leaseNext false ledger (.Release ⟨"bob", "/images/pytorch-2.5.sqfs", 2⟩ 6)).map Ledger.tripped =
        some true := by
  have hreached : ((exec (leaseNext false) (.new "/run/uenv" 60) lateReturn).any fun ledger =>
      (ledger.manager.mounts.get "/images/pytorch-2.5.sqfs").map MountRefState.refcount = some 0 ∧
      ledger.active "/images/pytorch-2.5.sqfs" = 1 ∧
      (leaseNext false ledger (.Release ⟨"bob", "/images/pytorch-2.5.sqfs", 2⟩ 6)).map Ledger.tripped =
        some true) = true := by
    decide +kernel
  obtain ⟨ledger, hexec, hledger⟩ := (Option.any_eq_true _ _).mp hreached
  obtain ⟨hcount, hactive, htrips⟩ := of_decide_eq_true hledger
  refine ⟨ledger, hexec, hcount, hactive, ?_, htrips⟩
  intro haccurate
  obtain ⟨state, hget, hzero⟩ := Option.map_eq_some_iff.mp hcount
  have hsame := haccurate.counts _ state hget
  rw [hzero, hactive] at hsame
  cases hsame

end Pact.Agent.Mounts
