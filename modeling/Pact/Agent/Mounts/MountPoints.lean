import Pact.Agent.Mounts.Reconstruction
import Pact.Agent.Mounts.Theorems

namespace Pact.Agent.Mounts

open Pact.Library MountRefManager

-- All calls on a manager. The instants of two calls need not be in order here.
inductive ManagerCall
  | Ref (step : RefStep)
  | Reconstruct (now : Nat) (activeMounts : List (String × Nat))
  deriving DecidableEq

def managerNext (manager : MountRefManager) : ManagerCall → Option MountRefManager
  | .Ref step => some (step.run manager).1
  | .Reconstruct now activeMounts => some (manager.reconstruct activeMounts now)

-- The images that a call tracks if they are not tracked yet.
def ManagerCall.images : ManagerCall → List String
  | .Ref ⟨_, .Acquire imagePath⟩ => [imagePath]
  | .Ref _ => []
  | .Reconstruct _ activeMounts => activeMounts.map Prod.fst

-- The last part of a mount point, and all of it that depends on the image.
def imageName (imagePath : String) : String :=
  remove (((split imagePath '/').getLast?).getD imagePath) ".sqfs"

def MountRefManager.images (manager : MountRefManager) : List String :=
  manager.mounts.toList.map Prod.fst

def DistinctMountPoints (manager : MountRefManager) : Prop :=
  ∀ first ∈ manager.states, ∀ second ∈ manager.states,
    first.imagePath ≠ second.imagePath → first.mountPoint ≠ second.mountPoint

-- No image that the call may add has the name of another one, tracked before or added with it.
def AddsApart (manager : MountRefManager) (call : ManagerCall) : Prop :=
  ∀ image ∈ call.images, ∀ other ∈ manager.images ++ call.images,
    other ≠ image → imageName other ≠ imageName image

instance (manager : MountRefManager) : Decidable (DistinctMountPoints manager) :=
  inferInstanceAs (Decidable (∀ first ∈ manager.states, ∀ second ∈ manager.states,
    first.imagePath ≠ second.imagePath → first.mountPoint ≠ second.mountPoint))

instance (manager : MountRefManager) (call : ManagerCall) : Decidable (AddsApart manager call) :=
  inferInstanceAs (Decidable (∀ image ∈ call.images, ∀ other ∈ manager.images ++ call.images,
    other ≠ image → imageName other ≠ imageName image))

-- Every record is stored under its own image and mounted where that image belongs.
def Filed (manager : MountRefManager) : Prop :=
  ∀ imagePath state, manager.mounts.get imagePath = some state →
    state.imagePath = imagePath ∧ state.mountPoint = manager.mountPoint imagePath

theorem mountPoint_eq_iff (manager : MountRefManager) (imagePath other : String) :
    manager.mountPoint imagePath = manager.mountPoint other ↔ imageName imagePath = imageName other :=
  String.append_right_inj _

theorem mem_images_iff (manager : MountRefManager) (imagePath : String) :
    imagePath ∈ manager.images ↔ ∃ state, manager.mounts.get imagePath = some state := by
  simp only [MountRefManager.images, List.mem_map, Prod.exists, Map.mem_toList_iff, exists_and_right,
    exists_eq_right]

theorem distinctMountPoints_iff (manager : MountRefManager) (hfiled : Filed manager) :
    DistinctMountPoints manager ↔
      ∀ image ∈ manager.images, ∀ other ∈ manager.images,
        other ≠ image → imageName other ≠ imageName image := by
  constructor
  · intro hdistinct image himage other hother hne hname
    obtain ⟨first, hfirst⟩ := (mem_images_iff manager image).mp himage
    obtain ⟨second, hsecond⟩ := (mem_images_iff manager other).mp hother
    obtain ⟨hfirstPath, hfirstPoint⟩ := hfiled image first hfirst
    obtain ⟨hsecondPath, hsecondPoint⟩ := hfiled other second hsecond
    refine hdistinct second ((Map.mem_values_iff _ _).mpr ⟨other, hsecond⟩) first
      ((Map.mem_values_iff _ _).mpr ⟨image, hfirst⟩) ?_ ?_
    · rwa [hfirstPath, hsecondPath]
    · rw [hfirstPoint, hsecondPoint]
      exact (mountPoint_eq_iff manager other image).mpr hname
  · intro hnames first hfirst second hsecond hne hpoint
    obtain ⟨image, himage⟩ := (Map.mem_values_iff _ _).mp hfirst
    obtain ⟨other, hother⟩ := (Map.mem_values_iff _ _).mp hsecond
    obtain ⟨rfl, hfirstPoint⟩ := hfiled image first himage
    obtain ⟨rfl, hsecondPoint⟩ := hfiled other second hother
    rw [hfirstPoint, hsecondPoint] at hpoint
    exact hnames _ ((mem_images_iff manager _).mpr ⟨second, hother⟩) _
      ((mem_images_iff manager _).mpr ⟨first, himage⟩) hne ((mountPoint_eq_iff manager _ _).mp hpoint)

-- What a call does to the set of tracked images: it tracks those it names and no others, and a
-- call that names one takes none away.
structure Tracks (manager after : MountRefManager) (named : List String) : Prop where
  source : ∀ imagePath ∈ after.images, imagePath ∈ manager.images ++ named
  added : ∀ imagePath ∈ named, imagePath ∈ after.images
  kept : ∀ first ∈ named, ∀ imagePath ∈ manager.images, imagePath ∈ after.images

def Shrinks (manager after : MountRefManager) : Prop :=
  after.mountBase = manager.mountBase ∧
    ∀ imagePath state, after.mounts.get imagePath = some state →
      manager.mounts.get imagePath = some state

section Calls

variable (manager after : MountRefManager) (imagePath : String)

theorem tracks_of_iff (named : List String)
    (h : ∀ other, other ∈ after.images ↔ other ∈ named ∨ other ∈ manager.images) :
    Tracks manager after named where
  source other hother := List.mem_append.mpr ((h other).mp hother).symm
  added other hother := (h other).mpr (.inl hother)
  kept _ _ other hother := (h other).mpr (.inr hother)

theorem mem_images_store_iff (state : MountRefState) (other : String) :
    other ∈ (manager.store imagePath state).images ↔ other = imagePath ∨ other ∈ manager.images := by
  simp only [mem_images_iff, store, Map.get_insert]
  by_cases hother : other = imagePath <;> simp [hother]

theorem filed_store (state : MountRefState) (hfiled : Filed manager)
    (hpath : state.imagePath = imagePath) (hpoint : state.mountPoint = manager.mountPoint imagePath) :
    Filed (manager.store imagePath state) := by
  intro other found hget
  rw [store, Map.get_insert] at hget
  split at hget
  case isTrue heq =>
    cases hget
    subst heq
    exact ⟨hpath, hpoint⟩
  case isFalse => exact hfiled other found hget

theorem Shrinks.filed {manager after : MountRefManager} (h : Shrinks manager after)
    (hfiled : Filed manager) : Filed after := by
  intro imagePath state hget
  have hpoint : after.mountPoint imagePath = manager.mountPoint imagePath := by
    rw [mountPoint, mountPoint, h.1]
  rw [hpoint]
  exact hfiled imagePath state (h.2 imagePath state hget)

theorem Shrinks.tracks {manager after : MountRefManager} (h : Shrinks manager after) :
    Tracks manager after [] where
  source imagePath himage := by
    obtain ⟨state, hget⟩ := (mem_images_iff after imagePath).mp himage
    rw [List.append_nil]
    exact (mem_images_iff manager imagePath).mpr ⟨state, h.2 imagePath state hget⟩
  added := nofun
  kept := nofun

theorem checkExpiredHolds_shrinks (now : Nat) :
    Shrinks manager (manager.checkExpiredHolds now).1 := by
  refine ⟨rfl, ?_⟩
  intro imagePath state hget
  rw [checkExpiredHolds_get, Option.ite_none_left_eq_some] at hget
  exact hget.2

theorem forceUnmount_shrinks : Shrinks manager (manager.forceUnmount imagePath) := by
  refine ⟨rfl, ?_⟩
  intro other state hget
  rw [forceUnmount, Map.get_erase, Option.ite_none_left_eq_some] at hget
  exact hget.2

theorem acquire_filed (hfiled : Filed manager) : Filed (manager.acquire imagePath).1 := by
  cases hget : manager.mounts.get imagePath with
  | none =>
    simp only [acquire, hget]
    exact filed_store manager imagePath _ hfiled rfl rfl
  | some state =>
    obtain ⟨hpath, hpoint⟩ := hfiled imagePath state hget
    simp only [acquire, hget]
    exact filed_store manager imagePath _ hfiled hpath hpoint

theorem acquire_tracks : Tracks manager (manager.acquire imagePath).1 [imagePath] := by
  refine tracks_of_iff _ _ _ fun other => ?_
  rw [List.mem_singleton]
  unfold acquire
  split <;> exact mem_images_store_iff manager imagePath _ other

theorem release_filed (now : Nat) (hfiled : Filed manager)
    (hrelease : manager.release imagePath now = some after) : Filed after := by
  unfold release at hrelease
  cases hget : manager.mounts.get imagePath with
  | none =>
    rw [hget, Option.some.injEq] at hrelease
    rwa [← hrelease]
  | some state =>
    simp only [hget, Option.ite_none_right_eq_some, Option.some.injEq] at hrelease
    obtain ⟨_, rfl⟩ := hrelease
    obtain ⟨hpath, hpoint⟩ := hfiled imagePath state hget
    exact filed_store manager imagePath _ hfiled hpath hpoint

theorem release_tracks (now : Nat) (hrelease : manager.release imagePath now = some after) :
    Tracks manager after [] := by
  refine ⟨?_, nofun, nofun⟩
  intro other hother
  rw [List.append_nil]
  unfold release at hrelease
  cases hget : manager.mounts.get imagePath with
  | none =>
    rw [hget, Option.some.injEq] at hrelease
    rwa [hrelease]
  | some state =>
    simp only [hget, Option.ite_none_right_eq_some, Option.some.injEq] at hrelease
    obtain ⟨_, rfl⟩ := hrelease
    rcases (mem_images_store_iff manager imagePath _ other).mp hother with rfl | hbefore
    · exact (mem_images_iff manager other).mpr ⟨state, hget⟩
    · exact hbefore

theorem reconstruct_filed (activeMounts : List (String × Nat)) (now : Nat) (hfiled : Filed manager) :
    Filed (manager.reconstruct activeMounts now) := by
  induction activeMounts generalizing manager with
  | nil => exact hfiled
  | cons pair rest ih => exact ih _ (filed_store manager pair.1 _ hfiled rfl rfl)

theorem mem_images_reconstruct_iff (activeMounts : List (String × Nat)) (now : Nat) (other : String) :
    other ∈ (manager.reconstruct activeMounts now).images ↔
      other ∈ activeMounts.map Prod.fst ∨ other ∈ manager.images := by
  induction activeMounts generalizing manager with
  | nil => simp [reconstruct]
  | cons pair rest ih =>
    have hfirst := ih (reloaded now pair.1 pair.2 manager)
    rw [reloaded, mem_images_store_iff] at hfirst
    rw [List.map_cons, List.mem_cons, or_assoc, or_left_comm]
    exact hfirst

end Calls

theorem managerNext_filed (manager : MountRefManager) (call : ManagerCall) (after : MountRefManager)
    (hfiled : Filed manager) (hnext : managerNext manager call = some after) : Filed after := by
  cases call with
  | Ref step =>
    obtain ⟨now, call⟩ := step
    cases hnext
    cases call with
    | Acquire imagePath => exact acquire_filed manager imagePath hfiled
    | Release imagePath =>
      unfold RefStep.run
      dsimp only
      split
      · exact release_filed manager _ imagePath now hfiled ‹_›
      · exact hfiled
    | ForceUnmount imagePath => exact (forceUnmount_shrinks manager imagePath).filed hfiled
    | CheckExpiredHolds => exact (checkExpiredHolds_shrinks manager now).filed hfiled
  | Reconstruct now activeMounts =>
    cases hnext
    exact reconstruct_filed manager activeMounts now hfiled

theorem managerNext_tracks (manager : MountRefManager) (call : ManagerCall) (after : MountRefManager)
    (hnext : managerNext manager call = some after) : Tracks manager after call.images := by
  cases call with
  | Ref step =>
    obtain ⟨now, call⟩ := step
    cases hnext
    cases call with
    | Acquire imagePath => exact acquire_tracks manager imagePath
    | Release imagePath =>
      unfold RefStep.run
      dsimp only
      split
      · exact release_tracks manager _ imagePath now ‹_›
      · exact Shrinks.tracks ⟨rfl, fun _ _ h => h⟩
    | ForceUnmount imagePath => exact (forceUnmount_shrinks manager imagePath).tracks
    | CheckExpiredHolds => exact (checkExpiredHolds_shrinks manager now).tracks
  | Reconstruct now activeMounts =>
    cases hnext
    exact tracks_of_iff _ _ _ (mem_images_reconstruct_iff manager activeMounts now)

theorem Tracks.distinct_iff {manager after : MountRefManager} {call : ManagerCall}
    (h : Tracks manager after call.images) (hfiled : Filed manager) (hfiledAfter : Filed after)
    (hdistinct : DistinctMountPoints manager) :
    DistinctMountPoints after ↔ AddsApart manager call := by
  rw [distinctMountPoints_iff manager hfiled] at hdistinct
  rw [distinctMountPoints_iff after hfiledAfter]
  constructor
  · intro hafter image himage other hother
    refine hafter image (h.added image himage) other ?_
    rcases List.mem_append.mp hother with hbefore | hnamed
    · exact h.kept image himage other hbefore
    · exact h.added other hnamed
  · intro hapart image himage other hother hne
    rcases List.mem_append.mp (h.source image himage) with himage | himage
    · rcases List.mem_append.mp (h.source other hother) with hother | hother
      · exact hdistinct image himage other hother hne
      · exact (hapart other hother image (List.mem_append_left _ himage) hne.symm).symm
    · exact hapart image himage other (h.source other hother) hne

theorem filed_new (mountBase : String) (holdDurationSecs : Nat) :
    Filed (new mountBase holdDurationSecs) := by
  intro imagePath state hget
  cases hget

-- Tracked images have mount points of their own all along exactly if no call adds an image whose
-- path ends in the same name as that of another one.
theorem mountPoints_distinct_iff (mountBase : String) (holdDurationSecs : Nat)
    (calls : List ManagerCall) (last : MountRefManager)
    (run : Run managerNext Unrestricted (new mountBase holdDurationSecs) calls last) :
    (∀ before rest middle, calls = before ++ rest →
      Run managerNext Unrestricted (new mountBase holdDurationSecs) before middle →
      DistinctMountPoints middle) ↔
    Run managerNext AddsApart (new mountBase holdDurationSecs) calls last := by
  refine run.always_iff_beside Filed DistinctMountPoints managerNext_filed ?_
    (filed_new mountBase holdDurationSecs) nofun
  intro manager call after hfiled hdistinct hnext
  exact (managerNext_tracks manager call after hnext).distinct_iff hfiled
    (managerNext_filed manager call after hfiled hnext) hdistinct

def apartCalls : List ManagerCall :=
  [.Reconstruct 0 [("/images/base.sqfs", 1)], .Ref ⟨1, .Acquire "/images/pytorch.sqfs"⟩,
    .Ref ⟨2, .Release "/images/base.sqfs"⟩, .Ref ⟨3, .ForceUnmount "/images/base.sqfs"⟩,
    .Ref ⟨4, .Acquire "/scratch/base.sqfs"⟩]

theorem mountPoints_distinct_apart :
    ∃ last, Run managerNext AddsApart (new "/run/pact/uenv" 60) apartCalls last ∧
      ∀ before rest middle, apartCalls = before ++ rest →
        Run managerNext Unrestricted (new "/run/pact/uenv" 60) before middle →
        DistinctMountPoints middle := by
  obtain ⟨last, hrun⟩ := exists_run_of_execWhere managerNext AddsApart (new "/run/pact/uenv" 60)
    apartCalls (by decide +kernel)
  exact ⟨last, hrun, (mountPoints_distinct_iff "/run/pact/uenv" 60 apartCalls last
    hrun.unrestricted).mpr hrun⟩

-- Two images of one name in different directories are mounted over each other.
theorem mountPoints_same_name :
    ∃ last, Run managerNext Unrestricted (new "/run/pact/uenv" 60)
        [.Ref ⟨0, .Acquire "/images/v1/pytorch.sqfs"⟩, .Ref ⟨1, .Acquire "/images/v2/pytorch.sqfs"⟩]
        last ∧
      last.states = [⟨"/images/v1/pytorch.sqfs", "/run/pact/uenv/pytorch", 1, none⟩,
        ⟨"/images/v2/pytorch.sqfs", "/run/pact/uenv/pytorch", 1, none⟩] ∧
      ¬DistinctMountPoints last := by
  refine ⟨_, (exec_eq_some_iff _ _ _ _).mp rfl, ?_, ?_⟩
  · decide +kernel
  · decide +kernel

end Pact.Agent.Mounts
