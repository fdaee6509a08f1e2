import Pact.Agent.Mounts

namespace Pact.Agent.Mounts

open Pact.Library MountRefManager

inductive RefCall
  | Acquire (imagePath : String)
  | Release (imagePath : String)
  | ForceUnmount (imagePath : String)
  | CheckExpiredHolds
  deriving DecidableEq

structure RefStep where
  now : Nat
  call : RefCall
  deriving DecidableEq

inductive Answer
  | MountPoint (mountPoint : String)
  | Released
  | Tripped
  | Unmounted
  | Expired (images : List String)
  deriving DecidableEq

-- A release that trips the assertion has not changed anything yet.
def RefStep.run (manager : MountRefManager) (step : RefStep) : MountRefManager × Answer :=
  match step.call with
  | .Acquire imagePath =>
    let (after, mountPoint) := manager.acquire imagePath
    (after, .MountPoint mountPoint)
  | .Release imagePath =>
    match manager.release imagePath step.now with
    | some after => (after, .Released)
    | none => (manager, .Tripped)
  | .ForceUnmount imagePath => (manager.forceUnmount imagePath, .Unmounted)
  | .CheckExpiredHolds =>
    let (after, expired) := manager.checkExpiredHolds step.now
    (after, .Expired expired)

namespace MountRefManager

def states (manager : MountRefManager) : List MountRefState := manager.mounts.values

def perform (manager : MountRefManager) (steps : List RefStep) : MountRefManager :=
  steps.foldl (fun manager step => (step.run manager).1) manager

-- All that can be seen of a manager: the answers to the calls, and the images with their counts,
-- mount points and timers after each of them.
def observations (manager : MountRefManager) : List RefStep → List (Answer × List MountRefState)
  | [] => []
  | step :: rest =>
    let (after, answer) := step.run manager
    (answer, after.states) :: observations after rest

end MountRefManager

def callsFor (now : Nat) (imagePath : String) (count : Nat) : List RefStep :=
  if count = 0 then [⟨now, .Acquire imagePath⟩, ⟨now, .Release imagePath⟩]
  else List.replicate count ⟨now, .Acquire imagePath⟩

def history (now : Nat) (activeMounts : List (String × Nat)) : List RefStep :=
  activeMounts.flatMap fun (imagePath, count) => callsFor now imagePath count

def reloaded (now : Nat) (imagePath : String) (count : Nat) (manager : MountRefManager) :
    MountRefManager :=
  manager.store imagePath
    ⟨imagePath, manager.mountPoint imagePath, count, if count = 0 then some now else none⟩

section Calls

variable (now : Nat) (imagePath : String) (manager : MountRefManager)

theorem store_store (state other : MountRefState) :
    (manager.store imagePath state).store imagePath other = manager.store imagePath other := by
  simp only [store, Map.insert_insert]

theorem perform_append (steps more : List RefStep) :
    manager.perform (steps ++ more) = (manager.perform steps).perform more :=
  List.foldl_append

theorem observations_append (steps more : List RefStep) :
    manager.observations (steps ++ more) =
      manager.observations steps ++ (manager.perform steps).observations more := by
  induction steps generalizing manager with
  | nil => rfl
  | cons step steps ih => exact congrArg _ (ih (step.run manager).1)

theorem acquire_untracked (huntracked : manager.mounts.get imagePath = none) :
    (manager.acquire imagePath).1 = reloaded now imagePath 1 manager := by
  simp [acquire, huntracked, reloaded]

theorem acquire_reloaded (count : Nat) :
    ((reloaded now imagePath count manager).acquire imagePath).1 =
      reloaded now imagePath (count + 1) manager := by
  have hget : (reloaded now imagePath count manager).mounts.get imagePath =
      some ⟨imagePath, manager.mountPoint imagePath, count, if count = 0 then some now else none⟩ :=
    Map.get_insert_self _ _ _
  simp only [acquire, hget]
  exact store_store imagePath manager _ _

theorem release_acquired (huntracked : manager.mounts.get imagePath = none) :
    (manager.acquire imagePath).1.release imagePath now = some (reloaded now imagePath 0 manager) := by
  have hget : (reloaded now imagePath 1 manager).mounts.get imagePath =
      some ⟨imagePath, manager.mountPoint imagePath, 1, none⟩ :=
    Map.get_insert_self _ _ _
  rw [acquire_untracked now imagePath manager huntracked]
  simp only [release, hget]
  exact congrArg some (store_store imagePath manager _ _)

theorem perform_acquires (huntracked : manager.mounts.get imagePath = none) (count : Nat) :
    manager.perform (List.replicate (count + 1) ⟨now, .Acquire imagePath⟩) =
      reloaded now imagePath (count + 1) manager := by
  induction count with
  | zero => exact acquire_untracked now imagePath manager huntracked
  | succ count ih =>
    rw [List.replicate_succ', perform_append, ih]
    exact acquire_reloaded now imagePath manager (count + 1)

theorem acquires_answered (count : Nat) (seen : Answer × List MountRefState)
    (hseen : seen ∈ manager.observations (List.replicate count ⟨now, .Acquire imagePath⟩)) :
    seen.1 ≠ .Tripped := by
  induction count generalizing manager with
  | zero => cases hseen
  | succ count ih =>
    rcases List.mem_cons.mp hseen with rfl | hrest
    · nofun
    · exact ih _ hrest

theorem perform_callsFor (huntracked : manager.mounts.get imagePath = none) (count : Nat) :
    manager.perform (callsFor now imagePath count) = reloaded now imagePath count manager := by
  cases count with
  | zero =>
    simp [callsFor, perform, RefStep.run, release_acquired now imagePath manager huntracked]
  | succ count => exact perform_acquires now imagePath manager huntracked count

theorem callsFor_answered (huntracked : manager.mounts.get imagePath = none) (count : Nat)
    (seen : Answer × List MountRefState)
    (hseen : seen ∈ manager.observations (callsFor now imagePath count)) :
    seen.1 ≠ .Tripped := by
  cases count with
  | zero =>
    simp only [callsFor, ↓reduceIte, observations, RefStep.run,
      release_acquired now imagePath manager huntracked, List.mem_cons, List.not_mem_nil,
      or_false] at hseen
    rcases hseen with rfl | rfl <;> nofun
  | succ count => exact acquires_answered now imagePath manager (count + 1) seen hseen

theorem reloaded_untracked (other : String) (count : Nat) (hother : other ≠ imagePath)
    (huntracked : manager.mounts.get other = none) :
    (reloaded now imagePath count manager).mounts.get other = none := by
  rw [reloaded, store, Map.get_insert_of_ne _ _ hother, huntracked]

end Calls

section Reconstruction

variable (now : Nat) (activeMounts : List (String × Nat)) (manager : MountRefManager)

-- By induction on the pairs: those still to come are of images that are not tracked yet.
theorem perform_history (hdistinct : (activeMounts.map Prod.fst).Nodup)
    (huntracked : ∀ pair ∈ activeMounts, manager.mounts.get pair.1 = none) :
    manager.perform (history now activeMounts) = manager.reconstruct activeMounts now ∧
      ∀ seen ∈ manager.observations (history now activeMounts), seen.1 ≠ .Tripped := by
  induction activeMounts generalizing manager with
  | nil => exact ⟨rfl, nofun⟩
  | cons pair rest ih =>
    obtain ⟨imagePath, count⟩ := pair
    obtain ⟨hfresh, hrest⟩ := List.nodup_cons.mp hdistinct
    have huntrackedHead : manager.mounts.get imagePath = none :=
      huntracked _ List.mem_cons_self
    have huntrackedRest : ∀ pair ∈ rest,
        (reloaded now imagePath count manager).mounts.get pair.1 = none := by
      intro pair hpair
      refine reloaded_untracked now imagePath manager pair.1 count ?_
        (huntracked pair (List.mem_cons_of_mem _ hpair))
      rintro rfl
      exact hfresh (List.mem_map.mpr ⟨pair, hpair, rfl⟩)
    have hhistory : history now ((imagePath, count) :: rest) =
        callsFor now imagePath count ++ history now rest := rfl
    have hcalls := perform_callsFor now imagePath manager huntrackedHead count
    obtain ⟨hstate, hanswers⟩ := ih _ hrest huntrackedRest
    refine ⟨?_, ?_⟩
    · rw [hhistory, perform_append, hcalls, hstate]
      rfl
    · intro seen hseen
      rw [hhistory, observations_append, hcalls, List.mem_append] at hseen
      rcases hseen with hhead | htail
      · exact callsFor_answered now imagePath manager huntrackedHead count seen hhead
      · exact hanswers seen htail

-- A manager rebuilt from pairs of image and count is not told from one that came there by the
-- calls, none of which fails, by anything that is called on it later.
theorem reconstruct_observed (mountBase : String) (holdDurationSecs : Nat)
    (hdistinct : (activeMounts.map Prod.fst).Nodup) :
    let rebuilt := (new mountBase holdDurationSecs).reconstruct activeMounts now
    let lived := (new mountBase holdDurationSecs).perform (history now activeMounts)
    (∀ seen ∈ (new mountBase holdDurationSecs).observations (history now activeMounts),
        seen.1 ≠ .Tripped) ∧
      rebuilt.states = lived.states ∧
        ∀ steps, rebuilt.observations steps = lived.observations steps := by
  intro rebuilt lived
  obtain ⟨hstate, hanswers⟩ :=
    perform_history now activeMounts (new mountBase holdDurationSecs) hdistinct fun _ _ => rfl
  have hsame : lived = rebuilt := hstate
  refine ⟨hanswers, ?_, ?_⟩
  · rw [hsame]
  · intro steps
    rw [hsame]

-- One image in use twice and one held: the second expires when its hold is over, and the first
-- does not.
theorem reconstruct_observed_two :
    let pairs := [("/img/a.sqfs", 2), ("/img/b.sqfs", 0)]
    let steps : List RefStep := [⟨3000000000, .CheckExpiredHolds⟩, ⟨4000000000, .Release "/img/a.sqfs"⟩]
    ((new "/run" 2).perform (history 0 pairs)).observations steps =
        [(.Expired ["/img/b.sqfs"], [⟨"/img/a.sqfs", "/run/a", 2, none⟩]),
          (.Released, [⟨"/img/a.sqfs", "/run/a", 1, none⟩])] ∧
      ((new "/run" 2).reconstruct pairs 0).observations steps =
        ((new "/run" 2).perform (history 0 pairs)).observations steps := by
  refine ⟨?_, ?_⟩
  · decide +kernel
  · exact (reconstruct_observed 0 _ "/run" 2 (by decide)).2.2 _

end Reconstruction

end Pact.Agent.Mounts
