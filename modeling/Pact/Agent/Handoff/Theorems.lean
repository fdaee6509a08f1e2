import Pact.Agent.Handoff
import Pact.Agent.Mounts.MountPoints

namespace Pact.Agent.Handoff

open Pact.Library Pact.Agent.Mounts

theorem managerNext_mountBase (manager : MountRefManager) (call : ManagerCall)
    (after : MountRefManager) (hnext : managerNext manager call = some after) :
    after.mountBase = manager.mountBase := by
  cases call with
  | Ref step =>
    obtain ⟨now, call⟩ := step
    cases hnext
    cases call with
    | Acquire imagePath =>
      unfold RefStep.run MountRefManager.acquire
      dsimp only
      split <;> rfl
    | Release imagePath =>
      unfold RefStep.run MountRefManager.release
      dsimp only
      split
      case h_1 after hrelease =>
        split at hrelease
        · rw [Option.ite_none_right_eq_some, Option.some.injEq] at hrelease
          rw [← hrelease.2]
          rfl
        · cases hrelease
          rfl
      case h_2 => rfl
    | ForceUnmount imagePath => rfl
    | CheckExpiredHolds => rfl
  | Reconstruct now activeMounts =>
    cases hnext
    induction activeMounts generalizing manager with
    | nil => rfl
    | cons pair rest ih => exact ih (reloaded now pair.1 pair.2 manager)

theorem acquire_point (manager : MountRefManager) (imagePath : String) (hfiled : Filed manager) :
    (manager.acquire imagePath).2 = manager.mountPoint imagePath := by
  cases hget : manager.mounts.get imagePath with
  | none => simp only [MountRefManager.acquire, hget]
  | some state =>
    simp only [MountRefManager.acquire, hget]
    exact (hfiled imagePath state hget).2

theorem imageName_eq_remove_iff (image : String) :
    remove image ".sqfs" = imageName image ↔ '/' ∉ image.toList := by
  constructor
  · intro heq hslash
    have hkept := (mem_remove_iff image ".sqfs" '/' (by decide)).mpr hslash
    rw [heq, imageName, mem_remove_iff _ ".sqfs" '/' (by decide)] at hkept
    obtain ⟨last, hlast⟩ :=
      Option.isSome_iff_exists.mp (List.getLast?_isSome.mpr (split_ne_nil '/' image))
    rw [hlast, Option.getD_some] at hkept
    exact not_mem_of_mem_split '/' image last (List.mem_of_getLast? hlast) hkept
  · intro hslash
    rw [imageName, split_eq_singleton '/' image hslash]
    rfl

-- The path handed to the workload is where the image is mounted exactly if the image is named
-- without a directory.
theorem uenvMountPath_eq_iff (server : HandoffServer) (request : NamespaceRequest) (image : String)
    (holdDurationSecs : Nat) (calls : List ManagerCall) (manager : MountRefManager)
    (hready : server.ready = true) (himage : request.uenvImage = some image)
    (run : Run managerNext Unrestricted (.new uenvMountBase holdDurationSecs) calls manager) :
    (∃ response, (server.createNamespaces request).2 = .ok response ∧
      response.uenvMountPath = some (manager.acquire image).2) ↔ '/' ∉ image.toList := by
  have hfiled : Filed manager :=
    run.invariant Filed (fun manager call after h _ hnext => managerNext_filed manager call after h hnext)
      (filed_new _ _)
  have hbase : manager.mountBase = uenvMountBase :=
    run.invariant (fun manager => manager.mountBase = uenvMountBase)
      (fun manager call after h _ hnext => (managerNext_mountBase manager call after hnext).trans h) rfl
  have hpoint : manager.mountPoint image = uenvMountBase ++ "/" ++ imageName image := by
    rw [MountRefManager.mountPoint, hbase]
    rfl
  rw [acquire_point manager image hfiled, hpoint, ← imageName_eq_remove_iff]
  simp only [HandoffServer.createNamespaces, hready, himage, ↓reduceIte, Option.map_some,
    Except.ok.injEq, exists_eq_left', Option.some.injEq]
  exact String.append_right_inj _

def uenvRequest (image : String) : NamespaceRequest := ⟨"alloc-1", [.Mount], some image⟩

theorem uenvMountPath_eq_plain :
    ∃ response, (HandoffServer.new.setReady.createNamespaces (uenvRequest "pytorch.sqfs")).2 =
        .ok response ∧
      response.uenvMountPath =
        some ((MountRefManager.new uenvMountBase 60).acquire "pytorch.sqfs").2 :=
  (uenvMountPath_eq_iff HandoffServer.new.setReady (uenvRequest "pytorch.sqfs") "pytorch.sqfs" 60 []
    (.new uenvMountBase 60) rfl rfl (.nil _)).mpr (by decide)

-- An image in a directory is mounted under its name, and the workload is told another place.
theorem uenvMountPath_directory :
    (HandoffServer.new.setReady.createNamespaces (uenvRequest "/images/pytorch.sqfs")).2 =
        .ok ⟨"alloc-1", [.Mount], some "/run/pact/uenv//images/pytorch"⟩ ∧
      ((MountRefManager.new uenvMountBase 60).acquire "/images/pytorch.sqfs").2 =
        "/run/pact/uenv/pytorch" := by
  refine ⟨?_, ?_⟩
  · decide +kernel
  · decide +kernel

def lastOperation (allocationId : String) (writes : List Write) : Option Write :=
  (writes.filter fun write => write.allocationId = allocationId).getLast?

def Exact (writes : List Write) (server : HandoffServer) : Prop :=
  ∀ allocationId, (server.allocations.get allocationId).isSome ↔
    ∃ request, lastOperation allocationId writes = some (.Create request)

-- Whenever no call holds the lock, for reading or for writing.
def TrackedExactly (steps : List HandoffStep) : Prop :=
  ∀ before rest middle, steps = before ++ rest →
    Run handoffNext Unrestricted .new before middle → middle.free = true →
    Exact (trace handoffNext returned .new before) middle

-- A create or a release that returns with success has changed what is tracked.
def TakesEffect (server : HandoffServer) (step : HandoffStep) (after : HandoffServer) : Prop :=
  ∀ write ∈ returned server step, (∀ allocationId, write ≠ .Ended allocationId) →
    after.allocations ≠ server.allocations

def FindsFree (server : HandoffServer) : HandoffStep → Prop
  | .Create _ => server.ready = true → server.free = true
  | .Release _ => server.free = true
  | _ => True

-- The write changes something: the allocation is not tracked in the same way already, or not
-- untracked already.
def Write.Changes (allocations : Map String AllocationNamespaces) : Write → Prop
  | .Create request => allocations.get request.allocationId ≠ some request.tracked
  | .Release allocationId => allocations.get allocationId ≠ none
  | .Ended _ => True

def Effective (server : HandoffServer) (step : HandoffStep) : Prop :=
  FindsFree server step ∧
    (step = .Write → ∀ write ∈ server.writer, write.Changes server.allocations)

section Decidable

variable (server : HandoffServer) (step : HandoffStep)

instance : Decidable (FindsFree server step) := by
  cases step <;> unfold FindsFree <;> infer_instance

instance (allocations : Map String AllocationNamespaces) (write : Write) :
    Decidable (write.Changes allocations) := by
  cases write <;> unfold Write.Changes <;> infer_instance

instance : Decidable (Effective server step) := by
  unfold Effective
  infer_instance

end Decidable

theorem lastOperation_snoc_self (writes : List Write) (write : Write) :
    lastOperation write.allocationId (writes ++ [write]) = some write := by
  simp [lastOperation, List.filter_append]

theorem lastOperation_snoc_of_ne (writes : List Write) (write : Write) (allocationId : String)
    (hne : write.allocationId ≠ allocationId) :
    lastOperation allocationId (writes ++ [write]) = lastOperation allocationId writes := by
  simp [lastOperation, List.filter_append, hne]

theorem get_apply_of_ne (write : Write) (allocations : Map String AllocationNamespaces)
    (allocationId : String) (hne : write.allocationId ≠ allocationId) :
    (write.apply allocations).get allocationId = allocations.get allocationId := by
  cases write with
  | Create request => exact Map.get_insert_of_ne _ _ (Ne.symm hne)
  | Release released => exact (Map.get_erase _ _ _).trans (if_neg (Ne.symm hne))
  | Ended ended => exact (Map.get_erase _ _ _).trans (if_neg (Ne.symm hne))

theorem get_apply_self_isSome_iff (write : Write) (allocations : Map String AllocationNamespaces) :
    ((write.apply allocations).get write.allocationId).isSome ↔
      ∃ request, some write = some (.Create request) := by
  cases write with
  | Create request => simp [Write.apply, Write.allocationId]
  | Release released => simp [Write.apply, Write.allocationId, Map.get_erase]
  | Ended ended => simp [Write.apply, Write.allocationId, Map.get_erase]

theorem exact_apply (writes : List Write) (server after : HandoffServer) (write : Write)
    (hexact : Exact writes server) (hafter : after.allocations = write.apply server.allocations) :
    Exact (writes ++ [write]) after := by
  intro allocationId
  rw [hafter]
  by_cases hid : write.allocationId = allocationId
  · subst hid
    rw [lastOperation_snoc_self]
    exact get_apply_self_isSome_iff write server.allocations
  · rw [lastOperation_snoc_of_ne _ _ _ hid, get_apply_of_ne _ _ _ hid]
    exact hexact allocationId

theorem tryWrite_allocations (server : HandoffServer) (write : Write) :
    (server.tryWrite write).allocations = server.allocations := by
  unfold HandoffServer.tryWrite
  split <;> rfl

theorem createNamespaces_allocations (server : HandoffServer) (request : NamespaceRequest) :
    (server.createNamespaces request).1.allocations = server.allocations := by
  unfold HandoffServer.createNamespaces
  split
  · exact tryWrite_allocations server _
  · rfl

-- All that a step does to the allocations: the calls only take the lock, and the one that has it
-- writes.
theorem handoffNext_allocations (server : HandoffServer) (step : HandoffStep) (after : HandoffServer)
    (hnext : handoffNext server step = some after) :
    (step ≠ .Write ∧ after.allocations = server.allocations) ∨
      ∃ write, step = .Write ∧ server.writer = some write ∧
        after.allocations = write.apply server.allocations := by
  cases step with
  | SetReady =>
    cases hnext
    exact .inl ⟨nofun, rfl⟩
  | ReadLock =>
    rw [handoffNext, Option.ite_none_right_eq_some, Option.some.injEq] at hnext
    exact .inl ⟨nofun, by rw [← hnext.2]⟩
  | ReadUnlock =>
    rw [handoffNext, Option.ite_none_right_eq_some, Option.some.injEq] at hnext
    exact .inl ⟨nofun, by rw [← hnext.2]⟩
  | Create request =>
    cases hnext
    exact .inl ⟨nofun, createNamespaces_allocations server request⟩
  | Release allocationId =>
    cases hnext
    exact .inl ⟨nofun, tryWrite_allocations server _⟩
  | Ended allocationId =>
    rw [handoffNext, Option.ite_none_right_eq_some, Option.some.injEq] at hnext
    exact .inl ⟨nofun, by rw [← hnext.2]⟩
  | Write =>
    unfold handoffNext at hnext
    cases hwriter : server.writer with
    | none =>
      rw [hwriter] at hnext
      cases hnext
    | some write =>
      rw [hwriter, Option.some.injEq] at hnext
      exact .inr ⟨write, rfl, rfl, by rw [← hnext]⟩

theorem returned_eq_nil (server : HandoffServer) (step : HandoffStep) (hstep : step ≠ .Write)
    (hfree : FindsFree server step) : returned server step = [] := by
  cases step with
  | Create request =>
    refine if_neg ?_
    rintro ⟨hready, hheld⟩
    rw [hfree hready] at hheld
    cases hheld
  | Release allocationId => exact if_pos hfree
  | Write => exact absurd rfl hstep
  | _ => rfl

theorem exact_next (writes : List Write) (server : HandoffServer) (step : HandoffStep)
    (after : HandoffServer) (hexact : Exact writes server) (hfree : FindsFree server step)
    (hnext : handoffNext server step = some after) :
    Exact (writes ++ returned server step) after := by
  rcases handoffNext_allocations server step after hnext with
    ⟨hstep, hsame⟩ | ⟨write, rfl, hwriter, hafter⟩
  · rw [returned_eq_nil server step hstep hfree, List.append_nil]
    intro allocationId
    rw [hsame]
    exact hexact allocationId
  · rw [returned, hwriter]
    exact exact_apply writes server after write hexact hafter

theorem trackedExactly_of_findsFree (steps : List HandoffStep) (last : HandoffServer)
    (run : Run handoffNext FindsFree .new steps last) : TrackedExactly steps := by
  rintro before rest middle rfl hrun _
  obtain ⟨reached, hbefore, _⟩ := run.split
  obtain rfl := hbefore.unique hrun
  have hexact := hbefore.observed returned Exact
    (fun writes server step after h hfree hnext => exact_next writes server step after h hfree hnext)
    [] (by simp [Exact, lastOperation, HandoffServer.new])
  rwa [List.nil_append] at hexact

theorem apply_ne_iff (write : Write) (allocations : Map String AllocationNamespaces)
    (hwrite : ∀ allocationId, write ≠ .Ended allocationId) :
    write.apply allocations ≠ allocations ↔ write.Changes allocations := by
  cases write with
  | Create request => exact (Map.insert_eq_self_iff _ _ _).not
  | Release allocationId => exact (Map.erase_eq_self_iff _ _).not
  | Ended allocationId => exact absurd rfl (hwrite allocationId)

theorem findsFree_iff (server : HandoffServer) (step : HandoffStep) (hstep : step ≠ .Write) :
    FindsFree server step ↔ returned server step = [] := by
  refine ⟨returned_eq_nil server step hstep, ?_⟩
  intro hnone
  cases step with
  | Create request =>
    intro hready
    by_contra hheld
    simp [returned, hready, hheld] at hnone
  | Release allocationId =>
    by_contra hheld
    rw [FindsFree] at hheld
    simp [returned, hheld] at hnone
  | _ => trivial

theorem takesEffect_iff (server : HandoffServer) (step : HandoffStep) (after : HandoffServer)
    (hnext : handoffNext server step = some after) :
    TakesEffect server step after ↔ Effective server step := by
  rcases handoffNext_allocations server step after hnext with
    ⟨hstep, hsame⟩ | ⟨write, rfl, hwriter, hafter⟩
  · have hchanges : Effective server step ↔ returned server step = [] := by
      rw [Effective, findsFree_iff server step hstep]
      exact and_iff_left fun hwrite => absurd hwrite hstep
    rw [hchanges]
    constructor
    · intro heffect
      refine List.eq_nil_iff_forall_not_mem.mpr fun write hwrite => heffect write hwrite ?_ hsame
      rintro allocationId rfl
      cases step with
      | Create request => simp [returned] at hwrite
      | Release released =>
        rw [returned] at hwrite
        split at hwrite <;> simp at hwrite
      | Write => exact hstep rfl
      | _ => cases hwrite
    · intro hnone write hwrite
      rw [hnone] at hwrite
      cases hwrite
  · have hreturned : returned server .Write = [write] := by
      rw [returned, hwriter]
      rfl
    rw [TakesEffect, Effective, hreturned, hwriter, hafter]
    simp only [List.mem_singleton, forall_eq, Option.mem_def, Option.some.injEq, forall_eq',
      forall_const, FindsFree, true_and]
    by_cases hended : ∃ allocationId, write = .Ended allocationId
    · obtain ⟨allocationId, rfl⟩ := hended
      simp [Write.Changes]
    · rw [not_exists] at hended
      rw [apply_ne_iff write server.allocations hended]
      exact forall_prop_of_true hended

-- As long as every create and release finds the lock free, what is tracked is what was created
-- last. That each of them also has an effect takes that none asks for what is so already.
theorem allocations_tracked_iff (steps : List HandoffStep) (last : HandoffServer)
    (run : Run handoffNext Unrestricted .new steps last) :
    (Run handoffNext FindsFree .new steps last → TrackedExactly steps) ∧
      ((TrackedExactly steps ∧
        ∀ before step rest middle after, steps = before ++ step :: rest →
          Run handoffNext Unrestricted .new before middle → handoffNext middle step = some after →
          TakesEffect middle step after) ↔
      Run handoffNext Effective .new steps last) := by
  have heffects := run.steps_iff (fun _ => True) TakesEffect (fun _ _ _ _ _ => trivial)
    (fun server step after _ hnext => takesEffect_iff server step after hnext) trivial
  refine ⟨trackedExactly_of_findsFree steps last, ?_⟩
  rw [heffects]
  refine and_iff_right_of_imp fun heffective => ?_
  exact trackedExactly_of_findsFree steps last (heffective.weaken fun _ _ h => h.1)

def quietSteps : List HandoffStep :=
  [.SetReady, .Create (uenvRequest "base.sqfs"), .Write, .ReadLock, .ReadUnlock,
    .Release "alloc-1", .Write, .Ended "alloc-1", .Write, .Create (uenvRequest "pytorch.sqfs"), .Write]

theorem allocations_tracked_quiet :
    ∃ last, Run handoffNext Effective .new quietSteps last ∧ TrackedExactly quietSteps := by
  obtain ⟨last, hrun⟩ :=
    exists_run_of_execWhere handoffNext Effective .new quietSteps (by decide +kernel)
  exact ⟨last, hrun, ((allocations_tracked_iff quietSteps last hrun.unrestricted).2.mpr hrun).1⟩

-- While a reader has the lock, a create is answered with success and is never tracked.
theorem create_beside_reader_lost :
    ∃ last, Run handoffNext Unrestricted .new
        [.SetReady, .ReadLock, .Create (uenvRequest "base.sqfs"), .ReadUnlock] last ∧
      last.free = true ∧ last.allocations.get "alloc-1" = none ∧
      trace handoffNext returned .new
        [.SetReady, .ReadLock, .Create (uenvRequest "base.sqfs"), .ReadUnlock] =
        [.Create (uenvRequest "base.sqfs")] ∧
      ¬TrackedExactly [.SetReady, .ReadLock, .Create (uenvRequest "base.sqfs"), .ReadUnlock] := by
  obtain ⟨last, hlast⟩ : ∃ last, exec handoffNext .new
      [.SetReady, .ReadLock, .Create (uenvRequest "base.sqfs"), .ReadUnlock] = some last :=
    ⟨_, rfl⟩
  have hrun := (exec_eq_some_iff _ _ _ _).mp hlast
  cases hlast
  have htrace : trace handoffNext returned .new
      [.SetReady, .ReadLock, .Create (uenvRequest "base.sqfs"), .ReadUnlock] =
      [.Create (uenvRequest "base.sqfs")] := by decide +kernel
  refine ⟨_, hrun, by decide, by decide, htrace, ?_⟩
  intro hexact
  have hlost := (hexact _ [] _ (List.append_nil _).symm hrun (by decide) "alloc-1").mpr
  rw [htrace] at hlost
  exact absurd (hlost ⟨_, rfl⟩) (by decide)

end Pact.Agent.Handoff
