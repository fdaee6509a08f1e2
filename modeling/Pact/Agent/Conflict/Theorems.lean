import Pact.Agent.Conflict
import Pact.Library.Run

namespace Pact.Agent.Conflict

open Pact.Library Pact.Common ConflictManager

def IsPending (key : String) (manager : ConflictManager) : Prop :=
  ∃ entry, manager.conflicts.get key = some (entry, .Pending)

-- The list and the map agree about what is pending.
structure Paired (manager : ConflictManager) : Prop where
  paused_iff : ∀ key, key ∈ manager.pausedKeys ↔ IsPending key manager
  nodup : manager.pausedKeys.Nodup

def Untouched (key : String) (manager after : ConflictManager) : Prop :=
  after.conflicts.get key = manager.conflicts.get key ∧
    (key ∈ after.pausedKeys ↔ key ∈ manager.pausedKeys)

-- What a check of the grace periods does to a manager, and what it reports.
structure GraceChecked (now : DateTime) (manager after : ConflictManager) (reported : List String) :
    Prop where
  reported_iff : ∀ key, key ∈ reported ↔
    ∃ entry, manager.conflicts.get key = some (entry, .Pending) ∧
      entry.detectedAt + manager.gracePeriod ≤ now
  nodup : reported.Nodup
  expired : ∀ key ∈ reported, key ∉ after.pausedKeys ∧
    after.conflicts.get key =
      (manager.conflicts.get key).map fun (entry, _) => (entry, .GraceExpired)
  others : ∀ key, key ∉ reported → Untouched key manager after

section Keys

variable (key other : String) (pausedKeys : List String)

theorem mem_pause_iff : other ∈ pause key pausedKeys ↔ other = key ∨ other ∈ pausedKeys := by
  unfold pause
  split
  case isTrue hmem =>
    refine (or_iff_right_of_imp ?_).symm
    rintro rfl
    exact hmem
  case isFalse => rw [List.mem_append, List.mem_singleton, or_comm]

theorem pause_nodup (hnodup : pausedKeys.Nodup) : (pause key pausedKeys).Nodup := by
  unfold pause
  split
  case isTrue => exact hnodup
  case isFalse hmem =>
    refine List.nodup_append.mpr ⟨hnodup, List.nodup_singleton key, ?_⟩
    rintro paused hpaused _ hkey rfl
    rw [List.mem_singleton.mp hkey] at hpaused
    exact hmem hpaused

theorem mem_unpause_iff : other ∈ unpause key pausedKeys ↔ other ∈ pausedKeys ∧ other ≠ key := by
  rw [unpause, List.mem_filter, decide_eq_true_eq]

theorem foldl_unpause (keys : List String) :
    keys.foldl (fun pausedKeys key => unpause key pausedKeys) pausedKeys =
      pausedKeys.filter (· ∉ keys) := by
  induction keys generalizing pausedKeys with
  | nil => simp
  | cons key keys ih =>
    rw [List.foldl_cons, ih, unpause, List.filter_filter]
    refine List.filter_congr fun paused _ => ?_
    simp [Bool.and_comm]

end Keys

section Calls

variable (manager : ConflictManager)

theorem registerConflict_paired (entry : ConflictEntry) (hpaired : Paired manager) :
    Paired (manager.registerConflict entry) := by
  refine ⟨?_, pause_nodup entry.key manager.pausedKeys hpaired.nodup⟩
  intro key
  simp only [registerConflict, mem_pause_iff, IsPending, Map.get_insert]
  by_cases hkey : key = entry.key
  · simp [hkey]
  · simp only [hkey, if_false, false_or]
    exact hpaired.paused_iff key

theorem registerConflicts_paired (entries : List ConflictEntry) (hpaired : Paired manager) :
    Paired (manager.registerConflicts entries) := by
  induction entries generalizing manager with
  | nil => exact hpaired
  | cons entry entries ih => exact ih _ (registerConflict_paired manager entry hpaired)

theorem resolve_cases (key : String) (resolution : Resolution) :
    (∃ error, manager.resolve key resolution = (manager, .error error)) ∨
      ∃ entry, manager.conflicts.get key = some (entry, .Pending) ∧
        manager.resolve key resolution =
          ({ manager with
              conflicts := manager.conflicts.insert key (entry, .Resolved resolution)
              pausedKeys := unpause key manager.pausedKeys },
            .ok entry) := by
  unfold resolve
  cases hget : manager.conflicts.get key with
  | none => exact .inl ⟨_, rfl⟩
  | some stored =>
    obtain ⟨entry, state⟩ := stored
    by_cases hstate : state = .Pending
    · subst hstate
      exact .inr ⟨entry, rfl, rfl⟩
    · exact .inl ⟨_, if_pos hstate⟩

theorem resolve_untouched (key other : String) (resolution : Resolution) (hother : other ≠ key) :
    Untouched other manager (manager.resolve key resolution).1 := by
  rcases resolve_cases manager key resolution with ⟨error, hresult⟩ | ⟨entry, _, hresult⟩
  · rw [hresult]
    exact ⟨rfl, Iff.rfl⟩
  · rw [hresult]
    refine ⟨Map.get_insert_of_ne _ _ hother, ?_⟩
    rw [mem_unpause_iff]
    exact and_iff_left hother

-- A call keeps list and map in agreement if each key is untouched by it, or settled in both.
theorem Paired.of_keys {manager after : ConflictManager} (hpaired : Paired manager)
    (hnodup : after.pausedKeys.Nodup)
    (hkeys : ∀ key, Untouched key manager after ∨
      key ∉ after.pausedKeys ∧ ¬IsPending key after) : Paired after := by
  refine ⟨?_, hnodup⟩
  intro key
  rcases hkeys key with ⟨hget, hpaused⟩ | ⟨hpaused, hpending⟩
  · rw [hpaused, hpaired.paused_iff, IsPending, IsPending, hget]
  · exact iff_of_false hpaused hpending

theorem resolve_paired (key : String) (resolution : Resolution) (hpaired : Paired manager) :
    Paired (manager.resolve key resolution).1 := by
  have hothers := fun other => resolve_untouched manager key other resolution
  rcases resolve_cases manager key resolution with ⟨error, hresult⟩ | ⟨entry, _, hresult⟩
  · rw [hresult]
    exact hpaired
  · rw [hresult] at hothers ⊢
    refine hpaired.of_keys (hpaired.nodup.filter _) ?_
    intro other
    by_cases hother : other = key
    · subst hother
      refine .inr ⟨?_, ?_⟩
      · simp [mem_unpause_iff]
      · simp [IsPending]
    · exact .inl (hothers other hother)

theorem mem_reported_iff (now : DateTime) (key : String) :
    key ∈ (manager.checkGracePeriods now).2 ↔
      ∃ entry state, manager.conflicts.get key = some (entry, state) ∧
        manager.graceElapsed now entry state = true := by
  simp only [checkGracePeriods, List.mem_map, List.mem_filter, Prod.exists, Map.mem_toList_iff,
    exists_and_right, exists_eq_right]

theorem reported_nodup (now : DateTime) : (manager.checkGracePeriods now).2.Nodup :=
  manager.conflicts.keys_nodup.sublist (List.filter_sublist.map Prod.fst)

theorem checkGracePeriods_pausedKeys (now : DateTime) :
    (manager.checkGracePeriods now).1.pausedKeys =
      manager.pausedKeys.filter (· ∉ (manager.checkGracePeriods now).2) :=
  foldl_unpause _ _

theorem checkGracePeriods_get (now : DateTime) (key : String) :
    (manager.checkGracePeriods now).1.conflicts.get key =
      if key ∈ (manager.checkGracePeriods now).2 then
        (manager.conflicts.get key).map fun (entry, _) => (entry, .GraceExpired)
      else manager.conflicts.get key := by
  have hget : (manager.checkGracePeriods now).1.conflicts.get key =
      (manager.conflicts.get key).map fun (entry, state) =>
        (entry, if manager.graceElapsed now entry state then .GraceExpired else state) :=
    Map.get_mapValues _ _ _
  have hmem := mem_reported_iff manager now key
  rw [hget]
  cases hstored : manager.conflicts.get key with
  | none => simp
  | some stored =>
    obtain ⟨entry, state⟩ := stored
    have helapsed : key ∈ (manager.checkGracePeriods now).2 ↔
        manager.graceElapsed now entry state = true := by
      simpa [hstored] using hmem
    by_cases h : manager.graceElapsed now entry state = true
    · simp [h, helapsed.mpr h]
    · simp [h, mt helapsed.mp h]

theorem checkGracePeriods_checked (now : DateTime) :
    GraceChecked now manager (manager.checkGracePeriods now).1
      (manager.checkGracePeriods now).2 where
  reported_iff := by
    intro key
    simp only [mem_reported_iff, graceElapsed, decide_eq_true_eq]
    constructor
    · rintro ⟨entry, state, hget, rfl, helapsed⟩
      exact ⟨entry, hget, helapsed⟩
    · rintro ⟨entry, hget, helapsed⟩
      exact ⟨entry, .Pending, hget, rfl, helapsed⟩
  nodup := reported_nodup manager now
  expired := by
    intro key hkey
    refine ⟨?_, ?_⟩
    · simp [checkGracePeriods_pausedKeys, hkey]
    · rw [checkGracePeriods_get, if_pos hkey]
  others := by
    intro key hkey
    refine ⟨?_, ?_⟩
    · rw [checkGracePeriods_get, if_neg hkey]
    · simp [checkGracePeriods_pausedKeys, hkey]

theorem checkGracePeriods_paired (now : DateTime) (hpaired : Paired manager) :
    Paired (manager.checkGracePeriods now).1 := by
  have hchecked := checkGracePeriods_checked manager now
  have hnodup : (manager.checkGracePeriods now).1.pausedKeys.Nodup := by
    rw [checkGracePeriods_pausedKeys]
    exact hpaired.nodup.filter _
  refine hpaired.of_keys hnodup ?_
  intro key
  by_cases hkey : key ∈ (manager.checkGracePeriods now).2
  · obtain ⟨hpaused, hget⟩ := hchecked.expired key hkey
    refine .inr ⟨hpaused, ?_⟩
    rintro ⟨entry, hpending⟩
    rw [hget, Option.map_eq_some_iff] at hpending
    obtain ⟨stored, _, hstored⟩ := hpending
    cases hstored
  · exact .inl (hchecked.others key hkey)

theorem clearResolved_get (key : String) :
    manager.clearResolved.conflicts.get key =
      (manager.conflicts.get key).filter fun (_, state) => state = .Pending :=
  Map.get_filter _ _ _

theorem clearResolved_paired (hpaired : Paired manager) : Paired manager.clearResolved := by
  refine hpaired.of_keys hpaired.nodup ?_
  intro key
  by_cases hpending : IsPending key manager
  · obtain ⟨entry, hget⟩ := hpending
    refine .inl ⟨?_, Iff.rfl⟩
    rw [clearResolved_get, hget]
    rfl
  · refine .inr ⟨fun hpaused => hpending ((hpaired.paused_iff key).mp hpaused), ?_⟩
    rintro ⟨entry, hget⟩
    rw [clearResolved_get, Option.filter_eq_some_iff] at hget
    exact hpending ⟨entry, hget.1⟩

end Calls

theorem conflictNext_paired (manager : ConflictManager) (step : ConflictStep)
    (after : ConflictManager) (hpaired : Paired manager)
    (hnext : conflictNext manager step = some after) : Paired after := by
  cases step with
  | RegisterConflicts entries =>
    cases hnext
    exact registerConflicts_paired manager entries hpaired
  | Resolve key resolution =>
    cases hnext
    exact resolve_paired manager key resolution hpaired
  | CheckGracePeriods now =>
    cases hnext
    exact checkGracePeriods_paired manager now hpaired
  | ClearResolved =>
    cases hnext
    exact clearResolved_paired manager hpaired

section Counts

variable (manager : ConflictManager)

def pendingKeys (manager : ConflictManager) : List String :=
  (manager.conflicts.toList.filter fun (_, _, state) => state = .Pending).map Prod.fst

theorem mem_pendingKeys_iff (key : String) : key ∈ pendingKeys manager ↔ IsPending key manager := by
  simp only [pendingKeys, IsPending, List.mem_map, List.mem_filter, Prod.exists,
    Map.mem_toList_iff, exists_and_right, exists_eq_right, decide_eq_true_eq]

theorem pendingKeys_length : (pendingKeys manager).length = manager.pendingCount := by
  simp only [pendingKeys, pendingCount, Map.values, List.filter_map, List.length_map,
    Function.comp_def]

theorem Paired.length_eq (hpaired : Paired manager) :
    manager.pausedKeys.length = manager.pendingCount := by
  have hnodup : (pendingKeys manager).Nodup :=
    manager.conflicts.keys_nodup.sublist (List.filter_sublist.map Prod.fst)
  have hperm : manager.pausedKeys.Perm (pendingKeys manager) := by
    rw [List.perm_ext_iff_of_nodup hpaired.nodup hnodup]
    intro key
    rw [hpaired.paused_iff, mem_pendingKeys_iff]
  rw [hperm.length_eq, pendingKeys_length]

theorem Paired.allResolved_iff (hpaired : Paired manager) :
    manager.allResolved = true ↔ manager.pausedKeys = [] := by
  rw [← List.length_eq_zero_iff, hpaired.length_eq, pendingCount, List.length_eq_zero_iff,
    List.filter_eq_nil_iff, allResolved, List.all_eq_true]
  simp only [ne_eq, decide_not, Bool.not_eq_true', decide_eq_false_iff_not, decide_eq_true_eq]

theorem Paired.resolutionLog_unpaused (hpaired : Paired manager) :
    ∀ record ∈ manager.resolutionLog, manager.isPaused record.1 = false := by
  intro record hrecord
  simp only [resolutionLog, List.mem_map, List.mem_filter, Prod.exists, Map.mem_toList_iff,
    decide_eq_true_eq] at hrecord
  obtain ⟨key, entry, state, ⟨hget, hstate⟩, rfl⟩ := hrecord
  rw [isPaused, Bool.eq_false_iff, ne_eq, List.contains_iff_mem, hpaired.paused_iff]
  rintro ⟨pending, hpending⟩
  rw [hget] at hpending
  cases hpending
  exact hstate rfl

end Counts

theorem conflict_bookkeeping (gracePeriodSeconds : UInt32) (steps : List ConflictStep)
    (manager : ConflictManager)
    (run : Run conflictNext Unrestricted (.new gracePeriodSeconds) steps manager) :
    Paired manager ∧ manager.pausedKeys.length = manager.pendingCount ∧
    (∀ now, GraceChecked now manager (manager.checkGracePeriods now).1
      (manager.checkGracePeriods now).2) ∧
    ∀ key resolution other, other ≠ key →
      Untouched other manager (manager.resolve key resolution).1 := by
  have hpaired : Paired manager := by
    refine run.invariant Paired ?_ ⟨by simp [new, IsPending], List.nodup_nil⟩
    intro manager step after hpaired _ hnext
    exact conflictNext_paired manager step after hpaired hnext
  refine ⟨hpaired, hpaired.length_eq, checkGracePeriods_checked manager, ?_⟩
  intro key resolution other hother
  exact resolve_untouched manager key other resolution hother

def hostname (detectedAt : DateTime) : ConflictEntry := ⟨"hostname", [1], [2], detectedAt⟩

def twoConflicts : List ConflictStep :=
  [.RegisterConflicts [hostname 0, ⟨"ntp", [3], [4], DateTime.seconds 50⟩, hostname 0],
    .CheckGracePeriods (DateTime.seconds 60), .RegisterConflicts [hostname (DateTime.seconds 70)],
    .Resolve "ntp" .AcceptLocal]

def settled : ConflictManager where
  conflicts :=
    (Map.empty.insert "hostname" (hostname (DateTime.seconds 70), .Pending)).insert "ntp"
      (⟨"ntp", [3], [4], DateTime.seconds 50⟩, .Resolved .AcceptLocal)
  gracePeriod := DateTime.seconds 60
  pausedKeys := ["hostname"]

-- The one key is registered anew when its first grace period is over, the other resolved.
theorem conflict_bookkeeping_two :
    Run conflictNext Unrestricted (.new 60) twoConflicts settled ∧ Paired settled ∧
      settled.pausedKeys.length = settled.pendingCount ∧
      "ntp" ∉ (settled.checkGracePeriods (DateTime.seconds 130)).2 ∧
      Untouched "ntp" settled (settled.resolve "hostname" .AcceptJournal).1 := by
  have hrun : Run conflictNext Unrestricted (.new 60) twoConflicts settled :=
    (exec_eq_some_iff _ _ _ _).mp (by decide +kernel)
  obtain ⟨hpaired, hcount, hgrace, hresolve⟩ := conflict_bookkeeping 60 twoConflicts settled hrun
  refine ⟨hrun, hpaired, hcount, ?_, hresolve "hostname" .AcceptJournal "ntp" (by decide)⟩
  rw [(hgrace (DateTime.seconds 130)).reported_iff]
  rintro ⟨entry, hget, _⟩
  have hstored : settled.conflicts.get "ntp" =
      some (⟨"ntp", [3], [4], DateTime.seconds 50⟩, .Resolved .AcceptLocal) := by decide +kernel
  rw [hstored] at hget
  cases hget

end Pact.Agent.Conflict
