import Pact.Journal.State

namespace Pact.Journal

open Pact.Library Pact.Common

structure ConflictEntry where
  key : String
  localValue : String
  journalValue : String
  deriving DecidableEq

def kernelItems (entry : ConfigEntry) : List DeltaItem :=
  match entry.stateDelta with
  | some delta => delta.kernel
  | none => []

def conflictEntry (localItem item : DeltaItem) : ConflictEntry :=
  ⟨localItem.key, localItem.value.getD "", item.value.getD ""⟩

def conflicts (localItem item : DeltaItem) : Bool :=
  item.key = localItem.key ∧ item.value ≠ localItem.value

-- The inner loops: all entries from the newest to the oldest, and the items of each in order.
def itemConflicts (s : JournalState) (localItem : DeltaItem) : List ConflictEntry :=
  s.entries.values.reverse.flatMap fun existing =>
    ((kernelItems existing).filter (conflicts localItem)).map (conflictEntry localItem)

def detectConflicts (s : JournalState) (_nodeId : NodeId) (localEntries : List ConfigEntry) :
    List ConflictEntry :=
  localEntries.flatMap fun entry => (kernelItems entry).flatMap (itemConflicts s)

def kernelHistory (s : JournalState) : List DeltaItem :=
  s.entries.values.reverse.flatMap fun entry => (kernelItems entry).reverse

def valuesOf (s : JournalState) (key : String) : List DeltaItem :=
  (kernelHistory s).filter fun item => item.key = key

def latestConflict (s : JournalState) (localItem : DeltaItem) : Option ConflictEntry :=
  ((valuesOf s localItem.key).head?.filter fun item => item.value ≠ localItem.value).map
    (conflictEntry localItem)

-- Before the most recent value of its key, the journal has had no other value than the local one.
def OnlyLatestDiffers (s : JournalState) (localItem : DeltaItem) : Prop :=
  ∀ older ∈ (valuesOf s localItem.key).tail, older.value = localItem.value

section Items

variable (s : JournalState) (localItem : DeltaItem)

-- Within an entry the loop goes forwards and the history backwards.
theorem itemConflicts_perm :
    (itemConflicts s localItem).Perm
      (((valuesOf s localItem.key).filter fun item => item.value ≠ localItem.value).map
        (conflictEntry localItem)) := by
  have hfilter : ((valuesOf s localItem.key).filter fun item => item.value ≠ localItem.value) =
      (kernelHistory s).filter (conflicts localItem) := by
    rw [valuesOf, List.filter_filter]
    refine List.filter_congr fun item _ => ?_
    simp [conflicts, Bool.and_comm]
  rw [hfilter, kernelHistory, List.filter_flatMap, List.map_flatMap, itemConflicts]
  refine List.Perm.flatMap_left _ fun entry _ => ?_
  exact ((List.reverse_perm _).symm.filter _).map _

theorem latestConflict_length_le :
    (latestConflict s localItem).toList.length ≤ (itemConflicts s localItem).length := by
  rw [(itemConflicts_perm s localItem).length_eq, List.length_map, latestConflict]
  cases valuesOf s localItem.key with
  | nil => simp
  | cons latest older =>
    by_cases hdiffers : latest.value ≠ localItem.value <;> simp [Option.filter, hdiffers]

theorem onlyLatestDiffers_of_length
    (hlength : (itemConflicts s localItem).length = (latestConflict s localItem).toList.length) :
    OnlyLatestDiffers s localItem := by
  rw [(itemConflicts_perm s localItem).length_eq, List.length_map, latestConflict] at hlength
  rw [OnlyLatestDiffers]
  cases hvalues : valuesOf s localItem.key with
  | nil => simp
  | cons latest older =>
    rw [hvalues] at hlength
    by_cases hdiffers : latest.value ≠ localItem.value <;>
      simpa [Option.filter, hdiffers] using hlength

theorem itemConflicts_eq_latestConflict (honly : OnlyLatestDiffers s localItem) :
    itemConflicts s localItem = (latestConflict s localItem).toList := by
  have hperm := itemConflicts_perm s localItem
  rw [OnlyLatestDiffers] at honly
  rw [latestConflict]
  cases hvalues : valuesOf s localItem.key with
  | nil =>
    rw [hvalues] at hperm
    exact hperm.eq_nil
  | cons latest older =>
    rw [hvalues] at hperm honly
    have hnone : (older.filter fun item => item.value ≠ localItem.value) = [] := by
      rw [List.filter_eq_nil_iff]
      intro item hitem
      simp [honly item hitem]
    by_cases hdiffers : latest.value ≠ localItem.value
    · rw [List.filter_cons_of_pos (by simpa using hdiffers), hnone] at hperm
      simpa [Option.filter, hdiffers] using List.perm_singleton.mp hperm
    · rw [List.filter_cons_of_neg (by simpa using hdiffers), hnone] at hperm
      simpa [Option.filter, hdiffers] using hperm.eq_nil

end Items

-- Lists that are cut into at least as many elements as others, item by item, and join to the same
-- list are cut in the same places.
theorem length_eq_of_flatMap_eq {α β : Type} (long short : α → List β) (items : List α)
    (hle : ∀ item ∈ items, (short item).length ≤ (long item).length)
    (hequal : items.flatMap long = items.flatMap short) :
    ∀ item ∈ items, (long item).length = (short item).length := by
  have hlength := congrArg List.length hequal
  clear hequal
  induction items with
  | nil => simp
  | cons first rest ih =>
    have hfirst := hle first List.mem_cons_self
    have hrest : ∀ item ∈ rest, (short item).length ≤ (long item).length :=
      fun item hitem => hle item (List.mem_cons_of_mem _ hitem)
    have hjoined : (rest.flatMap short).length ≤ (rest.flatMap long).length := by
      rw [List.length_flatMap, List.length_flatMap]
      exact List.sum_le_sum hrest
    simp only [List.flatMap_cons, List.length_append] at hlength
    intro item hitem
    rcases List.mem_cons.mp hitem with rfl | hitem
    · omega
    · exact ih hrest (by omega) item hitem

-- The report names each local item at most once, with the most recent value of its key, exactly
-- when no older value of the key differs from the local one. There is no stop at the first entry
-- that has the key, so each older value that differs is one more report.
theorem conflicts_latest_iff (s : JournalState) (nodeId : NodeId)
    (localEntries : List ConfigEntry) :
    detectConflicts s nodeId localEntries =
        (localEntries.flatMap kernelItems).flatMap (fun item => (latestConflict s item).toList) ↔
      ∀ item ∈ localEntries.flatMap kernelItems, OnlyLatestDiffers s item := by
  rw [detectConflicts, ← List.flatMap_assoc]
  constructor
  · intro hequal item hitem
    refine onlyLatestDiffers_of_length s item ?_
    exact length_eq_of_flatMap_eq _ _ _ (fun item _ => latestConflict_length_le s item) hequal
      item hitem
  · intro honly
    exact List.flatMap_congr fun item hitem =>
      itemConflicts_eq_latestConflict s item (honly item hitem)

def kernelChange (value : String) : ConfigEntry where
  sequence := 0
  timestamp := 0
  entryType := .Commit
  scope := .Node "n1"
  author := ⟨"admin", .Human, "pact-platform-admin"⟩
  parent := none
  stateDelta := some ⟨[], [], [], [], [⟨.Modify, "vm.swappiness", some value, none⟩], [], []⟩
  policyRef := none
  ttlSeconds := none
  emergencyReason := none

def changedTwice : JournalState :=
  (replay .ascii .default
    [⟨0, .AppendEntry (kernelChange "10")⟩, ⟨60, .AppendEntry (kernelChange "60")⟩]).1

-- The value the journal has now is reported as a conflict with the one it had before, and any
-- other is reported twice.
theorem conflicts_stale :
    detectConflicts changedTwice "n1" [kernelChange "60"] = [⟨"vm.swappiness", "60", "10"⟩] ∧
      latestConflict changedTwice ⟨.Modify, "vm.swappiness", some "60", none⟩ = none ∧
      detectConflicts changedTwice "n1" [kernelChange "30"] =
        [⟨"vm.swappiness", "30", "60"⟩, ⟨"vm.swappiness", "30", "10"⟩] := by
  decide +kernel

end Pact.Journal
