import Pact.Journal.ConfigService
import Pact.Library.Sequence

namespace Pact.Journal.ConfigService

open Pact.Library Pact.Common

def u64Max : Nat := 2 ^ 64 - 1

def u32Max : Nat := 2 ^ 32 - 1

-- A scope without a kind filters nothing.
def scopeFilter (scope : Option Proto.Scope) : Option Scope :=
  (scope.bind Proto.Scope.scope).map fun
    | .NodeId node => .Node node
    | .VclusterId vcluster => .VCluster vcluster
    | .Global _ => .Global

def passes (filter : Option Scope) (entry : ConfigEntry) : Bool :=
  filter.all fun scope => entry.scope = scope

-- BTreeMap::range panics, which gives none here, on a range that starts after its end. In a map
-- that never held anything it does not look at the bounds.
def range (entries : Map Nat ConfigEntry) (first last : Nat) : Option (List (Nat × ConfigEntry)) :=
  if last < first ∧ entries ≠ .empty then none
  else some (entries.toList.filter fun stored => first ≤ stored.1 ∧ stored.1 ≤ last)

def listEntries (s : JournalState) (req : Proto.ListEntriesRequest) :
    Option (List Proto.ConfigEntry) :=
  let first := req.fromSequence.getD 0
  let last := req.toSequence.getD u64Max
  let limit := req.limit.getD u32Max
  let filter := scopeFilter req.scope
  (range s.entries first last).map fun found =>
    ((found.filter fun stored => passes filter stored.2).take limit).map fun stored =>
      configEntryToProto stored.2

-- The entries a request asks for, in the order of their sequence numbers. A bound that is not
-- given is the least or the greatest number there is.
def matching (s : JournalState) (req : Proto.ListEntriesRequest) : List (Nat × ConfigEntry) :=
  s.entries.toList.filter fun stored =>
    req.fromSequence.getD 0 ≤ stored.1 ∧ stored.1 ≤ req.toSequence.getD u64Max ∧
      passes (scopeFilter req.scope) stored.2

def firstMatching (s : JournalState) (req : Proto.ListEntriesRequest) : List (Nat × ConfigEntry) :=
  match req.limit with
  | some limit => (matching s req).take limit
  | none => matching s req

section Listing

variable (s : JournalState) (req : Proto.ListEntriesRequest)

theorem matching_increasing : ((matching s req).map Prod.fst).Pairwise (· < ·) := by
  have hsorted := List.pairwise_map.mp (Map.toList_keys_lt s.entries)
  exact List.pairwise_map.mpr (hsorted.filter _)

theorem matching_nodup : (matching s req).Nodup :=
  List.Nodup.of_map Prod.fst ((matching_increasing s req).imp Nat.ne_of_lt)

theorem listEntries_of_range (hrange : ¬(req.toSequence.getD u64Max < req.fromSequence.getD 0 ∧
    s.entries ≠ .empty)) :
    listEntries s req = some (((matching s req).take (req.limit.getD u32Max)).map fun stored =>
      configEntryToProto stored.2) := by
  have hfound : (s.entries.toList.filter fun stored =>
      req.fromSequence.getD 0 ≤ stored.1 ∧ stored.1 ≤ req.toSequence.getD u64Max).filter
        (fun stored => passes (scopeFilter req.scope) stored.2) = matching s req := by
    rw [List.filter_filter, matching]
    refine List.filter_congr fun stored _ => ?_
    rw [Bool.eq_iff_iff]
    simp only [Bool.and_eq_true, decide_eq_true_eq]
    tauto
  rw [listEntries, range, if_neg hrange, Option.map_some, hfound]

-- The listing is what was asked for unless the range is empty the wrong way round, which panics,
-- or no limit is given and there is more than 32 bits can count.
theorem listEntries_exact_iff :
    listEntries s req = some ((firstMatching s req).map fun stored => configEntryToProto stored.2) ↔
      (req.fromSequence.getD 0 ≤ req.toSequence.getD u64Max ∨ s.entries = .empty) ∧
        (req.limit = none → (matching s req).length ≤ u32Max) := by
  by_cases hrange : req.toSequence.getD u64Max < req.fromSequence.getD 0 ∧ s.entries ≠ .empty
  · have hpanics : listEntries s req = none := by simp [listEntries, range, hrange]
    have hbounds : ¬(req.fromSequence.getD 0 ≤ req.toSequence.getD u64Max ∨ s.entries = .empty) := by
      rw [not_or, not_le]
      exact hrange
    simp [hpanics, hbounds]
  · have hbounds : req.fromSequence.getD 0 ≤ req.toSequence.getD u64Max ∨ s.entries = .empty := by
      rw [not_and_or, not_lt, not_not] at hrange
      exact hrange
    rw [listEntries_of_range s req hrange, and_iff_right hbounds]
    cases hlimit : req.limit with
    | some limit => simp [firstMatching, hlimit]
    | none =>
      simp only [firstMatching, hlimit, Option.getD_none, Option.some.injEq, true_implies]
      constructor
      · intro hsame
        have hlength := congrArg List.length hsame
        rw [List.length_map, List.length_map, List.length_take] at hlength
        omega
      · intro hfits
        rw [List.take_of_length_le hfits]

end Listing

def listedEntry (scope : Scope) (principal : String) : ConfigEntry where
  sequence := 0
  timestamp := 0
  entryType := .Commit
  scope := scope
  author := ⟨principal, .Human, "pact-platform-admin"⟩
  parent := none
  stateDelta := none
  policyRef := none
  ttlSeconds := none
  emergencyReason := none

def listedJournal : JournalState :=
  (replay .ascii .default
    [⟨0, .AppendEntry (listedEntry .Global "alice")⟩,
      ⟨0, .AppendEntry (listedEntry (.Node "n1") "bob")⟩,
      ⟨0, .AppendEntry (listedEntry (.Node "n1") "carol")⟩]).1

theorem backward_range_panics :
    firstMatching listedJournal ⟨none, some 2, some 1, none⟩ = [] ∧
      listEntries listedJournal ⟨none, some 2, some 1, none⟩ = none := by
  decide +kernel

end Pact.Journal.ConfigService
