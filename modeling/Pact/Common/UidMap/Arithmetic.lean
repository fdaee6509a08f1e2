import Pact.Common.UidMap
import Pact.Library.Arithmetic

namespace Pact.Common.UidMap

open Pact.Library

section Arithmetic

variable (overflowChecks : Bool)

def tryPrecursor (base stride orgIndex : Nat) : Option Nat := do
  let product ← wordResult overflowChecks 32 (orgIndex * stride)
  wordResult overflowChecks 32 (base + product)

def tryUidPrecursor (orgIndex : Nat) (map : UidMap) : Option Nat :=
  tryPrecursor overflowChecks map.baseUid map.stride orgIndex

def tryGidPrecursor (orgIndex : Nat) (map : UidMap) : Option Nat :=
  tryPrecursor overflowChecks map.baseGid map.stride orgIndex

-- assign_uid with the panics that can end it.
def tryAssignUid (subject username org home shell : String) (map : UidMap) :
    Option (UidMap × Except PactError UidEntry) :=
  match map.users.get subject with
  | some existing => some (map, .ok existing)
  | none =>
    match map.orgIndex org with
    | none => some (map, .error (.OrgNotRegistered org))
    | some index =>
      if map.offset org ≥ map.stride then
        some (map, .error (.UidRangeExhausted org map.stride (map.offset org)))
      else do
        let firstUid ← tryUidPrecursor overflowChecks index map
        let uid ← wordResult overflowChecks 32 (firstUid + map.offset org)
        let firstGid ← tryGidPrecursor overflowChecks index map
        let gid ← wordResult overflowChecks 32 (firstGid + map.offset org)
        let next ← wordResult overflowChecks 32 (map.offset org + 1)
        let entry : UidEntry := ⟨subject, uid, gid, username, home, shell, org⟩
        some ({ map with
          users := map.users.insert subject entry
          nextUidOffset := map.nextUidOffset.insert org next }, .ok entry)

-- What the entry of a new subject has to hold, as numbers of any size.
def exactUid (index : Nat) (org : String) (map : UidMap) : Nat :=
  map.baseUid + index * map.stride + map.offset org

def exactGid (index : Nat) (org : String) (map : UidMap) : Nat :=
  map.baseGid + index * map.stride + map.offset org

-- The precursors of the organisations are exact, and the call returns: with an error, with the
-- entry that the subject has already, or with a new one of the exact numbers.
structure ExactArithmetic (subject username org home shell : String) (map : UidMap) : Prop where
  uidPrecursors : ∀ registered ∈ map.orgIndices,
    tryUidPrecursor overflowChecks registered.index map =
      some (map.baseUid + registered.index * map.stride)
  gidPrecursors : ∀ registered ∈ map.orgIndices,
    tryGidPrecursor overflowChecks registered.index map =
      some (map.baseGid + registered.index * map.stride)
  assigned : ∃ after result,
    tryAssignUid overflowChecks subject username org home shell map = some (after, result) ∧
    ∀ entry, result = .ok entry → map.users.get subject = some entry ∨
      ∃ index, map.orgIndex org = some index ∧ entry.uid = map.exactUid index org ∧
        entry.gid = map.exactGid index org

-- The ranges of the organisations begin below 2^32, and so does a number that is handed out.
structure ArithmeticFits (subject org : String) (map : UidMap) : Prop where
  uidPrecursors : ∀ registered ∈ map.orgIndices,
    map.baseUid + registered.index * map.stride < 2 ^ 32
  gidPrecursors : ∀ registered ∈ map.orgIndices,
    map.baseGid + registered.index * map.stride < 2 ^ 32
  assigned : map.users.get subject = none → ∀ index, map.orgIndex org = some index →
    map.offset org < map.stride →
    map.exactUid index org < 2 ^ 32 ∧ map.exactGid index org < 2 ^ 32

theorem tryPrecursor_eq (base stride orgIndex : Nat) :
    tryPrecursor overflowChecks base stride orgIndex =
      wordResult overflowChecks 32 (base + orgIndex * stride) :=
  wordResult_add overflowChecks 32 base (orgIndex * stride)

theorem tryPrecursor_exact_iff (base stride orgIndex : Nat) :
    tryPrecursor overflowChecks base stride orgIndex = some (base + orgIndex * stride) ↔
      base + orgIndex * stride < 2 ^ 32 := by
  rw [tryPrecursor_eq, wordResult_exact_iff]

theorem tryPrecursor_offset (base stride orgIndex offset : Nat) :
    ((tryPrecursor overflowChecks base stride orgIndex).bind fun first =>
        wordResult overflowChecks 32 (first + offset)) =
      wordResult overflowChecks 32 (base + orgIndex * stride + offset) := by
  have hadd := wordResult_add overflowChecks 32 offset (base + orgIndex * stride)
  rw [Nat.add_comm offset] at hadd
  simpa only [tryPrecursor_eq, Nat.add_comm offset] using hadd

variable (subject username org home shell : String) (map : UidMap)

-- The offset that is stored next cannot wrap, since the stride is an u32 too.
theorem tryAssignUid_new (index : Nat) (hstride : map.stride < 2 ^ 32)
    (hnew : map.users.get subject = none) (hindex : map.orgIndex org = some index)
    (hroom : map.offset org < map.stride) :
    tryAssignUid overflowChecks subject username org home shell map =
      (wordResult overflowChecks 32 (map.exactUid index org)).bind fun uid =>
        (wordResult overflowChecks 32 (map.exactGid index org)).bind fun gid =>
          let entry : UidEntry := ⟨subject, uid, gid, username, home, shell, org⟩
          some ({ map with
            users := map.users.insert subject entry
            nextUidOffset := map.nextUidOffset.insert org (map.offset org + 1) }, .ok entry) := by
  have hnext := wordResult_of_lt overflowChecks 32 (map.offset org + 1) (by omega)
  simp only [tryAssignUid, hnew, hindex, if_neg (Nat.not_le.mpr hroom), hnext, Option.bind_eq_bind,
    Option.bind_some]
  rw [exactUid, exactGid, ← tryPrecursor_offset, ← tryPrecursor_offset, Option.bind_assoc]
  simp only [Option.bind_assoc, tryUidPrecursor, tryGidPrecursor]

theorem tryAssignUid_unchecked (hstride : map.stride < 2 ^ 32) :
    tryAssignUid false subject username org home shell map =
      some (map.assignUid subject username org home shell) := by
  cases hget : map.users.get subject with
  | some existing => simp only [tryAssignUid, assignUid, hget]
  | none =>
    cases hindex : map.orgIndex org with
    | none => simp only [tryAssignUid, assignUid, hget, hindex]
    | some index =>
      by_cases hroom : map.offset org < map.stride
      · have huid : map.exactUid index org % 2 ^ 32 =
            (map.uidPrecursor index + map.offset org) % 2 ^ 32 := by
          simp only [exactUid, uidPrecursor, precursor]
          omega
        have hgid : map.exactGid index org % 2 ^ 32 =
            (map.gidPrecursor index + map.offset org) % 2 ^ 32 := by
          simp only [exactGid, gidPrecursor, precursor]
          omega
        rw [tryAssignUid_new false subject username org home shell map index hstride hget
          hindex hroom]
        simp only [wordResult_unchecked, Option.bind_some, huid, hgid, assignUid, hget, hindex,
          if_neg (Nat.not_le.mpr hroom), newEntry]
      · simp only [tryAssignUid, assignUid, hget, hindex, if_pos (Nat.not_lt.mp hroom)]

theorem exact_entry_iff (index : Nat) (hstride : map.stride < 2 ^ 32)
    (hnew : map.users.get subject = none) (hindex : map.orgIndex org = some index)
    (hroom : map.offset org < map.stride) :
    (∃ after entry,
      tryAssignUid overflowChecks subject username org home shell map = some (after, .ok entry) ∧
        entry.uid = map.exactUid index org ∧ entry.gid = map.exactGid index org) ↔
      map.exactUid index org < 2 ^ 32 ∧ map.exactGid index org < 2 ^ 32 := by
  rw [tryAssignUid_new overflowChecks subject username org home shell map index hstride hnew
    hindex hroom]
  constructor
  · rintro ⟨after, entry, hassign, huid, hgid⟩
    simp only [Option.bind_eq_some_iff, Option.some.injEq, Prod.mk.injEq, Except.ok.injEq]
      at hassign
    obtain ⟨uid, huidWord, gid, hgidWord, -, rfl⟩ := hassign
    rw [show uid = map.exactUid index org from huid, wordResult_exact_iff] at huidWord
    rw [show gid = map.exactGid index org from hgid, wordResult_exact_iff] at hgidWord
    exact ⟨huidWord, hgidWord⟩
  · rintro ⟨huid, hgid⟩
    rw [wordResult_of_lt overflowChecks 32 _ huid, wordResult_of_lt overflowChecks 32 _ hgid]
    exact ⟨_, _, rfl, rfl, rfl⟩

theorem assigned_exact_iff (hstride : map.stride < 2 ^ 32) :
    (∃ after result,
      tryAssignUid overflowChecks subject username org home shell map = some (after, result) ∧
      ∀ entry, result = .ok entry → map.users.get subject = some entry ∨
        ∃ index, map.orgIndex org = some index ∧ entry.uid = map.exactUid index org ∧
          entry.gid = map.exactGid index org) ↔
      (map.users.get subject = none → ∀ index, map.orgIndex org = some index →
        map.offset org < map.stride →
        map.exactUid index org < 2 ^ 32 ∧ map.exactGid index org < 2 ^ 32) := by
  constructor
  · rintro ⟨after, result, hassign, hexact⟩ hnew index hindex hroom
    rw [← exact_entry_iff overflowChecks subject username org home shell map index hstride hnew
      hindex hroom]
    have hassigned := hassign
    rw [tryAssignUid_new overflowChecks subject username org home shell map index hstride hnew
      hindex hroom] at hassigned
    simp only [Option.bind_eq_some_iff, Option.some.injEq, Prod.mk.injEq] at hassigned
    obtain ⟨uid, -, gid, -, -, rfl⟩ := hassigned
    rcases hexact _ rfl with hold | ⟨index', hindex', huid, hgid⟩
    · rw [hnew] at hold
      cases hold
    · obtain rfl : index = index' := Option.some.inj (hindex.symm.trans hindex')
      exact ⟨after, _, hassign, huid, hgid⟩
  · intro hfits
    cases hget : map.users.get subject with
    | some existing =>
      refine ⟨map, .ok existing, by simp only [tryAssignUid, hget], ?_⟩
      intro entry hentry
      cases hentry
      exact Or.inl rfl
    | none =>
      cases hindex : map.orgIndex org with
      | none =>
        refine ⟨map, .error (.OrgNotRegistered org), ?_, by simp⟩
        simp only [tryAssignUid, hget, hindex]
      | some index =>
        by_cases hroom : map.offset org < map.stride
        · obtain ⟨after, entry, hassign, huid, hgid⟩ := (exact_entry_iff overflowChecks subject
            username org home shell map index hstride hget hindex hroom).mpr
              (hfits hget index hindex hroom)
          refine ⟨after, .ok entry, hassign, ?_⟩
          intro other hother
          cases hother
          exact Or.inr ⟨index, rfl, huid, hgid⟩
        · refine ⟨map, .error (.UidRangeExhausted org map.stride (map.offset org)), ?_, by simp⟩
          simp only [tryAssignUid, hget, hindex, if_pos (Nat.not_lt.mp hroom)]

-- Whether the build checks for overflow makes no difference to when the arithmetic is exact.
theorem uid_arithmetic_exact_iff (hstride : map.stride < 2 ^ 32) :
    ExactArithmetic overflowChecks subject username org home shell map ↔
      ArithmeticFits subject org map := by
  constructor
  · intro hexact
    refine ⟨?_, ?_, ?_⟩
    · intro registered hmem
      exact (tryPrecursor_exact_iff overflowChecks map.baseUid map.stride registered.index).mp
        (hexact.uidPrecursors registered hmem)
    · intro registered hmem
      exact (tryPrecursor_exact_iff overflowChecks map.baseGid map.stride registered.index).mp
        (hexact.gidPrecursors registered hmem)
    · exact (assigned_exact_iff overflowChecks subject username org home shell map hstride).mp
        hexact.assigned
  · intro hfits
    refine ⟨?_, ?_, ?_⟩
    · intro registered hmem
      exact (tryPrecursor_exact_iff overflowChecks map.baseUid map.stride registered.index).mpr
        (hfits.uidPrecursors registered hmem)
    · intro registered hmem
      exact (tryPrecursor_exact_iff overflowChecks map.baseGid map.stride registered.index).mpr
        (hfits.gidPrecursors registered hmem)
    · exact (assigned_exact_iff overflowChecks subject username org home shell map hstride).mpr
        hfits.assigned

end Arithmetic

def withOrg (index : Nat) : UidMap := { UidMap.new with orgIndices := [⟨"remote", index⟩] }

-- The last index whose whole range lies below 2^32 under the defaults.
theorem uid_arithmetic_exact_default :
    (withOrg 429494).stride < 2 ^ 32 ∧
    ∀ overflowChecks, ExactArithmetic overflowChecks "alice" "alice" "remote" "/home/alice"
      "/bin/bash" (withOrg 429494) := by
  refine ⟨by decide, fun overflowChecks => ?_⟩
  refine (uid_arithmetic_exact_iff overflowChecks "alice" "alice" "remote" "/home/alice"
    "/bin/bash" (withOrg 429494) (by decide)).mpr ⟨?_, ?_, ?_⟩
  · decide
  · decide
  · intro _ index hindex _
    obtain rfl : 429494 = index := Option.some.inj hindex
    decide

-- Under the defaults, index 429495 has 7296 numbers left before the word ends, and index 429496
-- has none: its first user is given the uid 2704 of the system. The build that checks panics.
theorem uid_arithmetic_wraps :
    (tryAssignUid false "alice" "alice" "remote" "/home/alice" "/bin/bash" (withOrg 429496)).map
      Prod.snd = some (.ok ⟨"alice", 2704, 2704, "alice", "/home/alice", "/bin/bash", "remote"⟩) ∧
    tryAssignUid true "alice" "alice" "remote" "/home/alice" "/bin/bash" (withOrg 429496) = none ∧
    (withOrg 429496).exactUid 429496 "remote" = 4294970000 := by
  refine ⟨?_, ?_, ?_⟩ <;> decide

end Pact.Common.UidMap
