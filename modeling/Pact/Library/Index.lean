import Pact.Library.Map

namespace Pact.Library

section Index

variable {K I V : Type} [Ord K] [Std.TransOrd K] [Ord I] [Std.TransOrd I]

-- A second map that finds the records of the first one by a key read off each record.
def Indexes (keyOf : V → K) (index : Map K I) (records : Map I V) : Prop :=
  ∀ key id, index.get key = some id ↔ ∃ record, records.get id = some record ∧ keyOf record = key

namespace Indexes

variable {keyOf : V → K} {index : Map K I} {records : Map I V}

theorem empty : Indexes keyOf (Map.empty : Map K I) Map.empty := by
  intro key id
  simp

theorem get_key (h : Indexes keyOf index records) {id : I} {record : V}
    (hget : records.get id = some record) : index.get (keyOf record) = some id :=
  (h _ _).mpr ⟨record, hget, rfl⟩

theorem injective (h : Indexes keyOf index records) {id other : I} {record stored : V}
    (hget : records.get id = some record) (hother : records.get other = some stored)
    (hkey : keyOf record = keyOf stored) : id = other := by
  have hid := h.get_key hget
  rw [hkey, h.get_key hother] at hid
  exact (Option.some.inj hid).symm

variable [Std.LawfulEqOrd I] [DecidableEq I]

theorem update (h : Indexes keyOf index records) {id : I} {record changed : V}
    (hget : records.get id = some record) (hkey : keyOf changed = keyOf record) :
    Indexes keyOf index (records.insert id changed) := by
  intro key other
  rw [h key other, Map.get_insert]
  by_cases hother : other = id
  · subst hother
    simp [hget, hkey]
  · rw [if_neg hother]

variable [Std.LawfulEqOrd K] [DecidableEq K]

theorem insert (h : Indexes keyOf index records) {id : I} {record : V}
    (hid : records.get id = none) (hkey : index.get (keyOf record) = none) :
    Indexes keyOf (index.insert (keyOf record) id) (records.insert id record) := by
  intro key other
  rw [Map.get_insert, Map.get_insert]
  by_cases hother : other = id
  · subst hother
    have hunindexed : index.get key ≠ some other := by
      intro hindexed
      obtain ⟨stored, hstored, _⟩ := (h key other).mp hindexed
      rw [hid] at hstored
      cases hstored
    by_cases hk : key = keyOf record
    · simp [hk]
    · simp [hk, hunindexed, Ne.symm hk]
  · rw [if_neg hother, ← h key other]
    by_cases hk : key = keyOf record
    · subst hk
      simp [hkey, Ne.symm hother]
    · rw [if_neg hk]

end Indexes

end Index

end Pact.Library
