import Pact.Library.Map

namespace Pact.Library.Map

variable {K V : Type} [Ord K] [Std.TransOrd K]

theorem length_insert_le (m : Map K V) (key : K) (value : V) :
    (m.insert key value).toList.length ≤ m.toList.length + 1 := by
  have hinsert : (m.insert key value).toList.length = (m.insert key value).size :=
    Std.ExtTreeMap.length_toList
  have hbefore : m.toList.length = m.size := Std.ExtTreeMap.length_toList
  rw [hinsert, hbefore]
  exact Std.ExtTreeMap.size_insert_le

theorem length_insert_of_get (m : Map K V) (key : K) (value before : V)
    (h : m.get key = some before) :
    (m.insert key value).toList.length = m.toList.length := by
  have hinsert : (m.insert key value).toList.length = (m.insert key value).size :=
    Std.ExtTreeMap.length_toList
  have hbefore : m.toList.length = m.size := Std.ExtTreeMap.length_toList
  have hsome : (m.get key).isSome = Std.ExtTreeMap.contains m key :=
    Std.ExtTreeMap.isSome_getElem?_eq_contains
  have hcontains : Std.ExtTreeMap.contains m key = true := by
    rw [← hsome, h, Option.isSome_some]
  rw [hinsert, hbefore]
  exact Std.ExtTreeMap.size_insert.trans (if_pos hcontains)

theorem length_erase_le (m : Map K V) (key : K) :
    (m.erase key).toList.length ≤ m.toList.length := by
  have herase : (m.erase key).toList.length = (m.erase key).size := Std.ExtTreeMap.length_toList
  have hbefore : m.toList.length = m.size := Std.ExtTreeMap.length_toList
  rw [herase, hbefore]
  exact Std.ExtTreeMap.size_erase_le

theorem length_le_of_isSome [Std.LawfulEqOrd K] (m : Map K V) (keys : List K) (hnodup : keys.Nodup)
    (h : ∀ key ∈ keys, (m.get key).isSome = true) : keys.length ≤ m.toList.length := by
  have hsubset : keys ⊆ m.toList.map Prod.fst := by
    intro key hmem
    obtain ⟨value, hget⟩ := Option.isSome_iff_exists.mp (h key hmem)
    exact List.mem_map.mpr ⟨(key, value), (mem_toList_iff _ _ _).mpr hget, rfl⟩
  have hlength := (List.subperm_of_subset hnodup hsubset).length_le
  rwa [List.length_map] at hlength

end Pact.Library.Map
