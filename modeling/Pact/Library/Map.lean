import Mathlib

namespace Pact.Library

-- Finite maps that iterate in key order. Two maps with the same bindings are equal.
def Map (K V : Type) [Ord K] : Type := Std.ExtTreeMap K V compare

namespace Map

section Basic

variable {K V : Type} [Ord K] [Std.TransOrd K]

def empty : Map K V := (∅ : Std.ExtTreeMap K V compare)

def get (m : Map K V) (key : K) : Option V := Std.ExtTreeMap.get? m key

def insert (m : Map K V) (key : K) (value : V) : Map K V := Std.ExtTreeMap.insert m key value

def erase (m : Map K V) (key : K) : Map K V := Std.ExtTreeMap.erase m key

def toList (m : Map K V) : List (K × V) := Std.ExtTreeMap.toList m

def values (m : Map K V) : List V := m.toList.map Prod.snd

def mapValues {W : Type} (f : V → W) (m : Map K V) : Map K W :=
  Std.ExtTreeMap.map (fun _ => f) m

def filter (p : K → V → Bool) (m : Map K V) : Map K V := Std.ExtTreeMap.filter p m

instance : Inhabited (Map K V) := ⟨empty⟩

instance [DecidableEq K] [DecidableEq V] : DecidableEq (Map K V) := fun m other =>
  decidable_of_iff (m.toList = other.toList) Std.ExtTreeMap.toList_inj

@[simp] theorem get_empty (key : K) : (empty : Map K V).get key = none :=
  Std.ExtTreeMap.getElem?_empty

theorem toList_eq_nil_iff (m : Map K V) : m.toList = [] ↔ m = empty :=
  Std.ExtTreeMap.toList_eq_nil_iff

end Basic

section Lawful

variable {K V : Type} [Ord K] [Std.TransOrd K] [Std.LawfulEqOrd K]

theorem ext {m other : Map K V} (h : ∀ key, m.get key = other.get key) : m = other :=
  Std.ExtTreeMap.ext_getElem? h

theorem mem_toList_iff (m : Map K V) (key : K) (value : V) :
    (key, value) ∈ m.toList ↔ m.get key = some value :=
  Std.ExtTreeMap.mem_toList_iff_getElem?_eq_some

section Decided

variable [DecidableEq K] (m : Map K V)

theorem get_insert (key other : K) (value : V) :
    (m.insert key value).get other = if other = key then some value else m.get other := by
  have h : (m.insert key value).get other =
      if compare key other = .eq then some value else m.get other :=
    Std.ExtTreeMap.getElem?_insert
  rw [h]
  simp only [Std.compare_eq_iff_eq, eq_comm (a := key) (b := other)]

@[simp] theorem get_insert_self (key : K) (value : V) :
    (m.insert key value).get key = some value := by
  rw [get_insert, if_pos rfl]

theorem get_insert_of_ne {key other : K} (value : V) (h : other ≠ key) :
    (m.insert key value).get other = m.get other := by
  rw [get_insert, if_neg h]

theorem insert_insert (key : K) (value later : V) :
    (m.insert key value).insert key later = m.insert key later := by
  apply ext
  intro other
  simp only [get_insert]
  split_ifs <;> rfl

theorem get_erase (key other : K) :
    (m.erase key).get other = if other = key then none else m.get other := by
  have h : (m.erase key).get other = if compare key other = .eq then none else m.get other :=
    Std.ExtTreeMap.getElem?_erase
  rw [h]
  simp only [Std.compare_eq_iff_eq, eq_comm (a := key) (b := other)]

theorem insert_eq_self_iff (key : K) (value : V) :
    m.insert key value = m ↔ m.get key = some value := by
  constructor
  · intro h
    rw [← h, get_insert_self]
  · intro h
    apply ext
    intro other
    rw [get_insert]
    split
    case isTrue heq => rw [heq, h]
    case isFalse => rfl

theorem erase_eq_self_iff (key : K) : m.erase key = m ↔ m.get key = none := by
  constructor
  · intro h
    rw [← h, get_erase, if_pos rfl]
  · intro h
    apply ext
    intro other
    rw [get_erase]
    split
    case isTrue heq => rw [heq, h]
    case isFalse => rfl

end Decided

theorem get_foldl_erase [DecidableEq K] (keys : List K) (m : Map K V) (other : K) :
    (keys.foldl erase m).get other = if other ∈ keys then none else m.get other := by
  induction keys generalizing m with
  | nil => simp
  | cons key keys ih =>
    rw [List.foldl_cons, ih, get_erase]
    by_cases hhead : other = key <;> by_cases htail : other ∈ keys <;> simp [hhead, htail]

@[simp] theorem get_filter (p : K → V → Bool) (m : Map K V) (key : K) :
    (m.filter p).get key = (m.get key).filter (p key) :=
  Std.ExtTreeMap.getElem?_filter'

@[simp] theorem get_mapValues {W : Type} (f : V → W) (m : Map K V) (key : K) :
    (m.mapValues f).get key = (m.get key).map f :=
  Std.ExtTreeMap.getElem?_map

theorem get_foldl_insert [DecidableEq K] (key : V → K) (entries : List V)
    (hdistinct : (entries.map key).Nodup) (m : Map K V) (other : K) :
    (entries.foldl (fun m entry => m.insert (key entry) entry) m).get other =
      (entries.find? fun entry => key entry = other).or (m.get other) := by
  induction entries generalizing m with
  | nil => rfl
  | cons entry entries ih =>
    obtain ⟨hfresh, hdistinct⟩ := List.nodup_cons.mp hdistinct
    rw [List.foldl_cons, ih hdistinct, get_insert]
    by_cases hentry : key entry = other
    · have hlater : entries.find? (fun later => key later = other) = none := by
        rw [List.find?_eq_none]
        intro later hmem heq
        rw [decide_eq_true_eq] at heq
        exact hfresh (List.mem_map.mpr ⟨later, hmem, heq.trans hentry.symm⟩)
      rw [hlater, List.find?_cons_of_pos (by simpa using hentry), if_pos hentry.symm]
      rfl
    · rw [List.find?_cons_of_neg (by simpa using hentry), if_neg (Ne.symm hentry)]

theorem mapValues_insert [DecidableEq K] {W : Type} (f : V → W) (m : Map K V) (key : K)
    (value : V) : (m.insert key value).mapValues f = (m.mapValues f).insert key (f value) := by
  apply ext
  intro other
  rw [get_mapValues, get_insert, get_insert, get_mapValues]
  split_ifs <;> rfl

theorem mem_values_iff (m : Map K V) (value : V) :
    value ∈ m.values ↔ ∃ key, m.get key = some value := by
  simp only [values, List.mem_map, Prod.exists, exists_eq_right, mem_toList_iff]

theorem keys_nodup (m : Map K V) : (m.toList.map Prod.fst).Nodup := by
  have h : m.toList.Pairwise (fun first second => ¬compare first.1 second.1 = .eq) :=
    Std.ExtTreeMap.distinct_keys_toList
  rw [List.Nodup, List.pairwise_map]
  refine h.imp fun hdistinct heq => hdistinct ?_
  rw [heq]
  exact Std.ReflCmp.compare_self

end Lawful

theorem toList_keys_lt {V : Type} (m : Map Nat V) : (m.toList.map Prod.fst).Pairwise (· < ·) := by
  have h : m.toList.Pairwise (fun first second => compare first.1 second.1 = .lt) :=
    Std.ExtTreeMap.ordered_keys_toList
  rw [List.pairwise_map]
  exact h.imp fun hlt => Nat.compare_eq_lt.mp hlt

theorem toList_insert_last {V : Type} (m : Map Nat V) (key : Nat) (value : V)
    (hlast : ∀ other stored, m.get other = some stored → other < key) :
    (m.insert key value).toList = m.toList ++ [(key, value)] := by
  have hsorted : ∀ n : Map Nat V, n.toList.Pairwise fun first second => first.1 < second.1 :=
    fun n => List.pairwise_map.mp (toList_keys_lt n)
  have happended : (m.toList ++ [(key, value)]).Pairwise fun first second => first.1 < second.1 := by
    rw [List.pairwise_append]
    refine ⟨hsorted m, List.pairwise_singleton _ _, ?_⟩
    intro stored hstored added hadded
    rw [List.mem_singleton.mp hadded]
    exact hlast stored.1 stored.2 ((mem_toList_iff m _ _).mp hstored)
  have : Std.Asymm fun first second : Nat × V => first.1 < second.1 := ⟨fun _ _ => Nat.lt_asymm⟩
  refine List.Pairwise.eq_of_mem_iff (hsorted _) happended ?_
  rintro ⟨other, stored⟩
  rw [mem_toList_iff, get_insert, List.mem_append, mem_toList_iff, List.mem_singleton,
    Prod.mk.injEq]
  by_cases hkey : other = key
  · have hfree : m.get other ≠ some stored := fun hget => absurd (hlast _ _ hget) (by omega)
    simp [hkey, hkey ▸ hfree, eq_comm]
  · simp [hkey]

end Map

end Pact.Library
