import Pact.Common.UidMap

namespace Pact.Common

open Pact.Library UidMap

inductive MapChange (map : UidMap) : UidStep → UidMap → Prop
  | Same (subject username org home shell : String)
      (hnone : ∀ index, map.users.get subject = none → map.orgIndex org = some index →
        map.stride ≤ map.offset org) :
      MapChange map (.AssignUid subject username org home shell) map
  | Joined (org : String) (index : Nat)
      (hfresh : ∀ registered ∈ map.orgIndices, registered.org ≠ org ∧ registered.index ≠ index)
      (huid : map.baseUid + (index + 1) * map.stride < 2 ^ 32)
      (hgid : map.baseGid + (index + 1) * map.stride < 2 ^ 32) :
      MapChange map (.Join org index)
        { map with orgIndices := map.orgIndices ++ [⟨org, index⟩] }
  | Assigned (subject username org home shell : String) (index : Nat)
      (hnew : map.users.get subject = none) (hindex : map.orgIndex org = some index)
      (hroom : map.offset org < map.stride) :
      MapChange map (.AssignUid subject username org home shell)
        { map with
          users := map.users.insert subject (map.newEntry subject username org home shell index)
          nextUidOffset := map.nextUidOffset.insert org (map.offset org + 1) }
  | Collected (org : String) : MapChange map (.GcOrg org) (map.gcOrg org)

theorem uidNext_change (map after : UidMap) (step : UidStep) (hnext : uidNext map step = some after) :
    MapChange map step after := by
  cases step with
  | Join org index =>
    simp only [uidNext, Option.ite_none_right_eq_some, Option.some.injEq] at hnext
    obtain ⟨⟨hfresh, huid, hgid⟩, rfl⟩ := hnext
    exact .Joined org index hfresh huid hgid
  | AssignUid subject username org home shell =>
    cases hnext
    unfold assignUid
    cases hget : map.users.get subject with
    | some existing =>
      exact .Same subject username org home shell fun _ hnew _ => nomatch hget ▸ hnew
    | none =>
      cases hindex : map.orgIndex org with
      | none =>
        exact .Same subject username org home shell fun _ _ hsome => nomatch hindex ▸ hsome
      | some index =>
        dsimp only
        split_ifs with hfull
        · exact .Same subject username org home shell fun _ _ _ => hfull
        · exact .Assigned subject username org home shell index hget hindex (not_le.mp hfull)
  | GcOrg org =>
    cases hnext
    exact .Collected org

section OrgIndex

variable (map : UidMap) (org other : String) (index : Nat)

theorem orgIndex_mem (h : map.orgIndex org = some index) : ⟨org, index⟩ ∈ map.orgIndices := by
  simp only [orgIndex, Option.map_eq_some_iff] at h
  obtain ⟨⟨name, number⟩, hfind, rfl⟩ := h
  have hname := List.find?_some hfind
  simp only [decide_eq_true_eq] at hname
  exact hname ▸ List.mem_of_find?_eq_some hfind

theorem orgIndex_eq_none (hfresh : ∀ registered ∈ map.orgIndices, registered.org ≠ org) :
    map.orgIndex org = none := by
  rw [Option.eq_none_iff_forall_ne_some]
  exact fun index hindex => hfresh _ (orgIndex_mem map org index hindex) rfl

theorem orgIndex_join (hfresh : ∀ registered ∈ map.orgIndices, registered.org ≠ org) :
    UidMap.orgIndex other { map with orgIndices := map.orgIndices ++ [⟨org, index⟩] } =
      if other = org then some index else map.orgIndex other := by
  simp only [orgIndex, List.find?_append]
  split_ifs with hsame
  · subst hsame
    have hnone := orgIndex_eq_none map other hfresh
    rw [orgIndex, Option.map_eq_none_iff] at hnone
    simp [hnone]
  · simp [Ne.symm hsame]

theorem orgIndex_gcOrg :
    UidMap.orgIndex other (map.gcOrg org) = if other = org then none else map.orgIndex other := by
  simp only [orgIndex, gcOrg, List.find?_filter]
  split_ifs with hsame
  · simp [hsame]
  · congr 2
    funext registered
    by_cases h : registered.org = other <;> simp [h, hsame]

end OrgIndex

-- The number that the k-th new subject of an organisation gets is the k-th of its range.
def rangeNumber (base stride index position : Nat) : Nat := base + index * stride + position

theorem precursor_add (base stride index position : Nat) (hposition : position < stride)
    (hfits : base + (index + 1) * stride < 2 ^ 32) :
    (precursor base stride index + position) % 2 ^ 32 = rangeNumber base stride index position := by
  rw [Nat.succ_mul] at hfits
  have hindex : index * stride % 2 ^ 32 = index * stride := Nat.mod_eq_of_lt (by omega)
  rw [precursor, hindex, Nat.mod_eq_of_lt (by omega), Nat.mod_eq_of_lt (by omega), rangeNumber]

theorem rangeNumber_inj (base stride index index' position position' : Nat)
    (hposition : position < stride) (hposition' : position' < stride)
    (h : rangeNumber base stride index position = rangeNumber base stride index' position') :
    index = index' ∧ position = position' := by
  have hsum : position + stride * index = position' + stride * index' := by
    simp only [rangeNumber, Nat.mul_comm _ stride] at h
    omega
  have hstride : 0 < stride := by omega
  have hdiv := congrArg (· / stride) hsum
  simp only [Nat.add_mul_div_left _ _ hstride, Nat.div_eq_of_lt hposition,
    Nat.div_eq_of_lt hposition', Nat.zero_add] at hdiv
  subst hdiv
  exact ⟨rfl, by omega⟩

structure Placed (map : UidMap) (entry : UidEntry) (index position : Nat) : Prop where
  registered : map.orgIndex entry.org = some index
  assigned : position < map.offset entry.org
  inRange : position < map.stride
  uid : entry.uid = rangeNumber map.baseUid map.stride index position
  gid : entry.gid = rangeNumber map.baseGid map.stride index position

structure WellFormed (map : UidMap) : Prop where
  indices : ∀ org org' index, map.orgIndex org = some index → map.orgIndex org' = some index →
    org = org'
  fits : ∀ org index, map.orgIndex org = some index →
    map.baseUid + (index + 1) * map.stride < 2 ^ 32 ∧ map.baseGid + (index + 1) * map.stride < 2 ^ 32
  offsets : ∀ org, map.orgIndex org = none → map.nextUidOffset.get org = none
  placed : ∀ subject entry, map.users.get subject = some entry →
    ∃ index position, Placed map entry index position
  distinct : ∀ subject subject' entry entry', map.users.get subject = some entry →
    map.users.get subject' = some entry' → entry.org = entry'.org → entry.uid = entry'.uid →
    subject = subject'

theorem wellFormed_empty (baseUid baseGid stride : Nat) :
    WellFormed (.empty baseUid baseGid stride) := by
  constructor <;> simp [UidMap.empty, orgIndex]

section Steps

variable (map : UidMap)

theorem wellFormed_joined (hmap : WellFormed map) (org : String) (index : Nat)
    (hfresh : ∀ registered ∈ map.orgIndices, registered.org ≠ org ∧ registered.index ≠ index)
    (huid : map.baseUid + (index + 1) * map.stride < 2 ^ 32)
    (hgid : map.baseGid + (index + 1) * map.stride < 2 ^ 32) :
    WellFormed { map with orgIndices := map.orgIndices ++ [⟨org, index⟩] } := by
  have hjoin := fun other => orgIndex_join map org other index fun registered hmem =>
    (hfresh registered hmem).1
  have hunused : ∀ other, map.orgIndex other ≠ some index := fun other hother =>
    (hfresh _ (orgIndex_mem map other index hother)).2 rfl
  have hunnamed := orgIndex_eq_none map org fun registered hmem => (hfresh registered hmem).1
  constructor
  · intro first second number hfirst hsecond
    rw [hjoin] at hfirst hsecond
    split_ifs at hfirst hsecond with h h' h'
    · rw [h, h']
    · cases hfirst
      exact absurd hsecond (hunused second)
    · cases hsecond
      exact absurd hfirst (hunused first)
    · exact hmap.indices first second number hfirst hsecond
  · intro other number hother
    rw [hjoin] at hother
    split_ifs at hother
    · cases hother
      exact ⟨huid, hgid⟩
    · exact hmap.fits other number hother
  · intro other hother
    rw [hjoin] at hother
    split_ifs at hother
    exact hmap.offsets other hother
  · intro subject entry hget
    obtain ⟨number, position, hplaced⟩ := hmap.placed subject entry hget
    refine ⟨number, position, ?_, hplaced.assigned, hplaced.inRange, hplaced.uid, hplaced.gid⟩
    have hother : entry.org ≠ org := by
      rintro rfl
      exact nomatch hunnamed ▸ hplaced.registered
    rw [hjoin, if_neg hother]
    exact hplaced.registered
  · exact hmap.distinct

theorem newEntry_placed (hmap : WellFormed map) (subject username org home shell : String)
    (index : Nat) (hindex : map.orgIndex org = some index) (hroom : map.offset org < map.stride) :
    (map.newEntry subject username org home shell index).uid =
        rangeNumber map.baseUid map.stride index (map.offset org) ∧
      (map.newEntry subject username org home shell index).gid =
        rangeNumber map.baseGid map.stride index (map.offset org) := by
  obtain ⟨huid, hgid⟩ := hmap.fits org index hindex
  exact ⟨precursor_add _ _ _ _ hroom huid, precursor_add _ _ _ _ hroom hgid⟩

theorem offset_insert (org other : String) (number : Nat) (users : Map String UidEntry) :
    UidMap.offset other
      { map with users := users, nextUidOffset := map.nextUidOffset.insert org number } =
      if other = org then number else map.offset other := by
  simp only [offset, Map.get_insert]
  split_ifs <;> rfl

theorem newEntry_uid_ne (hmap : WellFormed map) (subject username org home shell : String)
    (index : Nat) (hindex : map.orgIndex org = some index) (hroom : map.offset org < map.stride)
    (other : String) (entry : UidEntry) (hget : map.users.get other = some entry)
    (horg : entry.org = org) :
    entry.uid ≠ (map.newEntry subject username org home shell index).uid := by
  intro hsame
  obtain ⟨number, position, hplaced⟩ := hmap.placed other entry hget
  rw [hplaced.uid, (newEntry_placed map hmap _ _ _ _ _ index hindex hroom).1] at hsame
  have hposition := (rangeNumber_inj _ _ _ _ _ _ hplaced.inRange hroom hsame).2
  have hassigned := hplaced.assigned
  rw [horg] at hassigned
  omega

theorem wellFormed_assigned (hmap : WellFormed map) (subject username org home shell : String)
    (index : Nat) (hindex : map.orgIndex org = some index) (hroom : map.offset org < map.stride) :
    WellFormed
      { map with
        users := map.users.insert subject (map.newEntry subject username org home shell index)
        nextUidOffset := map.nextUidOffset.insert org (map.offset org + 1) } := by
  obtain ⟨huid, hgid⟩ := newEntry_placed map hmap subject username org home shell index hindex hroom
  have hlater := newEntry_uid_ne map hmap subject username org home shell index hindex hroom
  refine ⟨hmap.indices, hmap.fits, ?_, ?_, ?_⟩
  · intro other hother
    have hne : other ≠ org := by
      rintro rfl
      exact nomatch hindex ▸ hother
    rw [Map.get_insert_of_ne _ _ hne]
    exact hmap.offsets other hother
  · intro other entry hget
    rw [Map.get_insert] at hget
    split_ifs at hget with hsame
    · cases hget
      refine ⟨index, map.offset org, hindex, ?_, hroom, huid, hgid⟩
      rw [offset_insert, newEntry, if_pos rfl]
      omega
    · obtain ⟨number, position, hplaced⟩ := hmap.placed other entry hget
      refine ⟨number, position, hplaced.registered, ?_, hplaced.inRange, hplaced.uid, hplaced.gid⟩
      have hassigned := hplaced.assigned
      rw [offset_insert]
      split_ifs with horg
      · rw [horg] at hassigned
        omega
      · exact hassigned
  · intro first second entry entry' hfirst hsecond horg hnumber
    rw [Map.get_insert] at hfirst hsecond
    split_ifs at hfirst hsecond with h h' h'
    · rw [h, h']
    · cases hfirst
      exact absurd hnumber.symm (hlater second entry' hsecond horg.symm)
    · cases hsecond
      exact absurd hnumber (hlater first entry hfirst horg)
    · exact hmap.distinct first second entry entry' hfirst hsecond horg hnumber

theorem get_gcOrg (org subject : String) (entry : UidEntry) :
    (map.gcOrg org).users.get subject = some entry ↔
      map.users.get subject = some entry ∧ entry.org ≠ org := by
  simp [gcOrg, Option.filter_eq_some_iff]

theorem offset_gcOrg (org other : String) (hother : other ≠ org) :
    UidMap.offset other (map.gcOrg org) = map.offset other := by
  simp [offset, gcOrg, Map.get_erase, hother]

theorem wellFormed_collected (hmap : WellFormed map) (org : String) :
    WellFormed (map.gcOrg org) := by
  have hkept : ∀ other index, UidMap.orgIndex other (map.gcOrg org) = some index →
      map.orgIndex other = some index := by
    intro other index hother
    rw [orgIndex_gcOrg] at hother
    split_ifs at hother
    exact hother
  constructor
  · intro first second index hfirst hsecond
    exact hmap.indices first second index (hkept first index hfirst) (hkept second index hsecond)
  · intro other index hother
    exact hmap.fits other index (hkept other index hother)
  · intro other hother
    rw [orgIndex_gcOrg] at hother
    simp only [gcOrg, Map.get_erase]
    split_ifs at hother ⊢ with hsame
    · rfl
    · exact hmap.offsets other hother
  · intro subject entry hget
    obtain ⟨hget, hother⟩ := (get_gcOrg map org subject entry).mp hget
    obtain ⟨index, position, hplaced⟩ := hmap.placed subject entry hget
    refine ⟨index, position, ?_, ?_, hplaced.inRange, hplaced.uid, hplaced.gid⟩
    · rw [orgIndex_gcOrg, if_neg hother]
      exact hplaced.registered
    · rw [offset_gcOrg map org entry.org hother]
      exact hplaced.assigned
  · intro first second entry entry' hfirst hsecond
    exact hmap.distinct first second entry entry' ((get_gcOrg map org first entry).mp hfirst).1
      ((get_gcOrg map org second entry').mp hsecond).1

theorem uidNext_wellFormed (step : UidStep) (after : UidMap) (hmap : WellFormed map)
    (hnext : uidNext map step = some after) : WellFormed after := by
  cases uidNext_change map after step hnext with
  | Same => exact hmap
  | Joined org index hfresh huid hgid => exact wellFormed_joined map hmap org index hfresh huid hgid
  | Assigned subject username org home shell index _ hindex hroom =>
    exact wellFormed_assigned map hmap subject username org home shell index hindex hroom
  | Collected org => exact wellFormed_collected map hmap org

-- The bases and the stride are set once and for all.
def SameRanges (map other : UidMap) : Prop :=
  map.baseUid = other.baseUid ∧ map.baseGid = other.baseGid ∧ map.stride = other.stride

theorem uidNext_sameRanges (start : UidMap) (step : UidStep) (after : UidMap)
    (hmap : SameRanges map start) (hnext : uidNext map step = some after) :
    SameRanges after start := by
  cases uidNext_change map after step hnext <;> exact hmap

end Steps

section WellFormed

variable {map : UidMap}

theorem WellFormed.subject_of_number (hmap : WellFormed map) (subject subject' : String)
    (entry entry' : UidEntry) (hget : map.users.get subject = some entry)
    (hget' : map.users.get subject' = some entry')
    (hsame : entry.uid = entry'.uid ∨ entry.gid = entry'.gid) : subject = subject' := by
  obtain ⟨index, position, hplaced⟩ := hmap.placed subject entry hget
  obtain ⟨index', position', hplaced'⟩ := hmap.placed subject' entry' hget'
  have hplace : index = index' ∧ position = position' := by
    rcases hsame with huid | hgid
    · rw [hplaced.uid, hplaced'.uid] at huid
      exact rangeNumber_inj _ _ _ _ _ _ hplaced.inRange hplaced'.inRange huid
    · rw [hplaced.gid, hplaced'.gid] at hgid
      exact rangeNumber_inj _ _ _ _ _ _ hplaced.inRange hplaced'.inRange hgid
  obtain ⟨rfl, rfl⟩ := hplace
  have horg := hmap.indices _ _ _ hplaced.registered hplaced'.registered
  exact hmap.distinct subject subject' entry entry' hget hget' horg
    (hplaced.uid.trans hplaced'.uid.symm)

theorem WellFormed.getByUid_eq (hmap : WellFormed map) (subject : String) (entry : UidEntry)
    (hget : map.users.get subject = some entry) : map.getByUid entry.uid = some entry := by
  have hmem := (Map.mem_values_iff map.users entry).mpr ⟨subject, hget⟩
  cases hfind : map.getByUid entry.uid with
  | none =>
    have hnot := List.find?_eq_none.mp hfind entry hmem
    simp at hnot
  | some found =>
    obtain ⟨other, hother⟩ := (Map.mem_values_iff map.users found).mp
      (List.mem_of_find?_eq_some hfind)
    have huid : found.uid = entry.uid := by simpa using List.find?_some hfind
    obtain rfl := hmap.subject_of_number other subject found entry hother hget (.inl huid)
    exact hother.symm.trans hget

end WellFormed

theorem assignUid_error_unchanged (map : UidMap) (subject username org home shell : String)
    (error : PactError) (h : (map.assignUid subject username org home shell).2 = .error error) :
    (map.assignUid subject username org home shell).1 = map := by
  unfold assignUid at h ⊢
  cases hget : map.users.get subject with
  | some existing => rfl
  | none =>
    cases hindex : map.orgIndex org with
    | none => rfl
    | some index =>
      simp only [hget, hindex] at h ⊢
      split_ifs at h ⊢
      rfl

theorem entry_kept (map after : UidMap) (step : UidStep) (hnext : uidNext map step = some after)
    (subject : String) (entry : UidEntry) (hget : map.users.get subject = some entry)
    (hstep : step ≠ .GcOrg entry.org) : after.users.get subject = some entry := by
  cases uidNext_change map after step hnext with
  | Same => exact hget
  | Joined => exact hget
  | Assigned other _ _ _ _ _ hnew =>
    have hne : subject ≠ other := by
      rintro rfl
      exact nomatch hnew ▸ hget
    rw [Map.get_insert_of_ne _ _ hne]
    exact hget
  | Collected org =>
    refine (get_gcOrg map org subject entry).mpr ⟨hget, ?_⟩
    rintro rfl
    exact hstep rfl

-- The entry that a step makes for a subject of the organisation that had none.
def newEntries (org : String) (map : UidMap) : UidStep → List UidEntry
  | .AssignUid subject username org' home shell =>
    match map.users.get subject, (map.assignUid subject username org' home shell).2 with
    | none, .ok entry => if org' = org then [entry] else []
    | _, _ => []
  | .Join _ _ => []
  | .GcOrg _ => []

-- The part of a history since the organisation joined with its present index.
structure SinceJoined (start : UidMap) (steps : List UidStep) (org : String) (index : Nat)
    (joined : UidMap) (rest : List UidStep) : Prop where
  join : ∃ before map, steps = before ++ .Join org index :: rest ∧
    Run uidNext Unrestricted start before map ∧ uidNext map (.Join org index) = some joined
  stays : ∀ step ∈ rest, step ≠ .GcOrg org

theorem newEntries_same (map : UidMap) (subject username org home shell other : String)
    (hnone : ∀ index, map.users.get subject = none → map.orgIndex org = some index →
      map.stride ≤ map.offset org) :
    newEntries other map (.AssignUid subject username org home shell) = [] := by
  simp only [newEntries, assignUid]
  cases hget : map.users.get subject with
  | some existing => rfl
  | none =>
    cases hindex : map.orgIndex org with
    | none => rfl
    | some index => simp [hnone index hget hindex]

theorem newEntries_assigned (map : UidMap) (subject username org home shell other : String)
    (index : Nat) (hnew : map.users.get subject = none) (hindex : map.orgIndex org = some index)
    (hroom : map.offset org < map.stride) :
    newEntries other map (.AssignUid subject username org home shell) =
      if org = other then [map.newEntry subject username org home shell index] else [] := by
  simp [newEntries, assignUid, hnew, hindex, not_le.mpr hroom]

-- The entries made so far for an organisation have taken the numbers of its range in order.
structure Sequential (org : String) (index : Nat) (map : UidMap) (made : List UidEntry) : Prop where
  wellFormed : WellFormed map
  count : made.length = map.offset org
  numbers : ∀ position entry, made[position]? = some entry →
    entry.uid = rangeNumber map.baseUid map.stride index position ∧
    entry.gid = rangeNumber map.baseGid map.stride index position

theorem uidNext_sequential (org : String) (index : Nat) (map after : UidMap) (step : UidStep)
    (made : List UidEntry) (hmade : Sequential org index map made)
    (hregistered : map.orgIndex org = some index) (hkept : after.orgIndex org = some index)
    (hnext : uidNext map step = some after) :
    Sequential org index after (made ++ newEntries org map step) := by
  have hafter := uidNext_wellFormed map step after hmade.wellFormed hnext
  cases uidNext_change map after step hnext with
  | Same subject username other home shell hnone =>
    rw [newEntries_same map subject username other home shell org hnone, List.append_nil]
    exact hmade
  | Joined =>
    rw [newEntries, List.append_nil]
    exact ⟨hafter, hmade.count, hmade.numbers⟩
  | Assigned subject username other home shell number hnew hnumber hroom =>
    rw [newEntries_assigned map subject username other home shell org number hnew hnumber hroom]
    by_cases hsame : other = org
    · subst hsame
      obtain rfl := Option.some.inj (hnumber.symm.trans hregistered)
      rw [if_pos rfl]
      refine ⟨hafter, ?_, ?_⟩
      · rw [List.length_append, hmade.count, offset_insert, if_pos rfl]
        rfl
      · intro position entry hentry
        rw [List.getElem?_append, List.getElem?_singleton] at hentry
        split_ifs at hentry with hold hlast
        · exact hmade.numbers position entry hentry
        · obtain rfl : position = map.offset other := by
            have hcount := hmade.count
            omega
          cases hentry
          exact newEntry_placed map hmade.wellFormed subject username other home shell number
            hnumber hroom
    · rw [if_neg hsame, List.append_nil]
      refine ⟨hafter, ?_, hmade.numbers⟩
      rw [offset_insert, if_neg (Ne.symm hsame)]
      exact hmade.count
  | Collected other =>
    have hother : org ≠ other := by
      rintro rfl
      rw [orgIndex_gcOrg, if_pos rfl] at hkept
      cases hkept
    rw [newEntries, List.append_nil]
    refine ⟨hafter, ?_, hmade.numbers⟩
    rw [offset_gcOrg map other org hother]
    exact hmade.count

theorem joined_step (org : String) (index : Nat) (map after : UidMap) (step : UidStep)
    (hbefore : map.orgIndex org ≠ some index) (hafter : after.orgIndex org = some index)
    (hnext : uidNext map step = some after) :
    step = .Join org index ∧ map.orgIndex org = none ∧ after.offset org = map.offset org := by
  cases uidNext_change map after step hnext with
  | Same => exact absurd hafter hbefore
  | Joined other number hfresh =>
    rw [orgIndex_join map other org number fun registered hmem => (hfresh registered hmem).1]
      at hafter
    split_ifs at hafter with hsame
    · cases hafter
      subst hsame
      exact ⟨rfl, orgIndex_eq_none map org fun registered hmem => (hfresh registered hmem).1, rfl⟩
    · exact absurd hafter hbefore
  | Assigned => exact absurd hafter hbefore
  | Collected other =>
    rw [orgIndex_gcOrg] at hafter
    split_ifs at hafter
    exact absurd hafter hbefore

theorem sequential_since (start last : UidMap) (steps : List UidStep) (org : String) (index : Nat)
    (run : Run uidNext Unrestricted start steps last) (hstart : WellFormed start)
    (hnew : start.orgIndex org ≠ some index) (hlast : last.orgIndex org = some index) :
    ∃ joined rest, SinceJoined start steps org index joined rest ∧
      Sequential org index last (trace uidNext (newEntries org) joined rest) := by
  obtain ⟨before, step, rest, map, joined, rfl, hbefore, hnot, -, hnext, hjoined, hrest⟩ :=
    run.since (fun map => map.orgIndex org = some index) hnew hlast
  obtain ⟨rfl, hnone, hoffset⟩ := joined_step org index map joined step hnot hjoined hnext
  have hmap := hbefore.invariant WellFormed
    (fun map step after h _ hnext => uidNext_wellFormed map step after h hnext) hstart
  have hempty : Sequential org index joined [] := by
    refine ⟨uidNext_wellFormed map _ joined hmap hnext, ?_, ?_⟩
    · rw [hoffset, offset, hmap.offsets org hnone]
      rfl
    · intro position entry hentry
      simp at hentry
  refine ⟨joined, rest, ⟨⟨before, map, rfl, hbefore, hnext⟩, ?_⟩, ?_⟩
  · refine hrest.forall_labels _ ?_
    rintro map step after ⟨_, hkept⟩ hnext rfl
    have hgone := hkept after hnext
    cases hnext
    rw [orgIndex_gcOrg, if_pos rfl] at hgone
    cases hgone
  · have hmade := hrest.observed (newEntries org) (fun made map => Sequential org index map made)
      (fun made map step after h hallowed hnext =>
        uidNext_sequential org index map after step made h hallowed.1 (hallowed.2 after hnext) hnext)
      [] hempty
    rwa [List.nil_append] at hmade

theorem identity_map_sound (baseUid baseGid stride : Nat) (steps : List UidStep) (last : UidMap)
    (run : Run uidNext Unrestricted (.empty baseUid baseGid stride) steps last) :
    (∀ subject subject' entry entry', last.users.get subject = some entry →
      last.users.get subject' = some entry' → subject ≠ subject' →
      entry.uid ≠ entry'.uid ∧ entry.gid ≠ entry'.gid) ∧
    (∀ subject entry, last.users.get subject = some entry →
      ∃ index, last.orgIndex entry.org = some index ∧
        entry.uid ∈ Set.Ico (baseUid + index * stride) (baseUid + (index + 1) * stride) ∧
        entry.gid ∈ Set.Ico (baseGid + index * stride) (baseGid + (index + 1) * stride)) ∧
    (∀ org index, last.orgIndex org = some index →
      ∃ joined rest, SinceJoined (.empty baseUid baseGid stride) steps org index joined rest ∧
        ∀ position entry, (trace uidNext (newEntries org) joined rest)[position]? = some entry →
          entry.uid = baseUid + index * stride + position ∧
          entry.gid = baseGid + index * stride + position) ∧
    (∀ subject entry, last.users.get subject = some entry →
      ∀ more later, Run uidNext (fun _ step => step ≠ .GcOrg entry.org) last more later →
        later.users.get subject = some entry) ∧
    (∀ subject username org home shell error,
      (last.assignUid subject username org home shell).2 = .error error →
      (last.assignUid subject username org home shell).1 = last) ∧
    ∀ subject entry, last.users.get subject = some entry →
      last.getByUid entry.uid = some entry := by
  have hlast := run.invariant WellFormed
    (fun map step after h _ hnext => uidNext_wellFormed map step after h hnext)
    (wellFormed_empty baseUid baseGid stride)
  obtain ⟨hbaseUid, hbaseGid, hstride⟩ := run.invariant
    (fun map => SameRanges map (.empty baseUid baseGid stride))
    (fun map step after h _ hnext => uidNext_sameRanges map _ step after h hnext) ⟨rfl, rfl, rfl⟩
  refine ⟨?_, ?_, ?_, ?_, assignUid_error_unchanged last, hlast.getByUid_eq⟩
  · intro subject subject' entry entry' hget hget' hne
    have hsame := mt (hlast.subject_of_number subject subject' entry entry' hget hget') hne
    exact not_or.mp hsame
  · intro subject entry hget
    obtain ⟨index, position, hplaced⟩ := hlast.placed subject entry hget
    have hinRange := hplaced.inRange
    rw [hplaced.uid, hplaced.gid, hbaseUid, hbaseGid, hstride]
    rw [hstride] at hinRange
    refine ⟨index, hplaced.registered, ?_⟩
    simp only [UidMap.empty, rangeNumber, Set.mem_Ico, Nat.succ_mul] at hinRange ⊢
    omega
  · intro org index hindex
    obtain ⟨joined, rest, hsince, hmade⟩ := sequential_since _ last steps org index run
      (wellFormed_empty baseUid baseGid stride) (by simp [UidMap.empty, orgIndex]) hindex
    have hnumbers := hmade.numbers
    rw [hbaseUid, hbaseGid, hstride] at hnumbers
    exact ⟨joined, rest, hsince, hnumbers⟩
  · intro subject entry hget more later hmore
    exact hmore.invariant (fun map => map.users.get subject = some entry)
      (fun map step after h hallowed hnext => entry_kept map after step hnext subject entry h hallowed)
      hget

def federationSteps : List UidStep :=
  [.Join "local" 0, .Join "partner-a" 1, .AssignUid "alice@local" "alice" "local" "/users/alice" "/bin/sh",
    .AssignUid "bob@partner-a" "bob" "partner-a" "/users/bob" "/bin/sh", .GcOrg "partner-a",
    .Join "partner-b" 1, .AssignUid "carol@partner-b" "carol" "partner-b" "/users/carol" "/bin/sh",
    .AssignUid "dave@partner-b" "dave" "partner-b" "/users/dave" "/bin/sh"]

def carol : UidEntry :=
  ⟨"carol@partner-b", 20000, 20000, "carol", "/users/carol", "/bin/sh", "partner-b"⟩

theorem identity_map_sound_federation : ∃ last,
    Run uidNext Unrestricted .new federationSteps last ∧
    last.users.get "carol@partner-b" = some carol ∧ last.getByUid 20000 = some carol := by
  obtain ⟨last, hrun, hget⟩ : ∃ last, Run uidNext Unrestricted .new federationSteps last ∧
      last.users.get "carol@partner-b" = some carol :=
    ⟨_, (exec_eq_some_iff uidNext _ _ federationSteps).mp rfl, by decide +kernel⟩
  obtain ⟨-, -, -, -, -, hfound⟩ := identity_map_sound 10000 10000 10000 federationSteps last hrun
  exact ⟨last, hrun, hget, hfound "carol@partner-b" carol hget⟩

-- A username of the leaving organisation that nobody of another organisation has.
def departed (org username : String) (map : UidMap) : Bool :=
  map.users.values.any (fun user => user.username = username ∧ user.org = org) ∧
    map.users.values.all fun user => user.username = username → user.org = org

-- What the departure of an organisation should leave behind.
structure CleansUp (org : String) (map after : UidMap) : Prop where
  groups : ∀ name, after.groups.get name = (map.groups.get name).map fun group =>
    { group with members := group.members.filter fun member => ¬departed org member map }
  others : ∀ subject entry, entry.org ≠ org →
    (after.users.get subject = some entry ↔ map.users.get subject = some entry)

-- By the time the groups are looked at, the organisation has no users any more.
theorem groups_gcOrg (org : String) (map : UidMap) (name : String) :
    (map.gcOrg org).groups.get name = map.groups.get name := by
  have hnobody : ∀ member, ((map.users.filter fun _ entry => entry.org ≠ org).values.any
      fun user => user.username = member ∧ user.org = org) = false := by
    intro member
    rw [List.any_eq_false]
    intro user huser
    obtain ⟨subject, hget⟩ := (Map.mem_values_iff _ user).mp huser
    have hother := ((get_gcOrg map org subject user).mp hget).2
    simp [hother]
  simp only [gcOrg, Map.get_mapValues, hnobody, Bool.false_eq_true, not_false_eq_true, decide_true,
    List.filter_true, Option.map_id']

-- gc_org cleans the groups exactly when there is nothing to clean: the users of the organisation
-- go first, and a group member is looked up among those that are left.
theorem gcOrg_cleansUp_iff (org : String) (map : UidMap) :
    CleansUp org map (map.gcOrg org) ↔
      ∀ name group, map.groups.get name = some group →
        ∀ member ∈ group.members, departed org member map = false := by
  constructor
  · intro hclean name group hget member hmember
    have hgroups := hclean.groups name
    rw [groups_gcOrg, hget, Option.map_some, Option.some.injEq] at hgroups
    have hmembers := congrArg GroupEntry.members hgroups
    rw [eq_comm, List.filter_eq_self] at hmembers
    simpa using hmembers member hmember
  · intro hnone
    refine ⟨?_, ?_⟩
    · intro name
      rw [groups_gcOrg]
      cases hget : map.groups.get name with
      | none => rfl
      | some group =>
        have hmembers : (group.members.filter fun member => ¬departed org member map) =
            group.members := by
          rw [List.filter_eq_self]
          intro member hmember
          simp [hnone name group hget member hmember]
        rw [Option.map_some, hmembers]
    · intro subject entry hother
      rw [get_gcOrg]
      exact and_iff_left hother

def sharedGroup : UidMap :=
  { UidMap.new with
    users := ((Map.empty : Map String UidEntry).insert "alice@local"
        ⟨"alice@local", 10000, 10000, "alice", "/users/alice", "/bin/sh", "local"⟩).insert
      "bob@partner-a" ⟨"bob@partner-a", 20000, 20000, "bob", "/users/bob", "/bin/sh", "partner-a"⟩
    groups := (Map.empty : Map String GroupEntry).insert "lp16" ⟨"lp16", 5000, ["alice", "bob"]⟩
    orgIndices := [⟨"local", 0⟩, ⟨"partner-a", 1⟩] }

-- bob leaves with their organisation, but the group still lists bob.
theorem sharedGroup_keeps_departed :
    departed "partner-a" "bob" sharedGroup = true ∧
      ((sharedGroup.gcOrg "partner-a").groups.get "lp16").map GroupEntry.members =
        some ["alice", "bob"] ∧
      ¬CleansUp "partner-a" sharedGroup (sharedGroup.gcOrg "partner-a") := by
  refine ⟨by decide +kernel, by decide +kernel, ?_⟩
  intro hclean
  have hgroups := hclean.groups "lp16"
  revert hgroups
  decide +kernel

end Pact.Common
