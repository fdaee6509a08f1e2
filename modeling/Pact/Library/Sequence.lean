import Mathlib

namespace Pact.Library

-- A reader of numbered messages that remembers the highest number it has taken: the number it
-- remembers once it has read the whole queue.
def newest (last : Nat) (queue : List Nat) : Nat := queue.foldl max last

-- Read from the front, no number is more than one above the highest before it.
def GapFree : Nat → List Nat → Prop
  | _, [] => True
  | last, number :: rest => number ≤ last + 1 ∧ GapFree (max last number) rest

@[simp] theorem newest_nil (last : Nat) : newest last [] = last := rfl

theorem newest_cons (last number : Nat) (rest : List Nat) :
    newest last (number :: rest) = newest (max last number) rest := rfl

theorem newest_append (last number : Nat) (queue : List Nat) :
    newest last (queue ++ [number]) = max (newest last queue) number := by
  simp [newest, List.foldl_append]

theorem gapFree_append (last number : Nat) (queue : List Nat) (h : GapFree last queue)
    (hnumber : number ≤ newest last queue + 1) : GapFree last (queue ++ [number]) := by
  induction queue generalizing last with
  | nil => exact ⟨hnumber, trivial⟩
  | cons first rest ih => exact ⟨h.1, ih (max last first) h.2 hnumber⟩

theorem mem_of_gapFree (last number : Nat) (queue : List Nat) (h : GapFree last queue)
    (hlast : last < number) (hnewest : number ≤ newest last queue) : number ∈ queue := by
  induction queue generalizing last with
  | nil =>
    rw [newest_nil] at hnewest
    omega
  | cons first rest ih =>
    have hfirst := h.1
    by_cases heq : number = first
    · exact heq ▸ List.mem_cons_self
    · exact List.mem_cons_of_mem _ (ih (max last first) h.2 (by omega) hnewest)

variable {α : Type*}

theorem snoc_eq_append_cons_iff (entries before rest : List α) (last entry : α) :
    entries ++ [last] = before ++ entry :: rest ↔
      (rest = [] ∧ entries = before ∧ last = entry) ∨
        ∃ front, rest = front ++ [last] ∧ entries = before ++ entry :: front := by
  constructor
  · intro h
    rcases List.eq_nil_or_concat rest with rfl | ⟨front, final, rfl⟩
    · obtain ⟨hbefore, hlast⟩ := List.append_inj' h rfl
      exact .inl ⟨rfl, hbefore, List.singleton_inj.mp hlast⟩
    · rw [List.concat_eq_append, ← List.cons_append, ← List.append_assoc] at h
      obtain ⟨hfront, hlast⟩ := List.append_inj' h rfl
      rw [List.singleton_inj] at hlast
      exact .inr ⟨front, by rw [List.concat_eq_append, hlast], hfront⟩
  · rintro (⟨rfl, rfl, rfl⟩ | ⟨front, rfl, rfl⟩)
    · rfl
    · simp

-- The part of a log that a reader asks for who names the first number it wants.
def numberedFrom (key : α → Nat) (log : List α) (first : Nat) : List α :=
  log.filter fun entry => first ≤ key entry

-- In an ordered log the first entry of that part is the least, and what follows it is the part
-- from the next number on.
theorem numberedFrom_cons (key : α → Nat) (log : List α) (first : Nat) (entry : α)
    (rest : List α) (hsorted : log.Pairwise fun one other => key one < key other)
    (h : numberedFrom key log first = entry :: rest) :
    entry ∈ log ∧ first ≤ key entry ∧ rest = numberedFrom key log (key entry + 1) ∧
      ∀ other ∈ log, first ≤ key other → key entry ≤ key other := by
  have hpart : (numberedFrom key log first).Pairwise fun one other => key one < key other :=
    hsorted.filter _
  rw [h, List.pairwise_cons] at hpart
  obtain ⟨hentry, hfirst⟩ : entry ∈ log ∧ first ≤ key entry := by
    have hmem : entry ∈ numberedFrom key log first := h ▸ List.mem_cons_self
    simpa [numberedFrom] using hmem
  refine ⟨hentry, hfirst, ?_, ?_⟩
  · have hrest : (numberedFrom key log first).filter (fun other => key entry + 1 ≤ key other) =
        rest := by
      rw [h, List.filter_cons_of_neg (by simp), List.filter_eq_self]
      exact fun other hother => by simpa using hpart.1 other hother
    rw [← hrest, numberedFrom, List.filter_filter, numberedFrom]
    exact List.filter_congr fun other _ => by
      rw [Bool.eq_iff_iff]
      simp
      omega
  · intro other hother hle
    have hmem : other ∈ entry :: rest := by
      rw [← h]
      simpa [numberedFrom] using ⟨hother, hle⟩
    rcases List.mem_cons.mp hmem with rfl | hmem
    · exact Nat.le_refl _
    · exact (hpart.1 other hmem).le

-- The first few of a queue are the last few that were asked for only if they are all of it, or
-- none were asked for.
theorem take_perm_rtake_iff (queue : List α) (hnodup : queue.Nodup) (count asked : Nat)
    (hcount : count ≤ asked) :
    (queue.take count).Perm (queue.rtake asked) ↔ queue.length ≤ count ∨ asked = 0 := by
  rw [List.rtake]
  constructor
  · intro hperm
    by_contra hshort
    rw [not_or, Nat.not_le] at hshort
    have hlength := hperm.length_eq
    rw [List.length_take, List.length_drop] at hlength
    have hsame := (hnodup.perm_iff_eq_of_sublist (List.take_sublist _ _)
      (List.drop_sublist _ _)).mp hperm
    have hhead := congrArg (·[0]?) hsame
    have hsome : 0 < count := by omega
    have hfirst : 0 < queue.length := by omega
    have hlater : queue.length - asked < queue.length := by omega
    simp only [List.getElem?_take, List.getElem?_drop, if_pos hsome, Nat.add_zero,
      List.getElem?_eq_getElem hfirst, List.getElem?_eq_getElem hlater, Option.some.injEq,
      hnodup.getElem_inj_iff] at hhead
    omega
  · rintro (hall | rfl)
    · rw [List.take_of_length_le hall, Nat.sub_eq_zero_of_le (hall.trans hcount), List.drop_zero]
    · simp [Nat.le_zero.mp hcount]

section Tails

variable (p : α → Bool) (items : List α) (n : Nat)

theorem rdrop_append_rtake : items.rdrop n ++ items.rtake n = items :=
  List.take_append_drop _ items

theorem length_rtake : (items.rtake n).length = min n items.length := by
  rw [List.rtake, List.length_drop]
  omega

theorem filter_rdrop_append_rtake :
    (items.rdrop n).filter p ++ (items.rtake n).filter p = items.filter p := by
  rw [← List.filter_append, rdrop_append_rtake]

theorem rtake_of_length_le (h : items.length ≤ n) : items.rtake n = items := by
  rw [List.rtake, Nat.sub_eq_zero_of_le h, List.drop_zero]

theorem rtake_min_length : items.rtake (min items.length n) = items.rtake n := by
  rw [List.rtake, List.rtake]
  congr 1
  omega

theorem rtake_append_of_length (earlier : List α) (h : items.length = n) :
    (earlier ++ items).rtake n = items := by
  rw [List.rtake, List.length_append, h, Nat.add_sub_cancel, List.drop_left]

theorem rtake_rtake_append (more : List α) :
    (items.rtake n ++ more).rtake n = (items ++ more).rtake n := by
  have hcut : min (n - more.length) n = n - more.length := Nat.min_eq_left (Nat.sub_le _ _)
  simp only [List.rtake_eq_reverse_take_reverse, List.reverse_append, List.reverse_reverse,
    List.take_append, List.take_take, List.length_reverse, hcut]

-- Cutting before filtering, with a flag for what was cut, is filtering before cutting only if
-- nothing is cut, or all that is kept matches and something that is cut does too.
theorem filter_tail_iff :
    ((items.rtake n).filter p = (items.filter p).rtake n ∧
        (n < items.length ↔ n < (items.filter p).length)) ↔
      items.length ≤ n ∨
        ((∀ item ∈ items.rtake n, p item = true) ∧ ∃ item ∈ items.rdrop n, p item = true) := by
  have hlength := congrArg List.length (filter_rdrop_append_rtake p items n)
  rw [List.length_append] at hlength
  constructor
  · rintro ⟨hsame, hflag⟩
    by_cases hshort : items.length ≤ n
    · exact Or.inl hshort
    · have hmany := hflag.mp (by omega)
      have hcount : ((items.rtake n).filter p).length = (items.rtake n).length := by
        rw [hsame, length_rtake, length_rtake]
        omega
      have htail : (items.rtake n).length = n := by
        rw [length_rtake]
        omega
      refine Or.inr ⟨List.filter_eq_self.mp (List.filter_sublist.eq_of_length hcount), ?_⟩
      have hpos : 0 < ((items.rdrop n).filter p).length := by omega
      obtain ⟨item, hmem⟩ := List.exists_mem_of_length_pos hpos
      exact ⟨item, List.mem_filter.mp hmem⟩
  · rintro (hshort | ⟨hall, item, hmem, hmatch⟩)
    · have hle := List.length_filter_le p items
      rw [rtake_of_length_le items n hshort, rtake_of_length_le (items.filter p) n (by omega)]
      exact ⟨rfl, by omega⟩
    · have hlong : n < items.length := by
        by_contra hshort
        rw [List.rdrop, Nat.sub_eq_zero_of_le (by omega), List.take_zero] at hmem
        cases hmem
      have htail : (items.rtake n).length = n := by
        rw [length_rtake]
        omega
      have hkept : (items.rtake n).filter p = items.rtake n := List.filter_eq_self.mpr hall
      have hpos : 0 < ((items.rdrop n).filter p).length :=
        List.length_pos_of_mem (List.mem_filter.mpr ⟨hmem, hmatch⟩)
      rw [hkept] at hlength
      refine ⟨?_, by omega⟩
      rw [← filter_rdrop_append_rtake p items n, hkept, rtake_append_of_length _ _ _ htail]

-- Without the flag, nothing that is cut may match.
theorem filter_tail_whole_iff :
    ((items.rtake n).filter p = (items.filter p).rtake n ∧ ¬n < (items.filter p).length) ↔
      ∀ item ∈ items.rdrop n, p item = false := by
  have hsplit := filter_rdrop_append_rtake p items n
  constructor
  · rintro ⟨hsame, hfew⟩
    rw [rtake_of_length_le (items.filter p) n (by omega)] at hsame
    rw [← hsame] at hsplit
    have hnone : (items.rdrop n).filter p = [] := by simpa using hsplit
    intro item hmem
    simpa using List.filter_eq_nil_iff.mp hnone item hmem
  · intro hnone
    have hempty : (items.rdrop n).filter p = [] := by
      rw [List.filter_eq_nil_iff]
      intro item hmem
      simp [hnone item hmem]
    rw [hempty, List.nil_append] at hsplit
    have hle := List.length_filter_le p (items.rtake n)
    rw [length_rtake, hsplit] at hle
    rw [rtake_of_length_le (items.filter p) n (by omega)]
    exact ⟨hsplit, by omega⟩

end Tails

section Repeated

variable {ι : Type*} (step : α → ι → α)

theorem foldl_kept (state : α) (items : List ι) (h : ∀ item ∈ items, step state item = state) :
    items.foldl step state = state := by
  induction items with
  | nil => rfl
  | cons item rest ih =>
    obtain ⟨hitem, hrest⟩ := List.forall_mem_cons.mp h
    rw [List.foldl_cons, hitem, ih hrest]

-- A variable that is never set again: the same items once more change nothing.
theorem foldl_again (start : α) (items : List ι)
    (h : ∀ state, state ≠ start → ∀ item, step state item = state) :
    items.foldl step (items.foldl step start) = items.foldl step start := by
  by_cases hstart : items.foldl step start = start
  · rw [hstart, hstart]
  · exact foldl_kept step _ items fun item _ => h _ hstart item

theorem iterate_succ_of_again (f : α → α) (start : α) (h : f (f start) = f start) (n : Nat) :
    f^[n + 1] start = f start := by
  rw [Function.iterate_succ_apply, Function.iterate_fixed h]

end Repeated

end Pact.Library
