import Mathlib

namespace Pact.Library

section Sorting

variable {α : Type} (before : α → α → Prop) [DecidableRel before] [IsTrans α before]

theorem pairwise_orderedInsert_iff (related : α → α → Prop) (entry : α) (sorted : List α)
    (hsorted : sorted.Pairwise before) :
    (sorted.orderedInsert before entry).Pairwise related ↔
      (∀ other ∈ sorted, if before entry other then related entry other else related other entry) ∧
        sorted.Pairwise related := by
  induction sorted with
  | nil => simp
  | cons first rest ih =>
    obtain ⟨hfirst, hrest⟩ := List.pairwise_cons.mp hsorted
    by_cases hentry : before entry first
    · -- All that comes after the first entry is behind the new one too.
      have hall : ∀ other ∈ first :: rest, before entry other := by
        refine List.forall_mem_cons.mpr ⟨hentry, ?_⟩
        intro other hother
        exact IsTrans.trans entry first other hentry (hfirst other hother)
      rw [List.orderedInsert_cons_of_le before rest hentry, List.pairwise_cons]
      refine and_congr_left fun _ => forall₂_congr fun other hother => ?_
      rw [if_pos (hall other hother)]
    · rw [List.orderedInsert_of_not_le before rest hentry, List.pairwise_cons, ih hrest,
        List.forall_mem_cons, if_neg hentry, List.pairwise_cons]
      simp only [List.mem_orderedInsert, forall_eq_or_imp]
      tauto

-- The sort keeps entries in their order where it may: of two entries the one that came first
-- stays first unless it has to go behind the other.
theorem pairwise_insertionSort_iff [Std.Total before] (related : α → α → Prop) (entries : List α) :
    (entries.insertionSort before).Pairwise related ↔
      entries.Pairwise fun first second =>
        if before first second then related first second else related second first := by
  induction entries with
  | nil => simp
  | cons entry entries ih =>
    rw [List.insertionSort_cons, pairwise_orderedInsert_iff before related entry _
      (List.pairwise_insertionSort before entries), ih, List.pairwise_cons]
    simp only [List.mem_insertionSort]

end Sorting

end Pact.Library
