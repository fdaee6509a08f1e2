import Mathlib

namespace Pact.Library

section TokenBucket

variable {K : Type*} [Field K] [LinearOrder K]

-- What a bucket holds after some time: it fills at a constant rate and no further than its
-- capacity.
def refill (capacity rate elapsed level : K) : K := min (level + elapsed * rate) capacity

section Refill

variable {capacity rate elapsed level : K}

theorem refill_le : refill capacity rate elapsed level ≤ capacity := min_le_right _ _

theorem refill_le_add : refill capacity rate elapsed level ≤ level + elapsed * rate :=
  min_le_left _ _

theorem refill_zero (hlevel : level ≤ capacity) : refill capacity rate 0 level = level := by
  rw [refill, zero_mul, add_zero, min_eq_left hlevel]

variable [IsStrictOrderedRing K]

theorem le_refill (hrate : 0 ≤ rate) (helapsed : 0 ≤ elapsed) (hlevel : level ≤ capacity) :
    level ≤ refill capacity rate elapsed level :=
  le_min (le_add_of_nonneg_right (mul_nonneg helapsed hrate)) hlevel

theorem refill_mono {lower : K} (hlower : lower ≤ level) :
    refill capacity rate elapsed lower ≤ refill capacity rate elapsed level :=
  min_le_min_right capacity (add_le_add_left hlower _)

theorem refill_capacity (hrate : 0 ≤ rate) (helapsed : 0 ≤ elapsed) :
    refill capacity rate elapsed capacity = capacity :=
  le_antisymm refill_le (le_refill hrate helapsed le_rfl)

theorem refill_eq_capacity (hlevel : 0 ≤ level) (hlong : capacity ≤ elapsed * rate) :
    refill capacity rate elapsed level = capacity :=
  min_eq_right (hlong.trans (le_add_of_nonneg_left hlevel))

theorem refill_refill (more : K) (hrate : 0 ≤ rate) (hmore : 0 ≤ more) :
    refill capacity rate more (refill capacity rate elapsed level) =
      refill capacity rate (elapsed + more) level := by
  have hover : min (capacity + more * rate) capacity = capacity :=
    min_eq_right (le_add_of_nonneg_right (mul_nonneg hmore hrate))
  rw [refill, refill, refill, ← min_add_add_right, min_assoc, hover, add_assoc, ← add_mul]

end Refill

-- `grants` are the times at which a token was handed out, and `level` is what the bucket holds at
-- the time `last`. What was handed out since some time and what is left never exceed what the
-- bucket can hold and has gained since.
structure Rationed (capacity rate : K) (grants : List K) (last level : K) : Prop where
  nonneg : 0 ≤ level
  le : level ≤ capacity
  past : ∀ time ∈ grants, time ≤ last
  balance : ∀ start, start ≤ last →
    (grants.countP fun time => start ≤ time) + level ≤ capacity + rate * (last - start)
  window : ∀ start finish, start ≤ finish →
    (grants.countP fun time => start ≤ time ∧ time ≤ finish) ≤ capacity + rate * (finish - start)

namespace Rationed

variable [IsStrictOrderedRing K] {capacity rate last level : K} {grants : List K}

theorem full (hcapacity : 0 ≤ capacity) (hrate : 0 ≤ rate) :
    Rationed capacity rate [] last capacity := by
  refine ⟨hcapacity, le_rfl, nofun, ?_, ?_⟩
  · intro start hstart
    have hgain := mul_nonneg hrate (sub_nonneg.mpr hstart)
    simpa using hgain
  · intro start finish hle
    have hgain := mul_nonneg hrate (sub_nonneg.mpr hle)
    simpa using add_nonneg hcapacity hgain

theorem refilled (h : Rationed capacity rate grants last level) (hrate : 0 ≤ rate) (now : K)
    (hnow : last ≤ now) :
    Rationed capacity rate grants now (refill capacity rate (now - last) level) := by
  have helapsed : 0 ≤ now - last := sub_nonneg.mpr hnow
  refine ⟨h.nonneg.trans (le_refill hrate helapsed h.le), refill_le, ?_, ?_, h.window⟩
  · intro time htime
    exact (h.past time htime).trans hnow
  · intro start hstart
    by_cases hbefore : start ≤ last
    · have hbalance := h.balance start hbefore
      calc ((grants.countP fun time => start ≤ time) : K) + refill capacity rate (now - last) level
          ≤ (grants.countP fun time => start ≤ time) + (level + (now - last) * rate) := by
            gcongr
            exact refill_le_add
        _ = (grants.countP fun time => start ≤ time) + level + rate * (now - last) := by ring
        _ ≤ capacity + rate * (last - start) + rate * (now - last) := by linarith
        _ = capacity + rate * (now - start) := by ring
    · -- Nothing was handed out since then.
      have hnone : (grants.countP fun time => start ≤ time) = 0 := by
        rw [List.countP_eq_zero]
        intro time htime
        have hpast := (h.past time htime).trans_lt (not_le.mp hbefore)
        simpa using hpast
      have hgain := mul_nonneg hrate (sub_nonneg.mpr hstart)
      rw [hnone, Nat.cast_zero, zero_add]
      exact refill_le.trans (le_add_of_nonneg_right hgain)

theorem lowered (h : Rationed capacity rate grants last level) (lower : K) (hnonneg : 0 ≤ lower)
    (hlower : lower ≤ level) : Rationed capacity rate grants last lower := by
  refine ⟨hnonneg, hlower.trans h.le, h.past, ?_, h.window⟩
  intro start hstart
  have hbalance := h.balance start hstart
  linarith

theorem spent (h : Rationed capacity rate grants last level) (hrate : 0 ≤ rate)
    (hone : 1 ≤ level) : Rationed capacity rate (grants ++ [last]) last (level - 1) := by
  refine ⟨sub_nonneg.mpr hone, by linarith [h.le], ?_, ?_, ?_⟩
  · intro time htime
    rcases List.mem_append.mp htime with hold | hnew
    · exact h.past time hold
    · exact (List.mem_singleton.mp hnew).le
  · intro start hstart
    have hbalance := h.balance start hstart
    simp only [List.countP_append, List.countP_singleton, hstart, decide_true, if_true,
      Nat.cast_add, Nat.cast_one]
    linarith
  · intro start finish hle
    by_cases hinside : start ≤ last ∧ last ≤ finish
    · have hcounted : ((grants.countP fun time => start ≤ time ∧ time ≤ finish) : K) ≤
          grants.countP fun time => start ≤ time := by
        refine Nat.cast_le.mpr (List.countP_mono_left ?_)
        intro time _ hwindow
        simp only [decide_eq_true_eq] at hwindow ⊢
        exact hwindow.1
      have hbalance := h.balance start hinside.1
      have hgain : rate * (last - start) ≤ rate * (finish - start) := by
        gcongr
        exact hinside.2
      simp only [List.countP_append, List.countP_singleton, hinside, and_self, decide_true, if_true,
        Nat.cast_add, Nat.cast_one]
      linarith
    · have hwindow := h.window start finish hle
      simpa only [List.countP_append, List.countP_singleton, hinside, decide_false,
        Bool.false_eq_true, if_false, Nat.add_zero] using hwindow

end Rationed

end TokenBucket

end Pact.Library
