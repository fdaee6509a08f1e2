import Mathlib

namespace Pact.Library

section Locality

variable {S L R C V : Type}

-- A step reads and writes only the cells that its label touches: it leaves the others alone,
-- and what it answers and writes depends on its own cells only. The cells make up the state.
structure Local (step : S → L → S × R) (touches : C → L → Bool) (read : S → C → V) : Prop where
  ext : ∀ state other, (∀ cell, read state cell = read other cell) → state = other
  frame : ∀ state label cell, touches cell label = false →
    read (step state label).1 cell = read state cell
  depends : ∀ state other label,
    (∀ cell, touches cell label = true → read state cell = read other cell) →
    (step state label).2 = (step other label).2 ∧ ∀ cell, touches cell label = true →
      read (step state label).1 cell = read (step other label).1 cell

def finalState (step : S → L → S × R) (state : S) (labels : List L) : S :=
  labels.foldl (fun state label => (step state label).1) state

def answers (step : S → L → S × R) (state : S) : List L → List (L × R)
  | [] => []
  | label :: labels => (label, (step state label).2) :: answers step (step state label).1 labels

def Apart (touches : C → L → Bool) (first second : L) : Prop :=
  ∀ cell, touches cell first = true → touches cell second = false

def answersAt (touches : C → L → Bool) (cell : C) (answered : List (L × R)) : List (L × R) :=
  answered.filter fun answer => touches cell answer.1

variable {step : S → L → S × R} {touches : C → L → Bool} {read : S → C → V}
  {first second : L}

theorem Apart.symm (h : Apart touches first second) : Apart touches second first := by
  intro cell hsecond
  by_contra hfirst
  rw [h cell (by simpa using hfirst)] at hsecond
  cases hsecond

theorem Local.answer_after (hlocal : Local step touches read) (state : S)
    (h : Apart touches first second) :
    (step (step state first).1 second).2 = (step state second).2 ∧
      ∀ cell, touches cell second = true →
        read (step (step state first).1 second).1 cell = read (step state second).1 cell :=
  hlocal.depends _ _ second fun cell hsecond => hlocal.frame state first cell (h.symm cell hsecond)

theorem Local.commute (hlocal : Local step touches read) (state : S)
    (h : Apart touches first second) :
    (step (step state first).1 second).1 = (step (step state second).1 first).1 := by
  apply hlocal.ext
  intro cell
  cases hfirst : touches cell first with
  | true =>
    rw [hlocal.frame _ second cell (h cell hfirst), (hlocal.answer_after _ h.symm).2 cell hfirst]
  | false =>
    rw [hlocal.frame _ first cell hfirst]
    cases hsecond : touches cell second with
    | true => exact (hlocal.answer_after _ h).2 cell hsecond
    | false =>
      rw [hlocal.frame _ second cell hsecond, hlocal.frame _ second cell hsecond,
        hlocal.frame _ first cell hfirst]

theorem answersAt_cons (cell : C) (answer : L × R) (answered : List (L × R)) :
    answersAt touches cell (answer :: answered) =
      if touches cell answer.1 = true then answer :: answersAt touches cell answered
      else answersAt touches cell answered :=
  List.filter_cons

theorem Local.move_front (hlocal : Local step touches read) (state : S) (before after : List L)
    (hapart : ∀ label ∈ before, Apart touches first label) :
    finalState step state (before ++ first :: after) =
        finalState step state (first :: (before ++ after)) ∧
      ∀ cell, answersAt touches cell (answers step state (before ++ first :: after)) =
        answersAt touches cell (answers step state (first :: (before ++ after))) := by
  induction before generalizing state with
  | nil => exact ⟨rfl, fun _ => rfl⟩
  | cons label before ih =>
    obtain ⟨hlabel, hrest⟩ := List.forall_mem_cons.mp hapart
    obtain ⟨hfinal, hanswers⟩ := ih (step state label).1 hrest
    have hcommute : (step (step state label).1 first).1 = (step (step state first).1 label).1 :=
      (hlocal.commute state hlabel).symm
    have hlate := (hlocal.answer_after state hlabel).1
    have hearly := (hlocal.answer_after state hlabel.symm).1
    constructor
    · simp only [finalState, List.cons_append, List.foldl_cons] at hfinal ⊢
      rw [hfinal, hcommute]
    · intro cell
      have hcell := hanswers cell
      simp only [List.cons_append, answers, answersAt_cons] at hcell ⊢
      rw [hcell, hearly, hlate, hcommute]
      cases hfirst : touches cell first with
      | true => simp [hlabel cell hfirst]
      | false => simp

theorem filter_append_cons_eq {α : Type} (p : α → Bool) {before after rest : List α} {a : α}
    (ha : p a = true) (hnot : a ∉ before)
    (h : (a :: rest).filter p = (before ++ a :: after).filter p) :
    before.filter p = [] ∧ rest.filter p = after.filter p := by
  rw [List.filter_append, List.filter_cons_of_pos ha, List.filter_cons_of_pos ha] at h
  cases hbefore : before.filter p with
  | nil =>
    rw [hbefore] at h
    exact ⟨rfl, (List.cons.inj h).2⟩
  | cons head tail =>
    rw [hbefore] at h
    obtain ⟨rfl, _⟩ := List.cons.inj h
    have hmem : a ∈ before.filter p := by
      rw [hbefore]
      exact List.mem_cons_self
    exact absurd (List.mem_filter.mp hmem).1 hnot

-- What each cell goes through decides the final state and every answer: the order of labels
-- that share no cell does not matter.
theorem Local.determined (hlocal : Local step touches read)
    (htouches : ∀ label, ∃ cell, touches cell label = true) (state : S) (labels others : List L)
    (h : ∀ cell, labels.filter (touches cell) = others.filter (touches cell)) :
    finalState step state labels = finalState step state others ∧
      ∀ cell, answersAt touches cell (answers step state labels) =
        answersAt touches cell (answers step state others) := by
  induction labels generalizing state others with
  | nil =>
    cases others with
    | nil => exact ⟨rfl, fun _ => rfl⟩
    | cons other others =>
      obtain ⟨cell, hcell⟩ := htouches other
      have hnone := h cell
      rw [List.filter_cons_of_pos hcell] at hnone
      cases hnone
  | cons label labels ih =>
    have hmem : label ∈ others := by
      obtain ⟨cell, hcell⟩ := htouches label
      have hfirst : label ∈ others.filter (touches cell) := by
        rw [← h cell, List.filter_cons_of_pos hcell]
        exact List.mem_cons_self
      exact (List.mem_filter.mp hfirst).1
    obtain ⟨before, after, rfl, hnot⟩ := List.eq_append_cons_of_mem hmem
    have hapart : ∀ other ∈ before, Apart touches label other := by
      intro other hother cell hcell
      have hnone := (filter_append_cons_eq (touches cell) hcell hnot (h cell)).1
      rw [List.filter_eq_nil_iff] at hnone
      simpa using hnone other hother
    have hrest : ∀ cell, labels.filter (touches cell) = (before ++ after).filter (touches cell) := by
      intro cell
      cases hcell : touches cell label with
      | true =>
        obtain ⟨hnone, hafter⟩ := filter_append_cons_eq (touches cell) hcell hnot (h cell)
        rw [hafter, List.filter_append, hnone, List.nil_append]
      | false =>
        have hsame := h cell
        rwa [List.filter_cons_of_neg (by simp [hcell]), List.filter_append,
          List.filter_cons_of_neg (by simp [hcell]), ← List.filter_append] at hsame
    obtain ⟨hfinal, hanswers⟩ := ih (step state label).1 (before ++ after) hrest
    obtain ⟨hmoved, hmovedAnswers⟩ := hlocal.move_front state before after hapart
    constructor
    · rw [hmoved]
      exact hfinal
    · intro cell
      rw [hmovedAnswers cell]
      simp only [answers, answersAt_cons, hanswers cell]

end Locality

end Pact.Library
