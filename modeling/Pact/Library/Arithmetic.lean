import Mathlib

namespace Pact.Library

-- An operation on words of so many bits, from its exact result. Where that does not fit, a build
-- with overflow checks panics, for which none stands, and one without wraps.
def wordResult (overflowChecks : Bool) (bits exact : Nat) : Option Nat :=
  if exact < 2 ^ bits then some exact
  else if overflowChecks then none else some (exact % 2 ^ bits)

variable (overflowChecks : Bool) (bits : Nat)

theorem wordResult_of_lt (exact : Nat) (h : exact < 2 ^ bits) :
    wordResult overflowChecks bits exact = some exact := by
  rw [wordResult, if_pos h]

theorem wordResult_checked (exact : Nat) (h : 2 ^ bits ≤ exact) :
    wordResult true bits exact = none := by
  rw [wordResult, if_neg (Nat.not_lt.mpr h), if_pos rfl]

theorem wordResult_unchecked (exact : Nat) :
    wordResult false bits exact = some (exact % 2 ^ bits) := by
  by_cases h : exact < 2 ^ bits
  · rw [wordResult_of_lt false bits exact h, Nat.mod_eq_of_lt h]
  · rw [wordResult, if_neg h, if_neg Bool.false_ne_true]

theorem wordResult_exact_iff (exact : Nat) :
    wordResult overflowChecks bits exact = some exact ↔ exact < 2 ^ bits := by
  constructor
  · intro hexact
    by_contra h
    cases overflowChecks with
    | true =>
      rw [wordResult_checked bits exact (Nat.not_lt.mp h)] at hexact
      cases hexact
    | false =>
      rw [wordResult_unchecked, Option.some.injEq] at hexact
      have hlt := Nat.mod_lt exact (Nat.two_pow_pos bits)
      omega
  · exact wordResult_of_lt overflowChecks bits exact

-- An operation after another is as good as one on the exact result, where it keeps what does not
-- fit from fitting and respects the wrapping.
theorem wordResult_bind (operation : Nat → Nat) (part : Nat) (hgrows : part ≤ operation part)
    (hwraps : operation (part % 2 ^ bits) % 2 ^ bits = operation part % 2 ^ bits) :
    (wordResult overflowChecks bits part).bind
        (fun value => wordResult overflowChecks bits (operation value)) =
      wordResult overflowChecks bits (operation part) := by
  by_cases h : part < 2 ^ bits
  · rw [wordResult_of_lt overflowChecks bits part h, Option.bind_some]
  · cases overflowChecks with
    | true =>
      rw [wordResult_checked bits part (by omega), wordResult_checked bits _ (by omega)]
      rfl
    | false =>
      rw [wordResult_unchecked, Option.bind_some, wordResult_unchecked, wordResult_unchecked,
        hwraps]

theorem wordResult_add (base part : Nat) :
    (wordResult overflowChecks bits part).bind
        (fun value => wordResult overflowChecks bits (base + value)) =
      wordResult overflowChecks bits (base + part) :=
  wordResult_bind overflowChecks bits (base + ·) part (Nat.le_add_left part base)
    (Nat.add_mod_mod base part _)

theorem wordResult_mul (part factor : Nat) (hfactor : 0 < factor) :
    (wordResult overflowChecks bits part).bind
        (fun value => wordResult overflowChecks bits (value * factor)) =
      wordResult overflowChecks bits (part * factor) :=
  wordResult_bind overflowChecks bits (· * factor) part (Nat.le_mul_of_pos_right part hfactor)
    (Nat.mod_mul_mod part factor _)

theorem foldlM_wordResult_succ {ι : Type*} (items : List ι) :
    items.foldlM (fun count _ => wordResult overflowChecks bits (count + 1)) 0 =
      wordResult overflowChecks bits items.length := by
  induction items using List.reverseRecOn with
  | nil => exact (wordResult_of_lt overflowChecks bits 0 (Nat.two_pow_pos bits)).symm
  | append_singleton items item ih =>
    have hadd := wordResult_add overflowChecks bits 1 items.length
    simp only [Nat.add_comm 1] at hadd
    rw [List.foldlM_append, ih, List.length_append, List.length_singleton, ← hadd]
    simp only [List.foldlM_cons, List.foldlM_nil, bind_pure]
    rfl

-- A computation that takes the results of its operations from a function: `some` for numbers of any
-- size, a word for those of a machine. It is exact where they fit, and elsewhere a build that
-- checks panics.
structure ExactWhere {α : Type*} (compute : (Nat → Option Nat) → Option α) (fits : Prop) :
    Prop where
  total : ∃ result, compute some = some result
  exact : fits → ∀ overflowChecks, compute (wordResult overflowChecks bits) = compute some
  panics : ¬fits → compute (wordResult true bits) = none

section Computations

variable {α β ι : Type*} {bits}

theorem ExactWhere.of_result (compute : (Nat → Option Nat) → Option α) (fits : Prop)
    (result : α) (hfits : fits) (h : ∀ word, compute word = some result) :
    ExactWhere bits compute fits := by
  refine ⟨⟨result, h some⟩, ?_, ?_⟩
  · intro _ overflowChecks
    rw [h, h]
  · intro hnot
    exact absurd hfits hnot

theorem ExactWhere.of_word (compute : (Nat → Option Nat) → Option α) (fits : Prop)
    (exact : Nat) (make : Nat → α) (hfits : fits ↔ exact < 2 ^ bits)
    (hsome : compute some = some (make exact))
    (hword : ∀ overflowChecks, compute (wordResult overflowChecks bits) =
      (wordResult overflowChecks bits exact).map make) :
    ExactWhere bits compute fits := by
  refine ⟨⟨make exact, hsome⟩, ?_, ?_⟩
  · intro h overflowChecks
    rw [hword, wordResult_of_lt overflowChecks bits exact (hfits.mp h), hsome]
    rfl
  · intro hnot
    rw [hword, wordResult_checked bits exact (Nat.not_lt.mp fun hlt => hnot (hfits.mpr hlt))]
    rfl

theorem ExactWhere.map (compute : (Nat → Option Nat) → Option α) (fits : Prop) (make : α → β)
    (h : ExactWhere bits compute fits) :
    ExactWhere bits (fun word => (compute word).map make) fits := by
  obtain ⟨result, hresult⟩ := h.total
  refine ⟨⟨make result, by rw [hresult, Option.map_some]⟩, ?_, ?_⟩
  · intro hfits overflowChecks
    rw [h.exact hfits overflowChecks]
  · intro hnot
    rw [h.panics hnot, Option.map_none]

-- A loop over items, each of which fits or does not, whatever the state.
theorem ExactWhere.foldlM (step : (Nat → Option Nat) → β → ι → Option β) (fits : ι → Prop)
    (items : List ι) (hstep : ∀ state, ∀ item ∈ items,
      ExactWhere bits (fun word => step word state item) (fits item)) (state : β) :
    ExactWhere bits (fun word => items.foldlM (step word) state) (∀ item ∈ items, fits item) := by
  induction items generalizing state with
  | nil => exact .of_result _ _ state (fun item hmem => absurd hmem List.not_mem_nil) (fun _ => rfl)
  | cons item items ih =>
    have hitem := hstep state item List.mem_cons_self
    have hitems := ih (fun state other hmem => hstep state other (List.mem_cons_of_mem _ hmem))
    obtain ⟨after, hafter⟩ := hitem.total
    simp only [List.foldlM_cons, Option.bind_eq_bind, List.forall_mem_cons]
    refine ⟨?_, ?_, ?_⟩
    · obtain ⟨last, hlast⟩ := (hitems after).total
      exact ⟨last, by rw [hafter, Option.bind_some, hlast]⟩
    · rintro ⟨hfits, hrest⟩ overflowChecks
      rw [hitem.exact hfits overflowChecks, hafter, Option.bind_some, Option.bind_some]
      exact (hitems after).exact hrest overflowChecks
    · intro hnot
      by_cases hfits : fits item
      · rw [hitem.exact hfits true, hafter, Option.bind_some]
        exact (hitems after).panics fun hrest => hnot ⟨hfits, hrest⟩
      · rw [hitem.panics hfits, Option.bind_none]

-- In a build of either kind the result is the exact one or the default.
def ExactOrDefault (bits : Nat) (compute : (Nat → Option Nat) → Option α) (default : α) : Prop :=
  ∀ overflowChecks, ∃ result, compute (wordResult overflowChecks bits) = some result ∧
    (compute some = some result ∨ result = default)

theorem ExactWhere.exactOrDefault_iff (compute : (Nat → Option Nat) → Option α) (fits : Prop)
    (h : ExactWhere bits compute fits) (default : α) :
    ExactOrDefault bits compute default ↔ fits := by
  constructor
  · intro hexact
    by_contra hnot
    obtain ⟨result, hresult, -⟩ := hexact true
    rw [h.panics hnot] at hresult
    cases hresult
  · intro hfits overflowChecks
    obtain ⟨result, hresult⟩ := h.total
    exact ⟨result, by rw [h.exact hfits, hresult], Or.inl hresult⟩

end Computations

end Pact.Library
