import Mathlib

namespace Pact.Library

section Custody

variable {H T : Type} {before after : H → Option T} {drawn new : List T}

-- Every token that is held has been drawn, and has one holder.
structure Exclusive (held : H → Option T) (drawn : List T) : Prop where
  unique : ∀ holder other token, held holder = some token → held other = some token → holder = other
  drawn : ∀ holder token, held holder = some token → token ∈ drawn

-- How tokens change hands in one step: all are kept or dropped but for one, which is new or goes
-- over from one holder to another.
inductive Rearranged (before after : H → Option T) (drawn new : List T) : Prop
  | Kept (hkept : ∀ holder token, after holder = some token → before holder = some token)
  | Drawn (receiver : H) (token : T) (hdrawn : token ∉ drawn) (hnew : token ∈ new)
      (hothers : ∀ holder found, after holder = some found →
        before holder = some found ∨ holder = receiver ∧ found = token)
  | Passed (giver receiver : H) (token : T) (hgiven : before giver = some token)
      (hfree : after giver = none)
      (hothers : ∀ holder found, after holder = some found →
        before holder = some found ∨ holder = receiver ∧ found = token)

theorem Rearranged.of_drawn (receiver : H)
    (hreceiver : after receiver = none ∨
      ∃ token, after receiver = some token ∧ token ∉ drawn ∧ token ∈ new)
    (hothers : ∀ holder, holder ≠ receiver → after holder = before holder) :
    Rearranged before after drawn new := by
  rcases hreceiver with hnone | ⟨token, htoken, hdrawn, hnew⟩
  · refine .Kept fun holder found hfound => ?_
    by_cases hholder : holder = receiver
    · rw [hholder, hnone] at hfound
      cases hfound
    · exact hothers holder hholder ▸ hfound
  · refine .Drawn receiver token hdrawn hnew fun holder found hfound => ?_
    by_cases hholder : holder = receiver
    · rw [hholder, htoken] at hfound
      exact .inr ⟨hholder, (Option.some.inj hfound).symm⟩
    · exact .inl (hothers holder hholder ▸ hfound)

theorem Rearranged.of_passed (giver receiver : H) (hgiver : after giver = none)
    (hreceiver : after receiver = before receiver ∨ after receiver = before giver)
    (hothers : ∀ holder, holder ≠ giver → holder ≠ receiver → after holder = before holder) :
    Rearranged before after drawn new := by
  have hkept : ∀ holder found, holder ≠ receiver → after holder = some found →
      before holder = some found := by
    intro holder found hholder hfound
    by_cases hgives : holder = giver
    · rw [hgives, hgiver] at hfound
      cases hfound
    · exact hothers holder hgives hholder ▸ hfound
  rcases hreceiver with hsame | htakes
  · refine .Kept fun holder found hfound => ?_
    by_cases hholder : holder = receiver
    · rw [hholder] at hfound ⊢
      exact hsame ▸ hfound
    · exact hkept holder found hholder hfound
  · cases hgiven : before giver with
    | none =>
      refine .Kept fun holder found hfound => hkept holder found ?_ hfound
      rintro rfl
      rw [htakes, hgiven] at hfound
      cases hfound
    | some token =>
      refine .Passed giver receiver token hgiven hgiver fun holder found hfound => ?_
      by_cases hholder : holder = receiver
      · rw [hholder, htakes, hgiven] at hfound
        exact .inr ⟨hholder, (Option.some.inj hfound).symm⟩
      · exact .inl (hkept holder found hholder hfound)

theorem Exclusive.of_others (hexclusive : Exclusive before drawn) (receiver : H) (token : T)
    (later : List T) (hlater : drawn ⊆ later) (htoken : token ∈ later)
    (hothers : ∀ holder found, after holder = some found →
      before holder = some found ∨ holder = receiver ∧ found = token)
    (honly : ∀ holder, after holder = some token → holder = receiver) : Exclusive after later := by
  refine ⟨?_, ?_⟩
  · intro holder other found hholder hother
    by_cases hfound : found = token
    · subst hfound
      exact (honly holder hholder).trans (honly other hother).symm
    · have hkept : ∀ holder, after holder = some found → before holder = some found :=
        fun holder h => (hothers _ _ h).resolve_right fun h => hfound h.2
      exact hexclusive.unique holder other found (hkept _ hholder) (hkept _ hother)
  · intro holder found hholder
    rcases hothers _ _ hholder with hbefore | ⟨_, rfl⟩
    · exact hlater (hexclusive.drawn holder found hbefore)
    · exact htoken

theorem Exclusive.rearranged (hexclusive : Exclusive before drawn)
    (hstep : Rearranged before after drawn new) : Exclusive after (drawn ++ new) := by
  have hmore : drawn ⊆ drawn ++ new := List.subset_append_left drawn new
  cases hstep with
  | Kept hkept =>
    refine ⟨?_, ?_⟩
    · intro holder other token hholder hother
      exact hexclusive.unique holder other token (hkept _ _ hholder) (hkept _ _ hother)
    · intro holder token hholder
      exact hmore (hexclusive.drawn holder token (hkept _ _ hholder))
  | Drawn receiver token hdrawn hnew hothers =>
    refine hexclusive.of_others receiver token _ hmore (List.mem_append_right _ hnew) hothers ?_
    intro holder hholder
    rcases hothers _ _ hholder with hbefore | ⟨hreceiver, _⟩
    · exact absurd (hexclusive.drawn holder token hbefore) hdrawn
    · exact hreceiver
  | Passed giver receiver token hgiven hfree hothers =>
    refine hexclusive.of_others receiver token _ hmore
      (hmore (hexclusive.drawn giver token hgiven)) hothers ?_
    intro holder hholder
    rcases hothers _ _ hholder with hbefore | ⟨hreceiver, _⟩
    · -- The only one that had the token is the one that gave it away.
      obtain rfl := hexclusive.unique holder giver token hbefore hgiven
      rw [hfree] at hholder
      cases hholder
    · exact hreceiver

theorem Rearranged.gone {token : T} (hstep : Rearranged before after drawn new)
    (hdrawn : token ∈ drawn) (hgone : ∀ holder, before holder ≠ some token) (holder : H) :
    after holder ≠ some token := by
  intro hafter
  cases hstep with
  | Kept hkept => exact hgone holder (hkept _ _ hafter)
  | Drawn receiver fresh hfresh _ hothers =>
    rcases hothers _ _ hafter with hbefore | ⟨_, rfl⟩
    · exact hgone holder hbefore
    · exact hfresh hdrawn
  | Passed giver receiver passed hgiven _ hothers =>
    rcases hothers _ _ hafter with hbefore | ⟨_, rfl⟩
    · exact hgone holder hbefore
    · exact hgone giver hgiven

end Custody

end Pact.Library
