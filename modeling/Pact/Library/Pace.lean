import Pact.Library.Sequence

namespace Pact.Library

-- A mark says how long the wait until the next mark may be.
inductive Beat
  | Mark (limit : Nat)
  | Wait (amount : Nat)
  deriving DecidableEq

def Beat.amount : Beat → Nat
  | .Mark _ => 0
  | .Wait amount => amount

def waited (beats : List Beat) : Nat := (beats.map Beat.amount).sum

-- Between two marks with none in between no more is waited than the first one allows.
def Paced (beats : List Beat) : Prop :=
  ∀ before limit between later rest, beats = before ++ .Mark limit :: between ++ .Mark later :: rest →
    (∀ other, .Mark other ∉ between) → waited between ≤ limit

def Beat.follow (current : Option (Nat × Nat)) : Beat → Option (Nat × Nat)
  | .Mark limit => some (limit, 0)
  | .Wait amount => current.map fun (limit, total) => (limit, total + amount)

-- What the last mark allows, and what has been waited since.
def sinceMark (beats : List Beat) : Option (Nat × Nat) := beats.foldl Beat.follow none

section Pace

variable (beats : List Beat)

@[simp] theorem sinceMark_mark (limit : Nat) : sinceMark (beats ++ [.Mark limit]) = some (limit, 0) := by
  simp [sinceMark, Beat.follow]

theorem sinceMark_wait (amount : Nat) :
    sinceMark (beats ++ [.Wait amount]) =
      (sinceMark beats).map fun (limit, total) => (limit, total + amount) := by
  simp [sinceMark, Beat.follow]

theorem waited_snoc (amount : Nat) : waited (beats ++ [.Wait amount]) = waited beats + amount := by
  simp [waited, Beat.amount]

theorem sinceMark_eq_some_iff (limit total : Nat) :
    sinceMark beats = some (limit, total) ↔
      ∃ before between, beats = before ++ .Mark limit :: between ∧
        (∀ other, .Mark other ∉ between) ∧ waited between = total := by
  induction beats using List.reverseRecOn generalizing total with
  | nil => simp [sinceMark]
  | append_singleton beats beat ih =>
    cases beat with
    | Mark other =>
      rw [sinceMark_mark, Option.some.injEq, Prod.mk.injEq]
      constructor
      · rintro ⟨rfl, rfl⟩
        exact ⟨beats, [], rfl, by simp, rfl⟩
      · rintro ⟨before, between, hsplit, hnone, rfl⟩
        rcases (snoc_eq_append_cons_iff _ _ _ _ _).mp hsplit with
          ⟨rfl, _, hmark⟩ | ⟨front, rfl, _⟩
        · cases hmark
          exact ⟨rfl, rfl⟩
        · exact absurd (by simp) (hnone other)
    | Wait amount =>
      rw [sinceMark_wait, Option.map_eq_some_iff]
      constructor
      · rintro ⟨⟨known, earlier⟩, hsince, hpair⟩
        cases hpair
        obtain ⟨before, between, rfl, hnone, rfl⟩ := (ih earlier).mp hsince
        refine ⟨before, between ++ [.Wait amount], by simp, ?_, waited_snoc between amount⟩
        intro other hother
        rcases List.mem_append.mp hother with hfront | hlast
        · exact hnone other hfront
        · simp at hlast
      · rintro ⟨before, between, hsplit, hnone, rfl⟩
        rcases (snoc_eq_append_cons_iff _ _ _ _ _).mp hsplit with
          ⟨_, _, hmark⟩ | ⟨front, rfl, rfl⟩
        · cases hmark
        · refine ⟨(limit, waited front), (ih _).mpr ⟨before, front, rfl, ?_, rfl⟩, ?_⟩
          · exact fun other hother => hnone other (List.mem_append_left _ hother)
          · rw [waited_snoc]

theorem paced_wait_iff (amount : Nat) : Paced (beats ++ [.Wait amount]) ↔ Paced beats := by
  constructor
  · rintro hpaced before limit between later rest rfl hnone
    exact hpaced before limit between later (rest ++ [.Wait amount]) (by simp) hnone
  · intro hpaced before limit between later rest hsplit hnone
    rcases (snoc_eq_append_cons_iff _ _ _ _ _).mp hsplit with ⟨_, _, hlast⟩ | ⟨front, _, rfl⟩
    · cases hlast
    · exact hpaced before limit between later front rfl hnone

theorem paced_mark_iff (next : Nat) :
    Paced (beats ++ [.Mark next]) ↔
      Paced beats ∧ ∀ limit total, sinceMark beats = some (limit, total) → total ≤ limit := by
  constructor
  · intro hpaced
    refine ⟨?_, ?_⟩
    · rintro before limit between later rest rfl hnone
      exact hpaced before limit between later (rest ++ [.Mark next]) (by simp) hnone
    · intro limit total hsince
      obtain ⟨before, between, rfl, hnone, rfl⟩ := (sinceMark_eq_some_iff beats limit total).mp hsince
      exact hpaced before limit between next [] rfl hnone
  · rintro ⟨hpaced, hlast⟩ before limit between later rest hsplit hnone
    rcases (snoc_eq_append_cons_iff _ _ _ _ _).mp hsplit with ⟨_, rfl, _⟩ | ⟨front, _, rfl⟩
    · exact hlast limit _ ((sinceMark_eq_some_iff _ _ _).mpr ⟨before, between, rfl, hnone, rfl⟩)
    · exact hpaced before limit between later front rfl hnone

end Pace

end Pact.Library
