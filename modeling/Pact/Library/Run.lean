import Mathlib

namespace Pact.Library

section Run

variable {S L : Type}

-- `next` is the labelled step function of a system; a label that is not enabled gives
-- none. Every step of a run also satisfies `allowed` in the state before it.
inductive Run (next : S → L → Option S) (allowed : S → L → Prop) : S → List L → S → Prop
  | nil (state : S) : Run next allowed state [] state
  | cons {state after last : S} {label : L} {labels : List L} (hallowed : allowed state label)
      (hnext : next state label = some after) (rest : Run next allowed after labels last) :
      Run next allowed state (label :: labels) last

def Unrestricted (_ : S) (_ : L) : Prop := True

def exec (next : S → L → Option S) (state : S) : List L → Option S
  | [] => some state
  | label :: labels => (next state label).bind fun after => exec next after labels

-- The same with a check of every step before it is taken.
def execWhere (next : S → L → Option S) (allowed : S → L → Prop)
    [∀ state label, Decidable (allowed state label)] (state : S) : List L → Option S
  | [] => some state
  | label :: labels =>
    if allowed state label then
      (next state label).bind fun after => execWhere next allowed after labels
    else none

namespace Run

variable {next : S → L → Option S} {allowed other : S → L → Prop} {state after last : S}
  {labels more : List L}

theorem single {label : L} (hallowed : allowed state label) (hnext : next state label = some after) :
    Run next allowed state [label] after :=
  .cons hallowed hnext (.nil after)

theorem append (first : Run next allowed state labels after)
    (second : Run next allowed after more last) :
    Run next allowed state (labels ++ more) last := by
  induction first with
  | nil => exact second
  | cons hallowed hnext _ ih => exact .cons hallowed hnext (ih second)

theorem split (run : Run next allowed state (labels ++ more) last) :
    ∃ middle, Run next allowed state labels middle ∧ Run next allowed middle more last := by
  induction labels generalizing state with
  | nil => exact ⟨state, .nil state, run⟩
  | cons label labels ih =>
    cases run with
    | cons hallowed hnext rest =>
      obtain ⟨middle, hfirst, hsecond⟩ := ih rest
      exact ⟨middle, .cons hallowed hnext hfirst, hsecond⟩

theorem weaken (run : Run next allowed state labels last)
    (h : ∀ state label, allowed state label → other state label) :
    Run next other state labels last := by
  induction run with
  | nil state => exact .nil state
  | cons hallowed hnext _ ih => exact .cons (h _ _ hallowed) hnext ih

theorem unrestricted (run : Run next allowed state labels last) :
    Run next Unrestricted state labels last :=
  run.weaken fun _ _ _ => trivial

-- The labels determine the states that a run passes through.
theorem unique {final : S} (run : Run next allowed state labels last)
    (again : Run next other state labels final) : last = final := by
  induction run with
  | nil =>
    cases again
    rfl
  | cons _ hnext _ ih =>
    cases again with
    | cons _ hnext' rest =>
      rw [hnext, Option.some.injEq] at hnext'
      subst hnext'
      exact ih rest

theorem snoc_cases {label : L} (run : Run next allowed state (labels ++ [label]) last) :
    ∃ middle, Run next allowed state labels middle ∧ allowed middle label ∧
      next middle label = some last := by
  obtain ⟨middle, hbefore, hlast⟩ := run.split
  cases hlast with
  | cons hallowed hnext rest =>
    cases rest
    exact ⟨middle, hbefore, hallowed, hnext⟩

theorem snoc_iff {label : L} {middle : S} (run : Run next other state labels middle)
    (hnext : next middle label = some last) :
    Run next allowed state (labels ++ [label]) last ↔
      Run next allowed state labels middle ∧ allowed middle label := by
  constructor
  · intro hall
    obtain ⟨reached, hbefore, hallowed, _⟩ := hall.snoc_cases
    obtain rfl := hbefore.unique run
    exact ⟨hbefore, hallowed⟩
  · rintro ⟨hbefore, hallowed⟩
    exact hbefore.append (.single hallowed hnext)

theorem forall_labels (holds : L → Prop) (run : Run next allowed state labels last)
    (h : ∀ state label after, allowed state label → next state label = some after → holds label) :
    ∀ label ∈ labels, holds label := by
  induction run with
  | nil => simp
  | cons hallowed hnext _ ih => exact List.forall_mem_cons.mpr ⟨h _ _ _ hallowed hnext, ih⟩

-- What holds at the end of a run and not at its start was brought about by one of the steps,
-- and has held ever since.
theorem since (holds : S → Prop) (run : Run next allowed state labels last)
    (hstart : ¬holds state) (hlast : holds last) :
    ∃ before label rest middle after, labels = before ++ label :: rest ∧
      Run next allowed state before middle ∧ ¬holds middle ∧ allowed middle label ∧
      next middle label = some after ∧ holds after ∧
      Run next (fun state label => holds state ∧ ∀ after, next state label = some after → holds after)
        after rest last := by
  induction labels using List.reverseRecOn generalizing last with
  | nil =>
    cases run
    exact absurd hlast hstart
  | append_singleton labels label ih =>
    obtain ⟨reached, hbefore, hallowed, hnext⟩ := run.snoc_cases
    by_cases hreached : holds reached
    · obtain ⟨before, first, rest, middle, after, rfl, hrun, hnot, hfirst, hmiddle, hafter,
        hsince⟩ := ih hbefore hreached
      refine ⟨before, first, rest ++ [label], middle, after, by simp, hrun, hnot, hfirst, hmiddle,
        hafter, hsince.append (.single ⟨hreached, ?_⟩ hnext)⟩
      intro other hother
      rwa [← Option.some.inj (hnext.symm.trans hother)]
    · exact ⟨labels, label, [], reached, last, rfl, hbefore, hreached, hallowed, hnext, hlast,
        .nil last⟩

-- The invariant may speak about the labels taken so far as well as about the state.
theorem history (invariant : List L → S → Prop)
    (hstep : ∀ past state label after, invariant past state → allowed state label →
      next state label = some after → invariant (past ++ [label]) after)
    (run : Run next allowed state labels last) (past : List L) (hstart : invariant past state) :
    invariant (past ++ labels) last := by
  induction run generalizing past with
  | nil => simpa using hstart
  | cons hallowed hnext _ ih =>
    have h := ih _ (hstep past _ _ _ hstart hallowed hnext)
    simpa using h

theorem invariant (inv : S → Prop)
    (hstep : ∀ state label after, inv state → allowed state label →
      next state label = some after → inv after)
    (run : Run next allowed state labels last) (hstart : inv state) : inv last :=
  run.history (fun _ => inv) (fun _ => hstep) [] hstart

-- Where a step from a state with the invariant keeps it exactly if the step is allowed, a run
-- keeps it all along exactly if all its steps are allowed. The invariant may speak about the
-- labels taken so far.
theorem history_iff (inv : List L → S → Prop)
    (hstep : ∀ past state label after, inv past state → next state label = some after →
      (inv (past ++ [label]) after ↔ allowed state label))
    (run : Run next Unrestricted state labels last) (past : List L) (hstart : inv past state) :
    (∀ before rest middle, labels = before ++ rest →
      Run next Unrestricted state before middle → inv (past ++ before) middle) ↔
    Run next allowed state labels last := by
  constructor
  · intro hall
    induction run generalizing past with
    | nil state => exact .nil state
    | @cons state after last label labels _ hnext _ ih =>
      have hafter := hall [label] labels after rfl (.single trivial hnext)
      refine .cons ((hstep past state label after hstart hnext).mp hafter) hnext
        (ih (past ++ [label]) hafter ?_)
      intro before rest middle hsplit hrun
      rw [List.append_assoc]
      exact hall (label :: before) rest middle (by rw [hsplit]; rfl) (.cons trivial hnext hrun)
  · rintro hallowed before rest middle rfl hrun
    obtain ⟨reached, hbefore, _⟩ := hallowed.split
    obtain rfl := hbefore.unique hrun
    exact hbefore.history inv
      (fun past state label after h hallowed hnext =>
        (hstep past state label after h hnext).mpr hallowed)
      past hstart

theorem always_iff (inv : S → Prop)
    (hstep : ∀ state label after, inv state → next state label = some after →
      (inv after ↔ allowed state label))
    (run : Run next Unrestricted state labels last) (hstart : inv state) :
    (∀ before rest middle, labels = before ++ rest →
      Run next Unrestricted state before middle → inv middle) ↔
    Run next allowed state labels last :=
  run.history_iff (fun _ => inv) (fun _ => hstep) [] hstart

-- The same beside an invariant that every step keeps.
theorem always_iff_beside (base inv : S → Prop)
    (hbase : ∀ state label after, base state → next state label = some after → base after)
    (hstep : ∀ state label after, base state → inv state → next state label = some after →
      (inv after ↔ allowed state label))
    (run : Run next Unrestricted state labels last) (hbegin : base state) (hstart : inv state) :
    (∀ before rest middle, labels = before ++ rest →
      Run next Unrestricted state before middle → inv middle) ↔
    Run next allowed state labels last := by
  have hboth : (∀ before rest middle, labels = before ++ rest →
      Run next Unrestricted state before middle → base middle ∧ inv middle) ↔
      Run next allowed state labels last := by
    refine always_iff (fun state => base state ∧ inv state) (fun state label after h hnext => ?_)
      run ⟨hbegin, hstart⟩
    rw [and_iff_right (hbase state label after h.1 hnext)]
    exact hstep state label after h.1 h.2 hnext
  rw [← hboth]
  refine ⟨fun h before rest middle hsplit hrun => ⟨?_, h before rest middle hsplit hrun⟩,
    fun h before rest middle hsplit hrun => (h before rest middle hsplit hrun).2⟩
  exact hrun.invariant base (fun state label after h _ hnext => hbase state label after h hnext)
    hbegin

-- The same for a property of the single steps: it holds of every step of a run exactly if all
-- steps are allowed.
theorem steps_iff (base : S → Prop) (good : S → L → S → Prop)
    (hbase : ∀ state label after, base state → next state label = some after → base after)
    (hstep : ∀ state label after, base state → next state label = some after →
      (good state label after ↔ allowed state label))
    (run : Run next Unrestricted state labels last) (hbegin : base state) :
    (∀ before label rest middle after, labels = before ++ label :: rest →
      Run next Unrestricted state before middle → next middle label = some after →
      good middle label after) ↔
    Run next allowed state labels last := by
  constructor
  · intro hall
    induction run with
    | nil state => exact .nil state
    | @cons state after last label labels _ hnext _ ih =>
      have hgood := hall [] label labels state after rfl (.nil state) hnext
      refine .cons ((hstep state label after hbegin hnext).mp hgood) hnext
        (ih (hbase state label after hbegin hnext) ?_)
      intro before other rest middle reached hsplit hrun
      exact hall (label :: before) other rest middle reached (by rw [hsplit]; rfl)
        (.cons trivial hnext hrun)
  · rintro hallowed before label rest middle after rfl hrun hnext
    obtain ⟨reached, hbefore, hrest⟩ := hallowed.split
    obtain rfl := hbefore.unique hrun
    have hmiddle := hrun.invariant base
      (fun state label after h _ hnext => hbase state label after h hnext) hbegin
    cases hrest with
    | cons hlabel _ _ => exact (hstep reached label after hmiddle hnext).mpr hlabel

-- The same for a property that, once it holds, is to hold until a step of some kind is taken.
theorem until_iff (base holds : S → Prop) (ends : L → Prop)
    (hbase : ∀ state label after, base state → next state label = some after → base after)
    (hstep : ∀ state label after, base state → next state label = some after →
      ((holds state → ¬ends label → holds after) ↔ allowed state label))
    (run : Run next Unrestricted state labels last) (hbegin : base state) :
    (∀ before between rest first second, labels = before ++ between ++ rest →
      Run next Unrestricted state before first → Run next Unrestricted first between second →
      holds first → (∀ label ∈ between, ¬ends label) → holds second) ↔
    Run next allowed state labels last := by
  rw [← run.steps_iff base (fun state label after => holds state → ¬ends label → holds after) hbase
    hstep hbegin]
  constructor
  · intro hall before label rest middle after hsplit hrun hnext hmiddle hlabel
    refine hall before [label] rest middle after (by simpa using hsplit) hrun
      (.single trivial hnext) hmiddle ?_
    simpa using hlabel
  · intro hall before between rest first second hsplit hrun hbetween
    induction hbetween generalizing before with
    | nil => exact fun h _ => h
    | @cons first after second label between _ hnext _ ih =>
      intro hfirst hends
      obtain ⟨hlabel, hends⟩ := List.forall_mem_cons.mp hends
      refine ih (before ++ [label]) (by simpa using hsplit) (hrun.append (.single trivial hnext))
        (hall before label (between ++ rest) first after (by simpa using hsplit) hrun hnext hfirst
          hlabel) hends

end Run

-- Where every state is done or has an allowed step that lowers the measure, a run of allowed
-- steps leads to a state that is done.
theorem exists_run_of_measure {next : S → L → Option S} {allowed : S → L → Prop}
    (measure : S → Nat) (done : S → Prop)
    (hstep : ∀ state, done state ∨ ∃ label after, allowed state label ∧
      next state label = some after ∧ measure after < measure state) (state : S) :
    ∃ labels last, Run next allowed state labels last ∧ done last := by
  induction h : measure state using Nat.strong_induction_on generalizing state with
  | _ bound ih =>
    rcases hstep state with hdone | ⟨label, after, hallowed, hnext, hless⟩
    · exact ⟨[], state, .nil state, hdone⟩
    · obtain ⟨labels, last, run, hdone⟩ := ih _ (h ▸ hless) after rfl
      exact ⟨label :: labels, last, .cons hallowed hnext run, hdone⟩

-- However the allowed steps go on, they can go on until the goal is reached, and they reach it.
inductive Inevitable (next : S → L → Option S) (allowed : S → L → Prop) (goal : S → Prop) : S → Prop
  | reached {state : S} (hgoal : goal state) : Inevitable next allowed goal state
  | step {state : S} (hcan : ∃ label after, allowed state label ∧ next state label = some after)
      (hall : ∀ label after, allowed state label → next state label = some after →
        Inevitable next allowed goal after) : Inevitable next allowed goal state

namespace Inevitable

variable {next : S → L → Option S} {allowed : S → L → Prop} {goal other : S → Prop} {state : S}

theorem bind (h : Inevitable next allowed goal state)
    (hgoal : ∀ state, goal state → Inevitable next allowed other state) :
    Inevitable next allowed other state := by
  induction h with
  | reached h => exact hgoal _ h
  | step hcan _ ih => exact .step hcan ih

-- An invariant of the allowed steps holds where the goal is reached.
theorem beside (inv : S → Prop)
    (hstep : ∀ state label after, inv state → allowed state label →
      next state label = some after → inv after)
    (h : Inevitable next allowed goal state) (hstart : inv state) :
    Inevitable next allowed (fun state => goal state ∧ inv state) state := by
  induction h with
  | reached h => exact .reached ⟨h, hstart⟩
  | step hcan _ ih =>
    exact .step hcan fun label after hallowed hnext =>
      ih label after hallowed hnext (hstep _ label after hstart hallowed hnext)

theorem exists_run (h : Inevitable next allowed goal state) :
    ∃ labels last, Run next allowed state labels last ∧ goal last := by
  induction h with
  | reached h => exact ⟨[], _, .nil _, h⟩
  | step hcan _ ih =>
    obtain ⟨label, after, hallowed, hnext⟩ := hcan
    obtain ⟨labels, last, run, hgoal⟩ := ih label after hallowed hnext
    exact ⟨label :: labels, last, .cons hallowed hnext run, hgoal⟩

theorem of_measure (measure : S → Nat) (inv : S → Prop)
    (hcan : ∀ state, inv state → ∃ label after, allowed state label ∧ next state label = some after)
    (hstep : ∀ state label after, inv state → allowed state label → next state label = some after →
      goal after ∨ inv after ∧ measure after < measure state) (hstart : inv state) :
    Inevitable next allowed goal state := by
  induction hmeasure : measure state using Nat.strong_induction_on generalizing state with
  | _ bound ih =>
    refine .step (hcan state hstart) fun label after hallowed hnext => ?_
    rcases hstep state label after hstart hallowed hnext with hgoal | ⟨hinv, hless⟩
    · exact .reached hgoal
    · exact ih _ (hmeasure ▸ hless) hinv rfl

end Inevitable

theorem exec_eq_some_iff (next : S → L → Option S) (state last : S) (labels : List L) :
    exec next state labels = some last ↔ Run next Unrestricted state labels last := by
  induction labels generalizing state with
  | nil =>
    constructor
    · intro h
      obtain rfl : state = last := by simpa [exec] using h
      exact .nil state
    · intro run
      cases run
      rfl
  | cons label labels ih =>
    simp only [exec, Option.bind_eq_some_iff]
    constructor
    · rintro ⟨after, hnext, hrest⟩
      exact .cons trivial hnext ((ih after).mp hrest)
    · intro run
      cases run with
      | cons _ hnext rest => exact ⟨_, hnext, (ih _).mpr rest⟩

theorem run_of_execWhere (next : S → L → Option S) (allowed : S → L → Prop)
    [∀ state label, Decidable (allowed state label)] (state last : S) (labels : List L)
    (h : execWhere next allowed state labels = some last) : Run next allowed state labels last := by
  induction labels generalizing state with
  | nil =>
    obtain rfl : state = last := by simpa [execWhere] using h
    exact .nil state
  | cons label labels ih =>
    simp only [execWhere, Option.ite_none_right_eq_some, Option.bind_eq_some_iff] at h
    obtain ⟨hallowed, after, hnext, hrest⟩ := h
    exact .cons hallowed hnext (ih after hrest)

theorem exists_run_of_execWhere (next : S → L → Option S) (allowed : S → L → Prop)
    [∀ state label, Decidable (allowed state label)] (state : S) (labels : List L)
    (h : (execWhere next allowed state labels).isSome = true) :
    ∃ last, Run next allowed state labels last := by
  obtain ⟨last, hlast⟩ := Option.isSome_iff_exists.mp h
  exact ⟨last, run_of_execWhere next allowed state last labels hlast⟩

end Run

end Pact.Library
