import Pact.Library.Run
import Pact.Library.Sequence

namespace Pact.Library

section Trace

variable {S L E : Type}

-- What is observed along the labels, up to the first one that is not enabled.
def trace (next : S → L → Option S) (observe : S → L → List E) (state : S) : List L → List E
  | [] => []
  | label :: labels =>
    match next state label with
    | none => []
    | some after => observe state label ++ trace next observe after labels

theorem trace_cons {next : S → L → Option S} {state after : S} {label : L}
    (hnext : next state label = some after) (observe : S → L → List E) (labels : List L) :
    trace next observe state (label :: labels) =
      observe state label ++ trace next observe after labels := by
  rw [trace, hnext]

-- The invariant may speak about all that has been observed so far.
theorem trace_invariant (next : S → L → Option S) (observe : S → L → List E)
    (inv : List E → S → Prop)
    (hstep : ∀ past state label after, inv past state → next state label = some after →
      inv (past ++ observe state label) after)
    (labels : List L) (past : List E) (state : S) (hstart : inv past state) :
    ∃ last, inv (past ++ trace next observe state labels) last := by
  induction labels generalizing past state with
  | nil => exact ⟨state, by simpa [trace] using hstart⟩
  | cons label labels ih =>
    cases hnext : next state label with
    | none => exact ⟨state, by simpa [trace, hnext] using hstart⟩
    | some after =>
      obtain ⟨last, hlast⟩ := ih _ after (hstep past state label after hstart hnext)
      exact ⟨last, by simpa [trace, hnext] using hlast⟩

-- The same along a run, whose steps are known to be allowed.
theorem Run.observed {next : S → L → Option S} {allowed : S → L → Prop} {state last : S}
    {labels : List L} (observe : S → L → List E) (inv : List E → S → Prop)
    (hstep : ∀ past state label after, inv past state → allowed state label →
      next state label = some after → inv (past ++ observe state label) after)
    (run : Run next allowed state labels last) (past : List E) (hstart : inv past state) :
    inv (past ++ trace next observe state labels) last := by
  induction run generalizing past with
  | nil => simpa [trace] using hstart
  | cons hallowed hnext _ ih =>
    have h := ih _ (hstep past _ _ _ hstart hallowed hnext)
    simpa [trace, hnext] using h

theorem Run.trace_append {next : S → L → Option S} {allowed : S → L → Prop} {state middle : S}
    {labels : List L} (run : Run next allowed state labels middle) (observe : S → L → List E)
    (more : List L) :
    trace next observe state (labels ++ more) =
      trace next observe state labels ++ trace next observe middle more := by
  induction run with
  | nil => rfl
  | cons _ hnext _ ih =>
    rw [List.cons_append, trace_cons hnext, trace_cons hnext, ih, List.append_assoc]

end Trace

section Simulation

variable {S T L E : Type} {next : S → L → Option S} {nextOther : T → L → Option T}
  {observe : S → L → List E} {observeOther : T → L → List E} {allowed : S → L → Prop}
  {state last : S} {labels : List L}

-- A second system that takes only the labels that are kept shows the same, if the others show
-- nothing and leave the states related.
theorem Run.trace_filter (related : S → T → Prop) (keeps : L → Bool)
    (hkept : ∀ state other label after, related state other → allowed state label →
      next state label = some after → keeps label = true →
      ∃ otherAfter, nextOther other label = some otherAfter ∧ related after otherAfter ∧
        observeOther other label = observe state label)
    (hskipped : ∀ state other label after, related state other → allowed state label →
      next state label = some after → keeps label = false →
      related after other ∧ observe state label = [])
    (run : Run next allowed state labels last) (other : T) (hstart : related state other) :
    trace nextOther observeOther other (labels.filter keeps) = trace next observe state labels := by
  induction run generalizing other with
  | nil => rfl
  | @cons state after last label labels hallowed hnext _ ih =>
    cases hkeeps : keeps label with
    | true =>
      obtain ⟨otherAfter, hother, hrelated, hshown⟩ :=
        hkept state other label after hstart hallowed hnext hkeeps
      rw [List.filter_cons_of_pos hkeeps, trace_cons hother, trace_cons hnext, hshown,
        ih otherAfter hrelated]
    | false =>
      obtain ⟨hrelated, hsilent⟩ :=
        hskipped state other label after hstart hallowed hnext hkeeps
      rw [List.filter_cons_of_neg (by simp [hkeeps]), trace_cons hnext, hsilent,
        List.nil_append, ih other hrelated]

theorem Run.trace_related (related : S → T → Prop)
    (hstep : ∀ state other label after, related state other → allowed state label →
      next state label = some after →
      ∃ otherAfter, nextOther other label = some otherAfter ∧ related after otherAfter ∧
        observeOther other label = observe state label)
    (run : Run next allowed state labels last) (other : T) (hstart : related state other) :
    trace nextOther observeOther other labels = trace next observe state labels := by
  have hall := run.trace_filter related (fun _ => true)
    (fun state other label after h hallowed hnext _ => hstep state other label after h hallowed hnext)
    (fun _ _ _ _ _ _ _ hnever => nomatch hnever) other hstart
  rwa [List.filter_true] at hall

-- Where a function of the state takes every step to a step and every refusal to a refusal, what
-- is shown and the runs can be read off its values.
theorem trace_image (inv : S → Prop) (image : S → T)
    (hinv : ∀ state label after, inv state → next state label = some after → inv after)
    (hnext : ∀ state label, inv state →
      nextOther (image state) label = (next state label).map image)
    (hshown : ∀ state label after, inv state → next state label = some after →
      observe state label = observeOther (image state) label)
    (hstart : inv state) (labels : List L) :
    trace next observe state labels = trace nextOther observeOther (image state) labels := by
  induction labels generalizing state with
  | nil => rfl
  | cons label labels ih =>
    have hother := hnext state label hstart
    cases hstep : next state label with
    | none =>
      rw [hstep, Option.map_none] at hother
      rw [trace, trace, hstep, hother]
    | some after =>
      rw [hstep, Option.map_some] at hother
      rw [trace_cons hstep, trace_cons hother, hshown state label after hstart hstep,
        ih (hinv state label after hstart hstep)]

theorem Run.image {permitted : T → L → Prop} (inv : S → Prop) (image : S → T)
    (hinv : ∀ state label after, inv state → next state label = some after → inv after)
    (hnext : ∀ state label, inv state →
      nextOther (image state) label = (next state label).map image)
    (hpermitted : ∀ state label after, inv state → allowed state label →
      next state label = some after → permitted (image state) label)
    (run : Run next allowed state labels last) (hstart : inv state) :
    Run nextOther permitted (image state) labels (image last) := by
  induction run with
  | nil => exact .nil _
  | @cons state after last label labels hallowed hstep _ ih =>
    have hother : nextOther (image state) label = some (image after) := by
      rw [hnext state label hstart, hstep, Option.map_some]
    exact .cons (hpermitted state label after hstart hallowed hstep) hother
      (ih (hinv state label after hstart hstep))

end Simulation

section Separated

variable {E : Type} {opens closes : E → Prop}

-- Between any two events that open there is one that closes.
def Separated (opens closes : E → Prop) (events : List E) : Prop :=
  ∀ before between rest first second, events = before ++ first :: between ++ second :: rest →
    opens first → opens second → ∃ event ∈ between, closes event

-- Something was opened and has not been closed since.
def Unclosed (opens closes : E → Prop) (events : List E) : Prop :=
  ∃ before first rest, events = before ++ first :: rest ∧ opens first ∧
    ∀ event ∈ rest, ¬closes event

theorem separated_nil : Separated opens closes [] := by
  intro before between rest first second h
  simp at h

theorem not_unclosed_nil : ¬Unclosed opens closes [] := by
  rintro ⟨before, first, rest, h, _⟩
  simp at h

theorem separated_snoc {events : List E} {event : E} (h : Separated opens closes events)
    (hlast : opens event → ¬Unclosed opens closes events) :
    Separated opens closes (events ++ [event]) := by
  intro before between rest first second hsplit hfirst hsecond
  rcases (snoc_eq_append_cons_iff _ _ _ _ _).mp hsplit with ⟨_, rfl, rfl⟩ | ⟨start, _, rfl⟩
  · by_contra hnone
    push Not at hnone
    exact hlast hsecond ⟨before, first, between, rfl, hfirst, hnone⟩
  · exact h before between start first second rfl hfirst hsecond

theorem unclosed_snoc {events : List E} {event : E}
    (h : Unclosed opens closes (events ++ [event])) :
    opens event ∨ (¬closes event ∧ Unclosed opens closes events) := by
  obtain ⟨before, first, rest, hsplit, hfirst, hrest⟩ := h
  rcases (snoc_eq_append_cons_iff _ _ _ _ _).mp hsplit with ⟨_, _, rfl⟩ | ⟨start, rfl, rfl⟩
  · exact .inl hfirst
  · refine .inr ⟨hrest event (by simp), before, first, start, rfl, hfirst, ?_⟩
    intro other hmem
    exact hrest other (List.mem_append_left _ hmem)

end Separated

end Pact.Library
