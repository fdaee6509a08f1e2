import Pact.Agent.Drift
import Pact.Library.Run

namespace Pact.Agent.Drift

open Pact.Library Pact.Common Pact.Agent.Subscription DriftEvaluator

inductive DriftStep
  | Event (event : ObserverEvent)
  | Reset
  | SetWeights (weights : DriftWeights)
  | Action (action : ConfigUpdateAction)
  deriving DecidableEq

-- A panic in the match of an event comes before any change.
def driftNext (handles : ConfigActionHandles) : DriftStep → Option ConfigActionHandles
  | .Event event =>
    some { handles with
      driftEvaluator :=
        (handles.driftEvaluator.processEvent event).getD handles.driftEvaluator }
  | .Reset => some { handles with driftEvaluator := handles.driftEvaluator.reset }
  | .SetWeights weights =>
    some { handles with driftEvaluator := handles.driftEvaluator.setWeights weights }
  | .Action action => some (handleConfigAction action handles)

inductive Category
  | Mount
  | File
  | Network
  | Service
  | Kernel
  | Package
  | Gpu
  deriving DecidableEq

def Category.name : Category → String
  | .Mount => "mount"
  | .File => "file"
  | .Network => "network"
  | .Service => "service"
  | .Kernel => "kernel"
  | .Package => "package"
  | .Gpu => "gpu"

def DriftVector.counter (drift : DriftVector) : Category → Nat
  | .Mount => drift.mounts
  | .File => drift.files
  | .Network => drift.network
  | .Service => drift.services
  | .Kernel => drift.kernel
  | .Package => drift.packages
  | .Gpu => drift.gpu

def DriftStep.patterns : DriftStep → Option (List String)
  | .Action (.BlacklistChanged patterns) => some patterns
  | _ => none

def DriftStep.weights : DriftStep → Option DriftWeights
  | .SetWeights weights => some weights
  | _ => none

-- What the steps have set last, or what there was at the start.
def lastSet {V : Type} (sets : DriftStep → Option V) (initial : V) (past : List DriftStep) : V :=
  ((past.filterMap sets).getLast?).getD initial

-- An event that belongs to the category and is not matched by the blacklist.
def counts (category : Category) (patterns : List String) : DriftStep → Bool
  | .Event event => event.category = category.name ∧ isBlacklisted event.path patterns = some false
  | _ => false

-- One of the steps counts, with the blacklist in force when it is taken, and no reset comes later.
def countsAt (initial : List String) (category : Category) (past : List DriftStep) (i : Nat) :
    Bool :=
  past[i]?.any (counts category (lastSet DriftStep.patterns initial (past.take i))) ∧
    .Reset ∉ past.drop (i + 1)

def driftSince (initial : List String) (category : Category) (past : List DriftStep) : Nat :=
  (List.range past.length).countP (countsAt initial category past)

-- The evaluator shows what the steps taken so far ask for.
structure Tallied (patterns : List String) (weights : DriftWeights) (past : List DriftStep)
    (handles : ConfigActionHandles) : Prop where
  blacklist : handles.driftEvaluator.blacklist.patterns = lastSet DriftStep.patterns patterns past
  weights : handles.driftEvaluator.weights = lastSet DriftStep.weights weights past
  counters : ∀ category,
    handles.driftEvaluator.currentDrift.counter category = driftSince patterns category past

-- A new blacklist comes when there is nothing to lose: no drift, and the default weights.
def NothingToLose (handles : ConfigActionHandles) : DriftStep → Prop
  | .Action (.BlacklistChanged _) =>
    handles.driftEvaluator.currentDrift = .default ∧ handles.driftEvaluator.weights = .default
  | _ => True

instance (handles : ConfigActionHandles) (step : DriftStep) :
    Decidable (NothingToLose handles step) := by
  unfold NothingToLose
  split <;> infer_instance

section History

variable (initial : List String) (category : Category) (past : List DriftStep) (step : DriftStep)

theorem lastSet_append {V : Type} (sets : DriftStep → Option V) (start : V) :
    lastSet sets start (past ++ [step]) = (sets step).getD (lastSet sets start past) := by
  unfold lastSet
  cases hsets : sets step with
  | none => simp [hsets]
  | some value => simp [hsets]

theorem countsAt_append (i : Nat) (hi : i < past.length) :
    countsAt initial category (past ++ [step]) i =
      (countsAt initial category past i && step ≠ .Reset) := by
  unfold countsAt
  rw [List.getElem?_append_left hi, List.take_append_of_le_length hi.le,
    List.drop_append_of_le_length hi]
  simp only [List.mem_append, List.mem_singleton, not_or, Bool.decide_and, Bool.and_assoc, ne_eq,
    @eq_comm _ DriftStep.Reset step]

theorem countsAt_last :
    countsAt initial category (past ++ [step]) past.length =
      counts category (lastSet DriftStep.patterns initial past) step := by
  simp [countsAt]

theorem driftSince_append :
    driftSince initial category (past ++ [step]) =
      (if step = .Reset then 0 else driftSince initial category past) +
        if counts category (lastSet DriftStep.patterns initial past) step then 1 else 0 := by
  have hearlier : (List.range past.length).countP (countsAt initial category (past ++ [step])) =
      if step = .Reset then 0 else driftSince initial category past := by
    rw [List.countP_congr fun i hi => by
      rw [countsAt_append initial category past step i (List.mem_range.mp hi)]]
    split
    case isTrue hreset => simp [hreset]
    case isFalse hreset => simp [hreset, driftSince]
  rw [driftSince, List.length_append, List.length_singleton, List.range_succ, List.countP_append,
    hearlier, List.countP_singleton, countsAt_last]

end History

theorem counter_count (category : Category) (text : String) (drift : DriftVector) :
    (drift.count text).counter category =
      drift.counter category + if text = category.name then 1 else 0 := by
  unfold DriftVector.count
  split <;> cases category <;> simp_all [DriftVector.counter, Category.name]

section Steps

variable (patterns : List String) (weights : DriftWeights) (past : List DriftStep)
  (handles : ConfigActionHandles)

-- An event counts where the match returns and does not find its path.
theorem processEvent_eq (event : ObserverEvent) (evaluator : DriftEvaluator) :
    (evaluator.processEvent event).getD evaluator =
      if isBlacklisted event.path evaluator.blacklist.patterns = some false then
        { evaluator with currentDrift := evaluator.currentDrift.count event.category }
      else evaluator := by
  unfold processEvent
  cases isBlacklisted event.path evaluator.blacklist.patterns with
  | none => rfl
  | some answer => cases answer <;> rfl

theorem tallied_append_iff (htallied : Tallied patterns weights past handles) (step : DriftStep)
    (after : ConfigActionHandles) :
    Tallied patterns weights (past ++ [step]) after ↔
      after.driftEvaluator.blacklist.patterns =
        step.patterns.getD handles.driftEvaluator.blacklist.patterns ∧
      after.driftEvaluator.weights = step.weights.getD handles.driftEvaluator.weights ∧
      ∀ category, after.driftEvaluator.currentDrift.counter category =
        (if step = .Reset then 0 else handles.driftEvaluator.currentDrift.counter category) +
          if counts category handles.driftEvaluator.blacklist.patterns step then 1 else 0 := by
  simp only [htallied.blacklist, htallied.weights, htallied.counters, ← lastSet_append,
    ← driftSince_append]
  exact ⟨fun h => ⟨h.blacklist, h.weights, h.counters⟩, fun h => ⟨h.1, h.2.1, h.2.2⟩⟩

theorem event_counters (event : ObserverEvent) (category : Category) (evaluator : DriftEvaluator) :
    ((evaluator.processEvent event).getD evaluator).currentDrift.counter category =
      evaluator.currentDrift.counter category +
        if counts category evaluator.blacklist.patterns (.Event event) then 1 else 0 := by
  rw [processEvent_eq]
  split
  case isTrue hunmatched => simp [counter_count, counts, hunmatched]
  case isFalse hmatched => simp [counts, hmatched]

theorem counter_eq_zero_iff (drift : DriftVector) :
    (∀ category, drift.counter category = 0) ↔ drift = .default := by
  constructor
  · intro h
    obtain ⟨mounts, files, network, services, kernel, packages, gpu⟩ := drift
    have hmounts := h .Mount
    have hfiles := h .File
    have hnetwork := h .Network
    have hservices := h .Service
    have hkernel := h .Kernel
    have hpackages := h .Package
    have hgpu := h .Gpu
    simp_all [DriftVector.counter, DriftVector.default]
  · rintro rfl category
    cases category <;> rfl

theorem driftNext_tallied_iff (step : DriftStep) (after : ConfigActionHandles)
    (htallied : Tallied patterns weights past handles)
    (hnext : driftNext handles step = some after) :
    Tallied patterns weights (past ++ [step]) after ↔ NothingToLose handles step := by
  rw [tallied_append_iff patterns weights past handles htallied]
  cases step with
  | Event event =>
    cases hnext
    refine iff_of_true ⟨?_, ?_, fun category => event_counters event category _⟩ trivial
    · rw [processEvent_eq]
      split <;> rfl
    · rw [processEvent_eq]
      split <;> rfl
  | Reset =>
    cases hnext
    refine iff_of_true ⟨rfl, rfl, fun category => ?_⟩ trivial
    cases category <;> rfl
  | SetWeights chosen =>
    cases hnext
    exact iff_of_true ⟨rfl, rfl, fun _ => rfl⟩ trivial
  | Action action =>
    cases hnext
    cases action with
    | BlacklistChanged chosen =>
      have hcounters : (∀ category, DriftVector.default.counter category =
          handles.driftEvaluator.currentDrift.counter category) ↔
          handles.driftEvaluator.currentDrift = .default := by
        rw [← counter_eq_zero_iff]
        refine forall_congr' fun category => ?_
        rw [(counter_eq_zero_iff .default).mpr rfl category]
        exact eq_comm
      rw [NothingToLose, ← hcounters]
      exact ⟨fun h => ⟨h.2.2, h.2.1.symm⟩, fun h => ⟨rfl, h.2.symm, h.1⟩⟩
    | _ => exact iff_of_true ⟨rfl, rfl, fun _ => rfl⟩ trivial

theorem drift_tallied_iff (blacklist : BlacklistConfig)
    (hnew : handles.driftEvaluator = .new blacklist weights) (steps : List DriftStep)
    (last : ConfigActionHandles) (run : Run driftNext Unrestricted handles steps last) :
    (∀ before rest reached, steps = before ++ rest →
      Run driftNext Unrestricted handles before reached →
      Tallied blacklist.patterns weights before reached) ↔
    Run driftNext NothingToLose handles steps last := by
  refine run.history_iff (Tallied blacklist.patterns weights) ?_ [] ⟨?_, ?_, ?_⟩
  · exact fun past handles step after => driftNext_tallied_iff _ weights past handles step after
  · rw [hnew]
    rfl
  · rw [hnew]
    rfl
  · intro category
    rw [hnew]
    cases category <;> rfl

end Steps

def freshHandles : ConfigActionHandles :=
  ⟨.new .default .default, .new ⟨900, ⟨0⟩, 14400⟩, none, .default⟩

def hostsChanged : DriftStep := .Event ⟨"file", "/etc/hosts"⟩

def dataBlacklist : DriftStep := .Action (.BlacklistChanged ["/data/**"])

def doubled : DriftWeights := ⟨two, two, two, two, two, two, two⟩

def blacklistFirst : List DriftStep :=
  [dataBlacklist, hostsChanged, .Event ⟨"file", "/data/set"⟩, .SetWeights doubled,
    .Event ⟨"gpu", "gpu0"⟩]

def afterBlacklistFirst : ConfigActionHandles :=
  { freshHandles with
    driftEvaluator := ⟨⟨["/data/**"]⟩, doubled, { DriftVector.default with files := 1, gpu := 1 }⟩ }

theorem drift_tallied_blacklist_first :
    Run driftNext Unrestricted freshHandles blacklistFirst afterBlacklistFirst ∧
    ∀ before rest reached, blacklistFirst = before ++ rest →
      Run driftNext Unrestricted freshHandles before reached →
      Tallied BlacklistConfig.default.patterns .default before reached := by
  have hrun : Run driftNext NothingToLose freshHandles blacklistFirst afterBlacklistFirst :=
    run_of_execWhere _ _ _ _ _ (by decide +kernel)
  exact ⟨hrun.unrestricted,
    (drift_tallied_iff .default freshHandles .default rfl _ _ hrun.unrestricted).mpr hrun⟩

-- A change is counted and the weights are set, and then a new blacklist makes both be forgotten.
theorem blacklist_loses_drift :
    exec driftNext freshHandles [hostsChanged, .SetWeights doubled, dataBlacklist] =
      some { freshHandles with driftEvaluator := .new ⟨["/data/**"]⟩ .default } ∧
    driftSince BlacklistConfig.default.patterns .File
      [hostsChanged, .SetWeights doubled, dataBlacklist] = 1 ∧
    lastSet DriftStep.weights .default [hostsChanged, .SetWeights doubled, dataBlacklist] ≠
      .default := by
  refine ⟨?_, ?_, ?_⟩ <;> decide +kernel

end Pact.Agent.Drift
