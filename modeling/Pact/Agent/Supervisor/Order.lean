import Pact.Agent.Supervisor
import Pact.Library.Sequence
import Pact.Library.Sorting

namespace Pact.Agent.Supervisor

open Pact.Library

-- A declaration with the fields that only matter for the order of services and for the pace of
-- the loop.
structure Declaration extends ServiceDecl where
  restartDelaySeconds : Nat
  dependsOn : List String
  deriving DecidableEq

def sortedDeclarations (decls : List Declaration) : List Declaration :=
  decls.insertionSort fun first second => first.order ≤ second.order

-- What start_all and stop_all do: one service after the other, up to one that fails. `log` has
-- those it came to, each with whether it went well.
structure Sweep where
  supervisor : PactSupervisor
  pending : List Declaration
  log : List (Declaration × Bool)
  deriving DecidableEq

-- Other tasks may take steps between two services.
inductive SweepStep (Outcome : Type)
  | Meanwhile (step : Step)
  | Handle (outcome : Outcome)

def sweepNext {Outcome : Type}
    (handle : ServiceDecl → Outcome → PactSupervisor → PactSupervisor × Bool) (sweep : Sweep) :
    SweepStep Outcome → Option Sweep
  | .Meanwhile step =>
    (next sweep.supervisor step).map fun supervisor => { sweep with supervisor := supervisor }
  | .Handle outcome =>
    match sweep.pending with
    | [] => none
    | decl :: pending =>
      let (supervisor, done) := handle decl.toServiceDecl outcome sweep.supervisor
      some ⟨supervisor, if done then pending else [], sweep.log ++ [(decl, done)]⟩

def startAll (decls : List Declaration) (s : PactSupervisor) : Sweep :=
  ⟨{ s with serviceDecls := decls.map Declaration.toServiceDecl }, sortedDeclarations decls, []⟩

def stopAll (decls : List Declaration) (s : PactSupervisor) : Sweep :=
  ⟨s, (sortedDeclarations decls).reverse, []⟩

def stopService (decl : ServiceDecl) (outcome : StopOutcome) (s : PactSupervisor) :
    PactSupervisor × Bool :=
  (stop decl outcome s, true)

def DependsOn (decls : List Declaration) (name other : String) : Prop :=
  ∃ decl ∈ decls, decl.name = name ∧ other ∈ decl.dependsOn

structure WellFormed (decls : List Declaration) : Prop where
  acyclic : ∀ name, ¬Relation.TransGen (DependsOn decls) name name
  declared : ∀ decl ∈ decls, ∀ name ∈ decl.dependsOn, ∃ other ∈ decls, other.name = name

-- Whatever a service depends on was started before it.
def StartsAfter (log : List (Declaration × Bool)) : Prop :=
  ∀ before entry rest, log = before ++ entry :: rest → ∀ name ∈ entry.1.dependsOn,
    ∃ earlier ∈ before, earlier.1.name = name ∧ earlier.2 = true

-- Nothing that a service depends on was stopped before it.
def StopsBefore (log : List (Declaration × Bool)) : Prop :=
  log.Pairwise fun earlier later => earlier.1.name ∉ later.1.dependsOn

-- Of two declarations, the one with the smaller order, or the first one where the orders are the
-- same, does not depend on the other.
def OrderRespects (decls : List Declaration) : Prop :=
  decls.Pairwise fun first second =>
    if first.order ≤ second.order then second.name ∉ first.dependsOn
    else first.name ∉ second.dependsOn

instance (decls : List Declaration) : Decidable (OrderRespects decls) := by
  unfold OrderRespects
  infer_instance

theorem orderRespects_iff (decls : List Declaration) :
    OrderRespects decls ↔
      (sortedDeclarations decls).Pairwise fun first second => second.name ∉ first.dependsOn := by
  have : Std.Total fun first second : Declaration => first.order ≤ second.order :=
    ⟨fun first second => Nat.le_total first.order second.order⟩
  have : IsTrans Declaration fun first second => first.order ≤ second.order :=
    ⟨fun _ _ _ hfirst hsecond => Nat.le_trans hfirst hsecond⟩
  exact (pairwise_insertionSort_iff _ _ decls).symm

-- What is known of a sweep over services in a given order: it has come to the first of them, and
-- all but the last of these went well.
structure Swept (order : List Declaration) (sweep : Sweep) : Prop where
  ahead : sweep.log.map Prod.fst ++ sweep.pending <+: order
  going : sweep.pending ≠ [] → ∀ entry ∈ sweep.log, entry.2 = true
  done : ∀ before entry rest, sweep.log = before ++ entry :: rest →
    ∀ earlier ∈ before, earlier.2 = true

section Sweeps

variable {Outcome : Type} {handle : ServiceDecl → Outcome → PactSupervisor → PactSupervisor × Bool}
  {order : List Declaration}

theorem Swept.snoc {sweep : Sweep} {decl : Declaration} {pending : List Declaration}
    (h : Swept order sweep) (hpending : sweep.pending = decl :: pending)
    (supervisor : PactSupervisor) (done : Bool) :
    Swept order ⟨supervisor, if done then pending else [], sweep.log ++ [(decl, done)]⟩ := by
  have hgoing := h.going (by rw [hpending]; simp)
  have hahead := h.ahead
  rw [hpending] at hahead
  refine ⟨?_, ?_, ?_⟩
  · have hlog : (sweep.log ++ [(decl, done)]).map Prod.fst = sweep.log.map Prod.fst ++ [decl] := by
      simp
    cases done with
    | true => simpa [hlog] using hahead
    | false =>
      refine List.IsPrefix.trans ?_ hahead
      simp
  · intro hmore entry hentry
    cases done with
    | true =>
      rcases List.mem_append.mp hentry with hbefore | hlast
      · exact hgoing entry hbefore
      · rw [List.mem_singleton.mp hlast]
    | false => exact absurd rfl hmore
  · intro before entry rest hsplit earlier hearlier
    rcases (snoc_eq_append_cons_iff _ _ _ _ _).mp hsplit with ⟨_, rfl, _⟩ | ⟨front, _, hlog⟩
    · exact hgoing earlier hearlier
    · refine hgoing earlier ?_
      rw [hlog]
      exact List.mem_append_left _ hearlier

theorem Swept.next (sweep : Sweep) (step : SweepStep Outcome) (after : Sweep)
    (h : Swept order sweep) (hnext : sweepNext handle sweep step = some after) :
    Swept order after := by
  cases step with
  | Meanwhile step =>
    simp only [sweepNext, Option.map_eq_some_iff] at hnext
    obtain ⟨supervisor, _, rfl⟩ := hnext
    exact ⟨h.ahead, h.going, h.done⟩
  | Handle outcome =>
    unfold sweepNext at hnext
    cases hpending : sweep.pending with
    | nil =>
      rw [hpending] at hnext
      cases hnext
    | cons decl pending =>
      rw [hpending, Option.some.injEq] at hnext
      rw [← hnext]
      exact h.snoc hpending _ _

theorem Swept.of_run {sweep last : Sweep} {steps : List (SweepStep Outcome)}
    (run : Run (sweepNext handle) Unrestricted sweep steps last) (hlog : sweep.log = [])
    (hpending : sweep.pending = order) : Swept order last := by
  refine run.invariant (Swept order) (fun sweep step after h _ hnext => h.next sweep step after hnext)
    ⟨?_, ?_, ?_⟩
  · rw [hlog, hpending]
    exact List.prefix_rfl
  · rw [hlog]
    exact fun _ => nofun
  · intro before entry rest hsplit
    rw [hlog] at hsplit
    simp at hsplit

theorem exists_full_sweep (outcome : Outcome) (hdone : ∀ decl s, (handle decl outcome s).2 = true)
    (sweep : Sweep) :
    ∃ steps last, Run (sweepNext handle) Unrestricted sweep steps last ∧
      last.log = sweep.log ++ sweep.pending.map fun decl => (decl, true) := by
  obtain ⟨supervisor, pending, log⟩ := sweep
  induction pending generalizing supervisor log with
  | nil => exact ⟨[], _, .nil _, by simp⟩
  | cons decl pending ih =>
    obtain ⟨steps, last, hrun, hlast⟩ :=
      ih (handle decl.toServiceDecl outcome supervisor).1 (log ++ [(decl, true)])
    refine ⟨.Handle outcome :: steps, last, .cons trivial ?_ hrun, ?_⟩
    · simp only [sweepNext, hdone, ↓reduceIte]
    · rw [hlast]
      simp

end Sweeps

theorem startsAfter_of_respects (decls : List Declaration) (hdecls : WellFormed decls)
    (horder : OrderRespects decls) (sweep : Sweep)
    (hswept : Swept (sortedDeclarations decls) sweep) : StartsAfter sweep.log := by
  intro before entry rest hsplit name hname
  obtain ⟨behind, hbehind⟩ := hswept.ahead
  have hsorted : sortedDeclarations decls =
      before.map Prod.fst ++ entry.1 :: (rest.map Prod.fst ++ sweep.pending ++ behind) := by
    rw [← hbehind, hsplit]
    simp
  have hmem : entry.1 ∈ decls := by
    have hin : entry.1 ∈ sortedDeclarations decls := by
      rw [hsorted]
      simp
    exact (List.mem_insertionSort _).mp hin
  obtain ⟨other, hother, hdependency⟩ := hdecls.declared entry.1 hmem name hname
  have hplace : other ∈ sortedDeclarations decls := (List.mem_insertionSort _).mpr hother
  have hpairs := (orderRespects_iff decls).mp horder
  rw [hsorted] at hplace hpairs
  obtain ⟨_, hpairs, _⟩ := List.pairwise_append.mp hpairs
  rcases List.mem_append.mp hplace with hfront | hrest
  · obtain ⟨earlier, hearlier, rfl⟩ := List.mem_map.mp hfront
    exact ⟨earlier, hearlier, hdependency, hswept.done before entry rest hsplit earlier hearlier⟩
  · rcases List.mem_cons.mp hrest with rfl | hback
    · exact absurd (.single ⟨_, hmem, rfl, hdependency ▸ hname⟩) (hdecls.acyclic _)
    · exact absurd (hdependency ▸ hname) ((List.pairwise_cons.mp hpairs).1 other hback)

theorem stopsBefore_of_respects (decls : List Declaration) (horder : OrderRespects decls)
    (sweep : Sweep) (hswept : Swept (sortedDeclarations decls).reverse sweep) :
    StopsBefore sweep.log := by
  have hpairs := List.pairwise_reverse.mpr ((orderRespects_iff decls).mp horder)
  have hlog : sweep.log.map Prod.fst <+: (sortedDeclarations decls).reverse :=
    (List.prefix_append _ _).trans hswept.ahead
  exact List.pairwise_map.mp (hpairs.sublist hlog.sublist)

-- Services start after what they depend on, and stop before it, exactly if the order numbers say
-- so: the dependencies themselves are not looked at.
theorem dependencies_respected_iff (decls : List Declaration) (hdecls : WellFormed decls)
    (s : PactSupervisor) :
    ((∀ steps last, Run (sweepNext start) Unrestricted (startAll decls s) steps last →
        StartsAfter last.log) ∧
      ∀ steps last, Run (sweepNext stopService) Unrestricted (stopAll decls s) steps last →
        StopsBefore last.log) ↔
    OrderRespects decls := by
  constructor
  · rintro ⟨_, hstops⟩
    have hnever : ∀ decl s, (stopService decl .WaitError s).2 = true := fun _ _ => rfl
    obtain ⟨steps, last, hrun, hlast⟩ := exists_full_sweep _ hnever (stopAll decls s)
    have hpairs := hstops steps last hrun
    have hlog : last.log = (sortedDeclarations decls).reverse.map fun decl => (decl, true) := hlast
    rw [StopsBefore, hlog, List.pairwise_map, List.pairwise_reverse] at hpairs
    exact (orderRespects_iff decls).mpr hpairs
  · intro horder
    refine ⟨?_, ?_⟩
    · intro steps last hrun
      exact startsAfter_of_respects decls hdecls horder last (.of_run hrun rfl rfl)
    · intro steps last hrun
      exact stopsBefore_of_respects decls horder last (.of_run hrun rfl rfl)

def database (order : Nat) : Declaration := ⟨⟨"database", .Always, order⟩, 0, []⟩

def webServer (order : Nat) : Declaration := ⟨⟨"web", .Always, order⟩, 0, ["database"]⟩

theorem webServer_wellFormed (first second : Nat) :
    WellFormed [webServer first, database second] where
  acyclic name hcycle := by
    have hstep : ∀ name other, DependsOn [webServer first, database second] name other →
        name = "web" ∧ other = "database" := by
      rintro name other ⟨decl, hdecl, rfl, hother⟩
      simp only [List.mem_cons, List.not_mem_nil, or_false] at hdecl
      rcases hdecl with rfl | rfl
      · exact ⟨rfl, List.mem_singleton.mp hother⟩
      · cases hother
    have hends : name = "web" ∧ name = "database" := by
      obtain ⟨other, hfirst, _⟩ := Relation.TransGen.head'_iff.mp hcycle
      obtain ⟨another, _, hlast⟩ := Relation.TransGen.tail'_iff.mp hcycle
      exact ⟨(hstep _ _ hfirst).1, (hstep _ _ hlast).2⟩
    exact absurd (hends.1.symm.trans hends.2) (by decide)
  declared decl hdecl name hname := by
    simp only [List.mem_cons, List.not_mem_nil, or_false] at hdecl
    rcases hdecl with rfl | rfl
    · exact ⟨database second, by simp, (List.mem_singleton.mp hname).symm⟩
    · cases hname

theorem dependencies_respected_ordered :
    OrderRespects [webServer 2, database 1] ∧
      ∀ steps last, Run (sweepNext start) Unrestricted
          (startAll [webServer 2, database 1] .new) steps last →
        StartsAfter last.log :=
  ⟨by decide, ((dependencies_respected_iff [webServer 2, database 1] (webServer_wellFormed 2 1)
    .new).mpr (by decide)).1⟩

-- With one order number for both, the service is started before what it depends on and stopped
-- after it.
theorem dependencies_ignored :
    WellFormed [webServer 0, database 0] ∧
      (∃ started, Run (sweepNext start) Unrestricted (startAll [webServer 0, database 0] .new)
          [.Handle (.Spawned none), .Handle (.Spawned none)] started ∧
        started.log = [(webServer 0, true), (database 0, true)] ∧ ¬StartsAfter started.log) ∧
      ∃ stopped, Run (sweepNext stopService) Unrestricted (stopAll [webServer 0, database 0] .new)
          [.Handle .WaitError, .Handle .WaitError] stopped ∧
        stopped.log = [(database 0, true), (webServer 0, true)] ∧ ¬StopsBefore stopped.log := by
  refine ⟨webServer_wellFormed 0 0, ⟨_, (exec_eq_some_iff _ _ _ _).mp rfl, rfl, ?_⟩,
    ⟨_, (exec_eq_some_iff _ _ _ _).mp rfl, rfl, ?_⟩⟩
  · intro hafter
    obtain ⟨earlier, hearlier, _⟩ := hafter [] _ _ rfl "database" (by decide)
    cases hearlier
  · intro hbefore
    exact absurd ((List.pairwise_cons.mp hbefore).1 (webServer 0, true) (by decide)) (by decide)

end Pact.Agent.Supervisor
