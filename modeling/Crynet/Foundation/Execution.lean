import Mathlib.Data.List.Basic

/-!
# Finite executions of a labelled system

A system is a step relation.  An execution takes finitely many steps, each of
them permitted in the state it is taken from.  The rules below are the ones
every run-level result uses: an invariant of the steps is an invariant of the
execution, a permission can be weakened, a system that simulates another step
by step simulates its executions, and a concrete run of a step function is an
execution.  Observing the steps of a function along a run gives a list of
events, and an invariant may speak about the events so far.
-/

namespace Transition

variable {State Label Failure : Type*}

/-- A finite execution from `start`, with the labels it took in order. -/
inductive Execution (step : State → Label → State → Prop)
    (permitted : State → Label → Prop) (start : State) :
    List Label → State → Prop where
  | nil : Execution step permitted start [] start
  | snoc {labels : List Label} {current next : State} {label : Label} :
      Execution step permitted start labels current →
      permitted current label →
      step current label next →
      Execution step permitted start (labels ++ [label]) next

/-- The step relation of a function that may fail. -/
def returning (step : State → Label → Except Failure State) :
    State → Label → State → Prop :=
  fun current label next => step current label = .ok next

/-- Run a step function along a list of labels. -/
def runSteps (step : State → Label → Except Failure State) :
    State → List Label → Except Failure State
  | current, [] => .ok current
  | current, label :: labels =>
      match step current label with
      | .ok next => runSteps step next labels
      | .error failure => .error failure

/-- What is observed along a list of labels, step after step. -/
def observations {Event : Type*} (step : State → Label → Except Failure State)
    (observe : State → Label → List Event) : State → List Label → List Event
  | _, [] => []
  | current, label :: labels =>
      observe current label ++
        match step current label with
        | .ok next => observations step observe next labels
        | .error _ => []

theorem runSteps_append {step : State → Label → Except Failure State}
    {start middle : State} {first : List Label}
    (ran : runSteps step start first = .ok middle) (second : List Label) :
    runSteps step start (first ++ second) = runSteps step middle second := by
  induction first generalizing start with
  | nil =>
      simp only [runSteps, Except.ok.injEq] at ran
      rw [ran, List.nil_append]
  | cons label labels induction =>
      simp only [runSteps] at ran
      cases stepped : step start label with
      | error failure => simp [stepped] at ran
      | ok next =>
          rw [stepped] at ran
          rw [List.cons_append, runSteps, stepped]
          exact induction ran

theorem observations_append {Event : Type*}
    {step : State → Label → Except Failure State}
    (observe : State → Label → List Event)
    {start middle : State} {first : List Label}
    (ran : runSteps step start first = .ok middle) (second : List Label) :
    observations step observe start (first ++ second) =
      observations step observe start first ++
        observations step observe middle second := by
  induction first generalizing start with
  | nil =>
      simp only [runSteps, Except.ok.injEq] at ran
      rw [ran]
      rfl
  | cons label labels induction =>
      simp only [runSteps] at ran
      cases stepped : step start label with
      | error failure => simp [stepped] at ran
      | ok next =>
          rw [stepped] at ran
          simp only [List.cons_append, observations, stepped, induction ran,
            List.append_assoc]

namespace Execution

variable {step : State → Label → State → Prop}
variable {permitted : State → Label → Prop}
variable {start current : State} {labels : List Label}

theorem invariant
    (invariant : State → Prop)
    (initially : invariant start)
    (preserved : ∀ current label next,
      invariant current → permitted current label →
      step current label next → invariant next)
    (execution : Execution step permitted start labels current) :
    invariant current := by
  induction execution with
  | nil => exact initially
  | snoc _ allowed stepped induction =>
      exact preserved _ _ _ induction allowed stepped

theorem weaken
    {weaker : State → Label → Prop}
    (implied : ∀ state label, permitted state label → weaker state label)
    (execution : Execution step permitted start labels current) :
    Execution step weaker start labels current := by
  induction execution with
  | nil => exact .nil
  | snoc _ allowed stepped induction =>
      exact .snoc induction (implied _ _ allowed) stepped

/-- A permission that depends on the label only can be checked afterwards. -/
theorem restrict
    {stricter : State → Label → Prop}
    (execution : Execution step permitted start labels current)
    (allowed : ∀ label ∈ labels, ∀ state, stricter state label) :
    Execution step stricter start labels current := by
  induction execution with
  | nil => exact .nil
  | snoc _ _ stepped induction =>
      refine .snoc (induction ?_) (allowed _ (by simp) _) stepped
      intro label member
      exact allowed label (List.mem_append_left _ member)

theorem trans
    {later : List Label} {final : State}
    (first : Execution step permitted start labels current)
    (second : Execution step permitted current later final) :
    Execution step permitted start (labels ++ later) final := by
  induction second with
  | nil => simpa using first
  | snoc _ allowed stepped induction =>
      rw [← List.append_assoc]
      exact .snoc induction allowed stepped

theorem single
    {label : Label} {next : State} (allowed : permitted start label)
    (stepped : step start label next) :
    Execution step permitted start [label] next := by
  simpa using Execution.snoc .nil allowed stepped

/-- When every step of a system is an execution of another one between the
abstracted states, so is every execution. -/
theorem simulate
    {Abstract Move : Type*} {move : Abstract → Move → Abstract → Prop}
    {licensed : Abstract → Move → Prop} (abstraction : State → Abstract)
    (invariant : State → Prop) (initially : invariant start)
    (preserved : ∀ current label next,
      invariant current → permitted current label →
      step current label next → invariant next)
    (simulated : ∀ current label next,
      invariant current → permitted current label →
      step current label next →
        ∃ moves, Execution move licensed (abstraction current) moves
          (abstraction next))
    (execution : Execution step permitted start labels current) :
    ∃ moves, Execution move licensed (abstraction start) moves
      (abstraction current) := by
  have both : invariant current ∧
      ∃ moves, Execution move licensed (abstraction start) moves
        (abstraction current) := by
    induction execution with
    | nil => exact ⟨initially, [], .nil⟩
    | snoc _ allowed stepped induction =>
        obtain ⟨holds, moves, before⟩ := induction
        obtain ⟨more, after⟩ := simulated _ _ _ holds allowed stepped
        exact ⟨preserved _ _ _ holds allowed stepped, moves ++ more,
          before.trans after⟩
  exact both.2

/-- A successful concrete run is an execution when its labels are permitted
wherever they are taken. -/
theorem ofRunSteps
    {function : State → Label → Except Failure State} {final : State}
    (ran : runSteps function start labels = .ok final)
    (allowed : ∀ label ∈ labels, ∀ state, permitted state label) :
    Execution (returning function) permitted start labels final := by
  induction labels generalizing start with
  | nil =>
      simp only [runSteps, Except.ok.injEq] at ran
      subst final
      exact .nil
  | cons label labels induction =>
      simp only [runSteps] at ran
      cases stepped : function start label with
      | error failure => simp [stepped] at ran
      | ok next =>
          rw [stepped] at ran
          have here := allowed label List.mem_cons_self start
          have first : Execution (returning function) permitted start [label]
              next :=
            single here stepped
          apply first.trans
          apply induction ran
          intro later member state
          exact allowed later (List.mem_cons_of_mem _ member) state

/-- The execution of a step function is the run of its labels. -/
theorem runSteps_eq
    {function : State → Label → Except Failure State}
    (execution :
      Execution (returning function) permitted start labels current) :
    runSteps function start labels = .ok current := by
  induction execution with
  | nil => rfl
  | snoc _ _ stepped induction =>
      rw [runSteps_append induction, runSteps, stepped]
      rfl

/-- The invariant rule for executions that are observed. -/
theorem observed_invariant {Event : Type*}
    {function : State → Label → Except Failure State}
    (observe : State → Label → List Event)
    (invariant : List Label → List Event → State → Prop)
    (initially : invariant [] [] start)
    (preserved : ∀ labels events current label next,
      invariant labels events current → permitted current label →
      function current label = .ok next →
        invariant (labels ++ [label]) (events ++ observe current label) next)
    (execution :
      Execution (returning function) permitted start labels current) :
    invariant labels (observations function observe start labels)
      current := by
  induction execution with
  | nil => exact initially
  | @snoc labels current next label before allowed stepped induction =>
      have kept := preserved _ _ _ _ _ induction allowed stepped
      have one : observations function observe current [label] =
          observe current label := by
        have done : function current label = .ok next := stepped
        simp only [observations, done, List.append_nil]
      rw [observations_append observe before.runSteps_eq, one]
      exact kept

end Execution

end Transition
