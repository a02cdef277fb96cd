import Crynet.Foundation.Execution

/-!
# Executions against a clock

A step function whose steps take place at times.  Some labels hand a time to
the step; in a punctual execution time does not go back and these labels hand
on the present.
-/

namespace Transition

variable {Time State Label Failure : Type*}

/-- A state with the time of the last step and the last time handed on. -/
structure Clocked (Time State : Type*) where
  clock : Time
  read : Time
  state : State

namespace Clocked

/-- A system constructed at a time has read it. -/
def start (time : Time) (state : State) : Clocked Time State :=
  { clock := time, read := time, state := state }

/-- A step at a time. -/
def step (function : State → Label → Except Failure State)
    (reads : Label → Option Time) (current : Clocked Time State)
    (timed : Time × Label) : Except Failure (Clocked Time State) :=
  match function current.state timed.2 with
  | .error failure => .error failure
  | .ok next =>
      .ok
        { clock := timed.1
          read := (reads timed.2).getD current.read
          state := next }

/-- Time does not go back, and labels hand on the present. -/
def Punctual [LE Time] (reads : Label → Option Time)
    (current : Clocked Time State) (timed : Time × Label) : Prop :=
  current.clock ≤ timed.1 ∧ ∀ time, reads timed.2 = some time → time = timed.1

theorem step_ok {function : State → Label → Except Failure State}
    {reads : Label → Option Time} {current next : Clocked Time State}
    {time : Time} {label : Label}
    (stepped : step function reads current (time, label) = .ok next) :
    function current.state label = .ok next.state ∧ next.clock = time ∧
      next.read = (reads label).getD current.read := by
  unfold step at stepped
  cases result : function current.state label with
  | error failure => simp [result] at stepped
  | ok state =>
      simp only [result, Except.ok.injEq] at stepped
      subst stepped
      exact ⟨rfl, rfl, rfl⟩

/-- An execution against a clock is one without it. -/
theorem untimed {function : State → Label → Except Failure State}
    {reads : Label → Option Time}
    {permitted : Clocked Time State → Time × Label → Prop}
    {weaker : State → Label → Prop}
    {first last : Clocked Time State} {timed : List (Time × Label)}
    (implied : ∀ current timed, permitted current timed →
      weaker current.state timed.2)
    (execution : Execution (returning (step function reads)) permitted first
      timed last) :
    Execution (returning function) weaker first.state (timed.map Prod.snd)
      last.state := by
  induction execution with
  | nil => exact .nil
  | snoc _ allowed stepped induction =>
      rw [List.map_append]
      exact .snoc induction (implied _ _ allowed) (step_ok stepped).1

end Clocked

end Transition
