import Crynet.Actor.Dispatch

/-!
# How the call stack moves

A step pushes an activation at most, after having popped one if a callback ends
in it; releasing services marks activations and does not move them.  So an
activation that others stand on stays where it is.
-/

namespace Crynet

/-- The ends of a callback. -/
def Action.Ends : Action → Prop
  | .returns => True
  | .throws => True
  | _ => False

/-- A stack with an activation pushed on it at most, and activations marked. -/
inductive Rearranged (stack : List Activation) : List Activation → Prop where
  | same : Rearranged stack stack
  | pushed (activation : Activation) : Rearranged stack (activation :: stack)
  | erased {moved : List Activation} (handle : ServiceHandle)
      (before : Rearranged stack moved) :
      Rearranged stack (moved.map (Activation.erase handle))

/-- The activation with so many below it. -/
def activationAt (depth : Nat) : List Activation → Option Activation
  | [] => none
  | activation :: stack =>
      if stack.length = depth then some activation
      else activationAt depth stack

private theorem activationAt_above {depth : Nat} {stack : List Activation}
    (above : depth < stack.length) (activation : Activation) :
    activationAt depth (activation :: stack) = activationAt depth stack := by
  rw [activationAt, if_neg (Nat.ne_of_gt above)]

theorem activationAt_top (stack : List Activation) (activation : Activation) :
    activationAt stack.length (activation :: stack) = some activation := by
  rw [activationAt, if_pos rfl]

private theorem activationAt_erase (depth : Nat) (handle : ServiceHandle)
    (stack : List Activation) :
    activationAt depth (stack.map (Activation.erase handle)) =
      (activationAt depth stack).map (Activation.erase handle) := by
  induction stack with
  | nil => rfl
  | cons activation stack induction =>
      simp only [List.map_cons, activationAt, List.length_map, induction]
      split
      · rfl
      · rfl

namespace Rearranged

variable {stack moved : List Activation}

private theorem length_le (rearranged : Rearranged stack moved) :
    stack.length ≤ moved.length := by
  induction rearranged with
  | same => exact Nat.le_refl _
  | pushed activation => exact Nat.le_succ _
  | erased handle _ induction =>
      rw [List.length_map]
      exact induction

/-- An activation of the stack is still there, marked or not. -/
theorem activationAt (rearranged : Rearranged stack moved) {depth : Nat}
    (inside : depth < stack.length) {activation : Activation}
    (found : Crynet.activationAt depth stack = some activation) :
    ∃ kept, Crynet.activationAt depth moved = some kept ∧
      kept.batch = activation.batch ∧ kept.phase = activation.phase := by
  induction rearranged with
  | same => exact ⟨activation, found, rfl, rfl⟩
  | pushed _ =>
      refine ⟨activation, ?_, rfl, rfl⟩
      rw [activationAt_above inside]
      exact found
  | erased handle _ induction =>
      obtain ⟨kept, still, batch, phase⟩ := induction
      refine ⟨kept.erase handle, ?_, ?_, ?_⟩
      · rw [activationAt_erase, still]
        rfl
      · rw [Activation.erase]
        split
        · exact batch
        · exact batch
      · rw [Activation.erase]
        split
        · exact phase
        · exact phase

end Rearranged

namespace Machine

variable {machine next : Machine}

private theorem launch_rearranges (system : ActorSystem) (stack : List Activation)
    (maxMessagesPerService : Nat) (observed : Bool) (caller : Caller) :
    Rearranged stack
      (launch system stack maxMessagesPerService observed caller).stack := by
  unfold launch
  split
  · exact .pushed _
  · exact .same

private theorem finish_rearranges (system : ActorSystem) (stack : List Activation)
    (batch : Batch) : Rearranged stack (finish system stack batch).stack := by
  unfold finish
  split
  · simp only
    split
    · exact .same
    · split
      · exact launch_rearranges _ _ _ _ _
      · exact .same
  · exact .same

private theorem proceed_rearranges {system : ActorSystem} {stack : List Activation}
    {batch : Batch} (proceeded : proceed system stack batch = .ok next) :
    Rearranged stack next.stack := by
  unfold proceed at proceeded
  split at proceeded
  · cases proceeded
  · split at proceeded
    · cases proceeded
      exact .pushed _
    · cases proceeded
      exact finish_rearranges _ _ _

/-- A callback that returns pops its activation. -/
theorem resume_rearranges (resumed : machine.resume = .ok next) :
    ∃ activation rest, machine.stack = activation :: rest ∧
      Rearranged rest next.stack := by
  unfold resume at resumed
  cases activations : machine.stack with
  | nil => simp [activations] at resumed
  | cons activation rest =>
      refine ⟨activation, rest, rfl, ?_⟩
      simp only [activations] at resumed
      split at resumed
      · cases resumed
      · split at resumed
        · unfold observed at resumed
          split at resumed
          · cases resumed
          · cases resumed
            exact .pushed _
        · exact proceed_rearranges resumed

private theorem release_rearranges (machine : Machine) (handle : ServiceHandle)
    {stack : List Activation} (before : Rearranged stack machine.stack) :
    Rearranged stack (machine.release handle).stack := by
  rcases machine.release_cases handle with ⟨_, shape⟩ | ⟨_, _, shape⟩
  · rw [shape]
    exact before
  · rw [shape]
    exact before.erased handle

private theorem releaseEach_rearranges (handles : List ServiceHandle)
    (machine : Machine) {stack : List Activation}
    (before : Rearranged stack machine.stack) :
    Rearranged stack (releaseEach handles machine).stack := by
  induction handles generalizing machine with
  | nil => exact before
  | cons handle handles induction =>
      exact induction (machine.release handle)
        (machine.release_rearranges handle before)

private theorem returning_rearranges {Result : Type}
    {outcome : Option (Result × ActorSystem)}
    (returned : machine.returning outcome = .ok next) :
    Rearranged machine.stack next.stack := by
  obtain ⟨_, _, _, shape⟩ := returning_cases returned
  rw [shape]
  exact .same

private theorem onContext_rearranges {method : ServiceContext → ServiceContext}
    (called : machine.onContext method = .ok next) :
    Rearranged machine.stack next.stack := by
  obtain ⟨_, _, _, _, _, shape⟩ := onContext_cases called
  rw [shape]
  exact .same

private theorem unwind_cases (unwound : machine.unwind = .ok next) :
    ∃ activation, machine.stack = activation :: next.stack ∧
      next.answer = none := by
  unfold unwind at unwound
  cases activations : machine.stack with
  | nil => simp [activations] at unwound
  | cons activation rest =>
      simp only [activations, Except.ok.injEq] at unwound
      subst unwound
      exact ⟨activation, rfl, rfl⟩

/-- The step lemma of the call stack. -/
theorem step_rearranges {action : Action}
    (stepped : machine.step action = .ok next) :
    ¬action.Ends ∧ Rearranged machine.stack next.stack ∨
      action.Ends ∧ ∃ activation rest, machine.stack = activation :: rest ∧
        Rearranged rest next.stack := by
  cases action with
  | registerService serviceName =>
      exact Or.inl ⟨id, returning_rearranges stepped⟩
  | releaseService handle =>
      cases stepped
      exact Or.inl ⟨id, machine.release_rearranges handle .same⟩
  | shutdown =>
      cases stepped
      exact Or.inl ⟨id, releaseEach_rearranges _ machine .same⟩
  | call sourceHandle targetHandle payloadText =>
      exact Or.inl ⟨id, returning_rearranges stepped⟩
  | pumpTimers now => exact Or.inl ⟨id, returning_rearranges stepped⟩
  | dispatchBatch maxMessagesPerService observed =>
      cases stepped
      exact Or.inl ⟨id, launch_rearranges _ _ _ _ _⟩
  | runUntilIdle maxBatches maxMessagesPerService =>
      simp only [step] at stepped
      split at stepped
      · cases stepped
        exact Or.inl ⟨id, launch_rearranges _ _ _ _ _⟩
      · cases stepped
        exact Or.inl ⟨id, .same⟩
  | dispatchOnce =>
      cases stepped
      exact Or.inl ⟨id, launch_rearranges _ _ _ _ _⟩
  | initializeContext =>
      simp only [step] at stepped
      exact Or.inl ⟨id, onContext_rearranges stepped⟩
  | startContext =>
      simp only [step] at stepped
      exact Or.inl ⟨id, onContext_rearranges stepped⟩
  | stopContext =>
      simp only [step] at stepped
      exact Or.inl ⟨id, onContext_rearranges stepped⟩
  | releaseContext =>
      simp only [step] at stepped
      exact Or.inl ⟨id, onContext_rearranges stepped⟩
  | returns => exact Or.inr ⟨trivial, resume_rearranges stepped⟩
  | throws =>
      obtain ⟨activation, activations, _⟩ := unwind_cases stepped
      exact Or.inr ⟨trivial, activation, next.stack, activations, .same⟩
  | _ =>
      cases stepped
      exact Or.inl ⟨id, .same⟩

/-- An activation stays until it returns itself, or is left by an exception. -/
theorem step_activationAt {action : Action} {depth : Nat}
    {activation : Activation} (stepped : machine.step action = .ok next)
    (inside : depth < machine.stack.length)
    (found : activationAt depth machine.stack = some activation)
    (inner : action = .returns → depth + 1 < machine.stack.length) :
    (depth < next.stack.length ∧
      ∃ kept, activationAt depth next.stack = some kept ∧
        kept.batch = activation.batch ∧ kept.phase = activation.phase) ∨
    (next.stack.length = depth ∧ next.answer = none) := by
  rcases step_rearranges stepped with
    ⟨_, rearranged⟩ | ⟨ends, top, rest, activations, rearranged⟩
  · left
    exact ⟨Nat.lt_of_lt_of_le inside rearranged.length_le,
      rearranged.activationAt inside found⟩
  · rw [activations] at inside found
    by_cases above : depth < rest.length
    · left
      rw [activationAt_above above] at found
      exact ⟨Nat.lt_of_lt_of_le above rearranged.length_le,
        rearranged.activationAt above found⟩
    · right
      rw [List.length_cons] at inside
      cases action with
      | returns =>
          have higher := inner rfl
          rw [activations, List.length_cons] at higher
          omega
      | throws =>
          obtain ⟨_, shape, answer⟩ := unwind_cases stepped
          rw [activations, List.cons.injEq] at shape
          rw [← shape.2]
          exact ⟨by omega, answer⟩
      | _ => exact ends.elim

end Machine

end Crynet
