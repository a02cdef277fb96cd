import Crynet.Bootstrap.Bootstrapper

/-!
# Services with one message each

When every ready service has one message queued and handlers call methods of
their contexts only, `run_until_idle` gives each service one turn.  A turn takes
the service from the front of the ready queue, and nothing puts it back there.
-/

namespace Crynet

def ContextCall.method : ContextCall → ServiceContext → ServiceContext
  | .initializeContext => fun context => context.initializeContext.2
  | .start => fun context => context.start.2
  | .stop => ServiceContext.stop
  | .release => ServiceContext.release

private theorem ContextCall.step_action (machine : Machine) (call : ContextCall) :
    machine.step call.action = machine.onContext call.method := by
  cases call with
  | initializeContext => rfl
  | start => rfl
  | stop => rfl
  | release => rfl

namespace ActorSystem

/-- A call of a handler. -/
def invocation :
    Mailbox.Entry ServiceHandle Message → Option (ServiceHandle × Message)
  | .delivered handle message _ => some (handle, message)
  | _ => none

/-- The handlers that have been called, each with its message. -/
def invocations (system : ActorSystem) : List (ServiceHandle × Message) :=
  system.history.filterMap invocation

/-- These services are ready, in this order, with one message each. -/
structure Awaits (system : ActorSystem)
    (turns : List (ServiceHandle × Message)) : Prop where
  ready : system.scheduler.ready = turns.map Prod.fst
  queued : ∀ turn ∈ turns, ∃ slot,
    system.services.lookup turn.1 = some slot ∧
      slot.queue.messages = [turn.2]

/-- Between these systems handlers have been called with these messages, which
were queued, and nothing has been registered. -/
structure Serves (system next : ActorSystem)
    (turns : List (ServiceHandle × Message)) : Prop where
  invocations : next.invocations = system.invocations ++ turns
  queuedTotal : next.queuedTotal + turns.length = system.queuedTotal
  handleRegistry : next.handleRegistry = system.handleRegistry

variable {system next final : ActorSystem} {turn : ServiceHandle × Message}
variable {turns later : List (ServiceHandle × Message)}

theorem Serves.refl (system : ActorSystem) : system.Serves system [] :=
  ⟨(List.append_nil _).symm, rfl, rfl⟩

theorem Serves.trans (first : system.Serves next turns)
    (second : next.Serves final later) :
    system.Serves final (turns ++ later) where
  invocations := by
    rw [second.invocations, first.invocations, List.append_assoc]
  queuedTotal := by
    have before := first.queuedTotal
    have after := second.queuedTotal
    rw [List.length_append]
    omega
  handleRegistry := second.handleRegistry.trans first.handleRegistry

theorem Awaits.distinct (awaits : system.Awaits turns) :
    (turns.map Prod.fst).Nodup := by
  rw [← awaits.ready]
  exact system.scheduler.readyQueue.nodup

/-- What happens to other slots does not matter. -/
theorem Awaits.frame (awaits : system.Awaits turns)
    (ready : next.scheduler.ready = system.scheduler.ready)
    (kept : ∀ handle ∈ turns.map Prod.fst,
      next.services.lookup handle = system.services.lookup handle) :
    next.Awaits turns := by
  constructor
  · exact ready.trans awaits.ready
  · intro turn member
    rw [kept turn.1 (List.mem_map_of_mem member)]
    exact awaits.queued turn member

end ActorSystem

namespace Machine

/-- The handler of a turn runs, the turns after it are still to come. -/
structure Invoked (machine : Machine) (caller : Caller)
    (turn : ServiceHandle × Message) (turns : List (ServiceHandle × Message)) :
    Prop where
  stack : machine.stack =
    [{ batch :=
        { handle := turn.1
          maxMessages := 1
          observed := false
          dispatched := 0
          caller := caller }
       message := turn.2
       phase := .handling
       erased := false }]
  emptied : ∃ slot, machine.system.services.lookup turn.1 = some slot ∧
    slot.queue.messages = []
  awaits : machine.system.Awaits turns
  gone : turn.1 ∉ turns.map Prod.fst

variable {machine : Machine} {system : ActorSystem} {caller : Caller}
variable {turn : ServiceHandle × Message}
variable {turns : List (ServiceHandle × Message)}

private theorem launch_none (awaits : system.Awaits []) (caller : Caller) :
    launch system [] 1 false caller =
      { system := system, stack := [], answer := some (caller.answer 0) } := by
  have nobody := (system.scheduler.acquireNext_none_iff).mpr awaits.ready
  simp only [launch, ActorSystem.startBatch, nobody]

/-- The first turn begins. -/
theorem launch_awaits (awaits : system.Awaits (turn :: turns))
    (caller : Caller) :
    (launch system [] 1 false caller).Invoked caller turn turns ∧
      system.Serves (launch system [] 1 false caller).system [turn] := by
  obtain ⟨slot, found, queued⟩ := awaits.queued turn List.mem_cons_self
  have ready := awaits.ready
  have distinct := awaits.distinct
  rw [List.map_cons, List.nodup_cons] at distinct
  rw [List.map_cons] at ready
  obtain ⟨acquired, acquire, rest, _⟩ :=
    WorkerScheduler.acquireNext_of_ready ready
  obtain ⟨queue, take, empty, _⟩ := MessageQueue.dequeue_of_cons queued
  simp only [launch, ActorSystem.startBatch, acquire, found,
    ActorSystem.continueBatch, take, Nat.zero_lt_one, if_true,
    Bool.false_eq_true, if_false, one_ne_zero]
  refine ⟨⟨rfl, ⟨_, AList.lookup_insert _, empty⟩, ?_,
    distinct.1⟩, ?_, ?_, rfl⟩
  · constructor
    · exact rest
    · intro other member
      have different : other.1 ≠ turn.1 := by
        intro same
        apply distinct.1
        rw [← same]
        exact List.mem_map_of_mem member
      obtain ⟨later, known, waiting⟩ :=
        awaits.queued other (List.mem_cons_of_mem _ member)
      refine ⟨later, ?_, waiting⟩
      exact (AList.lookup_insert_ne different).trans known
  · exact List.filterMap_append
  · have moved := AssociationMap.total_replace
      (fun service => service.queue.size) found
      { slot with queue := queue }
    have before : slot.queue.size = 1 := by
      rw [MessageQueue.size, queued]
      rfl
    have after : queue.size = 0 := by
      rw [MessageQueue.size, empty]
      rfl
    rw [before, after] at moved
    exact moved

/-- A handler that calls a method of its context. -/
theorem Invoked.call (invoked : machine.Invoked caller turn turns)
    (call : ContextCall) :
    ∃ next, machine.step call.action = .ok next ∧
      next.Invoked caller turn turns ∧
      machine.system.Serves next.system [] := by
  obtain ⟨slot, found, empty⟩ := invoked.emptied
  refine ⟨machine.setSystem (machine.system.setService turn.1
    { slot with context := call.method slot.context }), ?_, ?_,
    (List.append_nil _).symm, ?_, rfl⟩
  · rw [call.step_action]
    simp [onContext, invoked.stack, found]
  · refine ⟨invoked.stack, ⟨_, AList.lookup_insert _, empty⟩, ?_,
      invoked.gone⟩
    apply invoked.awaits.frame
    · rfl
    · intro handle member
      apply AList.lookup_insert_ne
      rintro rfl
      exact invoked.gone member
  · exact Nat.add_right_cancel (AssociationMap.total_replace
      (fun service => service.queue.size) found
      { slot with context := call.method slot.context })

theorem Invoked.calls (invoked : machine.Invoked caller turn turns)
    (calls : List ContextCall) :
    ∃ next,
      Transition.runSteps step machine (calls.map ContextCall.action) =
        .ok next ∧
      next.Invoked caller turn turns ∧
      machine.system.Serves next.system [] := by
  induction calls generalizing machine with
  | nil => exact ⟨machine, rfl, invoked, .refl _⟩
  | cons call calls induction =>
      obtain ⟨middle, stepped, kept, same⟩ := invoked.call call
      obtain ⟨next, ran, invoked, again⟩ := induction kept
      refine ⟨next, ?_, invoked, same.trans again⟩
      rw [List.map_cons, Transition.runSteps, stepped]
      exact ran

/-- The end of a turn. -/
theorem Invoked.returns (invoked : machine.Invoked caller turn turns) :
    ∃ finished : ActorSystem,
      machine.step .returns = .ok (finish finished []
        { handle := turn.1
          maxMessages := 1
          observed := false
          dispatched := 1
          caller := caller }) ∧
      finished.Awaits turns ∧
      machine.system.Serves finished [] := by
  obtain ⟨slot, found, empty⟩ := invoked.emptied
  have idle : slot.queue.empty = true := slot.queue.empty_iff.mpr empty
  let recorded : ActorSystem :=
    { machine.system with
      metrics := machine.system.metrics.onMessageDispatched
      history := machine.system.history ++ [.handled turn.1 turn.2] }
  refine ⟨recorded.finishBatch turn.1 slot, ?_, ?_, ?_, rfl, rfl⟩
  · simp only [step, resume, invoked.stack, Bool.false_eq_true, if_false,
      handled, proceed, found, ActorSystem.continueBatch, Nat.zero_add,
      Nat.lt_irrefl]
    rfl
  · apply invoked.awaits.frame
    · simp only [ActorSystem.finishBatch, idle, Bool.true_eq_false, false_and,
        if_false]
      rfl
    · exact fun _ _ => rfl
  · have handling : (machine.system.history ++ [Mailbox.Entry.handled turn.1
        turn.2]).filterMap ActorSystem.invocation =
          machine.system.invocations ++ [] :=
      List.filterMap_append
    exact handling

/-- Callbacks that call methods of their contexts and return. -/
def Contextual (acts : Machine → List Action) : Prop :=
  ∀ machine, machine.stack ≠ [] →
    ∃ calls : List ContextCall,
      acts machine = calls.map ContextCall.action ++ [.returns]

theorem serve_idle (acts : Machine → List Action) (rounds : Nat)
    (idle : machine.stack = []) :
    machine.serve acts rounds = .ok machine := by
  cases rounds with
  | zero => rfl
  | succ rounds => rw [serve, if_pos idle]

/-- One turn is served in one round. -/
theorem Invoked.serve {acts : Machine → List Action}
    (contextual : Contextual acts)
    (invoked : machine.Invoked caller turn turns) (rounds : Nat) :
    ∃ finished : ActorSystem, finished.Awaits turns ∧
      machine.system.Serves finished [] ∧
      machine.serve acts (rounds + 1) =
        (finish finished []
          { handle := turn.1
            maxMessages := 1
            observed := false
            dispatched := 1
            caller := caller }).serve acts rounds := by
  have busy : machine.stack ≠ [] := by
    rw [invoked.stack]
    exact List.cons_ne_nil _ _
  obtain ⟨calls, same⟩ := contextual machine busy
  obtain ⟨middle, ran, kept, quiet⟩ := invoked.calls calls
  obtain ⟨finished, returned, awaits, silent⟩ := kept.returns
  refine ⟨finished, awaits, quiet.trans silent, ?_⟩
  rw [Machine.serve, if_neg busy, same, Transition.runSteps_append ran,
    Transition.runSteps, returned]
  rfl

/-- The turns are served in order until there is none left or as many batches
have been executed as allowed. -/
theorem launch_serves {acts : Machine → List Action}
    (contextual : Contextual acts) {maxBatches executed rounds : Nat}
    (awaits : system.Awaits turns) (more : executed < maxBatches)
    (enough : min (maxBatches - executed) turns.length ≤ rounds) :
    ∃ final,
      (launch system [] 1 false
        (.untilIdle maxBatches 1 executed executed)).serve acts rounds =
          .ok final ∧
      final.stack = [] ∧
      final.answer = some (.idle maxBatches
        (executed + min (maxBatches - executed) turns.length)
        (executed + min (maxBatches - executed) turns.length)) ∧
      system.Serves final.system (turns.take (maxBatches - executed)) := by
  induction turns generalizing system executed rounds with
  | nil =>
      refine ⟨_, serve_idle acts rounds (by rw [launch_none awaits]), ?_⟩
      rw [launch_none awaits, List.take_nil, List.length_nil, Nat.min_zero]
      exact ⟨rfl, rfl, .refl system⟩
  | cons turn turns induction =>
      obtain ⟨invoked, called⟩ := launch_awaits awaits
        (.untilIdle maxBatches 1 executed executed)
      obtain ⟨left, remaining⟩ : ∃ left, maxBatches - executed = left + 1 :=
        ⟨maxBatches - executed - 1, by omega⟩
      rw [remaining, List.length_cons] at enough
      obtain ⟨others, rfl⟩ : ∃ others, rounds = others + 1 :=
        ⟨rounds - 1, by omega⟩
      obtain ⟨finished, awaits, quiet, served⟩ :=
        invoked.serve contextual others
      have first : system.Serves finished [turn] := called.trans quiet
      rw [served, remaining, List.length_cons, List.take_succ_cons]
      simp only [finish, one_ne_zero, if_false]
      by_cases again : executed + 1 < maxBatches
      · have later : maxBatches - (executed + 1) = left := by omega
        have fewer : min (maxBatches - (executed + 1)) turns.length ≤
            others := by
          omega
        obtain ⟨final, ran, empty, answer, rest⟩ :=
          induction awaits again fewer
        rw [later] at answer rest
        refine ⟨final, ?_, empty, ?_, first.trans rest⟩
        · rw [if_pos again]
          exact ran
        · rw [answer]
          have counted : executed + 1 + min left turns.length =
              executed + min (left + 1) (turns.length + 1) := by
            omega
          rw [counted]
      · have last : left = 0 := by omega
        subst last
        rw [if_neg again]
        refine ⟨_, serve_idle acts others rfl, rfl, ?_, first⟩
        have counted : executed + 1 =
            executed + min (0 + 1) (turns.length + 1) := by
          omega
        rw [counted]

end Machine

end Crynet
