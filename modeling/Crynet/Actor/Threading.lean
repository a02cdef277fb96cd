import Crynet.Actor.Dispatch

/-!
# Rules for composite operations

Pumping, shutting down and dispatching are sequences of simpler operations.  A
reflexive and transitive relation that contains the simple ones contains the
composite ones, whatever the relation says.
-/

namespace Crynet

namespace ActorSystem

/-- A relation between systems that holds along sequences of operations. -/
structure Threads (related : ActorSystem → ActorSystem → Prop) : Prop where
  refl : ∀ system, related system system
  trans : ∀ {system middle final}, related system middle →
    related middle final → related system final

/-- Such a relation that contains what `dispatch_batch` does between two
callbacks. -/
structure Dispatches (related : ActorSystem → ActorSystem → Prop) : Prop
    extends Threads related where
  starts : ∀ system maxMessagesPerService observed caller,
    related system
      (system.startBatch maxMessagesPerService observed caller).2
  continues : ∀ system batch service,
    system.services.lookup batch.handle = some service →
      related system (system.continueBatch batch service).2
  records : ∀ (system : ActorSystem) metrics history, related system
    { system with metrics := metrics, history := history }

variable {related : ActorSystem → ActorSystem → Prop}

/-- The loop of `pump_timers`. -/
theorem Threads.injectTimers (threads : Threads related)
    (sends : ∀ system message, related system (send system message).2)
    (counts : ∀ (system : ActorSystem) metrics, related system
      { system with metrics := metrics })
    (system : ActorSystem) (messages : List Message) :
    related system (system.injectTimers messages).2 := by
  induction messages generalizing system with
  | nil => exact threads.refl system
  | cons message messages induction =>
      have sent := sends system message
      simp only [ActorSystem.injectTimers]
      split
      · have counted := threads.trans sent (counts _
          (system.send message).2.metrics.onTimerMessage)
        exact threads.trans counted (induction _)
      · exact threads.trans sent (induction _)

/-- The loop of `shutdown`. -/
theorem Threads.releaseEach (threads : Threads related)
    (releases : ∀ system handle,
      related system (releaseService system handle).2)
    (handles : List ServiceHandle) (machine : Machine) :
    related machine.system (Machine.releaseEach handles machine).system := by
  induction handles generalizing machine with
  | nil => exact threads.refl machine.system
  | cons handle handles induction =>
      exact threads.trans (releases machine.system handle)
        (induction (machine.release handle))

end ActorSystem

namespace Machine

open ActorSystem (Dispatches)

variable {machine next : Machine}
variable {system : ActorSystem} {stack : List Activation}
variable {related : ActorSystem → ActorSystem → Prop}

theorem launch_related (dispatches : Dispatches related)
    (system : ActorSystem) (stack : List Activation)
    (maxMessagesPerService : Nat) (observed : Bool) (caller : Caller) :
    related system
      (launch system stack maxMessagesPerService observed caller).system := by
  have started :=
    dispatches.starts system maxMessagesPerService observed caller
  unfold launch
  split
  · rename_i result
    rw [result] at started
    exact started
  · rename_i result
    rw [result] at started
    exact started

private theorem finish_related (dispatches : Dispatches related)
    (system : ActorSystem) (stack : List Activation) (batch : Batch) :
    related system (finish system stack batch).system := by
  unfold finish
  split
  · simp only
    split
    · exact dispatches.refl system
    · split
      · exact launch_related dispatches _ _ _ _ _
      · exact dispatches.refl system
  · exact dispatches.refl system

private theorem proceed_related (dispatches : Dispatches related) {batch : Batch}
    (proceeded : proceed system stack batch = .ok next) :
    related system next.system := by
  unfold proceed at proceeded
  split at proceeded
  · cases proceeded
  · rename_i service found
    have continued := dispatches.continues system batch service found
    split at proceeded
    · rename_i result
      rw [result] at continued
      simp only [Except.ok.injEq] at proceeded
      subst proceeded
      exact continued
    · rename_i result
      rw [result] at continued
      simp only [Except.ok.injEq] at proceeded
      subst proceeded
      exact dispatches.trans continued (finish_related dispatches _ _ _)

/-- A callback returns. -/
theorem resume_related (dispatches : Dispatches related)
    (resumed : machine.resume = .ok next) :
    related machine.system next.system := by
  unfold resume at resumed
  split at resumed
  · cases resumed
  · split at resumed
    · cases resumed
    · split at resumed
      · unfold observed at resumed
        split at resumed
        · cases resumed
        · simp only [Except.ok.injEq] at resumed
          subst resumed
          exact dispatches.records _ _ _
      · unfold handled at resumed
        exact dispatches.trans (dispatches.records _ _ _)
          (proceed_related dispatches resumed)

/-- A callback throws. -/
theorem unwind_related (dispatches : Dispatches related)
    (unwound : machine.unwind = .ok next) :
    related machine.system next.system := by
  unfold unwind at unwound
  split at unwound
  · cases unwound
  · simp only [Except.ok.injEq] at unwound
    subst unwound
    exact dispatches.records _ _ _

/-- `run_until_idle` starts with a batch, or returns at once. -/
theorem runUntilIdle_related (dispatches : Dispatches related)
    {maxBatches maxMessagesPerService : Nat}
    (stepped : machine.step
      (.runUntilIdle maxBatches maxMessagesPerService) = .ok next) :
    related machine.system next.system := by
  simp only [step] at stepped
  split at stepped
  · simp only [Except.ok.injEq] at stepped
    subst stepped
    exact launch_related dispatches _ _ _ _ _
  · simp only [Except.ok.injEq] at stepped
    subst stepped
    exact dispatches.refl _

end Machine

end Crynet
