import Crynet.Actor.Threading
import Crynet.Foundation.FillCycles
import Mathlib.Data.FinEnum

/-!
# Overload events and the peak depth

The threshold of a queue doubles when the queue grows past it and goes back
when the queue is emptied.  So it is the least threshold that the crest of the
present fill cycle has not passed: a queue carries the meter of its own
history.  Sending moves the meter and the counters of the system together;
everything else only takes messages away.
-/

namespace Crynet

open FillCycles (Meter exceeded exceeded_eq exceeded_le_iff exceeded_succ)

/-- The overload events that a fill cycle is worth. -/
abbrev overloads : Nat → Nat :=
  exceeded 1024

namespace MessageQueue

/-- A queue that knows its present fill cycle by the threshold alone. -/
structure Metered (queue : MessageQueue) (meter : Meter) : Prop where
  threshold : queue.overloadThreshold = 1024 * 2 ^ overloads meter.present
  taken : queue.overloadSize = 0
  below : queue.size ≤ meter.present
  emptied : queue.size = 0 → meter.present = 0

variable {queue rest : MessageQueue} {message : Message} {meter : Meter}

private theorem raiseThreshold_below {size threshold : Nat}
    (below : size ≤ threshold) (rounds overload : Nat) :
    raiseThreshold size rounds threshold overload = (threshold, overload) := by
  cases rounds with
  | zero => rfl
  | succ rounds =>
      rw [raiseThreshold, if_neg (Nat.not_lt.mpr below)]

/-- A queue that grows by one message passes one threshold at most. -/
theorem raiseThreshold_passed {threshold : Nat} (positive : 0 < threshold)
    (rounds overload : Nat) :
    raiseThreshold (threshold + 1) (rounds + 1) threshold overload =
      (threshold * 2, threshold + 1) := by
  rw [raiseThreshold, if_pos (Nat.lt_succ_self threshold)]
  apply raiseThreshold_below
  omega

private theorem ofOwner_metered (ownerHandle : ServiceHandle) (meter : Meter) :
    (ofOwner ownerHandle).Metered (meter.sample overloads 0) where
  threshold := rfl
  taken := rfl
  below := Nat.le_refl 0
  emptied := fun _ => rfl

theorem Metered.same (metered : queue.Metered meter) :
    meter.sample overloads queue.size = meter :=
  Meter.sample_same rfl metered.below metered.emptied

private theorem dequeue_size (taken : queue.dequeue = some (message, rest)) :
    queue.size = rest.size + 1 := by
  rw [size, (dequeue_some taken).1]
  rfl

/-- The threshold goes back with the last message. -/
theorem Metered.dequeue (metered : queue.Metered meter)
    (taken : queue.dequeue = some (message, rest)) :
    rest.Metered (meter.sample overloads rest.size) := by
  have shorter := dequeue_size taken
  have below := metered.below
  have settings : rest.overloadSize = queue.overloadSize ∧
      rest.overloadThreshold =
        if rest.messages = [] then 1024 else queue.overloadThreshold := by
    unfold MessageQueue.dequeue at taken
    split at taken
    · cases taken
    · simp only [Option.some.injEq, Prod.mk.injEq] at taken
      obtain ⟨_, rfl⟩ := taken
      exact ⟨rfl, rfl⟩
  by_cases empty : rest.messages = []
  · have zero : rest.size = 0 := by
      rw [size, empty]
      rfl
    rw [zero]
    constructor
    · rw [settings.2, if_pos empty]
      rfl
    · exact settings.1.trans metered.taken
    · exact Nat.le_of_eq zero
    · exact fun _ => rfl
  · have left : rest.size ≠ 0 := by
      rw [size, Ne, List.length_eq_zero_iff]
      exact empty
    have present : (meter.sample overloads rest.size).present =
        meter.present := by
      simp only [Meter.sample, if_neg left]
      omega
    constructor
    · rw [settings.2, if_neg empty, present]
      exact metered.threshold
    · exact settings.1.trans metered.taken
    · rw [present]
      omega
    · exact fun zero => absurd zero left

/-- A message that is the first beyond the threshold is reported, and the meter
goes up with it. -/
theorem Metered.enqueue (metered : queue.Metered meter)
    (accepted : (queue.enqueue message).1 = true) :
    let filled := (queue.enqueue message).2
    filled.size = queue.size + 1 ∧
      filled.takeOverload.2.Metered (meter.sample overloads filled.size) ∧
      (meter.sample overloads filled.size).reading overloads =
        meter.reading overloads +
          if filled.takeOverload.1.isSome then 1 else 0 := by
  intro filled
  have longer : filled.size = queue.size + 1 := by
    rw [size, enqueue_true accepted, List.length_append]
    rfl
  have settings : (filled.overloadThreshold, filled.overloadSize) =
      raiseThreshold filled.size filled.size queue.overloadThreshold 0 := by
    by_cases addressed : message.targetHandle = queue.ownerHandle
    · have kept : ¬message.targetHandle ≠ queue.ownerHandle := by
        simp [addressed]
      rw [longer, ← metered.taken]
      simp only [filled, MessageQueue.enqueue, dif_neg kept,
        List.length_append]
      rfl
    · rw [enqueue_misaddressed addressed] at accepted
      cases accepted
  have below := metered.below
  have left : filled.size ≠ 0 := by omega
  have present : (meter.sample overloads filled.size).present =
      max meter.present filled.size := by
    simp only [Meter.sample, if_neg left]
  have past : (meter.sample overloads filled.size).past = meter.past := by
    simp only [Meter.sample, if_neg left]
  have limit : meter.present ≤ queue.overloadThreshold := by
    rw [metered.threshold]
    apply (exceeded_le_iff (by decide) _).mp
    exact Nat.le_refl _
  by_cases fits : filled.size ≤ queue.overloadThreshold
  · rw [raiseThreshold_below fits, Prod.mk.injEq] at settings
    have untouched : filled.takeOverload = (none, filled) := by
      rw [takeOverload, if_pos settings.2]
    have same : overloads (max meter.present filled.size) =
        overloads meter.present := by
      apply exceeded_eq (by decide) (Nat.le_max_left _ _)
      rw [← metered.threshold]
      exact Nat.max_le.mpr ⟨limit, fits⟩
    rw [untouched]
    refine ⟨longer, ⟨?_, settings.2, ?_, fun zero => absurd zero left⟩, ?_⟩
    · rw [present, same]
      exact settings.1.trans metered.threshold
    · rw [present]
      exact Nat.le_max_right _ _
    · rw [Meter.reading, Meter.reading, past, present, same]
      rfl
  · have passed : filled.size = queue.overloadThreshold + 1 := by omega
    rw [passed, raiseThreshold_passed queue.thresholdPositive,
      Prod.mk.injEq] at settings
    have reported : filled.takeOverload =
        (some (queue.overloadThreshold + 1),
          { filled with overloadSize := 0 }) := by
      rw [takeOverload, settings.2, if_neg (Nat.succ_ne_zero _)]
    have crest : max meter.present filled.size = filled.size := by omega
    have more : overloads filled.size = overloads meter.present + 1 := by
      apply exceeded_succ (by decide)
      rw [passed, metered.threshold]
    rw [reported]
    refine ⟨longer, ⟨?_, rfl, ?_, fun zero => absurd zero left⟩, ?_⟩
    · rw [present, crest, more, Nat.pow_succ, ← Nat.mul_assoc,
        ← metered.threshold]
      exact settings.1
    · rw [present, crest]
      exact Nat.le_refl _
    · rw [Meter.reading, Meter.reading, past, present, crest, more]
      rfl

end MessageQueue

namespace ActorSystem

/-- A meter for each handle, shown the present depth of its queue. -/
def sampled (meters : ServiceHandle → Meter) (system : ActorSystem) :
    ServiceHandle → Meter :=
  fun handle => (meters handle).sample overloads (system.pendingMessages handle)

/-- Every queue carries the meter of its handle. -/
structure QueuesMetered (meters : ServiceHandle → Meter)
    (system : ActorSystem) : Prop where
  queues : ∀ handle service, system.services.lookup handle = some service →
    service.queue.Metered (meters handle)
  absent : ∀ handle, system.services.lookup handle = none →
    (meters handle).present = 0

/-- The counters show what all meters show together.  The peak is a 64-bit
number and shows a depth that is one. -/
structure CountersMetered (meters : ServiceHandle → Meter)
    (metrics : MetricsSystem) : Prop where
  events : metrics.queueOverloadEvents =
    UInt64.ofNat (∑ handle, (meters handle).reading overloads)
  peak : (∀ handle, (meters handle).greatest < UInt64.size) →
    IsGreatest (Set.range fun handle => (meters handle).greatest)
      metrics.peakQueueDepth.toNat

structure Metered (meters : ServiceHandle → Meter) (system : ActorSystem) :
    Prop extends QueuesMetered meters system where
  counters : CountersMetered meters system.metrics

/-- Queues have only become shorter, and carry their meters on. -/
structure Drains (system next : ActorSystem) : Prop where
  falls : ∀ handle, next.pendingMessages handle ≤ system.pendingMessages handle
  metered : ∀ meters, QueuesMetered meters system →
    QueuesMetered (sampled meters next) next

variable {system next final : ActorSystem}
variable {meters : ServiceHandle → Meter} {handle : ServiceHandle}

theorem pendingMessages_some {service : ServiceSlot}
    (found : system.services.lookup handle = some service) :
    system.pendingMessages handle = service.queue.size := by
  rw [pendingMessages, found]

theorem pendingMessages_none
    (missing : system.services.lookup handle = none) :
    system.pendingMessages handle = 0 := by
  rw [pendingMessages, missing]

theorem QueuesMetered.below (metered : QueuesMetered meters system)
    (handle : ServiceHandle) :
    system.pendingMessages handle ≤ (meters handle).present := by
  cases found : system.services.lookup handle with
  | none =>
      rw [pendingMessages_none found]
      exact Nat.zero_le _
  | some service =>
      rw [pendingMessages_some found]
      exact (metered.queues handle service found).below

theorem QueuesMetered.emptied (metered : QueuesMetered meters system)
    (empty : system.pendingMessages handle = 0) :
    (meters handle).present = 0 := by
  cases found : system.services.lookup handle with
  | none => exact metered.absent handle found
  | some service =>
      rw [pendingMessages_some found] at empty
      exact (metered.queues handle service found).emptied empty

theorem QueuesMetered.same (metered : QueuesMetered meters system) :
    sampled meters system = meters := by
  funext handle
  apply Meter.sample_same rfl (metered.below handle)
  exact metered.emptied

theorem Metered.again (metered : Metered meters system) :
    Metered (sampled meters system) system := by
  rw [metered.same]
  exact metered

theorem Drains.refl (system : ActorSystem) : system.Drains system where
  falls := fun _ => Nat.le_refl _
  metered := by
    intro meters metered
    rw [metered.same]
    exact metered

theorem Drains.trans (first : system.Drains next)
    (second : next.Drains final) : system.Drains final where
  falls := fun handle => Nat.le_trans (second.falls handle) (first.falls handle)
  metered := by
    intro meters metered
    have skipped : sampled (sampled meters next) final =
        sampled meters final := by
      funext handle
      apply Meter.sample_fall rfl (second.falls handle)
      exact Nat.le_trans (first.falls handle) (metered.below handle)
    rw [← skipped]
    exact second.metered _ (first.metered _ metered)

/-- Every slot is as it was, new, or short of its first message. -/
theorem Drains.of_slots
    (slots : ∀ handle service, next.services.lookup handle = some service →
      (∃ earlier, system.services.lookup handle = some earlier ∧
        (service.queue = earlier.queue ∨
          ∃ message, earlier.queue.dequeue = some (message, service.queue))) ∨
      service.queue = MessageQueue.ofOwner handle) :
    system.Drains next := by
  constructor
  · intro handle
    cases found : next.services.lookup handle with
    | none =>
        rw [pendingMessages_none found]
        exact Nat.zero_le _
    | some service =>
        rw [pendingMessages_some found]
        rcases slots handle service found with
          ⟨earlier, known, same | ⟨message, taken⟩⟩ | new
        · rw [pendingMessages_some known, same]
        · have shorter := MessageQueue.dequeue_size taken
          rw [pendingMessages_some known]
          omega
        · rw [new]
          exact Nat.zero_le _
  · intro meters metered
    constructor
    · intro handle service found
      rw [sampled, pendingMessages_some found]
      rcases slots handle service found with
        ⟨earlier, known, same | ⟨message, taken⟩⟩ | new
      · have before := metered.queues handle earlier known
        rw [same, before.same]
        exact before
      · exact (metered.queues handle earlier known).dequeue taken
      · rw [new]
        exact MessageQueue.ofOwner_metered handle (meters handle)
    · intro handle missing
      rw [sampled, pendingMessages_none missing]
      rfl

theorem Drains.of_services (same : next.services = system.services) :
    system.Drains next := by
  apply Drains.of_slots
  intro handle service found
  rw [same] at found
  exact Or.inl ⟨service, found, Or.inl rfl⟩

/-- One slot is written back. -/
theorem Drains.of_slot {service changed : ServiceSlot}
    (found : system.services.lookup handle = some service)
    (queue : changed.queue = service.queue ∨
      ∃ message, service.queue.dequeue = some (message, changed.queue))
    (services : next.services = system.services.insert handle changed) :
    system.Drains next := by
  apply Drains.of_slots
  intro other slot known
  rw [services, AssociationMap.lookup_insert_eq] at known
  split at known
  · rename_i same
    subst same
    cases known
    exact Or.inl ⟨service, found, queue⟩
  · exact Or.inl ⟨slot, known, Or.inl rfl⟩

theorem addService_drains (system : ActorSystem) (registry : HandleRegistry)
    (handle : ServiceHandle) (context : ServiceContext) :
    system.Drains (system.addService registry handle context) := by
  apply Drains.of_slots
  intro other slot known
  simp only [addService, AssociationMap.lookup_emplace] at known
  split at known
  · exact Or.inl ⟨slot, known, Or.inl rfl⟩
  · split at known
    · rename_i same
      subst same
      cases known
      exact Or.inr rfl
    · exact Or.inl ⟨slot, known, Or.inl rfl⟩

theorem removeService_drains (system : ActorSystem) (handle : ServiceHandle)
    (service : ServiceSlot) :
    system.Drains (system.removeService handle service) := by
  apply Drains.of_slots
  intro other slot known
  simp only [removeService, AssociationMap.lookup_erase_eq] at known
  split at known
  · cases known
  · exact Or.inl ⟨slot, known, Or.inl rfl⟩

private theorem continueBatch_drains {batch : Batch} {service : ServiceSlot}
    (found : system.services.lookup batch.handle = some service) :
    system.Drains (system.continueBatch batch service).2 := by
  unfold continueBatch
  split
  · split
    · exact Drains.of_services rfl
    · rename_i message queue taken
      simp only
      split
      · exact Drains.of_slot found (Or.inr ⟨message, taken⟩) rfl
      · exact Drains.of_slot found (Or.inr ⟨message, taken⟩) rfl
  · exact Drains.of_services rfl

private theorem startBatch_drains (system : ActorSystem)
    (maxMessagesPerService : Nat) (observed : Bool) (caller : Caller) :
    system.Drains
      (system.startBatch maxMessagesPerService observed caller).2 := by
  unfold startBatch
  split
  · exact .refl system
  · split
    · exact Drains.of_services rfl
    · rename_i handle scheduler _ _ service found
      have acquired : system.Drains { system with scheduler := scheduler } :=
        Drains.of_services rfl
      exact acquired.trans (continueBatch_drains found)

theorem drains_dispatches : Dispatches Drains where
  refl := .refl
  trans := .trans
  starts := startBatch_drains
  continues := fun _ _ _ found => continueBatch_drains found
  records := fun _ _ _ => Drains.of_services rfl

end ActorSystem

/-- The load counters are as they were. -/
structure MetricsSystem.SameLoad (metrics next : MetricsSystem) : Prop where
  queueOverloadEvents : next.queueOverloadEvents = metrics.queueOverloadEvents
  peakQueueDepth : next.peakQueueDepth = metrics.peakQueueDepth

namespace ActorSystem

variable {system next final : ActorSystem}
variable {meters : ServiceHandle → Meter} {handle : ServiceHandle}

/-- Taking messages away moves neither counters nor meters. -/
theorem Metered.drained (metered : Metered meters system)
    (drains : system.Drains next)
    (same : system.metrics.SameLoad next.metrics) :
    Metered (sampled meters next) next where
  toQueuesMetered := drains.metered meters metered.toQueuesMetered
  counters := by
    have known : ∀ handle,
        next.pendingMessages handle ≤ (meters handle).present :=
      fun handle => Nat.le_trans (drains.falls handle) (metered.below handle)
    have readings : ∀ handle, (sampled meters next handle).reading overloads =
        (meters handle).reading overloads :=
      fun handle => Meter.reading_sample_le rfl (known handle)
    have heights : ∀ handle, (sampled meters next handle).greatest =
        (meters handle).greatest :=
      fun handle => Meter.greatest_sample_le (known handle)
    constructor
    · simp only [readings]
      exact same.queueOverloadEvents.trans metered.counters.events
    · simp only [heights, same.peakQueueDepth]
      exact metered.counters.peak

/-- What other counters and stores do does not matter. -/
theorem Metered.recounted (metered : Metered meters system)
    (services : next.services = system.services)
    (same : system.metrics.SameLoad next.metrics) : Metered meters next where
  queues := by
    rw [services]
    exact metered.queues
  absent := by
    rw [services]
    exact metered.absent
  counters := by
    constructor
    · exact same.queueOverloadEvents.trans metered.counters.events
    · rw [same.peakQueueDepth]
      exact metered.counters.peak

/-- The counters of `send` move with the meter of the queue that grows. -/
theorem CountersMetered.grown {metrics : MetricsSystem} {depth : Nat}
    {moved : ServiceHandle → Meter} {overload : Bool}
    (counters : CountersMetered meters metrics)
    (others : ∀ other, other ≠ handle → moved other = meters other)
    (target : moved handle = (meters handle).sample overloads depth)
    (reading : (moved handle).reading overloads =
      (meters handle).reading overloads + if overload = true then 1 else 0) :
    CountersMetered moved
      (if overload = true then
        (metrics.onMessageEnqueued.observeQueueDepth depth).onQueueOverload
      else
        metrics.onMessageEnqueued.observeQueueDepth depth) := by
  have events : ∑ other, (moved other).reading overloads =
      ∑ other, (meters other).reading overloads +
        if overload = true then 1 else 0 := by
    apply FillCycles.sum_risen _ reading
    intro other different
    rw [others other different]
  have heights : ∀ other, other ≠ handle →
      (moved other).greatest = (meters other).greatest := by
    intro other different
    rw [others other different]
  have height : (moved handle).greatest =
      max (meters handle).greatest depth := by
    rw [target]
    rfl
  constructor
  · rw [events, UInt64.ofNat_add, ← counters.events]
    split
    · simp [MetricsSystem.onQueueOverload, MetricsSystem.onMessageEnqueued]
    · simp [MetricsSystem.onMessageEnqueued]
  · intro small
    have fits : depth < UInt64.size := by
      have bound := small handle
      omega
    have before : ∀ other, (meters other).greatest < UInt64.size := by
      intro other
      have bound := small other
      by_cases same : other = handle
      · subst same
        omega
      · rw [heights other same] at bound
        exact bound
    have peak := MetricsSystem.observeQueueDepth_peakQueueDepth
      metrics.onMessageEnqueued fits
    have same : (if overload = true then
        (metrics.onMessageEnqueued.observeQueueDepth depth).onQueueOverload
      else
        metrics.onMessageEnqueued.observeQueueDepth depth).peakQueueDepth =
        (metrics.onMessageEnqueued.observeQueueDepth depth).peakQueueDepth := by
      split <;> rfl
    rw [same, peak]
    exact FillCycles.greatest_risen heights height (counters.peak before)

theorem Metered.accept (metered : Metered meters system)
    {service : ServiceSlot} {message : Message}
    (found : system.services.lookup message.targetHandle = some service)
    (accepted : (service.queue.enqueue message).1 = true) :
    Metered
      (sampled meters (system.accept message service.context
        (service.queue.enqueue message).2))
      (system.accept message service.context
        (service.queue.enqueue message).2) := by
  have before := metered.queues message.targetHandle service found
  obtain ⟨_, queue, reading⟩ := before.enqueue accepted
  generalize (service.queue.enqueue message).2 = filled at queue reading ⊢
  have kept : filled.takeOverload.2.size = filled.size := by
    rw [MessageQueue.size, MessageQueue.takeOverload_messages]
    rfl
  have target : sampled meters (system.accept message service.context filled)
      message.targetHandle =
        (meters message.targetHandle).sample overloads filled.size := by
    rw [sampled, pendingMessages_some (AList.lookup_insert _), kept]
  have others : ∀ other, other ≠ message.targetHandle →
      (system.accept message service.context filled).services.lookup other =
        system.services.lookup other :=
    fun other different => AList.lookup_insert_ne different
  have same : ∀ other, other ≠ message.targetHandle →
      sampled meters (system.accept message service.context filled) other =
        meters other := by
    intro other different
    have unchanged := congrFun metered.same other
    rw [sampled, pendingMessages, others other different]
    exact unchanged
  refine ⟨⟨?_, ?_⟩, ?_⟩
  · intro other slot known
    by_cases here : other = message.targetHandle
    · subst here
      cases (AList.lookup_insert system.services).symm.trans known
      rw [target]
      exact queue
    · rw [others other here] at known
      rw [same other here]
      exact metered.queues other slot known
  · intro other missing
    have different : other ≠ message.targetHandle := by
      intro here
      subst here
      cases (AList.lookup_insert system.services).symm.trans missing
    rw [others other different] at missing
    rw [same other different]
    exact metered.absent other missing
  · apply metered.counters.grown same target
    rw [target]
    exact reading

theorem Metered.send (metered : Metered meters system) (message : Message) :
    Metered (sampled meters (system.send message).2)
      (system.send message).2 := by
  rcases system.send_cases message with
    ⟨_, shape⟩ | ⟨service, found, _, accepted, shape⟩
  · rw [shape]
    exact metered.drained (Drains.of_services rfl) ⟨rfl, rfl⟩
  · rw [shape]
    exact metered.accept found accepted

end ActorSystem

end Crynet
