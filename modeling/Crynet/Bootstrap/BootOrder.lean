import Crynet.Bootstrap.BootTurns
import Crynet.Bootstrap.ConfigLines
import Crynet.Bootstrap.StartedServices

/-!
# Starting a configuration on a fresh system

When no name is used twice every service is registered, and the services that
have a payload are ready in the order of the configuration.  So
`dispatch_until_idle` calls their handlers in that order.
-/

namespace Crynet

namespace ActorSystem

variable {system next : ActorSystem}
variable {entries : List (BootstrapServiceConfig × ServiceHandle)}

/-- The turns that services are booted with. -/
def bootTurns (entries : List (BootstrapServiceConfig × ServiceHandle)) :
    List (ServiceHandle × Message) :=
  (entries.filter fun entry => entry.1.bootPayload ≠ []).map
    fun entry => (entry.2, bootMessage entry.1 entry.2)

private theorem registerService_returns {count : Nat}
    (numbered : system.handleRegistry.Numbered count)
    (few : count + 1 < 2 ^ 64) (serviceName : Text) :
    ∃ outcome, system.registerService serviceName = some outcome := by
  unfold registerService
  rw [numbered.allocate_eq few]
  simp only
  split
  · exact ⟨_, rfl⟩
  · split
    · exact ⟨_, rfl⟩
    · exact ⟨_, rfl⟩

theorem Boots.numbered {count : Nat} (integral : system.Integral)
    (numbered : system.handleRegistry.Numbered count)
    (few : count + 1 < 2 ^ 64) {service : BootstrapServiceConfig}
    {handle : ServiceHandle} (boots : system.Boots service handle next) :
    next.handleRegistry.Numbered (count + 1) := by
  obtain ⟨registry, allocated, counter⟩ := boots.allocated
  obtain ⟨slot, _, _, services⟩ := boots.services
  obtain ⟨value, moved⟩ := numbered.allocated few allocated
  constructor
  · exact counter.trans moved.counter
  · intro other member
    rw [← boots.integral.registered, services, AList.mem_insert] at member
    rcases member with rfl | old
    · exact value.le
    · have small := numbered.bounded other
        ((integral.registered other).mp old)
      exact Nat.le_succ_of_le small

theorem Booted.integral (booted : Booted system entries next)
    (integral : system.Integral) : next.Integral := by
  induction booted with
  | nil system => exact integral
  | cons first _ induction => exact induction first.integral

private theorem bootTurns_cons (entry : BootstrapServiceConfig × ServiceHandle) :
    (bootTurns (entry :: entries)).length =
      (bootMessages entry.1 entry.2).length + (bootTurns entries).length := by
  by_cases payload : entry.1.bootPayload = []
  · simp [bootTurns, bootMessages, payload]
  · simp [bootTurns, bootMessages, payload, Nat.add_comm]

/-- What is queued are the boot messages. -/
theorem Booted.queuedTotal (booted : Booted system entries next) :
    next.queuedTotal = system.queuedTotal + (bootTurns entries).length := by
  induction booted with
  | nil system => rfl
  | @cons system middle next service handle entries first rest induction =>
      obtain ⟨slot, _, queue, services⟩ := first.services
      have one : middle.queuedTotal =
          slot.queue.size + system.queuedTotal := by
        rw [ActorSystem.queuedTotal, services]
        exact AssociationMap.total_insert_of_notMem first.fresh
      have size : slot.queue.size = (bootMessages service handle).length :=
        congrArg List.length queue
      have turns : (bootTurns ((service, handle) :: entries)).length =
          (bootMessages service handle).length + (bootTurns entries).length :=
        bootTurns_cons (service, handle)
      omega

/-- Services that are new to the scheduler are ready in order. -/
theorem bootReady_ready {scheduler : WorkerScheduler}
    (distinct : (entries.map Prod.snd).Nodup)
    (idle : ∀ entry ∈ entries, entry.2 ≠ 0 ∧
      entry.2 ∉ scheduler.inFlightHandles ∧ entry.2 ∉ scheduler.ready) :
    (entries.foldl bootReady scheduler).ready =
      scheduler.ready ++ (bootTurns entries).map Prod.fst := by
  induction entries generalizing scheduler with
  | nil => exact (List.append_nil _).symm
  | cons entry entries induction =>
      rw [List.map_cons, List.nodup_cons] at distinct
      obtain ⟨nonzero, grounded, waiting⟩ := idle entry List.mem_cons_self
      by_cases payload : entry.1.bootPayload = []
      · have same : bootReady scheduler entry = scheduler := if_pos payload
        have turns : bootTurns (entry :: entries) = bootTurns entries := by
          simp [bootTurns, payload]
        rw [List.foldl_cons, same, turns]
        apply induction distinct.2
        intro other member
        exact idle other (List.mem_cons_of_mem _ member)
      · have marked : bootReady scheduler entry =
            (scheduler.markReady entry.2).2 := if_neg payload
        have turns : bootTurns (entry :: entries) =
            (entry.2, bootMessage entry.1 entry.2) :: bootTurns entries := by
          simp [bootTurns, payload]
        have ready : (scheduler.markReady entry.2).2.ready =
            scheduler.ready ++ [entry.2] := by
          rw [scheduler.markReady_ready, if_neg]
          simp [nonzero, grounded, waiting]
        rw [List.foldl_cons, marked, turns, induction distinct.2, ready,
          List.append_assoc]
        · rfl
        · intro other member
          obtain ⟨positive, resting, absent⟩ :=
            idle other (List.mem_cons_of_mem _ member)
          refine ⟨positive, ?_, ?_⟩
          · rw [scheduler.markReady_inFlightHandles]
            exact resting
          · rw [ready, List.mem_append, not_or]
            refine ⟨absent, ?_⟩
            intro same
            apply distinct.1
            rw [← List.mem_singleton.mp same]
            exact List.mem_map_of_mem member

/-- On a fresh system the services wait for their turns. -/
theorem Added.awaits {now : TimePoint} (added : (new now).Added entries next)
    (integral : next.Integral) : next.Awaits (bootTurns entries) := by
  constructor
  · rw [added.scheduler, bootReady_ready added.distinct]
    · rfl
    · intro entry member
      obtain ⟨slot, found, _⟩ := added.added entry member
      refine ⟨?_, Finset.notMem_empty _, List.not_mem_nil⟩
      intro zero
      apply integral.nonzero
      rw [← zero]
      exact AssociationMap.mem_of_lookup found
  · intro turn member
    obtain ⟨entry, kept, rfl⟩ := List.mem_map.mp member
    obtain ⟨listed, payload⟩ := List.mem_filter.mp kept
    obtain ⟨slot, found, _, queue⟩ := added.added entry listed
    refine ⟨slot, found, ?_⟩
    rw [queue, bootMessages, if_neg (of_decide_eq_true payload)]

/-- On a fresh system no handler has been called. -/
theorem Added.silent {now : TimePoint} (added : (new now).Added entries next) :
    next.invocations = [] := by
  apply List.filterMap_eq_nil_iff.mpr
  intro entry member
  cases entry with
  | delivered handle message running =>
      have delivered : message ∈ Mailbox.deliveredTo handle next.history := by
        apply List.mem_filterMap.mpr
        exact ⟨_, member, if_pos rfl⟩
      rw [added.invocations handle] at delivered
      cases delivered
  | _ => rfl

end ActorSystem

namespace Bootstrapper

variable {Handler : Type} {bootstrapper next : Bootstrapper Handler}

open ActorSystem (Booted bootTurns)

/-- The last handler bound to a name, or the default handler. -/
def lastBound (bindings : List (Text × Handler)) (serviceName : Text) :
    Option Handler :=
  Settings.last (Settings.written Prod.fst Prod.snd serviceName) bindings

private theorem bindHandlers_eq (bootstrapper : Bootstrapper Handler)
    (bindings : List (Text × Handler)) :
    bootstrapper.bindHandlers bindings =
      { bootstrapper with
        handlers :=
          bindings.foldl (fun map binding => map.insert binding.1 binding.2)
            bootstrapper.handlers } := by
  induction bindings generalizing bootstrapper with
  | nil => rfl
  | cons binding bindings induction =>
      exact induction (bootstrapper.bindHandler binding.1 binding.2)

private theorem bindHandlers_lookup (now : TimePoint)
    (bindings : List (Text × Handler)) (serviceName : Text) :
    ((new now : Bootstrapper Handler).bindHandlers
      bindings).handlers.lookup serviceName =
        lastBound bindings serviceName := by
  rw [bindHandlers_eq]
  exact (Settings.lookup_foldl_insert _ _ _).trans (Option.or_none)

/-- The slot of each service has the handler of its name. -/
theorem adopt_lookup {system : ActorSystem}
    {entries : List (BootstrapServiceConfig × ServiceHandle)}
    (distinct : (entries.map Prod.snd).Nodup)
    {entry : BootstrapServiceConfig × ServiceHandle} (member : entry ∈ entries) :
    (bootstrapper.adopt entries system).slotHandlers.lookup entry.2 =
      some (bootstrapper.handlers.lookup entry.1.name) := by
  refine (Settings.lookup_foldl_insert _ _ _).trans ?_
  rw [Settings.last_of_distinct distinct member]
  rfl

/-- The loop comes to an end while there are handles. -/
theorem startServices_returns {services : List BootstrapServiceConfig}
    {count : Nat} (integral : bootstrapper.system.Integral)
    (numbered : bootstrapper.system.handleRegistry.Numbered count)
    (few : count + services.length < 2 ^ 64) :
    ∃ outcome, startServices bootstrapper services = some outcome := by
  induction services generalizing bootstrapper count with
  | nil => exact ⟨_, rfl⟩
  | cons service services induction =>
      rw [List.length_cons] at few
      obtain ⟨⟨registered, system⟩, performed⟩ :=
        ActorSystem.registerService_returns numbered (by omega) service.name
      cases registered with
      | none => exact ⟨_, startServices_refused performed services⟩
      | some handle =>
          obtain ⟨booted, boots, continues⟩ :=
            startServices_boots integral performed
          rw [continues]
          apply induction boots.integral
          · exact boots.numbered integral numbered (by omega)
          · omega

/-- When no name is taken every service is booted. -/
theorem startServices_adopts {services : List BootstrapServiceConfig}
    {count : Nat} (integral : bootstrapper.system.Integral)
    (numbered : bootstrapper.system.handleRegistry.Numbered count)
    (few : count + services.length < 2 ^ 64)
    (distinct : (services.map BootstrapServiceConfig.name).Nodup)
    (free : ∀ service ∈ services,
      bootstrapper.system.findServiceHandle service.name = none) :
    ∃ entries system, Booted bootstrapper.system entries system ∧
      entries.map Prod.fst = services ∧
      startServices bootstrapper services =
        some (true, bootstrapper.adopt entries system) := by
  obtain ⟨⟨result, next⟩, started⟩ :=
    startServices_returns integral numbered few
  obtain ⟨entries, middle, booted, _, ⟨rfl, all, rfl⟩ |
    ⟨_, service, after, counter, split, taken, _⟩⟩ :=
      startServices_cases integral started
  · exact ⟨entries, middle, booted, all.symm, started⟩
  · have listed : service ∈ services := by
      rw [split]
      exact List.mem_append_right _ List.mem_cons_self
    rw [split, List.map_append, List.map_cons] at distinct
    have apart : ∀ entry ∈ entries,
        entry.1.name = service.name → service.name = [] := by
      intro entry member same
      have named : entry.1.name ∈
          (entries.map Prod.fst).map BootstrapServiceConfig.name :=
        List.mem_map_of_mem (List.mem_map_of_mem member)
      have other := (List.nodup_append.mp distinct).2.2 _ named _
        List.mem_cons_self
      exact absurd same other
    rw [booted.added.otherNames service.name apart, free service listed]
      at taken
    cases taken

private theorem serves_contextual (bootstrapper : Bootstrapper Handler)
    (calls : Handler → Machine → List ContextCall) :
    Machine.Contextual (bootstrapper.serves calls) := by
  intro machine busy
  unfold serves
  split
  · rename_i idle
    exact absurd idle busy
  · split
    · exact ⟨_, rfl⟩
    · exact ⟨[], rfl⟩

/-- Dispatching after a start, whatever the handlers do with their contexts. -/
theorem dispatch_turns {turns : List (ServiceHandle × Message)}
    (awaits : bootstrapper.system.Awaits turns)
    (calls : Handler → Machine → List ContextCall) {rounds maxSteps : Nat}
    (enough : min maxSteps turns.length ≤ rounds) :
    ∃ final,
      bootstrapper.dispatchUntilIdle calls rounds maxSteps = .ok final ∧
      final.stack = [] ∧
      final.answer = some (.idle maxSteps (min maxSteps turns.length)
        (min maxSteps turns.length)) ∧
      bootstrapper.system.Serves final.system (turns.take maxSteps) := by
  have contextual := bootstrapper.serves_contextual calls
  simp only [dispatchUntilIdle, Machine.perform, Machine.step]
  by_cases some : 0 < maxSteps
  · rw [if_pos some]
    obtain ⟨final, ran, idle, answer, served⟩ :=
      Machine.launch_serves contextual awaits some enough
    rw [Nat.zero_add, Nat.sub_zero] at answer
    exact ⟨final, ran, idle, answer, served⟩
  · have none : maxSteps = 0 := by omega
    subst none
    rw [if_neg some]
    refine ⟨_, Machine.serve_idle _ rounds rfl, rfl, ?_, .refl _⟩
    rw [Nat.zero_min]

/-- A configuration in which no name is used twice is started.  The length of a
text is a `std::size_t`. -/
theorem start_adopts {configText : Text} {config : BootstrapConfig}
    (read : BootstrapConfig.fromText configText = some config)
    (sized : configText.length < UInt64.size)
    (distinct : (config.services.map BootstrapServiceConfig.name).Nodup)
    (now : TimePoint) (bindings : List (Text × Handler)) :
    ∃ (entries : List (BootstrapServiceConfig × ServiceHandle))
        (system : ActorSystem),
      Booted (ActorSystem.new now) entries system ∧ system.Integral ∧
      entries.map Prod.fst = config.services ∧
      ((new now).bindHandlers bindings).start config =
        some (true, ((new now).bindHandlers bindings).adopt entries system) := by
  let fresh : Bootstrapper Handler := (new now).bindHandlers bindings
  have system : fresh.system = ActorSystem.new now := by
    show ((new now).bindHandlers bindings).system = _
    rw [bindHandlers_eq]
    rfl
  have integral : fresh.system.Integral := by
    rw [system]
    exact ActorSystem.new_integral now
  have numbered : fresh.system.handleRegistry.Numbered 0 := by
    rw [system]
    exact ⟨rfl, nofun⟩
  have few : 0 + config.services.length < 2 ^ 64 := by
    have fewer := BootstrapConfig.fromText_services read
    have size : UInt64.size = 2 ^ 64 := rfl
    omega
  have free : ∀ service ∈ config.services,
      fresh.system.findServiceHandle service.name = none := by
    intro service _
    rw [system]
    rfl
  obtain ⟨entries, middle, booted, services, started⟩ :=
    startServices_adopts integral numbered few distinct free
  have sound := booted.integral integral
  rw [system] at booted
  exact ⟨entries, middle, booted, sound, services, started⟩

/-- A configuration in which no name is used twice is started and dispatched in
order.  The length of a text is a `std::size_t`. -/
theorem start_in_order {configText : Text} {config : BootstrapConfig}
    (read : BootstrapConfig.fromText configText = some config)
    (sized : configText.length < UInt64.size)
    (distinct : (config.services.map BootstrapServiceConfig.name).Nodup)
    (now : TimePoint) (bindings : List (Text × Handler)) :
    ∃ (started : Bootstrapper Handler)
        (entries : List (BootstrapServiceConfig × ServiceHandle)),
      ((new now).bindHandlers bindings).start config = some (true, started) ∧
      entries.map Prod.fst = config.services ∧
      (entries.map Prod.snd).Nodup ∧
      (∀ entry ∈ entries,
        started.findServiceHandle entry.1.name = some entry.2 ∧
        started.system.serviceState entry.2 = some .running ∧
        started.slotHandlers.lookup entry.2 =
          some (lastBound bindings entry.1.name)) ∧
      ∀ (calls : Handler → Machine → List ContextCall) (maxSteps rounds : Nat),
        min maxSteps (bootTurns entries).length ≤ rounds →
        ∃ final,
          started.dispatchUntilIdle calls rounds maxSteps = .ok final ∧
          final.stack = [] ∧
          final.answer = some (.idle maxSteps
            (min maxSteps (bootTurns entries).length)
            (min maxSteps (bootTurns entries).length)) ∧
          final.system.invocations = (bootTurns entries).take maxSteps := by
  let fresh : Bootstrapper Handler := (new now).bindHandlers bindings
  obtain ⟨entries, middle, booted, sound, services, started⟩ :=
    start_adopts read sized distinct now bindings
  have added := booted.added
  refine ⟨fresh.adopt entries middle, entries, started, services,
    added.distinct, ?_, ?_⟩
  · intro entry member
    have listed : entry.1 ∈ config.services := by
      rw [← services]
      exact List.mem_map_of_mem member
    have named := BootstrapConfig.fromText_named read entry.1 listed
    obtain ⟨slot, found, context, _⟩ := added.added entry member
    refine ⟨added.named entry member named, ?_, ?_⟩
    · show (middle.services.lookup entry.2).map _ = _
      rw [found, Option.map_some, context]
    · rw [adopt_lookup added.distinct member]
      exact congrArg some (bindHandlers_lookup now bindings entry.1.name)
  · intro calls maxSteps rounds enough
    have awaits : (fresh.adopt entries middle).system.Awaits
        (bootTurns entries) := added.awaits sound
    obtain ⟨final, ran, idle, answer, serves⟩ :=
      dispatch_turns awaits calls enough
    refine ⟨final, ran, idle, answer, ?_⟩
    rw [serves.invocations]
    have silent : (fresh.adopt entries middle).system.invocations = [] :=
      added.silent
    rw [silent]
    rfl

open Text (ofAscii)

/-- Two services whose handlers release their contexts. -/
theorem start_in_order_released :
    ∃ (started : Bootstrapper Nat) (first second : ServiceHandle)
        (final : Machine),
      first ≠ second ∧
      started.slotHandlers.lookup first = some (some 3) ∧
      started.slotHandlers.lookup second = some none ∧
      started.dispatchUntilIdle (fun _ _ => [.release]) 64 64 = .ok final ∧
      final.answer = some (.idle 64 2 2) ∧
      final.system.invocations =
        [(first, .fromText .system 0 first 0 (ofAscii "boot")),
          (second, .fromText .system 0 second 0 (ofAscii "wake"))] := by
  obtain ⟨started, entries, _, services, apart, slots, dispatches⟩ :=
    @start_in_order Nat
      (ofAscii "service bootstrap boot\nservice worker wake\n")
      { services :=
          [{ name := ofAscii "bootstrap", bootPayload := ofAscii "boot" },
            { name := ofAscii "worker", bootPayload := ofAscii "wake" }] }
      (by decide) (by decide) (by decide) 0
      [(ofAscii "bootstrap", 2), (ofAscii "bootstrap", 3)]
  obtain ⟨⟨_, first⟩, others, rfl, rfl, rest⟩ :=
    List.map_eq_cons_iff.mp services
  obtain ⟨⟨_, second⟩, nobody, rfl, rfl, last⟩ :=
    List.map_eq_cons_iff.mp rest
  obtain rfl := List.map_eq_nil_iff.mp last
  obtain ⟨final, ran, _, answer, invocations⟩ :=
    dispatches (fun _ _ => [.release]) 64 64 (Nat.min_le_left _ _)
  refine ⟨started, first, second, final, ?_, ?_, ?_, ran, answer,
    invocations⟩
  · intro same
    subst same
    cases apart with
    | cons different _ => exact different first List.mem_cons_self rfl
  · exact (slots _ List.mem_cons_self).2.2
  · exact (slots _ (List.mem_cons_of_mem _ List.mem_cons_self)).2.2

end Bootstrapper

end Crynet
