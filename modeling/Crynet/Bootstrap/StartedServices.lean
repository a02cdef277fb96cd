import Crynet.Actor.Integrity
import Crynet.Bootstrap.Bootstrapper

/-!
# What a start leaves behind

`start` registers and boots one service after the other and returns at the first
name that is taken.  Nothing is taken back, so the services before it stay.
-/

namespace Crynet

namespace ActorSystem

variable {system next : ActorSystem}

/-- The system with another value of the handle counter. -/
def withCounter (system : ActorSystem) (nextHandle : ServiceHandle) :
    ActorSystem :=
  { system with
    handleRegistry := { system.handleRegistry with nextHandle := nextHandle } }

/-- The boot message of a service. -/
def bootMessage (service : BootstrapServiceConfig) (handle : ServiceHandle) :
    Message :=
  Message.fromText .system 0 handle 0 service.bootPayload

/-- The messages a service is booted with. -/
def bootMessages (service : BootstrapServiceConfig) (handle : ServiceHandle) :
    List Message :=
  if service.bootPayload = [] then [] else [bootMessage service handle]

/-- What booting a service does to the scheduler. -/
def bootReady (scheduler : WorkerScheduler)
    (entry : BootstrapServiceConfig × ServiceHandle) : WorkerScheduler :=
  if entry.1.bootPayload = [] then scheduler
  else (scheduler.markReady entry.2).2

/-- One service is registered, under a fresh handle, and booted. -/
structure Boots (system : ActorSystem) (service : BootstrapServiceConfig)
    (handle : ServiceHandle) (next : ActorSystem) : Prop where
  allocated : ∃ registry,
    system.handleRegistry.allocate = some (handle, registry) ∧
      next.handleRegistry.nextHandle = registry.nextHandle
  fresh : handle ∉ system.services
  services : ∃ slot, slot.context =
      { handle := handle
        serviceName := service.name
        state := .running } ∧
    slot.queue.messages = bootMessages service handle ∧
    next.services = system.services.insert handle slot
  names : ∀ name, next.findServiceHandle name =
    if name = service.name ∧ name ≠ [] then some handle
    else system.findServiceHandle name
  unnamed : service.name ≠ [] → system.findServiceHandle service.name = none
  scheduler : next.scheduler = bootReady system.scheduler (service, handle)
  sessionManager : next.sessionManager = system.sessionManager
  timerQueue : next.timerQueue = system.timerQueue
  invocations : ∀ handle, Mailbox.deliveredTo handle next.history =
    Mailbox.deliveredTo handle system.history
  integral : next.Integral

/-- A registration that fails has found the name taken. -/
theorem registerService_none {serviceName : Text}
    (performed : system.registerService serviceName = some (none, next)) :
    (system.findServiceHandle serviceName).isSome = true ∧
      ∃ counter, next = system.withCounter counter := by
  obtain ⟨handle, allocated, allocation, ⟨_, shape⟩ | ⟨given, _⟩⟩ :=
    registerService_cases performed
  · obtain ⟨nonzero, free, counter⟩ :=
      HandleRegistry.allocate_some allocation
    subst counter
    refine ⟨?_, handle + 1, shape⟩
    by_contra untaken
    have unknown : ¬(handle = 0 ∨
        handle ∈ system.handleRegistry.handleToName) := by
      rw [not_or]
      exact ⟨nonzero, free⟩
    have unnamed : serviceName ∉ system.handleRegistry.nameToHandle := by
      intro member
      exact untaken (AList.lookup_isSome.mpr member)
    simp only [registerService, allocation, ServiceContext.initializeContext,
      ServiceContext.start, ne_eq, not_true_eq_false, if_false, reduceCtorEq,
      or_self, HandleRegistry.registerService, HandleRegistry.contains_iff,
      if_neg unknown, if_neg unnamed] at performed
    split at performed <;> simp at performed
  · cases given

/-- A registration that succeeds. -/
theorem registerService_some (integral : system.Integral) {serviceName : Text}
    {handle : ServiceHandle}
    (performed : system.registerService serviceName =
      some (some handle, next)) :
    system.Boots { name := serviceName } handle next := by
  have kept : next.Integral :=
    integral.of_changes (registerService_changes performed)
  obtain ⟨allotted, allocated, allocation, ⟨none, _⟩ | ⟨same, shape⟩⟩ :=
    registerService_cases performed
  · cases none
  · cases same
    obtain ⟨registry, registered, rfl⟩ := shape
    obtain ⟨nonzero, free, counter⟩ :=
      HandleRegistry.allocate_some allocation
    obtain ⟨_, _, next, _⟩ := HandleRegistry.registerService_true registered
    obtain ⟨handles, names⟩ := HandleRegistry.registerService_maps registered
    have fresh : handle ∉ system.services := by
      intro member
      exact free ((integral.registered handle).mp member)
    subst counter
    refine
      { allocated := ⟨_, allocation, next⟩
        fresh := fresh
        services := ?_
        names := ?_
        unnamed := ?_
        scheduler := rfl
        sessionManager := rfl
        timerQueue := rfl
        invocations := ?_
        integral := kept }
    · refine ⟨_, rfl, ?_, AssociationMap.emplace_of_notMem fresh _⟩
      rfl
    · intro name
      rcases names with ⟨nameless, same⟩ | ⟨named, unknown, same⟩
      · simp only at nameless
        have other : ¬(name = serviceName ∧ name ≠ []) := by
          rintro ⟨equal, named⟩
          exact named (equal.trans nameless)
        rw [if_neg other]
        show registry.nameToHandle.lookup name = _
        rw [same]
        rfl
      · show registry.nameToHandle.lookup name = _
        rw [same, AssociationMap.lookup_insert_eq]
        by_cases here : name = serviceName
        · subst here
          simp [named]
        · simp only [here, if_false, false_and]
          rfl
    · intro named
      rcases names with ⟨nameless, _⟩ | ⟨_, unknown, _⟩
      · exact absurd nameless named
      · exact AssociationMap.lookup_none_iff.mpr unknown
    · intro other
      exact (Mailbox.deliveredTo_append _ _ _).trans (List.append_nil _)

/-- Sending the boot message to a service that has just been registered. -/
theorem Boots.booted {service : BootstrapServiceConfig}
    {handle : ServiceHandle}
    (registered : system.Boots { name := service.name } handle next)
    (payload : service.bootPayload ≠ []) :
    (next.send (bootMessage service handle)).1 = true ∧
      system.Boots service handle
        (next.send (bootMessage service handle)).2 := by
  obtain ⟨slot, context, empty, services⟩ := registered.services
  have found : next.services.lookup
      (bootMessage service handle).targetHandle = some slot := by
    rw [services]
    exact AList.lookup_insert _
  have sent : (next.send (bootMessage service handle)).1 = true := by
    apply (registered.integral.send_true_iff _).mpr
    exact ⟨slot, found, by rw [context]⟩
  have kept : (next.send (bootMessage service handle)).2.Integral :=
    registered.integral.of_changes (send_changes _ _)
  have keeps := next.send_keeps (bootMessage service handle)
  have written := next.send_history (bootMessage service handle)
  rw [sent, if_pos rfl] at written
  refine ⟨sent, ?_⟩
  rcases next.send_cases (bootMessage service handle) with
    ⟨_, shape⟩ | ⟨same, again, _, accepted, shape⟩
  · rw [shape] at sent
    cases sent
  · rw [found] at again
    cases again
    have messages := MessageQueue.enqueue_true accepted
    refine
      { allocated := ?_
        fresh := registered.fresh
        services := ?_
        names := ?_
        unnamed := registered.unnamed
        scheduler := ?_
        sessionManager :=
          keeps.sessionManager.trans registered.sessionManager
        timerQueue := keeps.timerQueue.trans registered.timerQueue
        invocations := ?_
        integral := kept }
    · rw [keeps.handleRegistry]
      exact registered.allocated
    · let queue :=
        (slot.queue.enqueue (bootMessage service handle)).2.takeOverload.2
      rw [shape]
      refine ⟨{ context := slot.context, queue := queue }, context, ?_, ?_⟩
      · show queue.messages = _
        rw [MessageQueue.takeOverload_messages, messages, empty, bootMessages,
          bootMessages, if_pos rfl, if_neg payload, List.nil_append]
      · show next.services.insert handle _ = _
        rw [services, AList.insert_insert]
    · intro name
      show (next.send _).2.handleRegistry.nameToHandle.lookup name = _
      rw [keeps.handleRegistry]
      exact registered.names name
    · rw [shape, bootReady, if_neg payload]
      show (next.scheduler.markReady handle).2 = _
      rw [registered.scheduler, bootReady, if_pos rfl]
    · intro other
      rw [written, Mailbox.deliveredTo_append]
      exact (List.append_nil _).trans (registered.invocations other)

/-- Services booted one after the other, each with the handle it got. -/
inductive Booted : ActorSystem →
    List (BootstrapServiceConfig × ServiceHandle) → ActorSystem → Prop where
  | nil (system : ActorSystem) : Booted system [] system
  | cons {system middle next : ActorSystem} {service : BootstrapServiceConfig}
      {handle : ServiceHandle}
      {entries : List (BootstrapServiceConfig × ServiceHandle)}
      (first : system.Boots service handle middle)
      (rest : Booted middle entries next) :
      Booted system ((service, handle) :: entries) next

/-- What several services add to a system, which otherwise is as before. -/
structure Added (system : ActorSystem)
    (entries : List (BootstrapServiceConfig × ServiceHandle))
    (next : ActorSystem) : Prop where
  fresh : ∀ entry ∈ entries, entry.2 ∉ system.services
  distinct : (entries.map Prod.snd).Nodup
  kept : ∀ handle ∉ entries.map Prod.snd,
    next.services.lookup handle = system.services.lookup handle
  added : ∀ entry ∈ entries, ∃ slot,
    next.services.lookup entry.2 = some slot ∧
      slot.context =
        { handle := entry.2
          serviceName := entry.1.name
          state := .running } ∧
      slot.queue.messages = bootMessages entry.1 entry.2
  named : ∀ entry ∈ entries, entry.1.name ≠ [] →
    next.findServiceHandle entry.1.name = some entry.2
  otherNames : ∀ name, (∀ entry ∈ entries, entry.1.name = name → name = []) →
    next.findServiceHandle name = system.findServiceHandle name
  newNames : ∀ entry ∈ entries, entry.1.name ≠ [] →
    system.findServiceHandle entry.1.name = none
  scheduler : next.scheduler = entries.foldl bootReady system.scheduler
  sessionManager : next.sessionManager = system.sessionManager
  timerQueue : next.timerQueue = system.timerQueue
  invocations : ∀ handle, Mailbox.deliveredTo handle next.history =
    Mailbox.deliveredTo handle system.history

variable {entries : List (BootstrapServiceConfig × ServiceHandle)}

/-- The names of services that have been booted are still theirs. -/
theorem Added.nameKept (added : system.Added entries next) {name : Text}
    {handle : ServiceHandle}
    (known : system.findServiceHandle name = some handle) :
    next.findServiceHandle name = some handle := by
  rw [added.otherNames, known]
  rintro entry member rfl
  by_contra named
  rw [added.newNames entry member named] at known
  cases known

theorem Boots.cons {service : BootstrapServiceConfig} {handle : ServiceHandle}
    {middle : ActorSystem} (first : system.Boots service handle middle)
    (rest : middle.Added entries next) :
    system.Added ((service, handle) :: entries) next := by
  obtain ⟨slot, context, queue, services⟩ := first.services
  have known : ∀ other, middle.services.lookup other =
      if other = handle then some slot else system.services.lookup other := by
    intro other
    rw [services, AssociationMap.lookup_insert_eq]
  have later : handle ∉ entries.map Prod.snd := by
    intro member
    obtain ⟨entry, listed, same⟩ := List.mem_map.mp member
    apply rest.fresh entry listed
    rw [same, services, AList.mem_insert]
    exact Or.inl rfl
  constructor
  · intro entry member
    rcases List.mem_cons.mp member with rfl | member
    · exact first.fresh
    · intro old
      apply rest.fresh entry member
      rw [services, AList.mem_insert]
      exact Or.inr old
  · exact List.nodup_cons.mpr ⟨later, rest.distinct⟩
  · intro other unlisted
    rw [List.map_cons, List.mem_cons, not_or] at unlisted
    rw [rest.kept other unlisted.2, known, if_neg unlisted.1]
  · intro entry member
    rcases List.mem_cons.mp member with rfl | member
    · exact ⟨slot, by rw [rest.kept handle later, known, if_pos rfl], context,
        queue⟩
    · exact rest.added entry member
  · intro entry member named
    rcases List.mem_cons.mp member with rfl | member
    · apply rest.nameKept
      rw [first.names, if_pos ⟨rfl, named⟩]
    · exact rest.named entry member named
  · intro name unlisted
    rw [rest.otherNames name fun entry member =>
      unlisted entry (List.mem_cons_of_mem _ member), first.names, if_neg]
    rintro ⟨same, named⟩
    exact named (unlisted _ List.mem_cons_self same.symm)
  · intro entry member named
    rcases List.mem_cons.mp member with rfl | member
    · exact first.unnamed named
    · have unknown := rest.newNames entry member named
      rw [first.names] at unknown
      split at unknown
      · cases unknown
      · exact unknown
  · rw [rest.scheduler, first.scheduler]
    rfl
  · exact rest.sessionManager.trans first.sessionManager
  · exact rest.timerQueue.trans first.timerQueue
  · exact fun other =>
      (rest.invocations other).trans (first.invocations other)

/-- What a chain of boots adds. -/
theorem Booted.added (booted : Booted system entries next) :
    system.Added entries next := by
  induction booted with
  | nil system =>
      constructor
      · exact nofun
      · exact List.nodup_nil
      · exact fun _ _ => rfl
      · exact nofun
      · exact nofun
      · exact fun _ _ => rfl
      · exact nofun
      · rfl
      · rfl
      · rfl
      · exact fun _ => rfl
  | cons first _ induction => exact first.cons induction

/-- The handle counter is no part of what is added. -/
theorem Added.withCounter (added : system.Added entries next)
    (nextHandle : ServiceHandle) :
    system.Added entries (next.withCounter nextHandle) where
  fresh := added.fresh
  distinct := added.distinct
  kept := added.kept
  added := added.added
  named := added.named
  otherNames := added.otherNames
  newNames := added.newNames
  scheduler := added.scheduler
  sessionManager := added.sessionManager
  timerQueue := added.timerQueue
  invocations := added.invocations

end ActorSystem

namespace Bootstrapper

variable {Handler : Type} {bootstrapper next : Bootstrapper Handler}

open ActorSystem (Boots Booted)

/-- The bootstrapper once it has booted these services. -/
def adopt (bootstrapper : Bootstrapper Handler)
    (entries : List (BootstrapServiceConfig × ServiceHandle))
    (system : ActorSystem) : Bootstrapper Handler :=
  { bootstrapper with
    system := system
    slotHandlers :=
      entries.foldl
        (fun slotHandlers entry => slotHandlers.insert entry.2
          (bootstrapper.handlers.lookup entry.1.name))
        bootstrapper.slotHandlers }

/-- The loop of `start` at a service that gets a handle. -/
theorem startServices_registered {service : BootstrapServiceConfig}
    {handle : ServiceHandle} {system : ActorSystem}
    (performed : bootstrapper.system.registerService service.name =
      some (some handle, system))
    (others : List BootstrapServiceConfig) :
    startServices bootstrapper (service :: others) =
      let registered := bootstrapper.adopt [(service, handle)] system
      if service.bootPayload = [] then
        startServices registered others
      else
        let sent := system.send (ActorSystem.bootMessage service handle)
        let booted := { registered with system := sent.2 }
        if sent.1 = false then some (false, booted)
        else startServices booted others := by
  simp only [startServices, registerService, performed]
  cases found : bootstrapper.handlers.lookup service.name with
  | none =>
      simp only [adopt, List.foldl_cons, List.foldl_nil, found]
      rfl
  | some handler =>
      simp only [adopt, List.foldl_cons, List.foldl_nil, found]
      rfl

theorem startServices_refused {service : BootstrapServiceConfig}
    {system : ActorSystem}
    (performed : bootstrapper.system.registerService service.name =
      some (none, system))
    (others : List BootstrapServiceConfig) :
    startServices bootstrapper (service :: others) =
      some (false, { bootstrapper with system := system }) := by
  simp only [startServices, registerService, performed]

private theorem startServices_stuck {service : BootstrapServiceConfig}
    (performed : bootstrapper.system.registerService service.name = none)
    (others : List BootstrapServiceConfig) :
    startServices bootstrapper (service :: others) = none := by
  simp only [startServices, registerService, performed]

/-- A registration that succeeds is followed by the boot message. -/
theorem startServices_boots (integral : bootstrapper.system.Integral)
    {service : BootstrapServiceConfig} {handle : ServiceHandle}
    {registered : ActorSystem}
    (performed : bootstrapper.system.registerService service.name =
      some (some handle, registered)) :
    ∃ system, bootstrapper.system.Boots service handle system ∧
      ∀ others, startServices bootstrapper (service :: others) =
        startServices (bootstrapper.adopt [(service, handle)] system)
          others := by
  have one := ActorSystem.registerService_some integral performed
  by_cases payload : service.bootPayload = []
  · refine ⟨registered, ?_, ?_⟩
    · have same : service = { name := service.name } := by
        cases service
        simp only at payload
        rw [payload]
      rw [same]
      exact one
    · intro others
      rw [startServices_registered performed]
      simp only [if_pos payload]
  · obtain ⟨sent, boots⟩ := one.booted payload
    refine ⟨_, boots, ?_⟩
    intro others
    rw [startServices_registered performed]
    simp only [if_neg payload, sent, Bool.true_eq_false, if_false]
    rfl

/-- A run of the loop boots services up to the end or to a name that is taken,
where it returns. -/
theorem startServices_cases {services : List BootstrapServiceConfig}
    {result : Bool} (integral : bootstrapper.system.Integral)
    (started : startServices bootstrapper services = some (result, next)) :
    ∃ entries middle, Booted bootstrapper.system entries middle ∧
      startServices bootstrapper (entries.map Prod.fst) =
        some (true, bootstrapper.adopt entries middle) ∧
      (result = true ∧ services = entries.map Prod.fst ∧
          next = bootstrapper.adopt entries middle ∨
        result = false ∧ ∃ service after counter,
          services = entries.map Prod.fst ++ service :: after ∧
            (middle.findServiceHandle service.name).isSome = true ∧
            next =
              bootstrapper.adopt entries (middle.withCounter counter)) := by
  induction services generalizing bootstrapper with
  | nil =>
      simp only [startServices, Option.some.injEq, Prod.mk.injEq] at started
      obtain ⟨rfl, rfl⟩ := started
      exact ⟨[], bootstrapper.system, .nil _, rfl, Or.inl ⟨rfl, rfl, rfl⟩⟩
  | cons service services induction =>
      cases performed : bootstrapper.system.registerService service.name with
      | none =>
          rw [startServices_stuck performed] at started
          cases started
      | some outcome =>
          obtain ⟨registered, system⟩ := outcome
          cases registered with
          | none =>
              rw [startServices_refused performed] at started
              simp only [Option.some.injEq, Prod.mk.injEq] at started
              obtain ⟨rfl, rfl⟩ := started
              obtain ⟨taken, counter, moved⟩ :=
                ActorSystem.registerService_none performed
              refine ⟨[], bootstrapper.system, .nil _, rfl,
                Or.inr ⟨rfl, service, services, counter, rfl, taken, ?_⟩⟩
              rw [moved]
              rfl
          | some handle =>
              obtain ⟨booted, boots, continues⟩ :=
                startServices_boots integral performed
              rw [continues] at started
              obtain ⟨entries, middle, rest, prefixed, outcome⟩ :=
                induction boots.integral started
              refine ⟨(service, handle) :: entries, middle,
                .cons boots rest, ?_, ?_⟩
              · rw [List.map_cons, continues]
                exact prefixed
              · rcases outcome with ⟨done, all, same⟩ |
                  ⟨done, refused, after, counter, split, taken, same⟩
                · refine Or.inl ⟨done, ?_, same⟩
                  rw [all]
                  rfl
                · refine Or.inr ⟨done, refused, after, counter, ?_, taken,
                    same⟩
                  rw [split]
                  rfl

/-- `start` has stopped at a service whose name was taken, having booted the
services before it. -/
structure StoppedAt (bootstrapper : Bootstrapper Handler)
    (config : BootstrapConfig)
    (entries : List (BootstrapServiceConfig × ServiceHandle))
    (service : BootstrapServiceConfig) (next : Bootstrapper Handler) :
    Prop where
  split : ∃ after,
    config.services = entries.map Prod.fst ++ service :: after
  taken : (bootstrapper.findServiceHandle service.name).isSome = true ∨
    ∃ entry ∈ entries, entry.1.name = service.name
  prefixed : ∃ middle counter,
    startServices bootstrapper (entries.map Prod.fst) = some (true, middle) ∧
      next = { middle with system := middle.system.withCounter counter }
  added : bootstrapper.system.Added entries next.system

private theorem stoppedAt_of_false {config : BootstrapConfig}
    (integral : bootstrapper.system.Integral)
    (started : bootstrapper.start config = some (false, next)) :
    ∃ entries service, bootstrapper.StoppedAt config entries service next := by
  obtain ⟨entries, middle, booted, prefixed, ⟨done, _⟩ |
    ⟨_, service, after, counter, split, taken, rfl⟩⟩ :=
      startServices_cases integral started
  · cases done
  · have added := booted.added
    refine ⟨entries, service, ⟨after, split⟩, ?_, ⟨_, counter, prefixed, rfl⟩,
      added.withCounter counter⟩
    by_cases earlier : ∃ entry ∈ entries, entry.1.name = service.name
    · exact Or.inr earlier
    · left
      rw [added.otherNames service.name fun entry member same =>
        absurd ⟨entry, member, same⟩ earlier] at taken
      exact taken

/-- A start that returns false leaves the services before the first name that
is taken. -/
theorem start_false {now : TimePoint} {actions : List Action}
    {machine : Machine} {config : BootstrapConfig}
    (reached : Machine.Reaches Machine.Unrestricted now actions machine)
    (there : bootstrapper.system = machine.system)
    (started : bootstrapper.start config = some (false, next)) :
    ∃ entries service, bootstrapper.StoppedAt config entries service next := by
  apply stoppedAt_of_false _ started
  rw [there]
  exact Machine.reaches_integral reached

open Text (ofAscii)

/-- The second service of that name is refused, the first one stays. -/
theorem start_false_twice :
    ∃ next : Bootstrapper Unit, ∃ entries service,
      (Bootstrapper.new 0).StoppedAt
        { services :=
            [{ name := ofAscii "a", bootPayload := ofAscii "x" },
              { name := ofAscii "a", bootPayload := ofAscii "y" }] }
        entries service next := by
  cases started : (Bootstrapper.new 0 : Bootstrapper Unit).start
      { services :=
          [{ name := ofAscii "a", bootPayload := ofAscii "x" },
            { name := ofAscii "a", bootPayload := ofAscii "y" }] } with
  | none => exact absurd started (by decide)
  | some outcome =>
      obtain ⟨result, next⟩ := outcome
      cases result with
      | true =>
          have accepted := congrArg (Option.map Prod.fst) started
          rw [show Option.map Prod.fst _ = some false by decide] at accepted
          cases accepted
      | false =>
          have empty : Machine.Reaches Machine.Unrestricted 0 []
              (Machine.new 0) := .nil
          exact ⟨next, start_false empty rfl started⟩

/-- A start that returns false and has registered a service. -/
theorem start_partial :
    ((BootstrapConfig.fromText (ofAscii "service a x\nservice a y")).bind
        ((Bootstrapper.new 0 : Bootstrapper Unit).start)).map
      (fun outcome => (outcome.1, outcome.2.system.services.keys,
        outcome.2.findServiceHandle (ofAscii "a"),
        outcome.2.system.pendingMessages 1,
        outcome.2.system.scheduler.readyQueue.handles)) =
      some (false, [1], some 1, 1, [1]) ∧
    (Bootstrapper.new 0 : Bootstrapper Unit).system.services.keys = [] ∧
    (Bootstrapper.new 0 : Bootstrapper Unit).findServiceHandle
      (ofAscii "a") = none ∧
    (Bootstrapper.new 0 : Bootstrapper Unit).system.pendingMessages 1 = 0 ∧
    (Bootstrapper.new 0 : Bootstrapper
      Unit).system.scheduler.readyQueue.handles = [] := by
  decide

end Bootstrapper

end Crynet
