import Crynet.Actor.Callbacks
import Crynet.Actor.Echo
import Crynet.Foundation.Mailbox.Passage

/-!
# Schedules of independent services

A program sends messages and dispatches in any order, and its handlers do
nothing but return.  The ready queue then depends on the schedule, and so does
the order in which services are served; but each handler is called with the
messages of its own service in the order in which they were sent.  A last
`run_until_idle` with a batch for each message leaves nothing behind.
-/

namespace Crynet

/-- The messages a program sends, in order. -/
def sends (actions : List Action) : List Message :=
  actions.filterMap fun action =>
    match action with
    | .send message => some message
    | _ => none

/-- The messages a program sends to a service, in order. -/
def sentTo (handle : ServiceHandle) (actions : List Action) : List Message :=
  (sends actions).filter fun message => message.targetHandle == handle

namespace Machine

/-- What a program does: it sends to a registered service, or it dispatches. -/
def Schedules (start : Machine) : Action → Prop
  | .send message => message.targetHandle ∈ start.system.services
  | action => action.Dispatches

/-- Services are registered, all of them run, and no callback does. -/
structure Ready (start : Machine) : Prop where
  alone : start.stack = []
  running : ∀ handle service,
    start.system.services.lookup handle = some service →
      service.context.state = .running

/-- The state between two calls of a program that has made some. -/
structure Played (start : Machine) (actions : List Action)
    (machine : Machine) : Prop where
  alone : machine.stack = []
  passage : ∃ more, Passage start more machine
  accepted : ∀ handle,
    machine.accepted handle = start.accepted handle ++ sentTo handle actions
  handled : start.handledCount ≤ machine.handledCount
  balance : machine.handledCount + machine.system.queuedTotal =
    start.handledCount + start.system.queuedTotal + (sends actions).length

variable {start machine final : Machine}
variable {now : TimePoint} {setup actions : List Action}

/-- What passes through the boxes while a program sends and dispatches. -/
theorem Passage.passes (reached : Reaches Careful now setup start)
    (passage : Passage start actions final) (handle : ServiceHandle) :
    Mailbox.Passes handle start.mailboxes final.mailboxes := by
  obtain ⟨before, arrived⟩ := reaches_moves reached
  obtain ⟨moves, moved⟩ := follows_mailboxes
    (fun _ _ _ _ passing licensed => licensed.ordinary passing)
    (reaches_consistent reached) passage
  exact Mailbox.Passes.of_execution (Mailbox.Tidy.of_reaches arrived) moved
    handle

theorem Passage.careful (reached : Reaches Careful now setup start)
    (passage : Passage start actions final) :
    Reaches Careful now (setup ++ actions) final :=
  reached.trans (passage.weaken fun _ _ passing => careful_of_passing passing)

/-- Services keep running. -/
theorem Passage.running_iff (reached : Reaches Careful now setup start)
    (passage : Passage start actions final) (handle : ServiceHandle) :
    (∃ service, final.system.services.lookup handle = some service ∧
        service.context.state = .running) ↔
      ∃ service, start.system.services.lookup handle = some service ∧
        service.context.state = .running := by
  have seen : ∀ machine : Machine,
      (∃ service, machine.system.services.lookup handle = some service ∧
        service.context.state = .running) ↔
      (machine.mailboxes.box handle).map Mailbox.Box.running = some true := by
    intro machine
    simp [mailboxes, ActorSystem.mailboxes, ServiceSlot.box]
  rw [seen, seen, (passage.passes reached handle).1]

private theorem Passage.registered_iff (reached : Reaches Careful now setup start)
    (passage : Passage start actions final) (handle : ServiceHandle) :
    handle ∈ final.system.services ↔ handle ∈ start.system.services := by
  have seen : ∀ machine : Machine, handle ∈ machine.system.services ↔
      ((machine.mailboxes.box handle).map Mailbox.Box.running).isSome =
        true := by
    intro machine
    simp [mailboxes, ActorSystem.mailboxes, ← AList.lookup_isSome]
  rw [seen, seen, (passage.passes reached handle).1]

/-- With nobody in the middle of a message, the line of a service is what its
handler has been called with, followed by its queue. -/
theorem line_alone (alone : machine.stack = []) (handle : ServiceHandle) :
    machine.mailboxes.line handle =
      machine.invoked handle ++ machine.system.queued handle := by
  have held : Mailbox.heldFor handle machine.mailboxes.turns = [] := by
    rw [heldFor_turns, shown, alone]
    rfl
  have waits : machine.mailboxes.waiting handle =
      machine.system.queued handle := by
    unfold Mailbox.State.waiting ActorSystem.queued
    cases found : machine.system.services.lookup handle with
    | none => rw [mailboxes, ActorSystem.absent_box found]
    | some service =>
        rw [mailboxes, ActorSystem.present_box found]
        rfl
  rw [Mailbox.State.line, held, waits, List.append_nil]
  rfl

private theorem pending_alone (alone : machine.stack = []) :
    machine.pending = machine.system.queuedTotal := by
  rw [pending, alone]
  rfl

private theorem serve_alone (alone : machine.stack = [])
    (acts : Machine → List Action) (rounds : Nat) :
    machine.serve acts rounds = .ok machine := by
  cases rounds with
  | zero => rfl
  | succ rounds => rw [serve, if_pos alone]

private theorem sends_append (actions more : List Action) :
    sends (actions ++ more) = sends actions ++ sends more :=
  List.filterMap_append

private theorem sentTo_append (handle : ServiceHandle) (actions more : List Action) :
    sentTo handle (actions ++ more) =
      sentTo handle actions ++ sentTo handle more := by
  rw [sentTo, sends_append, List.filter_append]
  rfl

/-- Calling a dispatch operation brings one callback to run, or none. -/
theorem dispatch_begins {action : Action} (dispatches : action.Dispatches)
    (alone : machine.stack = []) :
    ∃ next, machine.step action = .ok next ∧ action.Passing ∧
      next.stack.length ≤ 1 ∧ machine.system.Handles 0 next.system := by
  have launched : ∀ maxMessages observed caller,
      (launch machine.system [] maxMessages observed caller).stack.length ≤ 1 ∧
        machine.system.Handles 0
          (launch machine.system [] maxMessages observed caller).system := by
    intro maxMessages observed caller
    obtain ⟨handles, ⟨activation, shape, _⟩ | ⟨shape, _⟩⟩ :=
      launch_handles machine.system [] maxMessages observed caller
    · rw [shape]
      exact ⟨Nat.le_refl 1, handles⟩
    · rw [shape]
      exact ⟨Nat.zero_le 1, handles⟩
  cases action with
  | dispatchBatch maxMessages observed =>
      simp only [step, alone]
      exact ⟨_, rfl, trivial, launched _ _ _⟩
  | dispatchOnce =>
      simp only [step, alone]
      exact ⟨_, rfl, trivial, launched _ _ _⟩
  | runUntilIdle maxBatches maxMessages =>
      simp only [step, alone]
      split
      · exact ⟨_, rfl, trivial, launched _ _ _⟩
      · exact ⟨_, rfl, trivial, Nat.zero_le 1, .of_history rfl⟩
  | _ => exact absurd dispatches id

/-- When it begins, at most two returns are left for each queued message. -/
theorem returnsLeft_le (machine : Machine) :
    machine.returnsLeft ≤ 2 * machine.pending := by
  unfold returnsLeft pending
  cases activations : machine.stack with
  | nil => exact Nat.le_refl _
  | cons activation stack =>
      rw [List.length_cons]
      simp only
      split <;> omega

/-- A call of a dispatch operation, to its end. -/
theorem perform_dispatch (reached : Reaches Careful now setup machine)
    (alone : machine.stack = []) {action : Action}
    (dispatches : action.Dispatches) {rounds : Nat}
    (enough : 2 * machine.system.queuedTotal ≤ rounds) :
    ∃ next final count more, machine.step action = .ok next ∧
      machine.perform (fun _ => [.returns]) rounds action = .ok final ∧
      final.stack = [] ∧ Passage machine more final ∧
      machine.system.Handles 0 next.system ∧
      machine.system.Handles count final.system ∧
      ∀ base maxBatches, next.Paced base maxBatches →
        final.Paced base maxBatches := by
  obtain ⟨next, stepped, passing, single, begun⟩ :=
    dispatch_begins dispatches alone
  have later : Reaches Careful now (setup ++ [action]) next :=
    .snoc reached (careful_of_passing passing) stepped
  have kept := pending_handles (reached.weaken fun _ _ _ => trivial)
    (later.weaken fun _ _ _ => trivial) begun
  rw [pending_alone alone] at kept
  have left := next.returnsLeft_le
  obtain ⟨final, count, more, served, ended, passage, handles, paces⟩ :=
    serve_returns rounds later single (by omega)
  refine ⟨next, final, 0 + count, action :: more, stepped, ?_, ended, ?_,
    begun, begun.trans handles, paces⟩
  · rw [perform, stepped]
    exact served
  · have first : Passage machine [action] next := .single passing stepped
    exact first.trans passage

private theorem runUntilIdle_paced {next : Machine} (alone : machine.stack = [])
    {maxBatches maxMessages : Nat}
    (stepped : machine.step (.runUntilIdle maxBatches maxMessages) =
      .ok next) : next.Paced machine.handledCount maxBatches := by
  simp only [step, alone] at stepped
  split at stepped
  · rename_i some
    cases stepped
    exact launch_paced some (Nat.le_refl 0) rfl
  · cases stepped
    constructor
    · intro activation member
      cases member
    · intro _
      exact ⟨0, 0, rfl, Nat.zero_le _, Nat.le_refl 0, rfl⟩

/-- A message sent to a running service. -/
theorem perform_send (reached : Reaches Careful now setup machine)
    (alone : machine.stack = []) {message : Message} {service : ServiceSlot}
    (found : machine.system.services.lookup message.targetHandle =
      some service)
    (running : service.context.state = .running) (rounds : Nat) :
    ∃ final, machine.perform (fun _ => [.returns]) rounds (.send message) =
        .ok final ∧
      final.stack = [] ∧ Passage machine [.send message] final ∧
      final.system.history = machine.system.history ++
        [.accepted message.targetHandle message] := by
  have sent := ((reaches_integral reached).send_true_iff message).mpr
    ⟨service, found, running⟩
  have written := machine.system.send_history message
  rw [sent, if_pos rfl] at written
  have ended : (machine.setSystem (machine.system.send message).2).stack =
      [] :=
    alone
  refine ⟨machine.setSystem (machine.system.send message).2, ?_, ended, ?_,
    written⟩
  · exact serve_alone ended _ rounds
  · exact .single trivial rfl

namespace Played

/-- Every service still runs. -/
theorem running (reached : Reaches Careful now setup start)
    (ready : start.Ready) (played : Played start actions machine)
    {handle : ServiceHandle} {service : ServiceSlot}
    (found : machine.system.services.lookup handle = some service) :
    service.context.state = .running := by
  obtain ⟨more, passage⟩ := played.passage
  have present : handle ∈ machine.system.services := by
    apply AList.lookup_isSome.mp
    rw [found]
    rfl
  have known := (passage.registered_iff reached handle).mp present
  obtain ⟨original, before⟩ :=
    Option.isSome_iff_exists.mp (AList.lookup_isSome.mpr known)
  obtain ⟨same, again, runs⟩ := (passage.running_iff reached handle).mpr
    ⟨original, before, ready.running _ _ before⟩
  rw [found] at again
  cases again
  exact runs

theorem initially (alone : start.stack = []) : Played start [] start where
  alone := alone
  passage := ⟨[], .nil⟩
  accepted _ := (List.append_nil _).symm
  handled := Nat.le_refl _
  balance := rfl

/-- One more call. -/
theorem snoc (reached : Reaches Careful now setup start)
    (ready : start.Ready) (played : Played start actions machine)
    {action : Action} (scheduled : start.Schedules action) {rounds : Nat}
    (enough : 2 * (start.system.queuedTotal + (sends actions).length) ≤
      rounds) :
    ∃ final, machine.perform (fun _ => [.returns]) rounds action = .ok final ∧
      Played start (actions ++ [action]) final := by
  obtain ⟨more, passage⟩ := played.passage
  have arrived := passage.careful reached
  have balance := played.balance
  have handled := played.handled
  by_cases sending : ∃ message, action = .send message
  · obtain ⟨message, rfl⟩ := sending
    have registered : message.targetHandle ∈ start.system.services := scheduled
    obtain ⟨original, known⟩ :=
      Option.isSome_iff_exists.mp (AList.lookup_isSome.mpr registered)
    obtain ⟨service, found, running⟩ :=
      (passage.running_iff reached message.targetHandle).mpr
        ⟨original, known, ready.running _ _ known⟩
    obtain ⟨final, performed, ended, further, written⟩ :=
      perform_send arrived played.alone found running rounds
    have passed := passed_eq
      ((further.careful arrived).weaken fun _ _ _ => trivial)
    have before := passed_eq (arrived.weaken fun _ _ _ => trivial)
    rw [pending_alone ended] at passed
    rw [pending_alone played.alone] at before
    have counted : final.passedCount = machine.passedCount + 1 ∧
        final.handledCount = machine.handledCount ∧
        final.refusedCount = machine.refusedCount ∧
        final.wastedCount = machine.wastedCount := by
      simp [passedCount, handledCount, refusedCount, wastedCount, written,
        Mailbox.Entry.passed, Mailbox.Entry.handlings, Mailbox.Entry.refusals,
        Mailbox.Entry.waste]
    obtain ⟨one, same, unrefused, unwasted⟩ := counted
    refine ⟨final, performed, ended, ⟨_, passage.trans further⟩, ?_, ?_, ?_⟩
    · intro handle
      have more := played.accepted handle
      rw [Machine.accepted] at more ⊢
      rw [written, Mailbox.acceptedFor_append, more, sentTo_append,
        List.append_assoc]
      by_cases here : message.targetHandle = handle
      · simp [Mailbox.acceptedFor, sentTo, sends, here]
      · simp [Mailbox.acceptedFor, sentTo, sends, here]
    · omega
    · rw [sends_append, List.length_append]
      show _ = _ + (_ + 1)
      omega
  · have dispatches : action.Dispatches := by
      cases action with
      | send message => exact absurd ⟨message, rfl⟩ sending
      | _ => exact scheduled
    have silent : sends [action] = [] := by
      cases action with
      | send message => exact absurd ⟨message, rfl⟩ sending
      | _ => rfl
    obtain ⟨_, final, count, labels, _, performed, ended, further, _, handles,
      _⟩ := perform_dispatch arrived played.alone dispatches
        (by omega : 2 * machine.system.queuedTotal ≤ rounds)
    have pending := pending_handles (arrived.weaken fun _ _ _ => trivial)
      ((further.careful arrived).weaken fun _ _ _ => trivial) handles
    rw [pending_alone played.alone, pending_alone ended] at pending
    have counted : final.handledCount = machine.handledCount + count :=
      handles.handled
    refine ⟨final, performed, ended, ⟨_, passage.trans further⟩, ?_, ?_, ?_⟩
    · intro handle
      rw [sentTo_append, sentTo, sentTo, silent, List.filter_nil,
        List.append_nil]
      exact (handles.accepted handle).trans (played.accepted handle)
    · omega
    · rw [sends_append, silent, List.append_nil]
      omega

/-- Any number of calls. -/
theorem of_schedule (reached : Reaches Careful now setup start)
    (ready : start.Ready) {rounds : Nat} (actions : List Action)
    (scheduled : ∀ action ∈ actions, start.Schedules action)
    (enough : 2 * (start.system.queuedTotal + (sends actions).length) ≤
      rounds) :
    ∃ machine,
      Transition.runSteps (perform (fun _ => [.returns]) rounds) start
          actions = .ok machine ∧
        Played start actions machine := by
  induction actions using List.reverseRecOn with
  | nil => exact ⟨start, rfl, .initially ready.alone⟩
  | append_singleton actions action induction =>
      rw [sends_append, List.length_append] at enough
      obtain ⟨machine, ran, played⟩ := induction (by
        intro other member
        exact scheduled other (List.mem_append_left _ member)) (by omega)
      have last : start.Schedules action := by
        apply scheduled
        exact List.mem_append_right _ (List.mem_singleton_self _)
      obtain ⟨final, performed, further⟩ :=
        played.snoc reached ready last (by
          show 2 * (start.system.queuedTotal + (sends actions).length) ≤ rounds
          omega)
      refine ⟨final, ?_, further⟩
      rw [Transition.runSteps_append ran, Transition.runSteps, performed]
      rfl

/-- After a last `run_until_idle` with a batch for each message, nothing is
queued. -/
theorem drained (reached : Reaches Careful now setup start)
    (ready : start.Ready) (played : Played start actions machine)
    {maxBatches maxMessages rounds : Nat}
    (batches : start.system.queuedTotal + (sends actions).length ≤ maxBatches)
    (enough : 2 * (start.system.queuedTotal + (sends actions).length) ≤
      rounds) :
    ∃ final, machine.perform (fun _ => [.returns]) rounds
        (.runUntilIdle maxBatches maxMessages) = .ok final ∧
      Played start actions final ∧ final.system.queuedTotal = 0 := by
  obtain ⟨more, passage⟩ := played.passage
  have arrived := passage.careful reached
  have balance := played.balance
  have handled := played.handled
  have dispatches :
      (Action.runUntilIdle maxBatches maxMessages).Dispatches :=
    trivial
  have few : 2 * machine.system.queuedTotal ≤ rounds := by omega
  obtain ⟨next, final, count, labels, stepped, performed, ended, further, _,
    handles, paces⟩ := perform_dispatch arrived played.alone dispatches few
  have whole := further.careful arrived
  have pending := pending_handles (arrived.weaken fun _ _ _ => trivial)
    (whole.weaken fun _ _ _ => trivial) handles
  rw [pending_alone played.alone, pending_alone ended] at pending
  have counted : final.handledCount = machine.handledCount + count :=
    handles.handled
  have paced := paces _ _ (runUntilIdle_paced played.alone stepped)
  obtain ⟨total, executed, answer, bounded, worked, dispatched⟩ :=
    paced.returned ended
  have further : Played start actions final := by
    refine ⟨ended, ⟨_, passage.trans further⟩, ?_, ?_, ?_⟩
    · intro handle
      exact (handles.accepted handle).trans (played.accepted handle)
    · omega
    · omega
  refine ⟨final, performed, further, ?_⟩
  by_cases early : executed < maxBatches
  · have idle := (idle_means_idle whole answer early).2 ended
    apply AssociationMap.total_eq_zero_iff.mpr
    intro handle service found
    have running := further.running reached ready found
    by_contra waiting
    apply idle handle
    exact ⟨service, found, running, fun empty =>
      waiting (congrArg List.length empty)⟩
  · omega

/-- When nothing is queued any more, every handler has been called with what was
queued for its service and then what was sent to it. -/
theorem invoked (reached : Reaches Careful now setup start)
    (alone : start.stack = []) (played : Played start actions machine)
    (handle : ServiceHandle)
    (empty : machine.system.queued handle = []) :
    machine.invoked handle =
      start.invoked handle ++ start.system.queued handle ++
        sentTo handle actions := by
  obtain ⟨more, passage⟩ := played.passage
  obtain ⟨_, added, accepted, line⟩ := passage.passes reached handle
  rw [line_alone alone, line_alone played.alone, empty, List.append_nil]
    at line
  have sent : start.accepted handle ++ sentTo handle actions =
      start.accepted handle ++ added :=
    (played.accepted handle).symm.trans accepted
  rw [line, List.append_cancel_left sent]

end Played

/-- Programs that send each service the same messages in the same order send the
same number of messages. -/
theorem sends_length {first second : List Action}
    (same : ∀ handle, sentTo handle first = sentTo handle second) :
    (sends first).length = (sends second).length := by
  apply List.Perm.length_eq
  apply List.perm_iff_count.mpr
  intro message
  have mine : ∀ actions, (sentTo message.targetHandle actions).count message =
      (sends actions).count message := by
    intro actions
    rw [sentTo, List.count_filter]
    exact beq_self_eq_true _
  rw [← mine first, same, mine]

/-- What a program that ends with such a `run_until_idle` comes to. -/
theorem schedule_outcome (reached : Reaches Careful now setup start)
    (ready : start.Ready)
    (scheduled : ∀ action ∈ actions, start.Schedules action)
    {maxBatches maxMessages rounds : Nat}
    (batches : start.system.queuedTotal + (sends actions).length ≤ maxBatches)
    (enough : 2 * (start.system.queuedTotal + (sends actions).length) ≤
      rounds) :
    ∃ final,
      Transition.runSteps (perform (fun _ => [.returns]) rounds) start
          (actions ++ [.runUntilIdle maxBatches maxMessages]) = .ok final ∧
        final.stack = [] ∧
        (∀ handle, final.invoked handle =
          start.invoked handle ++ start.system.queued handle ++
            sentTo handle actions) ∧
        final.handledCount = start.handledCount + start.system.queuedTotal +
          (sends actions).length ∧
        final.system.snapshot.dispatchedMessages =
          UInt64.ofNat final.handledCount ∧
        ∀ handle, final.system.queued handle = [] := by
  obtain ⟨machine, ran, played⟩ :=
    Played.of_schedule reached ready actions scheduled enough
  obtain ⟨final, performed, ended, empty⟩ :=
    @Played.drained _ _ _ _ _ reached ready played _ maxMessages _ batches
      enough
  have queues : ∀ handle, final.system.queued handle = [] := by
    intro handle
    rw [ActorSystem.queued]
    cases found : final.system.services.lookup handle with
    | none => rfl
    | some service =>
        exact List.eq_nil_of_length_eq_zero
          (AssociationMap.total_eq_zero_iff.mp empty handle service found)
  obtain ⟨more, passage⟩ := ended.passage
  refine ⟨final, ?_, ended.alone, ?_, ?_, ?_, queues⟩
  · rw [Transition.runSteps_append ran, Transition.runSteps, performed]
    rfl
  · intro handle
    exact ended.invoked reached ready.alone handle (queues handle)
  · have balance := ended.balance
    rw [empty, Nat.add_zero] at balance
    exact balance
  · exact (reaches_consistent (passage.careful reached)).dispatched

/-- Two programs send every service the same messages, in any interleaving,
dispatch in between as they like, and end with a `run_until_idle` that may
execute a batch for each message.  Both come to an end; then every handler has
been called with the same messages in the same order, equally many messages
have been dispatched, and every queue is empty. -/
theorem schedules_agree (reached : Reaches Careful now setup start)
    (ready : start.Ready) {first second : List Action}
    (firstScheduled : ∀ action ∈ first, start.Schedules action)
    (secondScheduled : ∀ action ∈ second, start.Schedules action)
    (same : ∀ handle, sentTo handle first = sentTo handle second)
    {firstBatches secondBatches firstMessages secondMessages rounds : Nat}
    (firstEnough :
      start.system.queuedTotal + (sends first).length ≤ firstBatches)
    (secondEnough :
      start.system.queuedTotal + (sends second).length ≤ secondBatches)
    (enough : 2 * (start.system.queuedTotal + (sends first).length) ≤
      rounds) :
    ∃ left right,
      Transition.runSteps (perform (fun _ => [.returns]) rounds) start
          (first ++ [.runUntilIdle firstBatches firstMessages]) = .ok left ∧
        Transition.runSteps (perform (fun _ => [.returns]) rounds) start
          (second ++ [.runUntilIdle secondBatches secondMessages]) =
            .ok right ∧
        left.stack = [] ∧ right.stack = [] ∧
        (∀ handle, left.invoked handle = right.invoked handle ∧
          left.invoked handle = start.invoked handle ++
            start.system.queued handle ++ sentTo handle first) ∧
        left.handledCount = right.handledCount ∧
        left.system.snapshot.dispatchedMessages =
          right.system.snapshot.dispatchedMessages ∧
        ∀ handle, left.system.queued handle = [] ∧
          right.system.queued handle = [] := by
  have sameLength := sends_length same
  obtain ⟨left, ran, ended, called, handled, counted, empty⟩ :=
    @schedule_outcome _ _ _ _ reached ready firstScheduled _ firstMessages _
      firstEnough enough
  obtain ⟨right, ranOther, endedOther, calledOther, handledOther,
    countedOther, emptyOther⟩ :=
    @schedule_outcome _ _ _ _ reached ready secondScheduled _ secondMessages
      rounds secondEnough (by omega)
  have total : left.handledCount = right.handledCount := by
    rw [handled, handledOther, sameLength]
  refine ⟨left, right, ran, ranOther, ended, endedOther, ?_, total, ?_, ?_⟩
  · intro handle
    refine ⟨?_, called handle⟩
    rw [called, calledOther, same]
  · rw [counted, countedOther, total]
  · exact fun handle => ⟨empty handle, emptyOther handle⟩

/-- Two services and three messages.  The second program dispatches the other
service first. -/
theorem schedules_agree_reordered :
    ∃ start left right,
      Transition.runSteps step (new 0)
          [.registerService [97], .registerService [98]] = .ok start ∧
        Transition.runSteps (perform (fun _ => [.returns]) 6) start
          [.send { targetHandle := 1, payload := [1] }, .dispatchBatch 2 true,
            .send { targetHandle := 2, payload := [2] },
            .send { targetHandle := 1, payload := [3] },
            .runUntilIdle 3 1] = .ok left ∧
        Transition.runSteps (perform (fun _ => [.returns]) 6) start
          [.send { targetHandle := 2, payload := [2] }, .dispatchOnce,
            .send { targetHandle := 1, payload := [1] },
            .send { targetHandle := 1, payload := [3] },
            .runUntilIdle 4 7] = .ok right ∧
        left.invoked 1 = right.invoked 1 ∧
        left.invoked 1 = [{ targetHandle := 1, payload := [1] },
          { targetHandle := 1, payload := [3] }] ∧
        left.handledCount = right.handledCount := by
  have ran : ∃ start, Transition.runSteps step (new 0)
      [.registerService [97], .registerService [98]] = .ok start ∧
        start.invoked 1 = [] ∧ start.system.queued 1 = [] ∧
        start.system.queuedTotal = 0 ∧ 1 ∈ start.system.services ∧
        2 ∈ start.system.services :=
    ⟨_, rfl, rfl, rfl, rfl, by decide, by decide⟩
  obtain ⟨start, ran, uncalled, unqueued, empty, one, two⟩ := ran
  have registered : Reaches (fun _ action =>
      ∃ serviceName, action = .registerService serviceName) 0
      [.registerService [97], .registerService [98]] start := by
    apply Transition.Execution.ofRunSteps ran
    simp
  have rest := atRest_of_registrations registered
  obtain ⟨left, right, went, wentOther, _, _, called, handled, _⟩ :=
    @schedules_agree start 0 _ (careful_of_runSteps ran rfl)
      ⟨rest.alone, rest.running⟩
      [.send { targetHandle := 1, payload := [1] }, .dispatchBatch 2 true,
        .send { targetHandle := 2, payload := [2] },
        .send { targetHandle := 1, payload := [3] }]
      [.send { targetHandle := 2, payload := [2] }, .dispatchOnce,
        .send { targetHandle := 1, payload := [1] },
        .send { targetHandle := 1, payload := [3] }]
      (by simp [Schedules, Action.Dispatches, one, two])
      (by simp [Schedules, Action.Dispatches, one, two])
      (by
        intro handle
        simp only [sentTo, sends, List.filterMap_cons, List.filterMap_nil,
          List.filter_cons, List.filter_nil]
        by_cases first : (1 : ServiceHandle) = handle
        · subst first
          rfl
        · by_cases second : (2 : ServiceHandle) = handle
          · subst second
            rfl
          · simp [first, second])
      3 4 1 7 6 (by rw [empty]; decide) (by rw [empty]; decide)
      (by rw [empty]; decide)
  refine ⟨start, left, right, ran, went, wentOther, (called 1).1, ?_, handled⟩
  rw [(called 1).2, uncalled, unqueued]
  rfl

end Machine

end Crynet
