import Crynet.Skynet.RuntimeRuns

/-!
# What every run of the runtime keeps

As long as the steps are orderly, no step of a thread goes wrong, a reference
count is the number of holders, one thread at most runs a service, a message is
delivered once and in order, and a queue with messages is never forgotten.
-/

namespace Crynet.Skynet

open CallStacks

/-- The frames that run the code of a service: its initialisation and the
dispatch of its messages. -/
def Frame.serves (context : ContextRef) : Frame → Bool
  | .contextInc own _ | .moduleInit own _ | .setInit own _ | .launch own _
  | .initFailed own _ => own = context
  | .dispatchPop turn | .dispatchLength turn _ | .dispatchCall turn _
  | .callback turn | .dispatchNext turn | .dispatchEnd turn
  | .dispatchPushBack turn _ => turn.context = context
  | _ => false

namespace Runtime

variable {runtime next : Runtime} {action : Action} {actions : List Action}
variable {harbor : UInt32} {workers : List Int} {others : Nat}

section Checked

/-- A check that a frame's step is orderly, which asks for a table with a free
handle. -/
def allows (node : Node) : Frame → Bool
  | .registerHandle context =>
      (HandleStorage.freeHandle node.handles.slotSize node.handles.slot
        node.handles.slotSize node.handles.handleIndex).isSome &&
      match node.handles.register node.contextHandle context with
      | .ok entered =>
          node.contexts.entries.all
            (fun entry => entry.2.handle ≠ entered.1) &&
          node.queues.entries.all (fun entry => entry.2.handle ≠ entered.1)
      | .error _ => true
  | .pushGrab handle _ =>
      node.contexts.entries.all
        (fun entry => entry.2.handle ≠ handle || entry.2.queue.isSome)
  | .pushQueue _ _ => node.queues.entries.all (fun entry => ¬entry.2.Overflows)
  | _ => true

private theorem orderly_of_allows {node : Node} {frame : Frame}
    (allowed : allows node frame = true) : node.Orderly frame := by
  cases frame with
  | registerHandle context =>
      simp only [allows, Bool.and_eq_true] at allowed
      obtain ⟨free, unused⟩ := allowed
      refine ⟨?_, ?_⟩
      · intro none
        rw [none] at free
        simp at free
      · intro handle handles entered
        rw [entered] at unused
        simp only [Bool.and_eq_true, List.all_eq_true, decide_eq_true_eq]
          at unused
        constructor
        · intro other stored found
          exact unused.1 ⟨other, stored⟩ (AList.mem_lookup_iff.mp found)
        · intro queue mq found
          exact unused.2 ⟨queue, mq⟩ (AList.mem_lookup_iff.mp found)
  | pushGrab handle message =>
      intro context stored found known
      simp only [allows, List.all_eq_true, Bool.or_eq_true, decide_eq_true_eq]
        at allowed
      rcases allowed ⟨context, stored⟩ (AList.mem_lookup_iff.mp found) with
        other | some
      · exact absurd known other
      · exact Option.isSome_iff_ne_none.mp some
  | pushQueue context message =>
      intro queue mq _ found
      simp only [allows, List.all_eq_true, decide_eq_true_eq] at allowed
      exact allowed ⟨queue, mq⟩ (AList.mem_lookup_iff.mp found)
  | _ => trivial

def allowed (runtime : Runtime) : Action → Bool
  | .advance thread =>
      match runtime.threads[thread]? with
      | some (top :: _) => allows runtime.shared top
      | _ => true
  | .call _ (.namehandle _ _) =>
      runtime.shared.handles.nameCap * 2 ≤ maxSlotSize
  | _ => true

private theorem orderly_of_allowed (check : runtime.allowed action = true) :
    runtime.Orderly action := by
  cases action with
  | advance thread =>
      intro top rest current
      simp only [allowed, current] at check
      exact orderly_of_allows check
  | call thread call =>
      cases call with
      | namehandle handle name => exact Or.inr (of_decide_eq_true check)
      | _ => trivial
  | finish thread succeeded => trivial

/-- A run whose steps are checked one by one. -/
def runChecked : Runtime → List Action → Option Runtime
  | runtime, [] => some runtime
  | runtime, action :: actions =>
      if runtime.allowed action then
        match runtime.step action with
        | .ok next => runChecked next actions
        | .error _ => none
      else
        none

private theorem execution_of_checked {reached : Runtime}
    (ran : runChecked runtime actions = some reached) :
    Transition.Execution (Transition.returning step) Orderly runtime actions
      reached := by
  induction actions generalizing runtime with
  | nil =>
      obtain rfl := Option.some.inj ran
      exact .nil
  | cons action actions induction =>
      simp only [runChecked] at ran
      split at ran
      · rename_i check
        split at ran
        · rename_i after stepped
          exact (Transition.Execution.single (orderly_of_allowed check)
            stepped).trans (induction ran)
        · simp at ran
      · simp at ran

/-- A service starts on one thread, is sent a message, and a worker calls it. -/
def firstMessage : List Action :=
  [.call 1 .contextNew, .advance 1, .advance 1, .advance 1, .advance 1,
    .call 1 (.callback true), .finish 1 true, .advance 1, .advance 1,
    .advance 1, .call 1 (.contextPush 0x1000001 ⟨0, 1, some [7], 0⟩),
    .advance 1, .advance 1, .advance 1, .advance 0, .advance 0, .advance 0,
    .advance 0, .advance 0]

/-- The worker returns from the callback and finds nothing more to do. -/
def firstRest : List Action :=
  [.advance 0, .finish 0 true, .advance 0, .advance 0, .advance 0, .advance 0,
    .advance 0, .advance 0, .advance 0]

end Checked

/-- How many frames hold a token. -/
def holders (runtime : Runtime) : Token → Nat :=
  carried Frame.carries runtime.frames

private theorem Sound.balancedHolders (sound : runtime.Sound) :
    runtime.shared.Balanced runtime.holders :=
  sound.balanced

/-- A mailbox is in one hand at most. -/
theorem Sound.single (sound : runtime.Sound) (queue : QueueRef) :
    runtime.holders (.mailbox queue) + runtime.holders (.kept queue) +
      runtime.shared.globalQueue.count queue ≤ 1 := by
  cases found : runtime.shared.queues.lookup queue with
  | none =>
      have none := sound.balancedHolders.queues.absent queue found
      omega
  | some mq =>
      have count := sound.balancedHolders.queues.inHands queue mq found
      have bound : Node.hands mq ≤ 1 := by
        unfold Node.hands
        split <;> omega
      omega

/-- Frames that serve a context carry its queue. -/
theorem serves_carries {frame : Frame} {context : ContextRef}
    (fits : runtime.shared.Fits frame) (serves : frame.serves context = true) :
    ∃ queue, runtime.shared.Has context queue ∧
      1 ≤ frame.carries.count (.mailbox queue) +
        frame.carries.count (.kept queue) := by
  cases frame with
  | contextInc own queue | moduleInit own queue | setInit own queue
  | launch own queue | initFailed own queue =>
      obtain rfl : own = context := by simpa [Frame.serves] using serves
      exact ⟨queue, fits, by simp [Frame.carries]⟩
  | dispatchPop turn | dispatchLength turn message | dispatchCall turn message
  | callback turn | dispatchNext turn | dispatchEnd turn
  | dispatchPushBack turn own =>
      obtain rfl : turn.context = context := by simpa [Frame.serves] using serves
      obtain ⟨stored, found, attached, _⟩ := fits
      exact ⟨turn.queue, ⟨stored, found, attached⟩, by
        simp [Frame.carries, List.count_cons]⟩
  | _ => simp [Frame.serves] at serves

private theorem countP_serves_le {context : ContextRef} {queue : QueueRef}
    (has : runtime.shared.Has context queue) (frames : List Frame)
    (fits : ∀ frame ∈ frames, runtime.shared.Fits frame) :
    frames.countP (Frame.serves context) ≤
      carried Frame.carries frames (.mailbox queue) +
        carried Frame.carries frames (.kept queue) := by
  induction frames with
  | nil => simp
  | cons frame frames induction =>
      have below := induction fun other member =>
        fits other (List.mem_cons_of_mem _ member)
      have head : (if frame.serves context = true then 1 else 0) ≤
          frame.carries.count (.mailbox queue) +
            frame.carries.count (.kept queue) := by
        split
        · rename_i serves
          obtain ⟨own, ⟨stored, found, attached⟩, carries⟩ :=
            serves_carries (fits frame List.mem_cons_self) serves
          obtain ⟨current, present, known⟩ := has
          obtain rfl := Option.some.inj (found.symm.trans present)
          obtain rfl := Option.some.inj (attached.symm.trans known)
          exact carries
        · exact Nat.zero_le _
      rw [List.countP_cons]
      simp only [carried, List.flatMap_cons, List.count_append] at below ⊢
      omega

/-- Whatever the threads do and in whatever order, at most one of them runs the
code of a service. -/
theorem run_serves_once
    (run : Run harbor workers others actions runtime) (context : ContextRef) :
    runtime.frames.countP (Frame.serves context) ≤ 1 := by
  have sound := run_sound run
  by_cases idle : runtime.frames.countP (Frame.serves context) = 0
  · omega
  · obtain ⟨frame, member, serves⟩ :=
      List.countP_pos_iff.mp (Nat.pos_of_ne_zero idle)
    obtain ⟨queue, has, _⟩ :=
      serves_carries (sound.fitting frame member) serves
    have below := countP_serves_le has runtime.frames sound.fitting
    have single := sound.single queue
    unfold holders at single
    omega

theorem run_serves_once_firstMessage :
    ∃ runtime, runChecked (start 1 [0] 1) firstMessage = some runtime ∧
      runtime.frames.countP (Frame.serves 0) ≤ 1 := by
  have ran : (runChecked (start 1 [0] 1) firstMessage).isSome = true := by
    decide +kernel
  obtain ⟨runtime, reached⟩ := Option.isSome_iff_exists.mp ran
  exact ⟨runtime, reached, run_serves_once (execution_of_checked reached) 0⟩

/-- The messages of every queue are where they should be. -/
structure Delivered (runtime : Runtime) : Prop where
  flow : ∀ queue, pushedTo queue runtime.shared.history =
    handledFrom queue runtime.shared.history ++
      runtime.frames.flatMap (Frame.inHand queue) ++
      runtime.shared.waitingIn queue
  settled : ∀ queue, .freeQueue queue ∈ runtime.frames →
    runtime.shared.waitingIn queue = []
  drained : runtime.shared.Drained

private theorem start_delivered : (start harbor workers others).Delivered := by
  have clear : ∀ queue, (start harbor workers others).frames.flatMap
      (Frame.inHand queue) = [] := by
    intro queue
    rw [List.flatMap_eq_nil_iff]
    intro frame member
    rcases start_frames frame member with ⟨weight, rfl⟩ | rfl
    · rfl
    · rfl
  refine ⟨?_, ?_, ?_⟩
  · intro queue
    rw [clear]
    rfl
  · intro queue freed
    rcases start_frames _ freed with ⟨weight, impossible⟩ | impossible
    · simp at impossible
    · simp at impossible
  · intro queue mq found
    have none : (none : Option MessageQueue) = some mq := found
    simp at none

theorem Delivered.step (delivered : runtime.Delivered) (sound : runtime.Sound)
    (moves : runtime.Moves action next) : next.Delivered := by
  obtain ⟨top, rest, frames, current, threads, delivers⟩ := moves.moved
  obtain ⟨before, after, split, moved⟩ := flatten_split current
  have earlier : runtime.frames = before ++ top :: after := split
  have later : next.frames = before ++ frames ++ after := by
    rw [Machine.frames, threads]
    exact moved frames
  have topIn : top ∈ runtime.frames := by simp [earlier]
  have alone : ∀ queue, .mailbox queue ∈ top.carries →
      ∀ frame ∈ before ++ after, .mailbox queue ∉ frame.carries := by
    intro queue holds
    have once : carried Frame.carries (before ++ top :: after)
        (.mailbox queue) ≤ 1 := by
      have single := sound.single queue
      rw [holders, earlier] at single
      omega
    exact carried_alone once holds
  have stays : ∀ queue, .freeQueue queue ∈ before ++ after →
      next.shared.waitingIn queue = [] := by
    intro queue freed
    have present : .freeQueue queue ∈ runtime.frames := by
      rw [earlier]
      rcases List.mem_append.mp freed with first | last
      · exact List.mem_append_left _ first
      · exact List.mem_append_right _ (List.mem_cons_of_mem _ last)
    have free : .mailbox queue ∉ top.carries := by
      intro holds
      exact alone queue holds _ freed (by simp [Frame.carries])
    have empty := delivered.settled queue present
    obtain ⟨more, done, flow⟩ := delivers.flow queue (fun _ => empty)
    obtain ⟨mq, found, released⟩ := sound.fitting _ present
    obtain ⟨undone, clear⟩ := flow.free free
    have moves := flow.moves
    rw [undone, clear, Frame.inHand_eq_nil free, empty,
      flow.live mq found released] at moves
    simpa using moves.symm
  refine ⟨?_, ?_, delivers.wakes delivered.drained⟩
  · intro queue
    obtain ⟨more, done, flow⟩ := delivers.flow queue (by
      rintro rfl
      exact delivered.settled queue topIn)
    have whole := delivered.flow queue
    rw [earlier, List.flatMap_append, List.flatMap_cons] at whole
    rw [flow.pushed, flow.handled, whole, later, List.flatMap_append,
      List.flatMap_append]
    by_cases holds : .mailbox queue ∈ top.carries
    · have clear : (before ++ after).flatMap (Frame.inHand queue) = [] := by
        rw [List.flatMap_eq_nil_iff]
        intro frame member
        exact Frame.inHand_eq_nil (alone queue holds frame member)
      rw [List.flatMap_append, List.append_eq_nil_iff] at clear
      rw [clear.1, clear.2]
      have moves := flow.moves
      simp only [List.nil_append, List.append_nil, List.append_assoc] at moves ⊢
      rw [moves]
    · obtain ⟨undone, clear⟩ := flow.free holds
      have moves := flow.moves
      rw [undone, clear, Frame.inHand_eq_nil holds] at moves
      simp only [List.nil_append] at moves
      rw [undone, clear, Frame.inHand_eq_nil holds]
      simp only [List.nil_append, List.append_nil, List.append_assoc]
      rw [moves]
  · intro queue freed
    rw [later, List.append_assoc] at freed
    rcases List.mem_append.mp freed with first | freed
    · exact stays queue (List.mem_append_left _ first)
    · rcases List.mem_append.mp freed with new | last
      · exact delivers.settles queue new
      · exact stays queue (List.mem_append_right _ last)

private theorem run_delivered (run : Run harbor workers others actions runtime) :
    runtime.Sound ∧ runtime.Delivered := by
  refine run.invariant (fun reached => reached.Sound ∧ reached.Delivered)
    ⟨start_sound, start_delivered⟩ ?_
  intro current action after holds orderly stepped
  obtain ⟨sound, delivered⟩ := holds
  have moves := step_ok_moves sound orderly stepped
  exact ⟨moves.sound, delivered.step sound moves⟩

/-- Every message pushed to a queue is called, ignored or dropped once, in the
order of the pushes; until then it is in the hand of one frame or in the
buffer. -/
theorem run_delivers_in_order
    (run : Run harbor workers others actions runtime) (queue : QueueRef) :
    pushedTo queue runtime.shared.history =
      handledFrom queue runtime.shared.history ++
        runtime.frames.flatMap (Frame.inHand queue) ++
        runtime.shared.waitingIn queue ∧
    (runtime.frames.flatMap (Frame.inHand queue)).length ≤ 1 := by
  obtain ⟨sound, delivered⟩ := run_delivered run
  refine ⟨delivered.flow queue, ?_⟩
  have bound : ∀ frames : List Frame,
      (frames.flatMap (Frame.inHand queue)).length ≤
        carried Frame.carries frames (.mailbox queue) := by
    intro frames
    induction frames with
    | nil => simp
    | cons frame frames induction =>
        have head : (frame.inHand queue).length ≤
            frame.carries.count (.mailbox queue) := by
          by_cases holds : .mailbox queue ∈ frame.carries
          · have positive := List.count_pos_iff.mpr holds
            have short : (frame.inHand queue).length ≤ 1 := by
              cases frame with
              | dispatchLength turn message | dispatchCall turn message =>
                  simp only [Frame.inHand]
                  split <;> simp
              | _ => exact Nat.zero_le _
            omega
          · rw [Frame.inHand_eq_nil holds]
            exact Nat.zero_le _
        simp only [carried, List.flatMap_cons, List.length_append,
          List.count_append] at induction ⊢
        omega
  have single := sound.single queue
  have short := bound runtime.frames
  unfold holders at single
  omega

theorem run_delivers_in_order_firstMessage :
    ∃ runtime,
      runChecked (start 1 [0] 1) (firstMessage ++ firstRest) = some runtime ∧
      pushedTo 0 runtime.shared.history =
        handledFrom 0 runtime.shared.history ++
          runtime.frames.flatMap (Frame.inHand 0) ++
          runtime.shared.waitingIn 0 := by
  have ran : (runChecked (start 1 [0] 1)
      (firstMessage ++ firstRest)).isSome = true := by
    decide +kernel
  obtain ⟨runtime, reached⟩ := Option.isSome_iff_exists.mp ran
  exact ⟨runtime, reached,
    (run_delivers_in_order (execution_of_checked reached) 0).1⟩

/-- A queue with messages is in the global queue or in the hands of one frame,
so it is never forgotten. -/
theorem run_wakes (run : Run harbor workers others actions runtime)
    (queue : QueueRef) (waits : runtime.shared.waitingIn queue ≠ []) :
    runtime.holders (.mailbox queue) + runtime.holders (.kept queue) +
      runtime.shared.globalQueue.count queue = 1 := by
  obtain ⟨sound, delivered⟩ := run_delivered run
  cases found : runtime.shared.queues.lookup queue with
  | none => exact absurd (Node.waitingIn_of_absent found) waits
  | some mq =>
      rw [Node.waitingIn_of_lookup found] at waits
      have linked : mq.inGlobal = true := by
        cases flag : mq.inGlobal with
        | true => rfl
        | false => exact absurd (delivered.drained queue mq found flag) waits
      have count := sound.balancedHolders.queues.inHands queue mq found
      rw [count, Node.hands, if_pos (Or.inl linked)]

theorem run_wakes_firstMessage :
    ∃ runtime,
      runChecked (start 1 [0] 1) (firstMessage.take 14) = some runtime ∧
      runtime.holders (.mailbox 0) + runtime.holders (.kept 0) +
        runtime.shared.globalQueue.count 0 = 1 := by
  have ran : (runChecked (start 1 [0] 1) (firstMessage.take 14)).map
      (fun runtime => (runtime.shared.waitingIn 0).length) = some 1 := by
    decide +kernel
  obtain ⟨runtime, reached, waits⟩ := Option.map_eq_some_iff.mp ran
  refine ⟨runtime, reached, run_wakes (execution_of_checked reached) 0 ?_⟩
  intro empty
  rw [empty] at waits
  simp at waits

/-- Nothing but workers that look for work and code outside the runtime. -/
def Quiescent (runtime : Runtime) : Prop :=
  runtime.shared.globalQueue = [] ∧
    ∀ frame ∈ runtime.frames,
      (∃ weight, frame = .worker weight none) ∨ frame = .external

end Runtime

end Crynet.Skynet
