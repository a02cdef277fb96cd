import Crynet.Skynet.Operations

/-!
# Where the messages of a queue are

A message that was pushed to a queue is in its buffer, in the hand of the one
frame that popped it, or was called, ignored or dropped.  A step moves messages
along this way in order.
-/

namespace Crynet.Skynet

open CallStacks

/-- The messages that were pushed to a queue, in order. -/
def pushedTo (queue : QueueRef) (history : List Event) : List SkynetMessage :=
  history.filterMap fun event =>
    match event with
    | .pushed own message => if own = queue then some message else none
    | _ => none

/-- The messages of a queue that were called, ignored or dropped, in order. -/
def handledFrom (queue : QueueRef) (history : List Event) :
    List SkynetMessage :=
  history.filterMap fun event =>
    match event with
    | .pushed _ _ => none
    | .called own message | .ignored own message | .dropped own message =>
        if own = queue then some message else none

private theorem pushedTo_append (queue : QueueRef) (first second : List Event) :
    pushedTo queue (first ++ second) =
      pushedTo queue first ++ pushedTo queue second :=
  List.filterMap_append

private theorem handledFrom_append (queue : QueueRef) (first second : List Event) :
    handledFrom queue (first ++ second) =
      handledFrom queue first ++ handledFrom queue second :=
  List.filterMap_append

/-- The message of a queue that a frame has popped and not handled. -/
def Frame.inHand (queue : QueueRef) : Frame → List SkynetMessage
  | .dispatchLength turn message | .dispatchCall turn message =>
      if turn.queue = queue then [message] else []
  | _ => []

/-- Only who has the queue in hand has a message of it. -/
theorem Frame.inHand_eq_nil {queue : QueueRef} {frame : Frame}
    (free : Token.mailbox queue ∉ frame.carries) :
    frame.inHand queue = [] := by
  cases frame with
  | dispatchLength turn message | dispatchCall turn message =>
      simp only [Frame.inHand]
      split
      · rename_i same
        simp [Frame.carries, same] at free
      · rfl
  | _ => rfl

namespace Node

/-- The messages in the buffer of a queue. -/
def waitingIn (node : Node) (queue : QueueRef) : List SkynetMessage :=
  match node.queues.lookup queue with
  | some mq => mq.contents
  | none => []

/-- A queue that nobody is told of is empty. -/
def Drained (node : Node) : Prop :=
  ∀ queue mq, node.queues.lookup queue = some mq → mq.inGlobal = false →
    mq.contents = []

variable {node next : Node} {queue : QueueRef} {mq marked : MessageQueue}
variable {top : Frame} {frames : List Frame}

theorem waitingIn_of_lookup (found : node.queues.lookup queue = some mq) :
    node.waitingIn queue = mq.contents := by
  simp only [waitingIn, found]

theorem waitingIn_of_absent (missing : node.queues.lookup queue = none) :
    node.waitingIn queue = [] := by
  simp only [waitingIn, missing]

private theorem waitingIn_congr
    (same : next.queues.lookup queue = node.queues.lookup queue) :
    next.waitingIn queue = node.waitingIn queue := by
  simp only [waitingIn, same]

/-- The way of the messages of one queue: what is pushed joins at the end, and
what is done leaves at the front. -/
structure Flow (node : Node) (top : Frame) (next : Node) (frames : List Frame)
    (queue : QueueRef) (more done : List SkynetMessage) : Prop where
  pushed : pushedTo queue next.history = pushedTo queue node.history ++ more
  handled : handledFrom queue next.history =
    handledFrom queue node.history ++ done
  moves : top.inHand queue ++ node.waitingIn queue ++ more =
    done ++ frames.flatMap (Frame.inHand queue) ++ next.waitingIn queue
  free : Token.mailbox queue ∉ top.carries →
    done = [] ∧ frames.flatMap (Frame.inHand queue) = []
  live : ∀ mq, node.queues.lookup queue = some mq → mq.released = true →
    more = []

/-- What a step does to the messages of all queues. -/
structure Delivers (node : Node) (top : Frame) (next : Node)
    (frames : List Frame) : Prop where
  flow : ∀ queue, (top = .freeQueue queue → node.waitingIn queue = []) →
    ∃ more done, node.Flow top next frames queue more done
  settles : ∀ queue, .freeQueue queue ∈ frames → next.waitingIn queue = []
  wakes : node.Drained → next.Drained

/-- The frames have the message that the top frame had, and free no queue. -/
structure Quiet (top : Frame) (frames : List Frame) : Prop where
  hands : ∀ queue, frames.flatMap (Frame.inHand queue) = top.inHand queue
  frees : ∀ queue, .freeQueue queue ∉ frames

/-- A step that no queue notices. -/
theorem Delivers.quiet (queues : next.queues = node.queues)
    (history : next.history = node.history) (quiet : Quiet top frames) :
    Delivers node top next frames := by
  have same : ∀ queue, next.waitingIn queue = node.waitingIn queue := by
    intro queue
    exact waitingIn_congr (by rw [queues])
  refine ⟨?_, fun queue freed => absurd freed (quiet.frees queue), ?_⟩
  · intro queue _
    refine ⟨[], [], by rw [history, List.append_nil],
      by rw [history, List.append_nil], ?_, ?_, fun _ _ _ => rfl⟩
    · rw [quiet.hands, same, List.append_nil, List.nil_append]
    · intro free
      exact ⟨rfl, by rw [quiet.hands, Frame.inHand_eq_nil free]⟩
  · intro drained own mq found
    rw [queues] at found
    exact drained own mq found

/-- A step that changes one queue. -/
theorem Delivers.change {events : List Event}
    (found : node.queues.lookup queue = some mq)
    (lookups : ∀ other, next.queues.lookup other =
      if other = queue then some marked else node.queues.lookup other)
    (history : next.history = node.history ++ events)
    (apart : ∀ other, other ≠ queue → pushedTo other events = [] ∧
      handledFrom other events = [] ∧ top.inHand other = [] ∧
      frames.flatMap (Frame.inHand other) = [])
    (moves : top.inHand queue ++ mq.contents ++ pushedTo queue events =
      handledFrom queue events ++ frames.flatMap (Frame.inHand queue) ++
        marked.contents)
    (free : Token.mailbox queue ∉ top.carries →
      handledFrom queue events = [] ∧
        frames.flatMap (Frame.inHand queue) = [])
    (live : mq.released = true → pushedTo queue events = [])
    (frees : ∀ other, .freeQueue other ∈ frames →
      other = queue ∧ marked.contents = [])
    (wakes : (mq.inGlobal = false → mq.contents = []) →
      marked.inGlobal = false → marked.contents = []) :
    Delivers node top next frames := by
  have here : next.queues.lookup queue = some marked := by
    rw [lookups, if_pos rfl]
  refine ⟨?_, ?_, ?_⟩
  · intro other _
    refine ⟨pushedTo other events, handledFrom other events,
      by rw [history, pushedTo_append], by rw [history, handledFrom_append],
      ?_, ?_, ?_⟩
    · by_cases same : other = queue
      · rw [same, waitingIn_of_lookup found, waitingIn_of_lookup here]
        exact moves
      · obtain ⟨none, undone, empty, free⟩ := apart other same
        rw [none, undone, empty, free, waitingIn_congr (by
          rw [lookups, if_neg same]), List.append_nil, List.nil_append,
          List.nil_append, List.nil_append]
    · by_cases same : other = queue
      · rw [same]
        exact free
      · intro _
        obtain ⟨_, undone, _, clear⟩ := apart other same
        exact ⟨undone, clear⟩
    · intro current present released
      by_cases same : other = queue
      · rw [same] at present ⊢
        obtain rfl := Option.some.inj (found.symm.trans present)
        exact live released
      · exact (apart other same).1
  · intro other freed
    obtain ⟨rfl, empty⟩ := frees other freed
    rw [waitingIn_of_lookup here]
    exact empty
  · intro drained other current present idle
    rw [lookups] at present
    split at present
    · obtain rfl := Option.some.inj present
      exact wakes (drained queue mq found) idle
    · exact drained other current present idle

/-- A new queue is empty. -/
theorem Delivers.create {handle : UInt32}
    (missing : node.queues.lookup queue = none)
    (lookups : ∀ other, next.queues.lookup other =
      if other = queue then some (MessageQueue.create handle)
      else node.queues.lookup other)
    (history : next.history = node.history) (quiet : Quiet top frames) :
    Delivers node top next frames := by
  have same : ∀ other, next.waitingIn other = node.waitingIn other := by
    intro other
    by_cases here : other = queue
    · rw [here, waitingIn_of_absent missing, waitingIn_of_lookup (by
        rw [lookups, if_pos rfl])]
      exact MessageQueue.create_contents handle
    · exact waitingIn_congr (by rw [lookups, if_neg here])
  refine ⟨?_, fun queue freed => absurd freed (quiet.frees queue), ?_⟩
  · intro other _
    refine ⟨[], [], by rw [history, List.append_nil],
      by rw [history, List.append_nil], ?_, ?_, fun _ _ _ => rfl⟩
    · rw [quiet.hands, same, List.append_nil, List.nil_append]
    · intro free
      exact ⟨rfl, by rw [quiet.hands, Frame.inHand_eq_nil free]⟩
  · intro drained other current present idle
    rw [lookups] at present
    split at present
    · obtain rfl := Option.some.inj present
      exact MessageQueue.create_contents handle
    · exact drained other current present idle

/-- A queue that is freed had no messages left. -/
theorem Delivers.free
    (lookups : ∀ other, next.queues.lookup other =
      if other = queue then none else node.queues.lookup other)
    (history : next.history = node.history) :
    Delivers node (.freeQueue queue) next [] := by
  refine ⟨?_, fun _ freed => absurd freed List.not_mem_nil, ?_⟩
  · intro other settled
    refine ⟨[], [], by rw [history, List.append_nil],
      by rw [history, List.append_nil], ?_, fun _ => ⟨rfl, rfl⟩,
      fun _ _ _ => rfl⟩
    simp only [Frame.inHand, List.flatMap_nil, List.append_nil,
      List.nil_append]
    by_cases here : other = queue
    · rw [settled (by rw [here]), waitingIn_of_absent]
      rw [lookups, if_pos here]
    · exact (waitingIn_congr (by rw [lookups, if_neg here])).symm
  · intro drained other current present idle
    rw [lookups] at present
    split at present
    · simp at present
    · exact drained other current present idle

section Changes

variable {message : SkynetMessage} {turn : Turn}
variable (found : node.queues.lookup queue = some mq)
variable (lookups : ∀ other, next.queues.lookup other =
  if other = queue then some marked else node.queues.lookup other)

include found lookups

theorem Delivers.push {context : ContextRef} {fits : ¬mq.Overflows}
    (live : mq.released = false) (pushed : marked = (mq.push message fits).1)
    (history : next.history = node.history ++ [.pushed queue message]) :
    Delivers node (.pushQueue context message) next
      [.contextRelease context] := by
  refine Delivers.change found lookups history ?_ ?_ ?_ ?_ ?_ ?_
  · intro other different
    simp [pushedTo, handledFrom, Frame.inHand, different.symm]
  · simp [pushedTo, handledFrom, Frame.inHand, pushed,
      MessageQueue.push_contents]
  · simp [handledFrom, Frame.inHand]
  · intro released
    rw [live] at released
    simp at released
  · simp
  · intro _ idle
    simp [pushed] at idle

/-- A change of the flags that does not clear the mark. -/
theorem Delivers.flags (quiet : Quiet top frames)
    (untouched : ∀ other, top.inHand other = [])
    (contents : marked.contents = mq.contents)
    (flag : marked.inGlobal = mq.inGlobal)
    (history : next.history = node.history) :
    Delivers node top next frames := by
  have clear : ∀ other, frames.flatMap (Frame.inHand other) = [] := by
    intro other
    rw [quiet.hands, untouched]
  refine Delivers.change found lookups
    (history.trans (List.append_nil _).symm) ?_ ?_ ?_ ?_ ?_ ?_
  · intro other _
    exact ⟨rfl, rfl, untouched other, clear other⟩
  · rw [untouched, clear, contents]
    simp [pushedTo, handledFrom]
  · intro _
    exact ⟨rfl, clear queue⟩
  · intro _
    rfl
  · intro other freed
    exact absurd freed (quiet.frees other)
  · intro drained idle
    rw [contents]
    exact drained (flag.symm.trans idle)

/-- Whoever has the queue in hand pops a message. -/
theorem Delivers.pop {frame : Frame} (same : turn.queue = queue)
    (popped : mq.pop.1 = some message) (after : marked = mq.pop.2)
    (history : next.history = node.history)
    (hand : ∀ other, frame.inHand other =
      if turn.queue = other then [message] else []) :
    Delivers node (.dispatchPop turn) next [frame] := by
  obtain ⟨contents, _, _, flag⟩ :=
    @MessageQueue.pop_some mq mq.pop.2 message (Prod.ext popped rfl)
  have hands : ∀ other, [frame].flatMap (Frame.inHand other) =
      if turn.queue = other then [message] else [] := by
    intro other
    rw [List.flatMap_singleton, hand]
  refine Delivers.change found lookups
    (history.trans (List.append_nil _).symm) ?_ ?_ ?_ ?_ ?_ ?_
  · intro other different
    refine ⟨rfl, rfl, rfl, ?_⟩
    rw [hands, if_neg]
    rw [same]
    exact different.symm
  · rw [hands, if_pos same]
    simp [pushedTo, handledFrom, Frame.inHand, contents, after]
  · intro free
    simp [Frame.carries, same] at free
  · intro _
    rfl
  · intro other freed
    obtain rfl := List.mem_singleton.mp freed
    have none := hand turn.queue
    simp [Frame.inHand] at none
  · intro drained idle
    rw [after, flag] at idle
    have empty := drained idle
    rw [contents] at empty
    simp at empty

/-- Whoever has the queue in hand finds it empty. -/
theorem Delivers.emptied (popped : mq.pop.1 = none) (after : marked = mq.pop.2)
    (untouched : ∀ other, top.inHand other = [])
    (clear : ∀ other, frames.flatMap (Frame.inHand other) = [])
    (frees : ∀ other, .freeQueue other ∈ frames → other = queue)
    (history : next.history = node.history) :
    Delivers node top next frames := by
  obtain ⟨empty, emptied⟩ :=
    @MessageQueue.pop_none mq mq.pop.2 (Prod.ext popped rfl)
  have still : marked.contents = [] := by
    rw [after, emptied]
    exact empty
  refine Delivers.change found lookups
    (history.trans (List.append_nil _).symm) ?_ ?_ ?_ ?_ ?_ ?_
  · intro other _
    exact ⟨rfl, rfl, untouched other, clear other⟩
  · simp [untouched, clear, empty, still, pushedTo, handledFrom]
  · intro _
    exact ⟨rfl, clear queue⟩
  · intro _
    rfl
  · intro other freed
    exact ⟨frees other freed, still⟩
  · intro _ _
    exact still

/-- A popped message is called or ignored. -/
theorem Delivers.handle {event : Event} (same : turn.queue = queue)
    (kind : event = .called queue message ∨ event = .ignored queue message)
    (contents : marked.contents = mq.contents)
    (flag : marked.inGlobal = mq.inGlobal)
    (history : next.history = node.history ++ [event])
    (clear : ∀ other, frames.flatMap (Frame.inHand other) = [])
    (frees : ∀ other, .freeQueue other ∉ frames) :
    Delivers node (.dispatchCall turn message) next frames := by
  have handled : ∀ other, handledFrom other [event] =
      if queue = other then [message] else [] := by
    intro other
    rcases kind with rfl | rfl
    · simp only [handledFrom]
      split <;> simp_all
    · simp only [handledFrom]
      split <;> simp_all
  have unpushed : ∀ other, pushedTo other [event] = [] := by
    intro other
    rcases kind with rfl | rfl
    · rfl
    · rfl
  refine Delivers.change found lookups history ?_ ?_ ?_ ?_ ?_ ?_
  · intro other different
    have apart : turn.queue ≠ other := by
      rw [same]
      exact different.symm
    simp [unpushed, handled, clear, Frame.inHand, apart, different.symm]
  · simp [unpushed, handled, clear, Frame.inHand, same, contents]
  · intro free
    simp [Frame.carries, same] at free
  · intro _
    exact unpushed queue
  · intro other freed
    exact absurd freed (frees other)
  · intro drained idle
    rw [contents]
    exact drained (flag.symm.trans idle)

/-- A message of a queue that is drained is dropped. -/
theorem Delivers.drop {handle : UInt32} {answers : List Frame}
    (popped : mq.pop.1 = some message) (after : marked = mq.pop.2)
    (history : next.history = node.history ++ [.dropped queue message])
    (clear : ∀ frame ∈ answers, ∃ source answer,
      frame = .pushGrab source answer) :
    Delivers node (.dropQueue queue handle) next
      (answers ++ [.dropQueue queue handle]) := by
  obtain ⟨contents, _, _, flag⟩ :=
    @MessageQueue.pop_some mq mq.pop.2 message (Prod.ext popped rfl)
  have clearAll : ∀ other, (answers ++ [Frame.dropQueue queue handle]).flatMap
      (Frame.inHand other) = [] := by
    intro other
    rw [List.flatMap_eq_nil_iff]
    intro frame member
    rcases List.mem_append.mp member with answer | again
    · obtain ⟨source, sent, rfl⟩ := clear frame answer
      rfl
    · obtain rfl := List.mem_singleton.mp again
      rfl
  refine Delivers.change found lookups history ?_ ?_ ?_ ?_ ?_ ?_
  · intro other different
    refine ⟨rfl, ?_, rfl, clearAll other⟩
    simp [handledFrom, different.symm]
  · rw [clearAll]
    simp [pushedTo, handledFrom, Frame.inHand, contents, after]
  · intro free
    simp [Frame.carries] at free
  · intro _
    rfl
  · intro other freed
    rcases List.mem_append.mp freed with answer | again
    · obtain ⟨source, sent, impossible⟩ := clear _ answer
      simp at impossible
    · simp at again
  · intro drained idle
    rw [after, flag] at idle
    have empty := drained idle
    rw [contents] at empty
    simp at empty

end Changes

end Node

end Crynet.Skynet
