import Crynet.Skynet.Deletions

/-!
# What the operations of a node return

Under the balance no operation reads memory that is not there and no assertion
fails.  Each lemma gives the result of one operation for a frame that holds what
the caller holds.
-/

namespace Crynet.Skynet

open CallStacks

namespace Node

variable {node : Node} {held : Token → Nat}
variable {context : ContextRef} {stored : SkynetContext}
variable {queue : QueueRef} {mq : MessageQueue} {handle : UInt32}

theorem context_ok (found : node.contexts.lookup context = some stored) :
    node.context context = .ok stored := by
  simp only [Node.context, found]

theorem queue_ok (found : node.queues.lookup queue = some mq) :
    node.queue queue = .ok mq := by
  simp only [Node.queue, found]

theorem contextQueue_ok (found : node.contexts.lookup context = some stored)
    (attached : stored.queue = some queue) :
    node.contextQueue context = .ok queue := by
  simp only [contextQueue, context_ok found, attached, bind, Except.bind]

/-- A queue that is there and not linked can be linked. -/
theorem globalmqPush_ok (found : node.queues.lookup queue = some mq)
    (linked : ∀ other ∈ node.globalQueue,
      ∃ present, node.queues.lookup other = some present)
    (unlinked : queue ∉ node.globalQueue) :
    node.globalmqPush queue =
      .ok { node with globalQueue := node.globalQueue ++ [queue] } := by
  have tail : ∃ present, node.queue (node.globalQueue.getLast?.getD queue) =
      .ok present := by
    cases last : node.globalQueue.getLast? with
    | none => exact ⟨mq, queue_ok found⟩
    | some other =>
        obtain ⟨present, there⟩ := linked other (List.mem_of_getLast? last)
        exact ⟨present, queue_ok there⟩
  obtain ⟨present, there⟩ := tail
  simp only [globalmqPush, queue_ok found, there, if_neg unlinked, bind,
    Except.bind]

theorem Balanced.linked (balanced : node.Balanced held) :
    ∀ other ∈ node.globalQueue,
      ∃ present, node.queues.lookup other = some present := by
  intro other member
  obtain ⟨present, there, _⟩ := balanced.inHands (Or.inr (Or.inr member))
  exact ⟨present, there⟩

/-- Whoever has a queue in hand can link it. -/
theorem Balanced.globalmqPush (balanced : node.Balanced held)
    (carried : 0 < held (.mailbox queue)) :
    node.globalmqPush queue =
      .ok { node with globalQueue := node.globalQueue ++ [queue] } := by
  obtain ⟨mq, found, _, single⟩ := balanced.inHands (Or.inl carried)
  refine globalmqPush_ok found balanced.linked ?_
  exact List.count_eq_zero.mp (by omega)

theorem Balanced.globalmqPop (balanced : node.Balanced held) :
    (node.globalQueue = [] ∧ node.globalmqPop = .ok (none, node)) ∨
    ∃ first rest, node.globalQueue = first :: rest ∧
      node.globalmqPop = .ok (some first, { node with globalQueue := rest }) := by
  cases links : node.globalQueue with
  | nil => exact Or.inl ⟨rfl, by simp only [Node.globalmqPop, links]⟩
  | cons first rest =>
      obtain ⟨mq, found⟩ := balanced.linked first (by simp [links])
      refine Or.inr ⟨first, rest, rfl, ?_⟩
      simp only [Node.globalmqPop, links, queue_ok found, bind, Except.bind]

/-- A grab finds the registered context with the handle, if there is one. -/
theorem Balanced.handleGrab (balanced : node.Balanced held)
    (nonzero : handle ≠ 0) :
    node.handleGrab handle = .ok (none, node) ∨
    ∃ context stored, node.contexts.lookup context = some stored ∧
      stored.handle = handle ∧ node.handles.Registered context ∧
      node.handleGrab handle = .ok (some context,
        node.setContext context { stored with ref := stored.ref + 1 }) := by
  obtain ⟨found, looked, spec⟩ :=
    HandleStorage.lookup_spec balanced.agree.placed nonzero
  cases found with
  | none =>
      left
      simp only [Node.handleGrab, looked, bind, Except.bind]
  | some context =>
      right
      obtain ⟨registered, read⟩ := (spec context).mp rfl
      obtain ⟨stored, present, known⟩ := lookup_of_contextHandle read
      refine ⟨context, stored, present, known, registered, ?_⟩
      simp only [Node.handleGrab, looked, context_ok present, bind, Except.bind]

/-- A retirement takes the registered context with the handle out, if there is
one. -/
theorem Balanced.retire (balanced : node.Balanced held)
    (nonzero : handle ≠ 0) :
    (node.handles.retire node.contextHandle handle =
        .ok (none, node.handles) ∧
      ∀ context stored, node.contexts.lookup context = some stored →
        node.handles.Registered context → stored.handle ≠ handle) ∨
    ∃ context handles, node.handles.Registered context ∧
      node.contextHandle context = .ok handle ∧
      HandleStorage.Leaves node.handles context handle handles ∧
      node.handles.retire node.contextHandle handle =
        .ok (some context, handles) := by
  rcases HandleStorage.retire_cases balanced.agree.placed nonzero with
    ⟨context, handles, taken, read, registered, leaves⟩ | ⟨missed, none⟩
  · exact Or.inr ⟨context, handles, registered, read, leaves, taken⟩
  · refine Or.inl ⟨missed, ?_⟩
    intro context stored found registered known
    apply none context registered
    rw [contextHandle_of_lookup found, known]

/-- A push to a live queue, which links it if it was in nobody's hands. -/
theorem Balanced.mqPush (balanced : node.Balanced held)
    (found : node.queues.lookup queue = some mq)
    (live : mq.released = false) (message : SkynetMessage)
    (fits : ¬mq.Overflows) :
    ∃ next, node.mqPush queue message = .ok next ∧ next.Balanced held ∧
      Gentle node next ∧
      (∀ other, next.queues.lookup other =
        if other = queue then some (mq.push message fits).1
        else node.queues.lookup other) ∧
      next.history = node.history ++ [.pushed queue message] := by
  have label : queueLabel (mq.push message fits).1 = queueLabel mq := by
    simp [queueLabel]
  cases idle : mq.inGlobal with
  | true =>
      obtain ⟨kept, gentle⟩ := balanced.setQueue found label (by simp [idle])
      obtain ⟨recorded, still⟩ := @Balanced.silent _
        ((node.setQueue queue (mq.push message fits).1).record
          (.pushed queue message)) held kept rfl rfl rfl rfl rfl rfl
      refine ⟨_, ?_, recorded, gentle.trans still,
        fun other => lookup_setQueue node queue other _, rfl⟩
      simp [Node.mqPush, queue_ok found, dif_neg fits, idle, bind, Except.bind]
  | false =>
      obtain ⟨kept, gentle⟩ :=
        balanced.wake found label live idle (by simp)
      obtain ⟨recorded, still⟩ := @Balanced.silent _
        ({ node.setQueue queue (mq.push message fits).1 with
            globalQueue := node.globalQueue ++ [queue]
            history := node.history ++ [.pushed queue message] } : Node)
        held kept rfl rfl rfl rfl rfl rfl
      refine ⟨_, ?_, recorded, gentle.trans still,
        fun other => lookup_setQueue node queue other _, rfl⟩
      have count := balanced.queues.inHands queue mq found
      simp only [hands, idle, live, Bool.false_eq_true, or_self,
        if_false] at count
      have pushed : ((node.setQueue queue (mq.push message fits).1).record
          (.pushed queue message)).globalmqPush queue =
          .ok { node.setQueue queue (mq.push message fits).1 with
            globalQueue := node.globalQueue ++ [queue]
            history := node.history ++ [.pushed queue message] } := by
        refine @globalmqPush_ok ((node.setQueue queue (mq.push message fits).1).record
          (.pushed queue message)) queue (mq.push message fits).1 ?_ ?_ ?_
        · simp [record]
        · intro other member
          obtain ⟨present, there⟩ := balanced.linked other member
          rw [show ((node.setQueue queue (mq.push message fits).1).record
            (.pushed queue message)).queues =
              (node.setQueue queue (mq.push message fits).1).queues from rfl,
            lookup_setQueue]
          split
          · exact ⟨_, rfl⟩
          · exact ⟨present, there⟩
        · exact List.count_eq_zero.mp (by
            simp only [record, setQueue_globalQueue]
            omega)
      simp only [Node.mqPush, queue_ok found, dif_neg fits, bind, Except.bind,
        MessageQueue.push_wakes, idle, Bool.not_false, if_true]
      exact pushed

/-- The mark of a context that is deleted, which links its queue if that was in
nobody's hands. -/
theorem Balanced.mqMarkRelease {others : Token → Nat} {tokens : List Token}
    (balanced : node.Balanced (load others (.deleting context :: tokens)))
    (found : node.contexts.lookup context = some stored)
    (attached : stored.queue = some queue)
    (present : node.queues.lookup queue = some mq)
    (live : mq.released = false) :
    ∃ next, node.mqMarkRelease queue = .ok next ∧
      next.Balanced (load others (.freeing context :: tokens)) ∧
      Gentle node next ∧
      (∀ other, next.queues.lookup other =
        if other = queue then some mq.markRelease.1
        else node.queues.lookup other) ∧
      next.history = node.history := by
  cases inGlobal : mq.inGlobal with
  | true =>
      have marks : node.MarksQueue queue mq mq.markRelease.1
          (node.setQueue queue mq.markRelease.1) :=
        ⟨rfl, live, rfl, rfl, rfl,
          fun other => lookup_setQueue node queue other _, rfl, rfl, rfl, by
            rw [if_pos inGlobal]
            rfl⟩
      refine ⟨_, ?_, marks.balanced found attached present balanced,
        marks.gentle present, marks.queues, rfl⟩
      simp [Node.mqMarkRelease, queue_ok present, live,
        MessageQueue.markRelease, inGlobal, bind, Except.bind]
  | false =>
      have marks : node.MarksQueue queue mq mq.markRelease.1
          { node.setQueue queue mq.markRelease.1 with
            globalQueue := node.globalQueue ++ [queue] } :=
        ⟨rfl, live, rfl, rfl, rfl,
          fun other => lookup_setQueue node queue other _, rfl, rfl, rfl,
          by rw [if_neg (by simp [inGlobal])]⟩
      refine ⟨_, ?_, marks.balanced found attached present balanced,
        marks.gentle present, marks.queues, rfl⟩
      have count := balanced.queues.inHands queue mq present
      simp only [hands, inGlobal, live, Bool.false_eq_true, or_self,
        if_false] at count
      have pushed : (node.setQueue queue mq.markRelease.1).globalmqPush queue =
          .ok { node.setQueue queue mq.markRelease.1 with
            globalQueue := node.globalQueue ++ [queue] } := by
        refine @globalmqPush_ok (node.setQueue queue mq.markRelease.1) queue
          mq.markRelease.1 (by simp) ?_ ?_
        · intro other member
          obtain ⟨before, there⟩ := balanced.linked other member
          rw [lookup_setQueue]
          split
          · exact ⟨_, rfl⟩
          · exact ⟨before, there⟩
        · exact List.count_eq_zero.mp (by
            simp only [setQueue_globalQueue]
            omega)
      have wakes : mq.markRelease.2 = true := by
        simp [MessageQueue.markRelease, inGlobal]
      simp only [Node.mqMarkRelease, queue_ok present, live,
        Bool.false_eq_true, if_false, wakes, if_true, pushed, bind, Except.bind]

/-- A referenced context that has a queue can be pushed to. -/
theorem Balanced.live (balanced : node.Balanced held)
    (found : node.contexts.lookup context = some stored)
    (holds : node.Holds held context) (attached : stored.queue = some queue) :
    ∃ mq, node.queues.lookup queue = some mq ∧ mq.released = false ∧
      mq.handle = stored.handle :=
  balanced.owned.owned context stored queue found attached
    (balanced.alive found holds).2.2

end Node

end Crynet.Skynet
