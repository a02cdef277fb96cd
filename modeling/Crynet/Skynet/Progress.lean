import Crynet.Skynet.Deliveries

/-!
# Every step can be taken

What a frame does to a balanced node: the step succeeds, the balance holds of
what its successors carry, and every other frame still fits.  Three steps rely on
what the code does not check.  A registration relies on a handle that nothing
uses any more, and, when the table has to double, on one that can and on no other
creation that has registered and not yet stored its handle.  A send relies on a
handle that is not still waiting for its queue, and a push on a buffer that does
not outgrow an `int`.
-/

namespace Crynet.Skynet

open CallStacks

namespace Node

/-- What the source relies on and does not check: for a registration, that a table
that has to grow can, that whoever is in it has stored its handle, and that the
new handle is not in use; for a send, that a context with the handle has its
queue; for a push, that the capacity stays an `int`. -/
def Orderly (node : Node) : Frame → Prop
  | .registerHandle context =>
      (HandleStorage.freeHandle node.handles.slotSize node.handles.slot
          node.handles.slotSize node.handles.handleIndex = none →
        node.handles.slotSize < 2 ^ 23 ∧
          HandleStorage.Stored node.contextHandle node.handles) ∧
      ∀ handle handles,
        node.handles.register node.contextHandle context =
          .ok (handle, handles) → node.Unused handle
  | .pushGrab handle _ => ∀ context stored,
      node.contexts.lookup context = some stored → stored.handle = handle →
        stored.queue ≠ none
  | .pushQueue context _ => ∀ queue mq, node.Has context queue →
      node.queues.lookup queue = some mq → ¬mq.Overflows
  | _ => True

/-- A step succeeds and keeps what has to be kept. -/
def Advances (node : Node) (others : Token → Nat) (top : Frame)
    (outcome : Except Fault (Node × List Frame)) : Prop :=
  ∃ next frames, outcome = .ok (next, frames) ∧
    CallStacks.Keeps Frame.carries Node.Balanced Node.Fits node next frames
      others ∧ Delivers node top next frames

variable {node next : Node} {others : Token → Nat}
variable {context : ContextRef} {stored : SkynetContext}
variable {queue : QueueRef} {handle : UInt32} {top : Frame}

theorem Advances.of {outcome : Except Fault (Node × List Frame)}
    (frames : List Frame) {tokens : List Token}
    (result : outcome = .ok (next, frames))
    (balanced : next.Balanced (load others tokens))
    (carried : (frames.flatMap Frame.carries).Perm tokens)
    (fits : ∀ frame ∈ frames, next.Fits frame)
    (evolves : Evolves node next others)
    (delivers : Delivers node top next frames) :
    node.Advances others top outcome := by
  refine ⟨next, frames, result, ⟨?_, fits, ?_⟩, delivers⟩
  · rw [load_perm others carried]
    exact balanced
  · intro frame held fitted
    exact evolves.fits held fitted

/-- A step that leaves the node as it is. -/
theorem Advances.same {outcome : Except Fault (Node × List Frame)}
    (frames : List Frame) {tokens : List Token}
    (balanced : node.Balanced (load others tokens))
    (result : outcome = .ok (node, frames))
    (carried : (frames.flatMap Frame.carries).Perm tokens)
    (fits : ∀ frame ∈ frames, node.Fits frame) (quiet : Quiet top frames) :
    node.Advances others top outcome :=
  Advances.of frames result balanced carried fits
    ((SameLabels.refl node).gentle.evolves others)
    (Delivers.quiet rfl rfl quiet)

/-- A referenced context is there. -/
theorem Balanced.reference {tokens : List Token}
    (balanced : node.Balanced (load others (.reference context :: tokens))) :
    ∃ stored, node.contexts.lookup context = some stored :=
  balanced.present (Or.inl (by simp [load_cons]))

section Release

theorem contextRelease_advances
    (balanced : node.Balanced
      (load others (Frame.contextRelease context).carries)) :
    node.Advances others (.contextRelease context)
      (node.advance (.contextRelease context)) := by
  obtain ⟨stored, found⟩ := balanced.reference
  have same : SameLabels node
      (node.setContext context { stored with ref := stored.ref - 1 }) :=
    SameLabels.of_setContext found rfl id
  have gentle := same.gentle
  have released := balanced.release found
  by_cases last : stored.ref = 1
  · rw [if_pos last] at released
    refine Advances.of [.instanceRelease context] ?_ released ?_ ?_
      (gentle.evolves others)
      (Delivers.quiet rfl rfl ⟨by simp [Frame.inHand], by simp⟩)
    · simp only [advance, advanceRelease, context_ok found, bind, Except.bind,
        if_pos last]
    · exact List.Perm.refl _
    · simp [Fits]
  · rw [if_neg last] at released
    refine Advances.of [] ?_ released ?_ ?_ (gentle.evolves others)
      (Delivers.quiet rfl rfl ⟨by simp [Frame.inHand], by simp⟩)
    · simp only [advance, advanceRelease, context_ok found, bind, Except.bind,
        if_neg last]
    · exact List.Perm.refl _
    · simp

theorem markRelease_advances
    (balanced : node.Balanced (load others (Frame.markRelease context).carries)) :
    node.Advances others (.markRelease context)
      (node.advance (.markRelease context)) := by
  obtain ⟨stored, found, _, single, unheld⟩ :=
    @Balanced.deleting node context _ balanced
      (by simp [Frame.carries, load_cons])
  have attached : ∃ queue, stored.queue = some queue := by
    cases own : stored.queue with
    | some queue => exact ⟨queue, rfl⟩
    | none =>
        have creates := balanced.owned.unowned context stored found own
        exact absurd (Or.inr (Or.inl creates)) unheld
  obtain ⟨queue, attached⟩ := attached
  have unfreed : load others (Frame.markRelease context).carries
      (.freeing context) = 0 := by
    have deletes : 0 < load others (Frame.markRelease context).carries
        (.deleting context) := by simp [Frame.carries, load_cons]
    omega
  obtain ⟨mq, present, live, _⟩ :=
    balanced.owned.owned context stored queue found attached unfreed
  obtain ⟨next, released, marked, gentle, lookups, history⟩ :=
    Balanced.mqMarkRelease balanced found attached present live
  refine Advances.of [.freeContext context] ?_ marked ?_ ?_
    (gentle.evolves others)
    (Delivers.flags present lookups ⟨by simp [Frame.inHand], by simp⟩
      (fun _ => rfl) rfl rfl history)
  · simp only [advance, advanceRelease, contextQueue_ok found attached,
      released, bind, Except.bind]
  · exact List.Perm.refl _
  · simp [Fits]

theorem freeContext_advances
    (balanced : node.Balanced (load others (Frame.freeContext context).carries)) :
    node.Advances others (.freeContext context)
      (node.advance (.freeContext context)) := by
  obtain ⟨stored, found, _⟩ := @Balanced.deleting node context _ balanced
    (by simp [Frame.carries, load_cons])
  obtain ⟨freed, evolves⟩ := balanced.freeContext
  refine Advances.of [.contextDec] ?_ freed ?_ ?_ evolves
    (Delivers.quiet rfl rfl ⟨by simp [Frame.inHand], by simp⟩)
  · simp only [advance, advanceRelease, context_ok found, bind, Except.bind]
  · exact List.Perm.refl _
  · simp [Fits]

theorem contextDec_advances
    (balanced : node.Balanced (load others Frame.contextDec.carries)) :
    node.Advances others .contextDec (node.advance .contextDec) := by
  obtain ⟨kept, gentle⟩ := @Balanced.silent node
    { node with total := node.total - 1 } _ balanced rfl rfl rfl rfl rfl rfl
  refine Advances.of [] ?_ kept ?_ ?_ (gentle.evolves others)
    (Delivers.quiet rfl rfl ⟨by simp [Frame.inHand], by simp⟩)
  · rfl
  · exact List.Perm.refl _
  · simp

end Release

section Handles

theorem pushGrab_advances {message : SkynetMessage}
    (balanced : node.Balanced
      (load others (Frame.pushGrab handle message).carries))
    (nonzero : handle ≠ 0) (orderly : node.Orderly (.pushGrab handle message)) :
    node.Advances others (.pushGrab handle message)
      (node.advance (.pushGrab handle message)) := by
  rcases balanced.handleGrab nonzero with
    missed | ⟨context, stored, found, known, registered, grabbed⟩
  · refine Advances.same [] balanced ?_ (List.Perm.refl _) (by simp)
      ⟨by simp [Frame.inHand], by simp⟩
    simp only [advance, advanceHandle, missed, bind, Except.bind]
  · have same : SameLabels node
        (node.setContext context { stored with ref := stored.ref + 1 }) :=
      SameLabels.of_setContext found rfl id
    obtain ⟨queue, attached⟩ :=
      Option.ne_none_iff_exists'.mp (orderly context stored found known)
    refine Advances.of [.pushQueue context message] ?_
      (balanced.grab found registered) (List.Perm.refl _) ?_
      (same.gentle.evolves others)
      (Delivers.quiet rfl rfl ⟨by simp [Frame.inHand], by simp⟩)
    · simp only [advance, advanceHandle, grabbed, bind, Except.bind]
    · simp only [List.mem_singleton, forall_eq, Fits]
      exact ⟨queue, { stored with ref := stored.ref + 1 }, by simp, attached⟩

theorem endlessGrab_advances
    (balanced : node.Balanced (load others (Frame.endlessGrab handle).carries))
    (nonzero : handle ≠ 0) :
    node.Advances others (.endlessGrab handle)
      (node.advance (.endlessGrab handle)) := by
  rcases balanced.handleGrab nonzero with
    missed | ⟨context, stored, found, _, registered, grabbed⟩
  · refine Advances.same [] balanced ?_ (List.Perm.refl _) (by simp)
      ⟨by simp [Frame.inHand], by simp⟩
    simp only [advance, advanceHandle, missed, bind, Except.bind]
  · have same : SameLabels node
        (node.setContext context { stored with ref := stored.ref + 1 }) :=
      SameLabels.of_setContext found rfl id
    refine Advances.of [.endlessSet context] ?_
      (balanced.grab found registered) (List.Perm.refl _) (by simp [Fits])
      (same.gentle.evolves others)
      (Delivers.quiet rfl rfl ⟨by simp [Frame.inHand], by simp⟩)
    simp only [advance, advanceHandle, grabbed, bind, Except.bind]

theorem endlessSet_advances
    (balanced : node.Balanced (load others (Frame.endlessSet context).carries)) :
    node.Advances others (.endlessSet context)
      (node.advance (.endlessSet context)) := by
  obtain ⟨stored, found⟩ := balanced.reference
  have same : SameLabels node
      (node.setContext context { stored with endless := true }) :=
    SameLabels.of_setContext found rfl id
  have kept : (node.setContext context { stored with endless := true }).Balanced
      (load others (Frame.endlessSet context).carries) :=
    balanced.setContext found rfl id rfl
  refine Advances.of [.contextRelease context] ?_ kept (List.Perm.refl _)
    (by simp [Fits]) (same.gentle.evolves others)
    (Delivers.quiet rfl rfl ⟨by simp [Frame.inHand], by simp⟩)
  simp only [advance, advanceHandle, context_ok found, bind, Except.bind]

theorem pushQueue_advances {message : SkynetMessage}
    (balanced : node.Balanced
      (load others (Frame.pushQueue context message).carries))
    (fits : node.Fits (.pushQueue context message))
    (orderly : node.Orderly (.pushQueue context message)) :
    node.Advances others (.pushQueue context message)
      (node.advance (.pushQueue context message)) := by
  obtain ⟨queue, stored, found, attached⟩ := fits
  obtain ⟨mq, present, live, _⟩ := balanced.live found
    (Or.inl (by simp [Frame.carries, load_cons])) attached
  obtain ⟨next, pushed, kept, gentle, lookups, history⟩ :=
    balanced.mqPush present live message
      (orderly queue mq ⟨stored, found, attached⟩ present)
  refine Advances.of [.contextRelease context] ?_ kept (List.Perm.refl _)
    (by simp [Fits]) (gentle.evolves others)
    (Delivers.push present lookups live rfl history)
  simp only [advance, advanceHandle, contextQueue_ok found attached, pushed,
    bind, Except.bind]

theorem handleRetire_advances
    (balanced : node.Balanced (load others (Frame.handleRetire handle).carries))
    (nonzero : handle ≠ 0) :
    node.Advances others (.handleRetire handle)
      (node.advance (.handleRetire handle)) := by
  rcases balanced.retire nonzero with
    ⟨missed, _⟩ | ⟨context, handles, registered, known, leaves, taken⟩
  · refine Advances.same [] balanced ?_ (List.Perm.refl _) (by simp)
      ⟨by simp [Frame.inHand], by simp⟩
    simp only [advance, advanceHandle, missed, bind, Except.bind]
  · obtain ⟨left, gentle⟩ := balanced.leave leaves known nonzero registered
    refine Advances.of [.contextRelease context] ?_ left (List.Perm.refl _)
      (by simp [Fits]) (gentle.evolves others)
      (Delivers.quiet rfl rfl ⟨by simp [Frame.inHand], by simp⟩)
    simp only [advance, advanceHandle, taken, bind, Except.bind]

theorem retireAll_advances {index found : Nat}
    (balanced : node.Balanced (load others (Frame.retireAll index found).carries)) :
    node.Advances others (.retireAll index found)
      (node.advance (.retireAll index found)) := by
  by_cases inside : index < node.handles.slotSize
  · cases occupied : node.handles.slot index with
    | none =>
        refine Advances.same [.retireAll (index + 1) found] balanced ?_
          (List.Perm.refl _) (by simp [Fits]) ⟨by simp [Frame.inHand], by simp⟩
        simp only [advance, advanceHandle, if_pos inside, occupied]
    | some context =>
        obtain ⟨handle, read, _⟩ :=
          balanced.agree.placed.reads index context occupied
        by_cases zero : handle = 0
        · refine Advances.same [.retireAll (index + 1) (found + 1)] balanced ?_
            (List.Perm.refl _) (by simp [Fits])
            ⟨by simp [Frame.inHand], by simp⟩
          simp only [advance, advanceHandle, if_pos inside, occupied, read,
            if_pos zero, bind, Except.bind]
        · refine Advances.same
            [.handleRetire handle, .retireAll (index + 1) (found + 1)] balanced
            ?_ (List.Perm.refl _) (by simp [Fits, zero])
            ⟨by simp [Frame.inHand], by simp⟩
          simp only [advance, advanceHandle, if_pos inside, occupied, read,
            if_neg zero, bind, Except.bind]
  · by_cases none : found = 0
    · refine Advances.same [] balanced ?_ (List.Perm.refl _) (by simp)
        ⟨by simp [Frame.inHand], by simp⟩
      simp only [advance, advanceHandle, if_neg inside, if_pos none]
    · refine Advances.same [.retireAll 0 0] balanced ?_ (List.Perm.refl _)
        (by simp [Fits]) ⟨by simp [Frame.inHand], by simp⟩
      simp only [advance, advanceHandle, if_neg inside, if_neg none]

end Handles

section New

theorem registerHandle_advances
    (balanced : node.Balanced (load others (Frame.registerHandle context).carries))
    (fits : node.Fits (.registerHandle context))
    (orderly : node.Orderly (.registerHandle context)) :
    node.Advances others (.registerHandle context)
      (node.advance (.registerHandle context)) := by
  obtain ⟨full, unused⟩ := orderly
  obtain ⟨unregistered, stored, found, zero, _⟩ := id fits
  obtain ⟨handle, handles, entered, size, enters⟩ :=
    HandleStorage.register_enters balanced.agree.placed unregistered
      (by rw [contextHandle_of_lookup found, zero])
      (Nat.le_trans (by decide) balanced.agree.several) full
  refine Advances.of [.storeHandle context handle] ?_
    (balanced.enter fits enters size) (List.Perm.refl _) ?_
    (balanced.enter_evolves enters)
    (Delivers.quiet rfl rfl ⟨by simp [Frame.inHand], by simp⟩)
  · simp only [advance, advanceNew, entered, bind, Except.bind]
  · simp only [List.mem_singleton, forall_eq, Fits]
    exact Balanced.enter_waiting fits enters (unused handle handles entered)

theorem storeHandle_advances
    (balanced : node.Balanced
      (load others (Frame.storeHandle context handle).carries))
    (fits : node.Fits (.storeHandle context handle)) :
    node.Advances others (.storeHandle context handle)
      (node.advance (.storeHandle context handle)) := by
  have waiting : node.Waiting context handle := fits
  obtain ⟨stored, found, _⟩ := waiting.stored
  refine Advances.of [.createQueue context handle] ?_
    (waiting.store found balanced) (List.Perm.refl _) ?_
    (waiting.store_evolves found balanced)
    (Delivers.quiet rfl rfl ⟨by simp [Frame.inHand], by simp⟩)
  · simp only [advance, advanceNew, context_ok found, bind, Except.bind]
  · simp only [List.mem_singleton, forall_eq, Fits]
    exact waiting.handled found

theorem createQueue_advances
    (balanced : node.Balanced
      (load others (Frame.createQueue context handle).carries))
    (fits : node.Fits (.createQueue context handle)) :
    node.Advances others (.createQueue context handle)
      (node.advance (.createQueue context handle)) := by
  have handled : node.Handled context handle := fits
  obtain ⟨stored, found, _⟩ := handled.stored
  have opens : node.OpensQueue context stored handle
      { (node.setQueue node.nextQueue (MessageQueue.create handle)).setContext
          context { stored with queue := some node.nextQueue } with
        nextQueue := node.nextQueue + 1 } :=
    ⟨fun other => lookup_setContext _ context other _,
      fun other => lookup_setQueue node node.nextQueue other _, rfl, rfl, rfl,
      rfl⟩
  refine Advances.of [.contextInc context node.nextQueue] ?_
    (opens.balanced handled found balanced) (List.Perm.refl _) ?_
    (opens.evolves handled found balanced)
    (Delivers.create (balanced.queues.fresh _ (Nat.le_refl _)) opens.queues rfl
      ⟨by simp [Frame.inHand], by simp⟩)
  · simp only [advance, advanceNew, context_ok found, bind, Except.bind]
  · simp only [List.mem_singleton, forall_eq, Fits]
    exact opens.has

theorem contextInc_advances
    (balanced : node.Balanced
      (load others (Frame.contextInc context queue).carries))
    (fits : node.Fits (.contextInc context queue)) :
    node.Advances others (.contextInc context queue)
      (node.advance (.contextInc context queue)) := by
  obtain ⟨kept, gentle⟩ := @Balanced.silent node
    { node with total := node.total + 1 } _ balanced rfl rfl rfl rfl rfl rfl
  refine Advances.of [.moduleInit context queue] rfl kept (List.Perm.refl _) ?_
    (gentle.evolves others)
    (Delivers.quiet rfl rfl ⟨by simp [Frame.inHand], by simp⟩)
  simp only [List.mem_singleton, forall_eq, Fits]
  exact fits

theorem setInit_advances
    (balanced : node.Balanced (load others (Frame.setInit context queue).carries))
    (fits : node.Fits (.setInit context queue)) :
    node.Advances others (.setInit context queue)
      (node.advance (.setInit context queue)) := by
  obtain ⟨stored, found, attached⟩ := fits
  obtain ⟨started, gentle⟩ := Balanced.setInit balanced found attached
  refine Advances.of [.launch context queue] ?_ started (List.Perm.refl _) ?_
    (gentle.evolves others)
    (Delivers.quiet rfl rfl ⟨by simp [Frame.inHand], by simp⟩)
  · simp only [advance, advanceNew, context_ok found, bind, Except.bind]
  · simp only [List.mem_singleton, forall_eq, Fits]
    exact ⟨{ stored with init := true }, by simp, attached⟩

theorem launch_advances
    (balanced : node.Balanced (load others (Frame.launch context queue).carries)) :
    node.Advances others (.launch context queue)
      (node.advance (.launch context queue)) := by
  have pushed : node.globalmqPush queue =
      .ok { node with globalQueue := node.globalQueue ++ [queue] } :=
    balanced.globalmqPush (by simp [Frame.carries, load_cons])
  have swapped : load others (Frame.launch context queue).carries =
      load others [.mailbox queue, .reference context] :=
    load_perm others (List.Perm.swap _ _ _)
  rw [swapped] at balanced
  obtain ⟨linked, gentle⟩ := balanced.link
  refine Advances.of [.contextRelease context] ?_ linked (List.Perm.refl _)
    (by simp [Fits]) (gentle.evolves others)
    (Delivers.quiet rfl rfl ⟨by simp [Frame.inHand], by simp⟩)
  simp only [advance, advanceNew, pushed, bind, Except.bind]

theorem initFailed_advances
    (balanced : node.Balanced
      (load others (Frame.initFailed context queue).carries))
    (fits : node.Fits (.initFailed context queue)) :
    node.Advances others (.initFailed context queue)
      (node.advance (.initFailed context queue)) := by
  obtain ⟨stored, found, attached⟩ := fits
  obtain ⟨mq, present, _, known⟩ := balanced.live found
    (Or.inl (by simp [Frame.carries, load_cons])) attached
  refine Advances.same [.contextRelease context, .initRetire stored.handle queue]
    balanced ?_ (List.Perm.refl _) ?_ ⟨by simp [Frame.inHand], by simp⟩
  · simp only [advance, advanceNew, contextHandle_of_lookup found, bind,
      Except.bind]
  · simp only [List.mem_cons, List.not_mem_nil, or_false, forall_eq_or_imp,
      forall_eq, Fits, true_and]
    exact ⟨mq, present, known⟩

theorem initRetire_advances
    (balanced : node.Balanced
      (load others (Frame.initRetire handle queue).carries))
    (fits : node.Fits (.initRetire handle queue)) :
    node.Advances others (.initRetire handle queue)
      (node.advance (.initRetire handle queue)) := by
  obtain ⟨mq, present, known⟩ := fits
  have nonzero : handle ≠ 0 := by
    rw [← known]
    exact balanced.agree.nonzero queue mq present
  have owner : ∀ context stored, node.contexts.lookup context = some stored →
      stored.queue = some queue → node.handles.Registered context →
        stored.handle = handle := by
    intro context stored found attached registered
    obtain ⟨own, there, _, same⟩ := balanced.live found
      (Or.inr (Or.inr registered)) attached
    obtain rfl := Option.some.inj (present.symm.trans there)
    exact same.symm.trans known
  rcases balanced.retire nonzero with
    ⟨missed, none⟩ | ⟨context, handles, registered, read, leaves, taken⟩
  · have handed : node.Balanced (load others [.mailbox queue]) := by
      refine Balanced.handOver balanced ?_
      intro context stored found attached registered
      exact absurd (owner context stored found attached registered)
        (none context stored found registered)
    refine Advances.same [.mqRelease queue handle] handed ?_
      (List.Perm.refl _) ?_ ⟨by simp [Frame.inHand], by simp⟩
    · simp only [advance, advanceNew, missed, bind, Except.bind]
    · simp only [List.mem_singleton, forall_eq, Fits]
      exact ⟨mq, present, known⟩
  · obtain ⟨left, gentle⟩ := balanced.leave leaves read nonzero registered
    have swapped : load others (.reference context ::
          (Frame.initRetire handle queue).carries) =
        load others [.kept queue, .reference context] :=
      load_perm others (List.Perm.swap _ _ _)
    rw [swapped] at left
    have handed : ({ node with handles := handles } : Node).Balanced
        (load others [.mailbox queue, .reference context]) := by
      refine Balanced.handOver left ?_
      intro other stored found attached inside
      obtain ⟨before, different⟩ := leaves.registered.mp inside
      obtain ⟨current, there, same⟩ := lookup_of_contextHandle read
      have equal := owner other stored found attached before
      have one := balanced.agree.distinct other context stored current found
        there (equal.trans same.symm) (by rwa [equal])
      exact absurd one different
    refine Advances.of [.contextRelease context, .mqRelease queue handle] ?_
      handed (List.Perm.swap _ _ _) ?_ (gentle.evolves others)
      (Delivers.quiet rfl rfl ⟨by simp [Frame.inHand], by simp⟩)
    · simp only [advance, advanceNew, taken, bind, Except.bind]
    · simp only [List.mem_cons, List.not_mem_nil, or_false, forall_eq_or_imp,
        forall_eq, Fits, true_and]
      exact ⟨mq, present, known⟩

end New

section Dispatch

variable {weight : Int} {turn : Turn} {message : SkynetMessage}

/-- What the frames of a dispatch know. -/
def Turns (node : Node) (turn : Turn) : Prop :=
  ∃ stored, node.contexts.lookup turn.context = some stored ∧
    stored.queue = some turn.queue ∧ stored.init = true

/-- A queue that is dispatched is live. -/
theorem Balanced.turnQueue {tokens : List Token}
    (balanced : node.Balanced
      (load others (.reference turn.context :: tokens)))
    (turns : node.Turns turn) :
    ∃ mq, node.queues.lookup turn.queue = some mq ∧ mq.released = false := by
  obtain ⟨stored, found, attached, _⟩ := turns
  obtain ⟨mq, present, live, _⟩ := balanced.live found
    (Or.inl (by simp [load_cons])) attached
  exact ⟨mq, present, live⟩

theorem Gentle.turns (gentle : Gentle node next) (turns : node.Turns turn) :
    next.Turns turn := by
  obtain ⟨stored, found, attached, init⟩ := turns
  obtain ⟨later, laterFound, _, queue, still⟩ :=
    gentle.contexts turn.context stored found
  exact ⟨later, laterFound, queue.trans attached, still init⟩

theorem worker_advances {queue : Option QueueRef}
    (balanced : node.Balanced (load others (Frame.worker weight queue).carries)) :
    node.Advances others (.worker weight queue)
      (node.advance (.worker weight queue)) := by
  cases queue with
  | some queue =>
      exact Advances.same [.dispatchGrab weight queue] balanced rfl
        (List.Perm.refl _) (by simp [Fits]) ⟨by simp [Frame.inHand], by simp⟩
  | none =>
      rcases balanced.globalmqPop with
        ⟨_, popped⟩ | ⟨first, rest, links, popped⟩
      · refine Advances.same [.worker weight none] balanced ?_
          (List.Perm.refl _) (by simp [Fits]) ⟨by simp [Frame.inHand], by simp⟩
        simp only [advance, advanceDispatch, popped, bind, Except.bind]
      · obtain ⟨unlinked, gentle⟩ := balanced.unlink links
        refine Advances.of [.worker weight (some first)] ?_ unlinked
          (List.Perm.refl _) (by simp [Fits]) (gentle.evolves others)
          (Delivers.quiet rfl rfl ⟨by simp [Frame.inHand], by simp⟩)
        simp only [advance, advanceDispatch, popped, bind, Except.bind]

theorem dispatchGrab_advances
    (balanced : node.Balanced
      (load others (Frame.dispatchGrab weight queue).carries)) :
    node.Advances others (.dispatchGrab weight queue)
      (node.advance (.dispatchGrab weight queue)) := by
  obtain ⟨mq, present, _, single⟩ := @Balanced.inHands node queue _ balanced
    (Or.inl (by simp [Frame.carries, load_cons]))
  have nonzero := balanced.agree.nonzero queue mq present
  rcases balanced.handleGrab nonzero with
    missed | ⟨context, stored, found, known, registered, grabbed⟩
  · refine Advances.same [.mqRelease queue mq.handle, .worker weight none]
      balanced ?_ (List.Perm.refl _) ?_ ⟨by simp [Frame.inHand], by simp⟩
    · simp only [advance, advanceDispatch, queue_ok present, missed, bind,
        Except.bind]
    · simp only [List.mem_cons, List.not_mem_nil, or_false, forall_eq_or_imp,
        forall_eq, Fits, and_true]
      exact ⟨mq, present, rfl⟩
  · have attached := balanced.agree.queueOf queue mq context stored present
      found known
    have init : stored.init = true := by
      cases started : stored.init with
      | true => rfl
      | false =>
          have kept := balanced.agree.starting context stored queue found
            started registered attached
          have held : 0 < load others (Frame.dispatchGrab weight queue).carries
              (.mailbox queue) := by simp [Frame.carries, load_cons]
          omega
    have same : SameLabels node
        (node.setContext context { stored with ref := stored.ref + 1 }) :=
      SameLabels.of_setContext found rfl id
    refine Advances.of [.dispatchPop ⟨weight, queue, context, 0, 1⟩] ?_
      (balanced.grab found registered) (List.Perm.refl _) ?_
      (same.gentle.evolves others)
      (Delivers.quiet rfl rfl ⟨by simp [Frame.inHand], by simp⟩)
    · simp only [advance, advanceDispatch, queue_ok present, grabbed, bind,
        Except.bind]
    · simp only [List.mem_singleton, forall_eq, Fits]
      exact ⟨{ stored with ref := stored.ref + 1 }, by simp, attached, init⟩

theorem dispatchPop_advances
    (balanced : node.Balanced (load others (Frame.dispatchPop turn).carries))
    (turns : node.Turns turn) :
    node.Advances others (.dispatchPop turn)
      (node.advance (.dispatchPop turn)) := by
  obtain ⟨mq, present, live⟩ := Balanced.turnQueue balanced turns
  cases popped : mq.pop.1 with
  | none =>
      obtain ⟨_, emptied⟩ :=
        @MessageQueue.pop_none mq mq.pop.2 (Prod.ext popped rfl)
      have swapped : load others (Frame.dispatchPop turn).carries =
          load others [.mailbox turn.queue, .reference turn.context] :=
        load_perm others (List.Perm.swap _ _ _)
      rw [swapped] at balanced
      obtain ⟨kept, gentle⟩ := @Balanced.idle node others _ turn.queue mq
        mq.pop.2 balanced present (by rw [emptied]; rfl) live (by rw [emptied])
      refine Advances.of
        [.contextRelease turn.context, .worker turn.weight none] ?_ kept
        (List.Perm.refl _) (by simp [Fits]) (gentle.evolves others)
        (Delivers.emptied present (fun other => lookup_setQueue node _ other _)
          popped rfl (fun _ => rfl) (fun _ => rfl) (by simp) rfl)
      simp only [advance, advanceDispatch, queue_ok present, popped, bind,
        Except.bind]
  | some message =>
      obtain ⟨_, handle, released, flag⟩ :=
        MessageQueue.pop_some (Prod.ext popped rfl)
      obtain ⟨kept, gentle⟩ := balanced.setQueue present
        (Prod.ext handle released) flag
      have still : (node.setQueue turn.queue mq.pop.2).Turns turn :=
        gentle.turns turns
      by_cases first : turn.index = 0 ∧ 0 ≤ turn.weight
      · refine Advances.of [.dispatchLength turn message] ?_ kept
          (List.Perm.refl _) ?_ (gentle.evolves others)
          (Delivers.pop present (fun other => lookup_setQueue node _ other _)
            rfl popped rfl rfl (fun _ => rfl))
        · simp only [advance, advanceDispatch, queue_ok present, popped,
            if_pos first, bind, Except.bind]
        · simp only [List.mem_singleton, forall_eq, Fits]
          exact still
      · refine Advances.of [.dispatchCall turn message] ?_ kept
          (List.Perm.refl _) ?_ (gentle.evolves others)
          (Delivers.pop present (fun other => lookup_setQueue node _ other _)
            rfl popped rfl rfl (fun _ => rfl))
        · simp only [advance, advanceDispatch, queue_ok present, popped,
            if_neg first, bind, Except.bind]
        · simp only [List.mem_singleton, forall_eq, Fits]
          exact still

theorem dispatchLength_advances
    (balanced : node.Balanced
      (load others (Frame.dispatchLength turn message).carries))
    (turns : node.Turns turn) :
    node.Advances others (.dispatchLength turn message)
      (node.advance (.dispatchLength turn message)) := by
  obtain ⟨mq, present, _⟩ := Balanced.turnQueue balanced turns
  refine Advances.same [.dispatchCall
    { turn with count := mq.length >>> turn.weight.toNat } message] balanced ?_
    (List.Perm.refl _) ?_ ⟨by simp [Frame.inHand], by simp⟩
  · simp only [advance, advanceDispatch, queue_ok present, bind, Except.bind]
  · simp only [List.mem_singleton, forall_eq, Fits]
    exact turns

theorem dispatchCall_advances
    (balanced : node.Balanced
      (load others (Frame.dispatchCall turn message).carries))
    (turns : node.Turns turn) :
    node.Advances others (.dispatchCall turn message)
      (node.advance (.dispatchCall turn message)) := by
  obtain ⟨mq, present, _⟩ := Balanced.turnQueue balanced turns
  obtain ⟨stored, found, attached, init⟩ := id turns
  have label : queueLabel mq.takeOverload.2 = queueLabel mq := by
    simp [queueLabel]
  obtain ⟨taken, gentle⟩ := balanced.setQueue present label (by simp)
  have still : (node.setQueue turn.queue mq.takeOverload.2).contexts.lookup
      turn.context = some stored := found
  cases callback : stored.cb with
  | true =>
      have counted := @Balanced.setContext _ turn.context stored
        { stored with messageCount := stored.messageCount + 1 } _ taken still
        rfl id rfl
      have same : SameLabels (node.setQueue turn.queue mq.takeOverload.2)
          ((node.setQueue turn.queue mq.takeOverload.2).setContext turn.context
            { stored with messageCount := stored.messageCount + 1 }) :=
        SameLabels.of_setContext still rfl id
      obtain ⟨recorded, silent⟩ := @Balanced.silent _
        (((node.setQueue turn.queue mq.takeOverload.2).setContext turn.context
          { stored with messageCount := stored.messageCount + 1 }).record
          (.called turn.queue message)) _ counted rfl rfl rfl rfl rfl rfl
      have whole := (gentle.trans same.gentle).trans silent
      refine Advances.of [.callback turn] ?_ recorded (List.Perm.refl _) ?_
        (whole.evolves others)
        (Delivers.handle present (fun other => lookup_setQueue node _ other _)
          rfl (Or.inl rfl) (by simp) (by simp) rfl (fun _ => rfl) (by simp))
      · simp only [advance, advanceDispatch, queue_ok present,
          context_ok still, callback, init, if_true, bind, Except.bind]
      · simp only [List.mem_singleton, forall_eq, Fits]
        exact whole.turns turns
  | false =>
      obtain ⟨recorded, silent⟩ := @Balanced.silent _
        ((node.setQueue turn.queue mq.takeOverload.2).record
          (.ignored turn.queue message)) _ taken rfl rfl rfl rfl rfl rfl
      have whole := gentle.trans silent
      refine Advances.of [.dispatchNext turn] ?_ recorded (List.Perm.refl _) ?_
        (whole.evolves others)
        (Delivers.handle present (fun other => lookup_setQueue node _ other _)
          rfl (Or.inr rfl) (by simp) (by simp) rfl (fun _ => rfl) (by simp))
      · simp only [advance, advanceDispatch, queue_ok present,
          context_ok still, callback, Bool.false_eq_true, if_false, bind,
          Except.bind]
      · simp only [List.mem_singleton, forall_eq, Fits]
        exact whole.turns turns

theorem dispatchNext_advances
    (balanced : node.Balanced (load others (Frame.dispatchNext turn).carries))
    (turns : node.Turns turn) :
    node.Advances others (.dispatchNext turn)
      (node.advance (.dispatchNext turn)) := by
  by_cases more : turn.index + 1 < turn.count
  · refine Advances.same [.dispatchPop { turn with index := turn.index + 1 }]
      balanced ?_ (List.Perm.refl _) ?_ ⟨by simp [Frame.inHand], by simp⟩
    · simp only [advance, advanceDispatch, if_pos more]
    · simp only [List.mem_singleton, forall_eq, Fits]
      exact turns
  · refine Advances.same [.dispatchEnd turn] balanced ?_ (List.Perm.refl _) ?_
      ⟨by simp [Frame.inHand], by simp⟩
    · simp only [advance, advanceDispatch, if_neg more]
    · simp only [List.mem_singleton, forall_eq, Fits]
      exact turns

theorem dispatchEnd_advances
    (balanced : node.Balanced (load others (Frame.dispatchEnd turn).carries))
    (turns : node.Turns turn) :
    node.Advances others (.dispatchEnd turn)
      (node.advance (.dispatchEnd turn)) := by
  obtain ⟨stored, found, attached, _⟩ := id turns
  rcases balanced.globalmqPop with
    ⟨_, popped⟩ | ⟨first, rest, links, popped⟩
  · refine Advances.same
      [.contextRelease turn.context, .worker turn.weight (some turn.queue)]
      balanced ?_ (List.Perm.refl _) (by simp [Fits])
      ⟨by simp [Frame.inHand], by simp⟩
    simp only [advance, advanceDispatch, context_ok found, if_pos attached,
      popped, bind, Except.bind]
  · obtain ⟨unlinked, gentle⟩ := balanced.unlink links
    refine Advances.of [.dispatchPushBack turn first] ?_ unlinked ?_ ?_
      (gentle.evolves others)
      (Delivers.quiet rfl rfl ⟨by simp [Frame.inHand], by simp⟩)
    · simp only [advance, advanceDispatch, context_ok found, if_pos attached,
        popped, bind, Except.bind]
    · exact @List.perm_append_comm _
        [Token.reference turn.context, Token.mailbox turn.queue]
        [Token.mailbox first]
    · simp only [List.mem_singleton, forall_eq, Fits]
      exact gentle.turns turns

theorem dispatchPushBack_advances {own : QueueRef}
    (balanced : node.Balanced
      (load others (Frame.dispatchPushBack turn own).carries)) :
    node.Advances others (.dispatchPushBack turn own)
      (node.advance (.dispatchPushBack turn own)) := by
  have pushed : node.globalmqPush turn.queue =
      .ok { node with globalQueue := node.globalQueue ++ [turn.queue] } :=
    balanced.globalmqPush (by simp [Frame.carries, load_cons])
  have swapped : load others (Frame.dispatchPushBack turn own).carries =
      load others [.mailbox turn.queue, .reference turn.context,
        .mailbox own] :=
    load_perm others (List.Perm.swap _ _ _)
  rw [swapped] at balanced
  obtain ⟨linked, gentle⟩ := balanced.link
  refine Advances.of
    [.contextRelease turn.context, .worker turn.weight (some own)] ?_ linked
    (List.Perm.refl _) (by simp [Fits]) (gentle.evolves others)
    (Delivers.quiet rfl rfl ⟨by simp [Frame.inHand], by simp⟩)
  simp only [advance, advanceDispatch, pushed, bind, Except.bind]

end Dispatch

section Drop

theorem mqRelease_advances
    (balanced : node.Balanced
      (load others (Frame.mqRelease queue handle).carries))
    (fits : node.Fits (.mqRelease queue handle)) :
    node.Advances others (.mqRelease queue handle)
      (node.advance (.mqRelease queue handle)) := by
  obtain ⟨mq, present, known⟩ := fits
  cases released : mq.released with
  | true =>
      refine Advances.same [.dropQueue queue handle] balanced ?_
        (List.Perm.refl _) ?_ ⟨by simp [Frame.inHand], by simp⟩
      · simp only [advance, advanceDrop, queue_ok present, released, if_true,
          bind, Except.bind]
      · simp only [List.mem_singleton, forall_eq, Fits]
        exact ⟨mq, present, known, released⟩
  | false =>
      have pushed : node.globalmqPush queue =
          .ok { node with globalQueue := node.globalQueue ++ [queue] } :=
        balanced.globalmqPush (by simp [Frame.carries, load_cons])
      obtain ⟨linked, gentle⟩ := Balanced.link balanced
      refine Advances.of [] ?_ linked (List.Perm.refl _) (by simp)
        (gentle.evolves others)
        (Delivers.quiet rfl rfl ⟨by simp [Frame.inHand], by simp⟩)
      simp only [advance, advanceDrop, queue_ok present, released,
        Bool.false_eq_true, if_false, pushed, bind, Except.bind]

theorem dropQueue_advances
    (balanced : node.Balanced
      (load others (Frame.dropQueue queue handle).carries))
    (fits : node.Fits (.dropQueue queue handle)) :
    node.Advances others (.dropQueue queue handle)
      (node.advance (.dropQueue queue handle)) := by
  obtain ⟨mq, present, known, released⟩ := fits
  have nonzero : handle ≠ 0 := by
    rw [← known]
    exact balanced.agree.nonzero queue mq present
  have unkept : load others (Frame.dropQueue queue handle).carries
      (.kept queue) = 0 := by
    obtain ⟨_, _, _, single⟩ := @Balanced.inHands node queue _ balanced
      (Or.inl (by simp [Frame.carries, load_cons]))
    have held : 0 < load others (Frame.dropQueue queue handle).carries
        (.mailbox queue) := by simp [Frame.carries, load_cons]
    omega
  cases popped : mq.pop.1 with
  | none =>
      obtain ⟨_, emptied⟩ :=
        @MessageQueue.pop_none mq mq.pop.2 (Prod.ext popped rfl)
      have label : queueLabel mq.pop.2 = queueLabel mq := by
        rw [emptied]
        rfl
      have still : mq.pop.2.released = true := by
        rw [emptied]
        exact released
      obtain ⟨kept, gentle⟩ := balanced.drained present label released unkept
      refine Advances.of [.freeQueue queue] ?_ kept (List.Perm.refl _) ?_
        (gentle.evolves others)
        (Delivers.emptied present (fun other => lookup_setQueue node _ other _)
          popped rfl (fun _ => rfl) (fun _ => rfl) (by simp) rfl)
      · simp only [advance, advanceDrop, queue_ok present, popped, bind,
          Except.bind]
      · simp only [List.mem_singleton, forall_eq, Fits]
        exact ⟨mq.pop.2, by simp, still⟩
  | some message =>
      obtain ⟨_, sameHandle, sameReleased, flag⟩ :=
        MessageQueue.pop_some (Prod.ext popped rfl)
      obtain ⟨kept, gentle⟩ := balanced.setQueue present
        (Prod.ext sameHandle sameReleased) flag
      obtain ⟨recorded, silent⟩ := @Balanced.silent _
        ((node.setQueue queue mq.pop.2).record (.dropped queue message)) _ kept
        rfl rfl rfl rfl rfl rfl
      refine Advances.of ((node.setQueue queue mq.pop.2).dropMessage handle
        message ++ [.dropQueue queue handle]) ?_ recorded ?_ ?_
        ((gentle.trans silent).evolves others)
        ?_
      · simp only [advance, advanceDrop, queue_ok present, popped,
          if_neg nonzero, bind, Except.bind]
      · simp only [dropMessage]
        split
        · exact List.Perm.refl _
        · exact List.Perm.refl _
      · intro frame member
        rcases List.mem_append.mp member with answer | again
        · simp only [dropMessage] at answer
          split at answer
          · simp at answer
          · rename_i here
            obtain rfl := List.mem_singleton.mp answer
            exact fun zero => here (Or.inl zero)
        · obtain rfl := List.mem_singleton.mp again
          simp only [Fits]
          exact ⟨mq.pop.2, by simp [record], sameHandle.trans known,
            sameReleased.trans released⟩
      · refine Delivers.drop present ?_ popped rfl rfl ?_
        · intro other
          exact lookup_setQueue node queue other _
        · intro frame member
          simp only [dropMessage] at member
          split at member
          · simp at member
          · exact ⟨_, _, List.mem_singleton.mp member⟩

theorem freeQueue_advances
    (balanced : node.Balanced (load others (Frame.freeQueue queue).carries))
    (fits : node.Fits (.freeQueue queue)) :
    node.Advances others (.freeQueue queue)
      (node.advance (.freeQueue queue)) := by
  obtain ⟨mq, present, released⟩ := fits
  obtain ⟨unlinked, freed, evolves⟩ :=
    Balanced.freeQueue balanced present released
  refine Advances.of [] ?_ freed (List.Perm.refl _) (by simp) evolves
    (Delivers.free (fun other => lookup_eraseQueue queue other) rfl)
  simp only [advance, advanceDrop, queue_ok present, if_neg unlinked, bind,
    Except.bind]

end Drop

end Node

end Crynet.Skynet
