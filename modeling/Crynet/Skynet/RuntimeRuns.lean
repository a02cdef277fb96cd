import Crynet.Skynet.Progress

/-!
# Runs of the runtime

Any order of the steps of any number of threads, with any calls from the code of
the services.  The steps that rely on something unchecked are taken when it
holds; then the balance holds in every state a run reaches, no step reads memory
that is not there, and no assertion fails.
-/

namespace Crynet.Skynet

open CallStacks

namespace Node

variable {node next : Node} {others : Token → Nat} {top : Frame}

/-- Every frame of the runtime can take its step. -/
theorem advance_advances
    (balanced : node.Balanced (load others top.carries)) (fits : node.Fits top)
    (orderly : node.Orderly top) (runs : top.callsRuntime = false) :
    node.Advances others top (node.advance top) := by
  cases top with
  | pushGrab handle message => exact pushGrab_advances balanced fits orderly
  | pushQueue context message => exact pushQueue_advances balanced fits orderly
  | contextRelease context => exact contextRelease_advances balanced
  | markRelease context => exact markRelease_advances balanced
  | freeContext context => exact freeContext_advances balanced
  | contextDec => exact contextDec_advances balanced
  | handleRetire handle => exact handleRetire_advances balanced fits
  | retireAll index found => exact retireAll_advances balanced
  | endlessGrab handle => exact endlessGrab_advances balanced fits
  | endlessSet context => exact endlessSet_advances balanced
  | registerHandle context =>
      exact registerHandle_advances balanced fits orderly
  | storeHandle context handle => exact storeHandle_advances balanced fits
  | createQueue context handle => exact createQueue_advances balanced fits
  | contextInc context queue => exact contextInc_advances balanced fits
  | setInit context queue => exact setInit_advances balanced fits
  | launch context queue => exact launch_advances balanced
  | initFailed context queue => exact initFailed_advances balanced fits
  | initRetire handle queue => exact initRetire_advances balanced fits
  | worker weight queue => exact worker_advances balanced
  | dispatchGrab weight queue => exact dispatchGrab_advances balanced
  | dispatchPop turn => exact dispatchPop_advances balanced fits
  | dispatchLength turn message => exact dispatchLength_advances balanced fits
  | dispatchCall turn message => exact dispatchCall_advances balanced fits
  | dispatchNext turn => exact dispatchNext_advances balanced fits
  | dispatchEnd turn => exact dispatchEnd_advances balanced fits
  | dispatchPushBack turn own => exact dispatchPushBack_advances balanced
  | mqRelease queue handle => exact mqRelease_advances balanced fits
  | dropQueue queue handle => exact dropQueue_advances balanced fits
  | freeQueue queue => exact freeQueue_advances balanced fits
  | instanceRelease context | moduleInit context queue | callback turn
  | external =>
      simp [Frame.callsRuntime] at runs

/-- What a call relies on: a table of names that can still double. -/
def CallOrderly (node : Node) : Call → Prop
  | .namehandle _ _ => node.handles.name.length < node.handles.nameCap ∨
      node.handles.nameCap * 2 ≤ maxSlotSize
  | _ => True

/-- A change of the names only. -/
theorem Balanced.rename {held : Token → Nat} {handles : HandleStorage ContextRef}
    (balanced : node.Balanced held)
    (slot : handles.slot = node.handles.slot)
    (slotSize : handles.slotSize = node.handles.slotSize) :
    ({ node with handles := handles } : Node).Balanced held ∧
      Gentle node { node with handles := handles } := by
  have registered : ∀ context,
      handles.Registered context ↔ node.handles.Registered context := by
    intro context
    simp only [HandleStorage.Registered, slot]
  have placed : HandleStorage.Placed node.contextHandle handles := by
    refine ⟨?_, ?_, ?_⟩
    · rw [slot, slotSize]
      exact balanced.agree.placed.inside
    · rw [slot]
      exact balanced.agree.placed.single
    · rw [slot, slotSize]
      exact balanced.agree.placed.reads
  refine ⟨⟨⟨?_, ?_, balanced.contexts.creating, balanced.contexts.fresh⟩,
    ⟨balanced.queues.absent, balanced.queues.inHands,
      balanced.queues.keptMarked, balanced.queues.fresh⟩,
    balanced.owned.withHandles (fun _ => rfl) (fun _ => Nat.le_refl _),
    ⟨placed, ?_, balanced.agree.distinct, balanced.agree.nonzero,
      balanced.agree.queueOf, ?_⟩⟩, ?_⟩
  · intro context missing
    simp only [registered]
    exact balanced.contexts.absent context missing
  · intro context stored found
    obtain ⟨ref, deleted⟩ := balanced.contexts.counted context stored found
    exact ⟨by simpa only [registered] using ref, deleted⟩
  · rw [slotSize]
    exact balanced.agree.several
  · intro context stored queue found unstarted inside own
    exact balanced.agree.starting context stored queue found unstarted
      ((registered context).mp inside) own
  · refine ⟨fun _ stored found => ⟨stored, found, rfl, rfl, id⟩,
      fun _ later found _ => ⟨later, found, rfl⟩,
      fun _ mq found => ⟨mq, found, rfl, id⟩,
      fun _ later found => ⟨later, found, rfl⟩, slotSize, ?_, ?_⟩
    · intro index context occupied
      rwa [slot] at occupied
    · intro index context occupied _
      rwa [slot]

theorem namehandle_ok {handle : UInt32} {name : List UInt8}
    (orderly : node.CallOrderly (.namehandle handle name)) :
    ∃ named handles, node.handles.namehandle handle name =
        .ok (named, handles) ∧ handles.slot = node.handles.slot ∧
      handles.slotSize = node.handles.slotSize := by
  simp only [HandleStorage.namehandle]
  cases node.handles.searchName name with
  | found index => exact ⟨none, node.handles, rfl, rfl, rfl⟩
  | missing position =>
      simp only [HandleStorage.insertNameBefore]
      by_cases full : node.handles.name.length ≥ node.handles.nameCap
      · have room : node.handles.nameCap * 2 ≤ maxSlotSize :=
          orderly.resolve_left (Nat.not_lt.mpr full)
        rw [if_pos full, if_pos room]
        exact ⟨_, _, rfl, rfl, rfl⟩
      · rw [if_neg full]
        exact ⟨_, _, rfl, rfl, rfl⟩

/-- A step with the calling frame below what it called. -/
theorem Advances.call {outcome : Except Fault (Node × List Frame)}
    (frames : List Frame) {tokens : List Token}
    (runs : top.callsRuntime = true)
    (result : outcome = .ok (next, frames ++ [top]))
    (balanced : next.Balanced (load others tokens))
    (carried : (frames.flatMap Frame.carries ++ top.carries).Perm tokens)
    (called : ∀ frame ∈ frames, next.Fits frame) (fits : node.Fits top)
    (gentle : Gentle node next) (queues : next.queues = node.queues)
    (history : next.history = node.history) (quiet : Quiet .external frames) :
    node.Advances others top outcome := by
  refine Advances.of (frames ++ [top]) result balanced ?_ ?_
    (gentle.evolves others) (Delivers.quiet queues history ⟨?_, ?_⟩)
  · rw [List.flatMap_append, List.flatMap_singleton]
    exact carried
  · intro frame member
    rcases List.mem_append.mp member with new | caller
    · exact called frame new
    · obtain rfl := List.mem_singleton.mp caller
      exact (gentle.evolves (fun _ => 1)).fits
        (fun _ _ => Nat.one_pos) fits
  · intro queue
    rw [List.flatMap_append, quiet.hands, List.flatMap_singleton]
    rfl
  · intro queue freed
    rcases List.mem_append.mp freed with called | caller
    · exact quiet.frees queue called
    · rw [← List.mem_singleton.mp caller] at runs
      simp [Frame.callsRuntime] at runs

/-- A call can begin, or it is none that the caller makes. -/
theorem startCall_advances
    (balanced : node.Balanced (load others top.carries)) (fits : node.Fits top)
    (runs : top.callsRuntime = true) (call : Call) (orderly : node.CallOrderly call) :
    node.startCall top call = .error .disabled ∨
    node.Advances others top (do
      let started ← node.startCall top call
      .ok (started.1, started.2 ++ [top])) := by
  have still : Gentle node node := (SameLabels.refl node).gentle
  cases call with
  | contextPush handle message =>
      right
      by_cases away : handle = 0 ∨ node.isRemote handle = true
      · refine Advances.call [] runs ?_ balanced (List.Perm.refl _) (by simp) fits
          still rfl rfl ⟨by simp [Frame.inHand], by simp⟩
        simp only [startCall, if_pos away, bind, Except.bind]
      · have nonzero : handle ≠ 0 := fun zero => away (Or.inl zero)
        refine Advances.call [.pushGrab handle message] runs ?_ balanced
          (List.Perm.refl _) (by simp [Fits, nonzero]) fits still
          rfl rfl ⟨by simp [Frame.inHand], by simp⟩
        simp only [startCall, if_neg away, bind, Except.bind]
  | handleRetire handle =>
      by_cases zero : handle = 0
      · left
        simp only [startCall, if_pos zero]
      · right
        refine Advances.call [.handleRetire handle] runs ?_ balanced
          (List.Perm.refl _) (by simp [Fits, zero]) fits still
          rfl rfl ⟨by simp [Frame.inHand], by simp⟩
        simp only [startCall, if_neg zero, bind, Except.bind]
  | retireAll =>
      right
      exact Advances.call [.retireAll 0 0] runs rfl balanced (List.Perm.refl _)
        (by simp [Fits]) fits still rfl rfl ⟨by simp [Frame.inHand], by simp⟩
  | contextNew =>
      right
      have missing := balanced.contexts.fresh node.nextContext (Nat.le_refl _)
      have outside :=
        (balanced.contexts.absent node.nextContext missing).2.2.2
      obtain ⟨allocated, gentle⟩ := @Balanced.allocate node others top.carries
        { handle := 0, ref := 2, queue := none, cb := false, init := false,
          endless := false, messageCount := 0 } balanced rfl rfl rfl
      refine Advances.call [.registerHandle node.nextContext] runs rfl allocated
        (List.Perm.refl _) ?_ fits gentle
        rfl rfl ⟨by simp [Frame.inHand], by simp⟩
      simp only [List.mem_singleton, forall_eq, Fits]
      refine ⟨outside, _, lookup_setContext node _ _ _ |>.trans (if_pos rfl),
        rfl, rfl⟩
  | contextEndless handle =>
      by_cases zero : handle = 0
      · left
        simp only [startCall, if_pos zero]
      · right
        refine Advances.call [.endlessGrab handle] runs ?_ balanced
          (List.Perm.refl _) (by simp [Fits, zero]) fits still
          rfl rfl ⟨by simp [Frame.inHand], by simp⟩
        simp only [startCall, if_neg zero, bind, Except.bind]
  | namehandle handle name =>
      right
      obtain ⟨named, handles, done, slot, slotSize⟩ := namehandle_ok orderly
      obtain ⟨kept, gentle⟩ := balanced.rename slot slotSize
      refine Advances.call [] runs ?_ kept (List.Perm.refl _) (by simp) fits gentle
        rfl rfl ⟨by simp [Frame.inHand], by simp⟩
      simp only [startCall, done, bind, Except.bind]
  | callback present =>
      cases own : top.ownContext with
      | none =>
          left
          simp only [startCall, own]
      | some context =>
          right
          have holds : 0 < load others top.carries (.reference context) := by
            cases top with
            | moduleInit context queue | callback turn =>
                simp only [Frame.ownContext, Option.some.injEq] at own
                simp [Frame.carries, load_cons, own]
            | _ => simp [Frame.ownContext] at own
          obtain ⟨stored, found⟩ := balanced.present (Or.inl holds)
          have same : SameLabels node
              (node.setContext context { stored with cb := present }) :=
            SameLabels.of_setContext found rfl id
          have kept : (node.setContext context
              { stored with cb := present }).Balanced
              (load others top.carries) :=
            balanced.setContext found rfl id rfl
          refine Advances.call [] runs ?_ kept (List.Perm.refl _) (by simp) fits
            same.gentle rfl rfl ⟨by simp [Frame.inHand], by simp⟩
          simp only [startCall, own, context_ok found, bind, Except.bind]

/-- Code outside the runtime can return, and hands on what it held. -/
theorem returns_advances
    (balanced : node.Balanced (load others top.carries)) (fits : node.Fits top)
    (succeeded : Bool) :
    top.returns succeeded = .error .disabled ∨
    node.Advances others top (do
      let frames ← top.returns succeeded
      .ok (node, frames)) := by
  cases top with
  | instanceRelease context =>
      right
      exact Advances.same [.markRelease context] balanced rfl
        (List.Perm.refl _) (by simp [Fits]) ⟨by simp [Frame.inHand], by simp⟩
  | moduleInit context queue =>
      right
      cases succeeded with
      | true =>
          refine Advances.same [.setInit context queue] balanced rfl
            (List.Perm.refl _) ?_ ⟨by simp [Frame.inHand], by simp⟩
          simp only [List.mem_singleton, forall_eq, Fits]
          exact fits
      | false =>
          refine Advances.same [.initFailed context queue] balanced rfl
            (List.Perm.refl _) ?_ ⟨by simp [Frame.inHand], by simp⟩
          simp only [List.mem_singleton, forall_eq, Fits]
          exact fits
  | callback turn =>
      right
      refine Advances.same [.dispatchNext turn] balanced rfl
        (List.Perm.refl _) ?_ ⟨by simp [Frame.inHand], by simp⟩
      simp only [List.mem_singleton, forall_eq, Fits]
      exact fits
  | _ => exact Or.inl rfl

private theorem init_balanced (harbor : UInt32) :
    (Node.init harbor).Balanced (fun _ => 0) := by
  have contexts : ∀ context,
      (Node.init harbor).contexts.lookup context = none := fun _ => rfl
  have queues : ∀ queue, (Node.init harbor).queues.lookup queue = none :=
    fun _ => rfl
  have unregistered : ∀ context,
      ¬(Node.init harbor).handles.Registered context := by
    rintro context ⟨index, occupied⟩
    have empty : (none : Option ContextRef) = some context := occupied
    simp at empty
  refine ⟨⟨?_, ?_, fun _ => Nat.zero_le _, fun context _ => contexts context⟩,
    ⟨fun _ _ => rfl, ?_, ?_, fun queue _ => queues queue⟩,
    ⟨?_, ?_, ?_, ?_, ?_⟩, ⟨⟨?_, ?_, ?_⟩, Nat.le_refl _, ?_, ?_, ?_, ?_⟩⟩
  · intro context _
    exact ⟨rfl, rfl, rfl, unregistered context⟩
  · intro context stored found
    simp [contexts] at found
  · intro queue mq found
    simp [queues] at found
  · intro queue mq found
    simp [queues] at found
  · intro context stored queue found
    simp [contexts] at found
  · intro context other stored another queue found
    simp [contexts] at found
  · intro queue mq found
    simp [queues] at found
  · intro context stored found
    simp [contexts] at found
  · intro context stored queue found
    simp [contexts] at found
  · intro index context occupied
    exact absurd ⟨index, occupied⟩ (unregistered context)
  · intro first second context occupied
    exact absurd ⟨first, occupied⟩ (unregistered context)
  · intro index context occupied
    exact absurd ⟨index, occupied⟩ (unregistered context)
  · intro context other stored another found
    simp [contexts] at found
  · intro queue mq found
    simp [queues] at found
  · intro queue mq context stored found
    simp [queues] at found
  · intro context stored queue found
    simp [contexts] at found

end Node

namespace Runtime

variable {runtime next : Runtime} {action : Action}
variable {harbor : UInt32} {workers : List Int} {others : Nat}

/-- The steps that rely on something unchecked are taken when it holds. -/
def Orderly (runtime : Runtime) : Action → Prop
  | .advance thread => ∀ top rest,
      runtime.threads[thread]? = some (top :: rest) →
        runtime.shared.Orderly top
  | .call _ call => runtime.shared.CallOrderly call
  | .finish _ _ => True

/-- A run from the start, every step of which is orderly. -/
abbrev Run (harbor : UInt32) (workers : List Int) (others : Nat) :
    List Action → Runtime → Prop :=
  Transition.Execution (Transition.returning step) Orderly
    (start harbor workers others)

theorem start_frames (frame : Frame)
    (member : frame ∈ (start harbor workers others).frames) :
    (∃ weight, frame = .worker weight none) ∨ frame = .external := by
  obtain ⟨stack, listed, inside⟩ := List.mem_flatten.mp member
  simp only [start, List.mem_append, List.mem_map, List.mem_replicate] at listed
  rcases listed with ⟨weight, _, rfl⟩ | ⟨_, rfl⟩
  · exact Or.inl ⟨weight, List.mem_singleton.mp inside⟩
  · exact Or.inr (List.mem_singleton.mp inside)

theorem start_sound : (start harbor workers others).Sound := by
  have bare : carried Frame.carries (start harbor workers others).frames =
      fun _ => 0 := by
    have none : (start harbor workers others).frames.flatMap Frame.carries =
        [] := by
      rw [List.flatMap_eq_nil_iff]
      intro frame member
      rcases start_frames frame member with ⟨weight, rfl⟩ | rfl
      · rfl
      · rfl
    funext token
    rw [carried, none, List.count_nil]
  refine ⟨?_, ?_⟩
  · rw [bare]
    exact Node.init_balanced harbor
  · intro frame member
    rcases start_frames frame member with ⟨weight, rfl⟩ | rfl
    · trivial
    · trivial

/-- What an orderly action does to the topmost frame of its thread. -/
theorem act_advances {held : Token → Nat} {top : Frame}
    (balanced : runtime.shared.Balanced (load held top.carries))
    (fits : runtime.shared.Fits top) (orderly : runtime.Orderly action)
    {rest : List Frame}
    (current : runtime.threads[action.thread]? = some (top :: rest)) :
    act runtime.shared action top = .error .disabled ∨
      runtime.shared.Advances held top (act runtime.shared action top) := by
  cases action with
  | advance thread =>
      cases runs : top.callsRuntime with
      | true =>
          left
          cases top with
          | instanceRelease context | moduleInit context queue | callback turn
          | external => rfl
          | _ => simp [Frame.callsRuntime] at runs
      | false =>
          exact Or.inr (Node.advance_advances balanced fits
            (orderly top rest current) runs)
  | call thread call =>
      cases runs : top.callsRuntime with
      | true =>
          rcases Node.startCall_advances balanced fits runs call orderly with
            disabled | advances
          · left
            simp [act, runs, disabled, bind, Except.bind]
          · right
            simpa [act, runs] using advances
      | false =>
          left
          simp [act, runs]
  | finish thread succeeded =>
      rcases Node.returns_advances balanced fits succeeded with
        disabled | advances
      · left
        simp [act, disabled, bind, Except.bind]
      · exact Or.inr advances

/-- What a step replaces, and what it does to the messages. -/
structure Moves (runtime : Runtime) (action : Action) (next : Runtime) :
    Prop where
  moved : ∃ top rest frames,
    runtime.threads[action.thread]? = some (top :: rest) ∧
    next.threads = runtime.threads.set action.thread (frames ++ rest) ∧
    runtime.shared.Delivers top next.shared frames
  sound : next.Sound

/-- An orderly step keeps the runtime as it should be, and it goes wrong only by
not being the thread's turn. -/
theorem step_moves (sound : runtime.Sound) (orderly : runtime.Orderly action) :
    runtime.step action = .error .disabled ∨
      ∃ next, runtime.step action = .ok next ∧ runtime.Moves action next := by
  cases current : runtime.threads[action.thread]? with
  | none =>
      left
      simp only [step, stepThread, current]
  | some stack =>
      cases stack with
      | nil =>
          left
          simp only [step, stepThread, current]
      | cons top rest =>
          have split : runtime.frames.Perm
              (top :: (runtime.threads.set action.thread rest).flatten) :=
            flatten_perm_of_top current
          have weighed : runtime.shared.Balanced
              (load (carried Frame.carries
                (runtime.threads.set action.thread rest).flatten)
                top.carries) := by
            have parts : carried Frame.carries runtime.frames =
                load (carried Frame.carries
                  (runtime.threads.set action.thread rest).flatten)
                  ([top].flatMap Frame.carries) :=
              carried_of_perm split
            have balanced := sound.balanced
            rwa [parts, List.flatMap_singleton] at balanced
          have fits := sound.fitting top (split.mem_iff.mpr (by simp))
          rcases act_advances weighed fits orderly current with
            disabled | ⟨after, frames, done, _, delivers⟩
          · left
            simp only [step, stepThread, current, disabled, bind, Except.bind]
          · right
            refine ⟨⟨after, runtime.threads.set action.thread
              (frames ++ rest)⟩, ?_, ?_⟩
            · simp only [step, stepThread, current, done, bind, Except.bind]
            · refine ⟨⟨top, rest, frames, current, rfl, delivers⟩, ?_⟩
              refine Sound.move sound current ?_
              intro held balanced fitted
              rcases act_advances balanced fitted orderly current with
                disabled | ⟨again, newFrames, redone, keeps⟩
              · rw [done] at disabled
                simp at disabled
              · rw [done] at redone
                obtain ⟨rfl, rfl⟩ := Prod.mk.inj (Except.ok.inj redone)
                exact keeps.1

theorem step_ok_moves (sound : runtime.Sound)
    (orderly : runtime.Orderly action) (stepped : runtime.step action = .ok next) :
    runtime.Moves action next := by
  rcases step_moves sound orderly with disabled | ⟨reached, done, moves⟩
  · have impossible := stepped.symm.trans disabled
    simp at impossible
  · obtain rfl := Except.ok.inj (stepped.symm.trans done)
    exact moves

theorem run_sound {actions : List Action}
    (run : Run harbor workers others actions runtime) : runtime.Sound := by
  refine run.invariant Sound start_sound ?_
  intro current action after sound orderly stepped
  exact (step_ok_moves sound orderly stepped).sound

end Runtime

end Crynet.Skynet
