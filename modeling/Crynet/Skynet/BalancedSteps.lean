import Crynet.Skynet.Balance

/-!
# The balance under each change

One lemma for each way a step changes the memory of a node: with the tokens the
moving frame had before, and the tokens its successors have after.
-/

namespace Crynet.Skynet

open CallStacks

namespace Node

variable {node : Node} {others : Token → Nat} {tokens : List Token}
variable {context : ContextRef} {stored changed : SkynetContext}
variable {queue : QueueRef} {mq marked : MessageQueue}

section References

/-- Somebody holds the context: a frame, its creator or the handle table. -/
def Holds (node : Node) (held : Token → Nat) (context : ContextRef) : Prop :=
  0 < held (.reference context) ∨ 0 < held (.creating context) ∨
    node.handles.Registered context

/-- A context that somebody holds is there. -/
theorem Balanced.present {held : Token → Nat} (balanced : node.Balanced held)
    (holds : node.Holds held context) :
    ∃ stored, node.contexts.lookup context = some stored := by
  cases found : node.contexts.lookup context with
  | some stored => exact ⟨stored, rfl⟩
  | none =>
      obtain ⟨none, uncreated, _, unregistered⟩ :=
        balanced.contexts.absent context found
      rcases holds with positive | positive | registered
      · omega
      · omega
      · exact absurd registered unregistered

/-- A count that somebody holds is positive, and the context is not being
deleted. -/
theorem Balanced.alive {held : Token → Nat} (balanced : node.Balanced held)
    (found : node.contexts.lookup context = some stored)
    (holds : node.Holds held context) :
    0 < stored.ref ∧ held (.deleting context) = 0 ∧
      held (.freeing context) = 0 := by
  obtain ⟨ref, deleted⟩ := balanced.contexts.counted context stored found
  have positive : 0 < stored.ref := by
    rcases ref with ⟨_, count⟩ | ⟨unregistered, count⟩
    · omega
    · rcases holds with positive | positive | registered
      · omega
      · omega
      · exact absurd registered unregistered
  rcases deleted with ⟨zero, _⟩ | ⟨_, none⟩
  · omega
  · exact ⟨positive, by omega, by omega⟩

/-- Nobody holds a context that is being deleted. -/
theorem Balanced.deleting {held : Token → Nat} (balanced : node.Balanced held)
    (deletes : 0 < held (.deleting context) + held (.freeing context)) :
    ∃ stored, node.contexts.lookup context = some stored ∧ stored.ref = 0 ∧
      held (.deleting context) + held (.freeing context) = 1 ∧
      ¬node.Holds held context := by
  cases found : node.contexts.lookup context with
  | none =>
      have none := (balanced.contexts.absent context found).2.2.1
      omega
  | some stored =>
      obtain ⟨ref, deleted⟩ := balanced.contexts.counted context stored found
      rcases deleted with ⟨zero, one⟩ | ⟨_, none⟩
      · refine ⟨stored, rfl, zero, one, ?_⟩
        intro holds
        have alive := (balanced.alive found holds).1
        omega
      · omega

/-- A context in the table gets another holder. -/
theorem Balanced.grab (balanced : node.Balanced (load others tokens))
    (found : node.contexts.lookup context = some stored)
    (registered : node.handles.Registered context) :
    (node.setContext context { stored with ref := stored.ref + 1 }).Balanced
      (load others (.reference context :: tokens)) := by
  obtain ⟨positive, undeleted, unfreed⟩ :=
    balanced.alive found (Or.inr (Or.inr registered))
  have ref := (balanced.contexts.counted context stored found).ref
  have same : SameLabels node
      (node.setContext context { stored with ref := stored.ref + 1 }) :=
    SameLabels.of_setContext found rfl id
  refine ⟨?_, ?_, ?_, ?_⟩
  · refine balanced.contexts.change found
      (fun other => lookup_setContext node context other _) rfl rfl
      ?_ ⟨?_, ?_⟩ ?_
    · intro other different
      simp [load_cons, Ne.symm different]
    · left
      refine ⟨registered, ?_⟩
      rcases ref with ⟨_, count⟩ | ⟨unregistered, _⟩
      · simp only [load_cons, if_true, reduceCtorEq, if_false]
        omega
      · exact absurd registered unregistered
    · right
      simp only [load_cons, reduceCtorEq, if_false]
      exact ⟨by omega, by omega⟩
    · simpa [load_cons] using balanced.contexts.creating context
  · exact balanced.queues.congr rfl rfl rfl (fun other => by simp [load_cons])
  · exact balanced.owned.congr same (fun other => by simp [load_cons])
      (fun other => by simp [load_cons])
  · exact balanced.agree.congr same (fun other => by simp [load_cons])

/-- A reference is given up: the last one leaves its holder to delete. -/
theorem Balanced.release
    (balanced : node.Balanced (load others (.reference context :: tokens)))
    (found : node.contexts.lookup context = some stored) :
    (node.setContext context { stored with ref := stored.ref - 1 }).Balanced
      (load others ((if stored.ref = 1 then [.deleting context] else []) ++
        tokens)) := by
  obtain ⟨positive, undeleted, unfreed⟩ :=
    balanced.alive found (Or.inl (by simp [load_cons]))
  have ref := (balanced.contexts.counted context stored found).ref
  have same : SameLabels node
      (node.setContext context { stored with ref := stored.ref - 1 }) :=
    SameLabels.of_setContext found rfl id
  have carried : ∀ token, token ≠ .reference context →
      token ≠ .deleting context →
      load others ((if stored.ref = 1 then [.deleting context] else []) ++
        tokens) token = load others (.reference context :: tokens) token := by
    intro token first second
    split
    · simp [load_cons, Ne.symm first, Ne.symm second]
    · simp [load_cons, Ne.symm first]
  refine ⟨?_, ?_, ?_, ?_⟩
  · refine balanced.contexts.change found
      (fun other => lookup_setContext node context other _) rfl rfl
      ?_ ⟨?_, ?_⟩ ?_
    · intro other different
      refine ⟨carried _ ?_ ?_, carried _ ?_ ?_, carried _ ?_ ?_,
        carried _ ?_ ?_⟩ <;> simp [different]
    · simp only [load_cons, if_true, reduceCtorEq, if_false] at ref
      have less : load others
          ((if stored.ref = 1 then [.deleting context] else []) ++ tokens)
          (.reference context) = load others tokens (.reference context) := by
        split <;> simp [load_cons]
      rw [less, carried _ (by simp) (by simp)]
      simp only [load_cons, reduceCtorEq, if_false]
      rcases ref with ⟨registered, count⟩ | ⟨unregistered, count⟩
      · exact Or.inl ⟨registered, by omega⟩
      · exact Or.inr ⟨unregistered, by omega⟩
    · simp only [load_cons, reduceCtorEq, if_false, Nat.add_zero]
        at undeleted unfreed
      split
      · rename_i last
        left
        simp [load_cons, last, undeleted, unfreed]
      · right
        simp only [List.nil_append]
        exact ⟨by omega, by omega⟩
    · rw [carried _ (by simp) (by simp)]
      exact balanced.contexts.creating context
  · refine balanced.queues.congr rfl rfl rfl ?_
    intro other
    exact ⟨carried _ (by simp) (by simp), carried _ (by simp) (by simp)⟩
  · refine balanced.owned.congr same ?_ ?_
    · intro other
      exact carried _ (by simp) (by simp)
    · intro other
      rw [carried _ (by simp) (by simp)]
  · refine balanced.agree.congr same ?_
    intro other
    rw [carried _ (by simp) (by simp)]

/-- A change to what no balance speaks of. -/
theorem Balanced.setContext {held : Token → Nat}
    (balanced : node.Balanced held)
    (found : node.contexts.lookup context = some stored)
    (label : contextLabel changed = contextLabel stored)
    (init : stored.init = true → changed.init = true)
    (ref : changed.ref = stored.ref) :
    (node.setContext context changed).Balanced held := by
  have same : SameLabels node (node.setContext context changed) :=
    SameLabels.of_setContext found label init
  obtain ⟨counted, deleted⟩ := balanced.contexts.counted context stored found
  refine ⟨?_, ?_, ?_, ?_⟩
  · refine balanced.contexts.change found
      (fun other => lookup_setContext node context other _) rfl rfl
      (fun other _ => ⟨rfl, rfl, rfl, rfl⟩) ⟨?_, ?_⟩
      (balanced.contexts.creating context)
    · rw [ref]
      exact counted
    · rw [ref]
      exact deleted
  · exact balanced.queues.congr rfl rfl rfl (fun other => ⟨rfl, rfl⟩)
  · exact balanced.owned.congr same (fun _ => rfl) (fun _ => Nat.le_refl _)
  · exact balanced.agree.congr same (fun _ => Nat.le_refl _)

end References

section Hands

/-- Somebody has the queue in hand, or it is in the global queue. -/
def InHands (node : Node) (held : Token → Nat) (queue : QueueRef) : Prop :=
  0 < held (.mailbox queue) ∨ 0 < held (.kept queue) ∨
    queue ∈ node.globalQueue

/-- A queue in somebody's hands is there, and in no other hands. -/
theorem Balanced.inHands {held : Token → Nat} (balanced : node.Balanced held)
    (inHands : node.InHands held queue) :
    ∃ mq, node.queues.lookup queue = some mq ∧
      (mq.inGlobal = true ∨ mq.released = true) ∧
      held (.mailbox queue) + held (.kept queue) +
        node.globalQueue.count queue = 1 := by
  have positive : 0 < held (.mailbox queue) + held (.kept queue) +
      node.globalQueue.count queue := by
    rcases inHands with carried | carried | member
    · omega
    · omega
    · have counted := List.count_pos_iff.mpr member
      omega
  cases found : node.queues.lookup queue with
  | none =>
      have none := balanced.queues.absent queue found
      omega
  | some mq =>
      have count := balanced.queues.inHands queue mq found
      rw [count, hands] at positive
      split at positive
      · rename_i marks
        refine ⟨mq, rfl, marks, ?_⟩
        rw [count, hands, if_pos marks]
      · omega

/-- What a step leaves to check when it changes one queue and the links. -/
theorem Balanced.changeQueue {next : Node} {held later : Token → Nat}
    (balanced : node.Balanced held)
    (found : node.queues.lookup queue = some mq)
    (label : queueLabel marked = queueLabel mq)
    (contexts : next.contexts = node.contexts)
    (lookups : ∀ other, next.queues.lookup other =
      if other = queue then some marked else node.queues.lookup other)
    (handles : next.handles = node.handles)
    (nextContext : next.nextContext = node.nextContext)
    (nextQueue : next.nextQueue = node.nextQueue)
    (tokens : ∀ token, token ≠ .mailbox queue → later token = held token)
    (linked : ∀ other, other ≠ queue →
      next.globalQueue.count other = node.globalQueue.count other)
    (here : later (.mailbox queue) + held (.kept queue) +
      next.globalQueue.count queue = hands marked)
    (keptHere : 0 < held (.kept queue) → marked.inGlobal = true) :
    next.Balanced later ∧ Gentle node next := by
  have same : SameLabels node next := by
    refine SameLabels.of_contexts contexts ?_ handles nextQueue
    intro other
    rw [lookups]
    split
    · rename_i here
      rw [here, found, Option.map_some, Option.map_some, label]
    · rfl
  refine ⟨⟨?_, ?_, ?_, ?_⟩, same.gentle⟩
  · refine balanced.contexts.congr contexts handles nextContext ?_
    intro other
    exact ⟨tokens _ (by simp), tokens _ (by simp), tokens _ (by simp),
      tokens _ (by simp)⟩
  · refine balanced.queues.change found lookups nextQueue ?_ ?_ ?_
    · intro other different
      exact ⟨tokens _ (by simp [different]), tokens _ (by simp),
        linked other different⟩
    · rw [tokens (.kept queue) (by simp)]
      exact here
    · rw [tokens (.kept queue) (by simp)]
      exact keptHere
  · exact balanced.owned.congr same (fun other => tokens _ (by simp))
      (fun other => by rw [tokens _ (by simp)])
  · exact balanced.agree.congr same (fun other => by rw [tokens _ (by simp)])

/-- A queue changes in what no balance speaks of. -/
theorem Balanced.setQueue {held : Token → Nat}
    (balanced : node.Balanced held)
    (found : node.queues.lookup queue = some mq)
    (label : queueLabel marked = queueLabel mq)
    (flag : marked.inGlobal = mq.inGlobal) :
    (node.setQueue queue marked).Balanced held ∧
      Gentle node (node.setQueue queue marked) := by
  refine balanced.changeQueue found label rfl
    (fun other => lookup_setQueue node queue other _) rfl rfl rfl
    (fun _ _ => rfl) (fun _ _ => rfl) ?_ ?_
  · have released : marked.released = mq.released := (Prod.mk.inj label).2
    have count := balanced.queues.inHands queue mq found
    rw [hands, flag, released, ← hands]
    exact count
  · rw [flag]
    exact balanced.queues.keptMarked queue mq found

/-- A push that finds the queue in nobody's hands links it. -/
theorem Balanced.wake {held : Token → Nat} (balanced : node.Balanced held)
    (found : node.queues.lookup queue = some mq)
    (label : queueLabel marked = queueLabel mq)
    (released : mq.released = false) (idle : mq.inGlobal = false)
    (flag : marked.inGlobal = true) :
    ({ node.setQueue queue marked with
      globalQueue := node.globalQueue ++ [queue] } : Node).Balanced held ∧
      Gentle node { node.setQueue queue marked with
        globalQueue := node.globalQueue ++ [queue] } := by
  have count := balanced.queues.inHands queue mq found
  simp only [hands, idle, released, Bool.false_eq_true, or_self,
    if_false] at count
  refine balanced.changeQueue found label rfl
    (fun other => lookup_setQueue node queue other _) rfl rfl rfl
    (fun _ _ => rfl) ?_ ?_ (fun _ => flag)
  · intro other different
    simp [different.symm]
  · simp only [List.count_append, List.count_singleton_self, hands, flag,
      true_or, if_true]
    omega

/-- A step that only links or unlinks a queue in somebody's hands. -/
theorem Balanced.relink {held later : Token → Nat}
    (balanced : node.Balanced held) (links : List QueueRef)
    (inHands : node.InHands held queue)
    (tokens : ∀ token, token ≠ .mailbox queue → later token = held token)
    (linked : ∀ other, other ≠ queue →
      links.count other = node.globalQueue.count other)
    (moved : later (.mailbox queue) + links.count queue =
      held (.mailbox queue) + node.globalQueue.count queue) :
    ({ node with globalQueue := links } : Node).Balanced later ∧
      Gentle node { node with globalQueue := links } := by
  obtain ⟨mq, found, marks, single⟩ := balanced.inHands inHands
  refine balanced.changeQueue found rfl rfl ?_ rfl rfl rfl tokens linked ?_ ?_
  · intro other
    split
    · rename_i same
      rw [same]
      exact found
    · rfl
  · rw [hands, if_pos marks]
    simp only
    omega
  · exact balanced.queues.keptMarked queue mq found

/-- Whoever has a queue in hand links it. -/
theorem Balanced.link
    (balanced : node.Balanced (load others (.mailbox queue :: tokens))) :
    ({ node with globalQueue := node.globalQueue ++ [queue] } : Node).Balanced
        (load others tokens) ∧
      Gentle node { node with globalQueue := node.globalQueue ++ [queue] } := by
  have inHands : node.InHands (load others (.mailbox queue :: tokens)) queue :=
    Or.inl (by simp [load_cons])
  refine balanced.relink _ inHands ?_ ?_ ?_
  · intro token different
    simp [load_cons, different.symm]
  · intro other different
    simp [different.symm]
  · simp only [load_cons, if_true, List.count_append,
      List.count_singleton_self]
    omega

/-- Whoever takes the first queue has it in hand. -/
theorem Balanced.unlink {rest : List QueueRef}
    (balanced : node.Balanced (load others tokens))
    (first : node.globalQueue = queue :: rest) :
    ({ node with globalQueue := rest } : Node).Balanced
        (load others (.mailbox queue :: tokens)) ∧
      Gentle node { node with globalQueue := rest } := by
  have inHands : node.InHands (load others tokens) queue :=
    Or.inr (Or.inr (by simp [first]))
  refine balanced.relink _ inHands ?_ ?_ ?_
  · intro token different
    simp [load_cons, different.symm]
  · intro other different
    simp [first, different.symm]
  · simp only [load_cons, if_true, first, List.count_cons_self]
    omega

/-- Whoever finds a live queue empty lets go of it. -/
theorem Balanced.idle
    (balanced : node.Balanced (load others (.mailbox queue :: tokens)))
    (found : node.queues.lookup queue = some mq)
    (label : queueLabel marked = queueLabel mq)
    (released : mq.released = false) (flag : marked.inGlobal = false) :
    (node.setQueue queue marked).Balanced (load others tokens) ∧
      Gentle node (node.setQueue queue marked) := by
  have inHands : node.InHands (load others (.mailbox queue :: tokens)) queue :=
    Or.inl (by simp [load_cons])
  obtain ⟨_, _, _, single⟩ := balanced.inHands inHands
  have marks : marked.released = false := (Prod.mk.inj label).2.trans released
  simp only [load_cons, if_true, reduceCtorEq, if_false] at single
  refine balanced.changeQueue found label rfl
    (fun other => lookup_setQueue node queue other _) rfl rfl rfl ?_
    (fun _ _ => rfl) ?_ ?_
  · intro token different
    simp [load_cons, different.symm]
  · simp only [load_cons, reduceCtorEq, if_false, hands, flag, marks,
      Bool.false_eq_true, or_self, setQueue_globalQueue]
    omega
  · intro kept
    simp only [load_cons, reduceCtorEq, if_false] at kept
    omega

/-- Whoever drains a queue that is to be released keeps it. -/
theorem Balanced.drained {held : Token → Nat} (balanced : node.Balanced held)
    (found : node.queues.lookup queue = some mq)
    (label : queueLabel marked = queueLabel mq)
    (released : mq.released = true) (unkept : held (.kept queue) = 0) :
    (node.setQueue queue marked).Balanced held ∧
      Gentle node (node.setQueue queue marked) := by
  have marks : marked.released = true := (Prod.mk.inj label).2.trans released
  have count := balanced.queues.inHands queue mq found
  refine balanced.changeQueue found label rfl
    (fun other => lookup_setQueue node queue other _) rfl rfl rfl
    (fun _ _ => rfl) (fun _ _ => rfl) ?_ ?_
  · rw [hands, if_pos (Or.inr released)] at count
    rw [hands, if_pos (Or.inr marks)]
    exact count
  · intro kept
    omega

end Hands

end Node

end Crynet.Skynet
