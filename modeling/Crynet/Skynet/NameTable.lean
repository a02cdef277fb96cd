import Crynet.Skynet.SkynetServer

/-!
# The names of services

The sorted table of names stands for a map from names to handles.  A naming
enters a name that is not there yet, a retirement takes out the names of its
handle, and nothing else changes them.  So in every run, orderly or not, the
binary search finds what the map holds.
-/

namespace Crynet.Skynet

/-- The handles of the names that are taken. -/
abbrev Names := List UInt8 → Option UInt32

/-- What a step does to the names. -/
inductive Naming where
  | named (handle : UInt32) (name : List UInt8)
  | retired (handle : UInt32)
  deriving DecidableEq, Repr

/-- A name that is taken stays with its handle until that is retired. -/
def Naming.apply (names : Names) : Naming → Names
  | .named handle name =>
      if (names name).isSome then names
      else Function.update names name (some handle)
  | .retired handle => fun name => (names name).filter (· ≠ handle)

namespace HandleStorage

variable {Context : Type} {handleOf : Context → Except Fault UInt32}
variable {storage next : HandleStorage Context}
variable {handle : UInt32} {name : List UInt8}

/-- The names are in the order of `strcmp`, each of them once. -/
def Sorted (storage : HandleStorage Context) : Prop :=
  BinarySearch.Increasing HandleName.name storage.name

/-- The map that the table stands for. -/
def names (storage : HandleStorage Context) : Names := fun name =>
  (BinarySearch.linear HandleName.name storage.name name).map HandleName.handle

private theorem Sorted.of_name (sorted : storage.Sorted)
    (same : next.name = storage.name) :
    next.Sorted ∧ next.names = storage.names := by
  constructor
  · simpa only [Sorted, same] using sorted
  · funext name
    simp only [names, same]

/-- The search of both name functions is the one of a table by its keys. -/
private theorem searchName_eq (storage : HandleStorage Context)
    (name : List UInt8) :
    storage.searchName name =
      BinarySearch.search
        (BinarySearch.tableOrder HandleName.name storage.name name)
        storage.name.length 0 storage.name.length := by
  have order : storage.nameOrder name =
      BinarySearch.tableOrder HandleName.name storage.name name := by
    funext index
    simp only [nameOrder, BinarySearch.tableOrder]
    cases storage.name[index]? with
    | none => rfl
    | some entry => rfl
  simp only [searchName, order]

private theorem Sorted.searchName_found (sorted : storage.Sorted) {index : Nat}
    (ended : storage.searchName name = .found index) :
    storage.names name = storage.name[index]?.map HandleName.handle ∧
      (storage.names name).isSome = true := by
  rw [searchName_eq] at ended
  obtain ⟨linear, within⟩ := BinarySearch.Increasing.found sorted ended
  have known : storage.names name =
      storage.name[index]?.map HandleName.handle := by
    simp only [names, linear]
  refine ⟨known, ?_⟩
  simp [known, List.getElem?_eq_getElem within]

private theorem Sorted.searchName_missing (sorted : storage.Sorted) {position : Nat}
    (ended : storage.searchName name = .missing position) :
    storage.names name = none := by
  rw [searchName_eq] at ended
  have absent := BinarySearch.Increasing.linear_missing sorted ended
  simp only [names, absent, Option.map_none]

/-- `skynet_handle_findname` reads the map; 0 is for a name that is free. -/
theorem Sorted.findname_eq (sorted : storage.Sorted) (name : List UInt8) :
    storage.findname name = (storage.names name).getD 0 := by
  simp only [findname]
  cases ended : storage.searchName name with
  | found index => simp only [(sorted.searchName_found ended).1]
  | missing position =>
      simp only [sorted.searchName_missing ended, Option.getD_none]

private theorem insertNameBefore_name {position : Nat}
    (inserted : storage.insertNameBefore name handle position = .ok next) :
    next.name = storage.name.take position ++
      ⟨name, handle⟩ :: storage.name.drop position := by
  simp only [insertNameBefore] at inserted
  split at inserted
  · split at inserted
    · obtain rfl := Except.ok.inj inserted
      rfl
    · simp at inserted
  · obtain rfl := Except.ok.inj inserted
    rfl

/-- `skynet_handle_namehandle` enters a name that is free, and returns a null
pointer for one that is taken. -/
theorem Sorted.namehandle_ok (sorted : storage.Sorted)
    {returned : Option (List UInt8)}
    (done : storage.namehandle handle name = .ok (returned, next)) :
    next.Sorted ∧
      next.names = Naming.apply storage.names (.named handle name) ∧
      (returned = none ↔ (storage.names name).isSome = true) := by
  cases ended : storage.searchName name with
  | found index =>
      simp only [namehandle, ended] at done
      obtain ⟨rfl, rfl⟩ := Prod.mk.inj (Except.ok.inj done)
      have taken := (sorted.searchName_found ended).2
      refine ⟨sorted, ?_, ?_⟩
      · simp only [Naming.apply, taken, if_true]
      · simp only [taken]
  | missing position =>
      simp only [namehandle, ended] at done
      cases inserted : storage.insertNameBefore name handle position with
      | error fault => simp [inserted, bind, Except.bind] at done
      | ok entered =>
          simp only [inserted, bind, Except.bind] at done
          obtain ⟨rfl, rfl⟩ := Prod.mk.inj (Except.ok.inj done)
          have free := sorted.searchName_missing ended
          have table := insertNameBefore_name inserted
          rw [searchName_eq] at ended
          refine ⟨?_, ?_, ?_⟩
          · simp only [Sorted, table]
            exact BinarySearch.Increasing.insert sorted ended
          · have absent := BinarySearch.Increasing.linear_missing sorted ended
            have entered := @BinarySearch.linear_insert _ _ _ HandleName.name
              storage.name position ⟨name, handle⟩ absent
            have applied : Naming.apply storage.names (.named handle name) =
                Function.update storage.names name (some handle) := by
              simp [Naming.apply, free]
            rw [applied]
            funext other
            simp only [Function.update_apply, names, table, entered]
            by_cases same : name = other
            · simp only [if_pos same, if_pos same.symm, Option.map_some]
            · simp only [if_neg same, if_neg (Ne.symm same)]
          · simp [free]

/-- A cleared slot loses the names of its handle. -/
theorem Sorted.clear (sorted : storage.Sorted) (handle : UInt32) :
    (storage.clear handle).Sorted ∧
      (storage.clear handle).names =
        Naming.apply storage.names (.retired handle) := by
  constructor
  · exact List.Pairwise.filter _ sorted
  · funext name
    have kept := BinarySearch.Increasing.linear_filter sorted
      (fun entry => decide (entry.handle ≠ handle)) name
    simp only [names, HandleStorage.clear, Naming.apply, kept]
    cases BinarySearch.linear HandleName.name storage.name name with
    | none => rfl
    | some entry =>
        by_cases same : entry.handle = handle
        · simp [Option.filter, same]
        · simp [Option.filter, same]

/-- `skynet_handle_retire` takes the names out with the service. -/
theorem Sorted.retire (sorted : storage.Sorted) {taken : Option Context}
    (done : storage.retire handleOf handle = .ok (taken, next)) :
    next.Sorted ∧ next.names =
      if taken.isSome then Naming.apply storage.names (.retired handle)
      else storage.names := by
  simp only [HandleStorage.retire] at done
  cases occupied : storage.slot (hash storage.slotSize handle) with
  | none =>
      simp only [occupied] at done
      obtain ⟨rfl, rfl⟩ := Prod.mk.inj (Except.ok.inj done)
      exact ⟨sorted, rfl⟩
  | some context =>
      simp only [occupied] at done
      cases read : handleOf context with
      | error fault => simp [read, bind, Except.bind] at done
      | ok stored =>
          simp only [read, bind, Except.bind] at done
          split at done
          · obtain ⟨rfl, rfl⟩ := Prod.mk.inj (Except.ok.inj done)
            exact sorted.clear handle
          · obtain ⟨rfl, rfl⟩ := Prod.mk.inj (Except.ok.inj done)
            exact ⟨sorted, rfl⟩

private theorem grow_name (grown : grow handleOf storage = .ok next) :
    next.name = storage.name := by
  simp only [grow] at grown
  split at grown
  · cases moved : rehash handleOf (storage.slotSize * 2) storage.slot
        storage.slotSize with
    | error fault => simp [moved, bind, Except.bind] at grown
    | ok slots =>
        simp only [moved, bind, Except.bind] at grown
        obtain rfl := Except.ok.inj grown
        rfl
  · simp at grown

private theorem registerLoop_name {context : Context} {rounds : Nat}
    (entered : registerLoop handleOf context rounds storage =
      .ok (handle, next)) : next.name = storage.name := by
  induction rounds generalizing storage with
  | zero => simp [registerLoop] at entered
  | succ rounds induction =>
      simp only [registerLoop] at entered
      split at entered
      · obtain ⟨_, rfl⟩ := Prod.mk.inj (Except.ok.inj entered)
        rfl
      · cases grown : grow handleOf storage with
        | error fault => simp [grown, bind, Except.bind] at entered
        | ok larger =>
            simp only [grown, bind, Except.bind] at entered
            exact (induction entered).trans (grow_name grown)

theorem Sorted.register (sorted : storage.Sorted) {context : Context}
    (entered : storage.register handleOf context = .ok (handle, next)) :
    next.Sorted ∧ next.names = storage.names :=
  sorted.of_name (registerLoop_name entered)

end HandleStorage

/-- What a call does to the names. -/
def Call.namings : Call → List Naming
  | .namehandle handle name => [.named handle name]
  | _ => []

namespace Node

variable {node next : Node} {frames : List Frame}

/-- What the action of a frame does to the names. -/
def namings (node : Node) : Frame → List Naming
  | .handleRetire handle | .initRetire handle _ =>
      match node.handles.retire node.contextHandle handle with
      | .ok (some _, _) => [.retired handle]
      | _ => []
  | _ => []

/-- The table is sorted, and it stands for the names after some namings. -/
def Names (node : Node) (namings : List Naming) : Prop :=
  node.handles.Sorted ∧
    node.handles.names = namings.foldl Naming.apply fun _ => none

section Untouched

private theorem ok_of_bind {First Second : Type} {first : Except Fault First}
    {rest : First → Except Fault Second} {result : Second}
    (done : (first >>= rest) = .ok result) :
    ∃ value, first = .ok value ∧ rest value = .ok result := by
  cases first with
  | error fault => simp [bind, Except.bind] at done
  | ok value => exact ⟨value, rfl, done⟩

private theorem globalmqPush_handles {queue : QueueRef}
    (pushed : node.globalmqPush queue = .ok next) :
    next.handles = node.handles := by
  obtain ⟨_, _, pushed⟩ := ok_of_bind pushed
  obtain ⟨_, _, pushed⟩ := ok_of_bind pushed
  split at pushed
  · simp at pushed
  · obtain rfl := Except.ok.inj pushed
    rfl

private theorem globalmqPop_handles {first : Option QueueRef}
    (popped : node.globalmqPop = .ok (first, next)) :
    next.handles = node.handles := by
  simp only [globalmqPop] at popped
  split at popped
  · obtain ⟨_, rfl⟩ := Prod.mk.inj (Except.ok.inj popped)
    rfl
  · obtain ⟨_, _, popped⟩ := ok_of_bind popped
    obtain ⟨_, rfl⟩ := Prod.mk.inj (Except.ok.inj popped)
    rfl

private theorem handleGrab_handles {handle : UInt32}
    {found : Option ContextRef}
    (grabbed : node.handleGrab handle = .ok (found, next)) :
    next.handles = node.handles := by
  obtain ⟨looked, _, grabbed⟩ := ok_of_bind grabbed
  cases looked with
  | none =>
      obtain ⟨_, rfl⟩ := Prod.mk.inj (Except.ok.inj grabbed)
      rfl
  | some context =>
      obtain ⟨_, _, grabbed⟩ := ok_of_bind grabbed
      obtain ⟨_, rfl⟩ := Prod.mk.inj (Except.ok.inj grabbed)
      rfl

private theorem mqPush_handles {queue : QueueRef} {message : SkynetMessage}
    (pushed : node.mqPush queue message = .ok next) :
    next.handles = node.handles := by
  obtain ⟨mq, _, pushed⟩ := ok_of_bind pushed
  split at pushed
  · simp at pushed
  · dsimp only at pushed
    split at pushed
    · exact (globalmqPush_handles pushed).trans rfl
    · obtain rfl := Except.ok.inj pushed
      rfl

private theorem mqMarkRelease_handles {queue : QueueRef}
    (marked : node.mqMarkRelease queue = .ok next) :
    next.handles = node.handles := by
  obtain ⟨mq, _, marked⟩ := ok_of_bind marked
  split at marked
  · simp at marked
  · dsimp only at marked
    split at marked
    · exact (globalmqPush_handles marked).trans rfl
    · obtain rfl := Except.ok.inj marked
      rfl

private theorem handles_of_ok {after : Node} {rest : List Frame}
    (done : Except.ok (after, rest) =
      (Except.ok (next, frames) : Except Fault (Node × List Frame)))
    (same : after.handles = node.handles) : next.handles = node.handles := by
  obtain ⟨rfl, _⟩ := Prod.mk.inj (Except.ok.inj done)
  exact same

private theorem advanceRelease_handles {top : Frame}
    (advanced : node.advanceRelease top = .ok (next, frames)) :
    next.handles = node.handles := by
  cases top with
  | contextRelease context =>
      obtain ⟨stored, _, advanced⟩ := ok_of_bind advanced
      split at advanced
      · exact handles_of_ok advanced rfl
      · exact handles_of_ok advanced rfl
  | markRelease context =>
      obtain ⟨queue, _, advanced⟩ := ok_of_bind advanced
      obtain ⟨marked, released, advanced⟩ := ok_of_bind advanced
      exact handles_of_ok advanced (mqMarkRelease_handles released)
  | freeContext context =>
      obtain ⟨_, _, advanced⟩ := ok_of_bind advanced
      exact handles_of_ok advanced rfl
  | contextDec =>
      exact handles_of_ok advanced rfl
  | _ => simp [advanceRelease] at advanced

private theorem advanceDispatch_handles {top : Frame}
    (advanced : node.advanceDispatch top = .ok (next, frames)) :
    next.handles = node.handles := by
  cases top with
  | worker weight queue =>
      cases queue with
      | some queue =>
          exact handles_of_ok advanced rfl
      | none =>
          obtain ⟨popped, done, advanced⟩ := ok_of_bind advanced
          exact handles_of_ok advanced (globalmqPop_handles done)
  | dispatchGrab weight queue =>
      obtain ⟨mq, _, advanced⟩ := ok_of_bind advanced
      obtain ⟨⟨found, after⟩, grabbed, advanced⟩ := ok_of_bind advanced
      cases found with
      | none =>
          exact handles_of_ok advanced (handleGrab_handles grabbed)
      | some context =>
          exact handles_of_ok advanced (handleGrab_handles grabbed)
  | dispatchPop turn =>
      obtain ⟨mq, _, advanced⟩ := ok_of_bind advanced
      split at advanced
      · exact handles_of_ok advanced rfl
      · split at advanced
        · exact handles_of_ok advanced rfl
        · exact handles_of_ok advanced rfl
  | dispatchLength turn message =>
      obtain ⟨mq, _, advanced⟩ := ok_of_bind advanced
      exact handles_of_ok advanced rfl
  | dispatchCall turn message =>
      obtain ⟨mq, _, advanced⟩ := ok_of_bind advanced
      obtain ⟨stored, _, advanced⟩ := ok_of_bind advanced
      split at advanced
      · split at advanced
        · exact handles_of_ok advanced rfl
        · simp at advanced
      · exact handles_of_ok advanced rfl
  | dispatchNext turn =>
      simp only [advanceDispatch] at advanced
      split at advanced
      · exact handles_of_ok advanced rfl
      · exact handles_of_ok advanced rfl
  | dispatchEnd turn =>
      obtain ⟨stored, _, advanced⟩ := ok_of_bind advanced
      split at advanced
      · obtain ⟨⟨first, after⟩, popped, advanced⟩ := ok_of_bind advanced
        cases first with
        | none =>
            exact handles_of_ok advanced (globalmqPop_handles popped)
        | some own =>
            exact handles_of_ok advanced (globalmqPop_handles popped)
      · simp at advanced
  | dispatchPushBack turn own =>
      obtain ⟨after, pushed, advanced⟩ := ok_of_bind advanced
      exact handles_of_ok advanced (globalmqPush_handles pushed)
  | _ => simp [advanceDispatch] at advanced

private theorem advanceDrop_handles {top : Frame}
    (advanced : node.advanceDrop top = .ok (next, frames)) :
    next.handles = node.handles := by
  cases top with
  | mqRelease queue handle =>
      obtain ⟨mq, _, advanced⟩ := ok_of_bind advanced
      split at advanced
      · exact handles_of_ok advanced rfl
      · obtain ⟨after, pushed, advanced⟩ := ok_of_bind advanced
        exact handles_of_ok advanced (globalmqPush_handles pushed)
  | dropQueue queue handle =>
      obtain ⟨mq, _, advanced⟩ := ok_of_bind advanced
      split at advanced
      · exact handles_of_ok advanced rfl
      · split at advanced
        · simp at advanced
        · exact handles_of_ok advanced rfl
  | freeQueue queue =>
      obtain ⟨mq, _, advanced⟩ := ok_of_bind advanced
      split at advanced
      · simp at advanced
      · exact handles_of_ok advanced rfl
  | _ => simp [advanceDrop] at advanced

end Untouched

theorem Names.untouched {before : List Naming} (names : node.Names before)
    (same : next.handles = node.handles) : next.Names (before ++ []) := by
  simpa only [Names, same, List.append_nil] using names

/-- What a retirement does to the names, whether or not it finds the service. -/
theorem Names.retire {before : List Naming} (names : node.Names before)
    {handle : UInt32} {taken : Option ContextRef}
    {handles : HandleStorage ContextRef} (same : next.handles = handles)
    (retired : node.handles.retire node.contextHandle handle =
      .ok (taken, handles)) :
    next.Names (before ++ node.namings (.handleRetire handle)) := by
  obtain ⟨sorted, map⟩ := names
  obtain ⟨kept, left⟩ := sorted.retire retired
  subst same
  refine ⟨kept, ?_⟩
  rw [left, List.foldl_append, ← map]
  cases taken with
  | none => simp [namings, retired]
  | some context => simp [namings, retired]

theorem Names.advanceHandle {before : List Naming} (names : node.Names before)
    {top : Frame} (advanced : node.advanceHandle top = .ok (next, frames)) :
    next.Names (before ++ node.namings top) := by
  cases top with
  | pushGrab handle message =>
      apply names.untouched
      obtain ⟨⟨found, after⟩, grabbed, advanced⟩ := ok_of_bind advanced
      cases found with
      | none => exact handles_of_ok advanced (handleGrab_handles grabbed)
      | some context => exact handles_of_ok advanced (handleGrab_handles grabbed)
  | pushQueue context message =>
      apply names.untouched
      obtain ⟨queue, _, advanced⟩ := ok_of_bind advanced
      obtain ⟨after, pushed, advanced⟩ := ok_of_bind advanced
      exact handles_of_ok advanced (mqPush_handles pushed)
  | handleRetire handle =>
      obtain ⟨⟨taken, handles⟩, retired, advanced⟩ := ok_of_bind advanced
      cases taken with
      | none =>
          obtain ⟨rfl, _⟩ := Prod.mk.inj (Except.ok.inj advanced)
          exact names.retire rfl retired
      | some context =>
          obtain ⟨rfl, _⟩ := Prod.mk.inj (Except.ok.inj advanced)
          exact names.retire rfl retired
  | retireAll index found =>
      apply names.untouched
      simp only [Node.advanceHandle] at advanced
      split at advanced
      · split at advanced
        · exact handles_of_ok advanced rfl
        · obtain ⟨handle, _, advanced⟩ := ok_of_bind advanced
          split at advanced
          · exact handles_of_ok advanced rfl
          · exact handles_of_ok advanced rfl
      · split at advanced
        · exact handles_of_ok advanced rfl
        · exact handles_of_ok advanced rfl
  | endlessGrab handle =>
      apply names.untouched
      obtain ⟨⟨found, after⟩, grabbed, advanced⟩ := ok_of_bind advanced
      cases found with
      | none => exact handles_of_ok advanced (handleGrab_handles grabbed)
      | some context => exact handles_of_ok advanced (handleGrab_handles grabbed)
  | endlessSet context =>
      apply names.untouched
      obtain ⟨stored, _, advanced⟩ := ok_of_bind advanced
      exact handles_of_ok advanced rfl
  | _ => simp [Node.advanceHandle] at advanced

theorem Names.advanceNew {before : List Naming} (names : node.Names before)
    {top : Frame} (advanced : node.advanceNew top = .ok (next, frames)) :
    next.Names (before ++ node.namings top) := by
  cases top with
  | registerHandle context =>
      obtain ⟨⟨handle, handles⟩, entered, advanced⟩ := ok_of_bind advanced
      obtain ⟨rfl, _⟩ := Prod.mk.inj (Except.ok.inj advanced)
      obtain ⟨sorted, map⟩ := names
      obtain ⟨kept, same⟩ := sorted.register entered
      exact ⟨kept, by simpa only [namings, List.append_nil, same] using map⟩
  | storeHandle context handle =>
      apply names.untouched
      obtain ⟨stored, _, advanced⟩ := ok_of_bind advanced
      exact handles_of_ok advanced rfl
  | createQueue context handle =>
      apply names.untouched
      obtain ⟨stored, _, advanced⟩ := ok_of_bind advanced
      exact handles_of_ok advanced rfl
  | contextInc context queue =>
      exact names.untouched (handles_of_ok advanced rfl)
  | setInit context queue =>
      apply names.untouched
      obtain ⟨stored, _, advanced⟩ := ok_of_bind advanced
      exact handles_of_ok advanced rfl
  | launch context queue =>
      apply names.untouched
      obtain ⟨after, pushed, advanced⟩ := ok_of_bind advanced
      exact handles_of_ok advanced (globalmqPush_handles pushed)
  | initFailed context queue =>
      apply names.untouched
      obtain ⟨handle, _, advanced⟩ := ok_of_bind advanced
      exact handles_of_ok advanced rfl
  | initRetire handle queue =>
      obtain ⟨⟨taken, handles⟩, retired, advanced⟩ := ok_of_bind advanced
      cases taken with
      | none =>
          obtain ⟨rfl, _⟩ := Prod.mk.inj (Except.ok.inj advanced)
          exact names.retire rfl retired
      | some context =>
          obtain ⟨rfl, _⟩ := Prod.mk.inj (Except.ok.inj advanced)
          exact names.retire rfl retired
  | _ => simp [Node.advanceNew] at advanced

/-- The action of a frame. -/
theorem Names.advance {before : List Naming} (names : node.Names before)
    {top : Frame} (advanced : node.advance top = .ok (next, frames)) :
    next.Names (before ++ node.namings top) := by
  cases top with
  | contextRelease context | markRelease context | freeContext context
  | contextDec =>
      simp only [Node.advance] at advanced
      exact names.untouched (advanceRelease_handles advanced)
  | pushGrab handle message | pushQueue context message | handleRetire handle
  | retireAll index found | endlessGrab handle | endlessSet context =>
      simp only [Node.advance] at advanced
      exact names.advanceHandle advanced
  | registerHandle context | storeHandle context handle
  | createQueue context handle | contextInc context queue
  | setInit context queue | launch context queue | initFailed context queue
  | initRetire handle queue =>
      simp only [Node.advance] at advanced
      exact names.advanceNew advanced
  | worker weight queue | dispatchGrab weight queue | dispatchPop turn
  | dispatchLength turn message | dispatchCall turn message
  | dispatchNext turn | dispatchEnd turn | dispatchPushBack turn own =>
      simp only [Node.advance] at advanced
      exact names.untouched (advanceDispatch_handles advanced)
  | mqRelease queue handle | dropQueue queue handle | freeQueue queue =>
      simp only [Node.advance] at advanced
      exact names.untouched (advanceDrop_handles advanced)
  | instanceRelease context | moduleInit context queue | callback turn
  | external =>
      simp [Node.advance] at advanced

/-- A call of the code of a service. -/
theorem Names.startCall {before : List Naming} (names : node.Names before)
    {caller : Frame} {call : Call}
    (started : node.startCall caller call = .ok (next, frames)) :
    next.Names (before ++ call.namings) := by
  cases call with
  | contextPush handle message =>
      apply names.untouched
      simp only [Node.startCall] at started
      split at started
      · exact handles_of_ok started rfl
      · exact handles_of_ok started rfl
  | handleRetire handle =>
      apply names.untouched
      simp only [Node.startCall] at started
      split at started
      · simp at started
      · exact handles_of_ok started rfl
  | retireAll => exact names.untouched (handles_of_ok started rfl)
  | contextNew => exact names.untouched (handles_of_ok started rfl)
  | contextEndless handle =>
      apply names.untouched
      simp only [Node.startCall] at started
      split at started
      · simp at started
      · exact handles_of_ok started rfl
  | namehandle handle name =>
      obtain ⟨⟨returned, handles⟩, named, started⟩ := ok_of_bind started
      obtain ⟨rfl, _⟩ := Prod.mk.inj (Except.ok.inj started)
      obtain ⟨sorted, map⟩ := names
      obtain ⟨kept, entered, _⟩ := sorted.namehandle_ok named
      refine ⟨kept, ?_⟩
      rw [entered, map, List.foldl_append]
      rfl
  | callback present =>
      apply names.untouched
      simp only [Node.startCall] at started
      split at started
      · simp at started
      · obtain ⟨stored, _, started⟩ := ok_of_bind started
        exact handles_of_ok started rfl

end Node

namespace Runtime

variable {runtime next : Runtime} {action : Action} {actions : List Action}
variable {harbor : UInt32} {workers : List Int} {others : Nat}

/-- What an action does to the names. -/
def namings (runtime : Runtime) : Action → List Naming
  | .advance thread =>
      match runtime.threads[thread]? with
      | some (top :: _) => runtime.shared.namings top
      | _ => []
  | .call _ call => call.namings
  | .finish _ _ => []

private theorem step_names {before : List Naming}
    (names : runtime.shared.Names before)
    (stepped : runtime.step action = .ok next) :
    next.shared.Names (before ++ runtime.namings action) := by
  simp only [step, stepThread] at stepped
  split at stepped
  · rename_i top rest current
    obtain ⟨⟨after, frames⟩, acted, stepped⟩ := Node.ok_of_bind stepped
    obtain rfl := Except.ok.inj stepped
    cases action with
    | advance thread =>
        have here : runtime.threads[thread]? = some (top :: rest) := current
        simp only [namings, here]
        exact names.advance acted
    | call thread call =>
        simp only [act] at acted
        split at acted
        · obtain ⟨⟨called, added⟩, started, acted⟩ := Node.ok_of_bind acted
          obtain ⟨rfl, _⟩ := Prod.mk.inj (Except.ok.inj acted)
          exact names.startCall started
        · simp at acted
    | finish thread succeeded =>
        obtain ⟨returned, _, acted⟩ := Node.ok_of_bind acted
        obtain ⟨rfl, _⟩ := Prod.mk.inj (Except.ok.inj acted)
        exact names.untouched rfl
  · simp at stepped

/-- Whatever the threads do and in whatever order, a name is found with the
handle it was given first and has kept since, and naming it again returns a null
pointer just as long as it is kept. -/
theorem run_finds_names {permitted : Runtime → Action → Prop}
    (run : Transition.Execution (Transition.returning step) permitted
      (start harbor workers others) actions runtime) (name : List UInt8) :
    let kept := (Transition.observations step namings
      (start harbor workers others) actions).foldl Naming.apply fun _ => none
    runtime.shared.handles.findname name = (kept name).getD 0 ∧
    ∀ handle returned handles,
      runtime.shared.handles.namehandle handle name =
        .ok (returned, handles) →
      (returned = none ↔ (kept name).isSome = true) := by
  have begins : (start harbor workers others).shared.Names [] :=
    ⟨List.Pairwise.nil, rfl⟩
  obtain ⟨sorted, map⟩ := run.observed_invariant namings
    (fun _ events current => current.shared.Names events) begins
    (fun _ _ _ _ _ names _ stepped => step_names names stepped)
  intro kept
  have known : runtime.shared.handles.names = kept := map
  rw [← known]
  refine ⟨sorted.findname_eq name, ?_⟩
  intro handle returned handles named
  exact (sorted.namehandle_ok named).2.2

/-- A service takes a name that another handle asks for in vain until the
service is retired; the other handle has a name before that one. -/
def nameHandedOn : List Action :=
  [.call 1 .contextNew, .advance 1, .advance 1, .advance 1, .advance 1,
    .finish 1 true, .advance 1, .advance 1, .advance 1,
    .call 1 (.namehandle 0x1000001 [100, 98]),
    .call 1 (.namehandle 0x1000002 [97]),
    .call 1 (.namehandle 0x1000002 [100, 98]),
    .call 1 (.handleRetire 0x1000001), .advance 1, .advance 1,
    .finish 1 true, .advance 1, .advance 1, .advance 1,
    .call 1 (.namehandle 0x1000002 [100, 98])]

theorem run_finds_names_nameHandedOn :
    ∃ runtime, Transition.runSteps step (start 1 [0] 1) nameHandedOn =
        .ok runtime ∧
      runtime.shared.handles.findname [100, 98] = 0x1000002 ∧
      runtime.shared.handles.findname [100] = 0 := by
  have ran : ((Transition.runSteps step (start 1 [0] 1)
      nameHandedOn).toOption).isSome = true := by
    decide +kernel
  obtain ⟨runtime, reached⟩ := Option.isSome_iff_exists.mp ran
  have done : Transition.runSteps step (start 1 [0] 1) nameHandedOn =
      .ok runtime := by
    cases outcome : Transition.runSteps step (start 1 [0] 1) nameHandedOn with
    | error fault => simp [outcome, Except.toOption] at reached
    | ok final =>
        simp only [outcome, Except.toOption, Option.some.injEq] at reached
        rw [reached]
  have run : Transition.Execution (Transition.returning step)
      (fun _ _ => True) (start 1 [0] 1) nameHandedOn runtime :=
    Transition.Execution.ofRunSteps done fun _ _ _ => trivial
  have taken := (run_finds_names run [100, 98]).1
  have free := (run_finds_names run [100]).1
  refine ⟨runtime, done, taken.trans ?_, free.trans ?_⟩
  · decide +kernel
  · decide +kernel

end Runtime

end Crynet.Skynet
