import Crynet.Foundation.Execution
import Crynet.Skynet.SocketTurns

/-!
# Every run of a connection

Any order of the steps of the socket thread and of any number of senders, with
any answers of the kernel.  What arrives at the other end is the packages,
whole and in order; none is lost or doubled; and the end is reported once.  An
assertion fails at one place only, where a user object is the first package of
low priority, and a run ends there.
-/

namespace Crynet.Skynet

open CallStacks

/-- A frame inside the critical section of a direct write. -/
def SocketFrame.locks (frame : SocketFrame) : Bool :=
  frame.carries.contains .lock

private theorem carried_lock (frames : List SocketFrame) :
    carried SocketFrame.carries frames .lock =
      frames.countP SocketFrame.locks := by
  induction frames with
  | nil => rfl
  | cons frame frames induction =>
      have one : frame.carries.count .lock =
          if SocketFrame.locks frame then 1 else 0 := by
        cases frame <;> rfl
      simp only [carried, List.flatMap_cons, List.count_append,
        List.countP_cons] at induction ⊢
      omega

namespace Sockets

variable {sockets next : Sockets} {type : SocketType} {reading writing : Bool}
variable {senders : Nat} {actions : List SocketAction} {action : SocketAction}

abbrev Sound (sockets : Sockets) : Prop :=
  CallStacks.Sound SocketFrame.carries Connection.Balanced Connection.Fits
    sockets

/-- A run from the connection that `new_fd` set up, with a type given to it. -/
abbrev Run (type : SocketType) (reading writing : Bool) (senders : Nat)
    (actions : List SocketAction) (sockets : Sockets) : Prop :=
  Transition.Execution (Transition.returning step) (fun _ _ => True)
    (start (.create type reading writing) senders) actions sockets

private theorem create_proper (valid : type ≠ .invalid) :
    (Connection.create type reading writing).Proper := by
  refine ⟨⟨unsent_nil, unsent_nil, fun _ => unsent_nil, fun _ => rfl,
    fun invalid => absurd invalid valid, Nat.le_refl 0, Or.inl rfl,
    fun freed => absurd rfl freed⟩, ⟨by simp [Connection.create], by
      simp [Connection.create], fun _ => List.nil_sublist _⟩,
    ⟨fun invalid => absurd invalid valid, fun freed => absurd rfl freed,
      by simp [Connection.create], fun _ => rfl⟩,
    ⟨by simp [Connection.create], by simp [Connection.create], ?_⟩⟩
  intro before after split
  simp [Connection.create] at split

theorem start_frames (connection : Connection) :
    carried SocketFrame.carries (start connection senders).frames =
      load (fun _ => 0) [.control] := by
  funext token
  have idle : (List.replicate senders SocketFrame.external).flatMap
      SocketFrame.carries = [] := by
    apply List.flatMap_eq_nil_iff.mpr
    intro frame member
    rw [List.eq_of_mem_replicate member]
    rfl
  simp [carried, Machine.frames, start, idle, load, SocketFrame.carries]

theorem start_sound (valid : type ≠ .invalid) :
    (start (.create type reading writing) senders).Sound := by
  refine ⟨⟨create_proper valid, Or.inl (Or.inl ⟨rfl, rfl, rfl⟩), ?_⟩, ?_⟩
  · rw [start_frames]
    exact ⟨rfl, rfl, rfl, fun _ => rfl⟩
  · intro frame member
    simp only [Machine.frames, start, List.flatten_cons, List.mem_append,
      List.mem_singleton, List.mem_flatten, List.mem_replicate] at member
    rcases member with rfl | ⟨stack, ⟨_, rfl⟩, inside⟩
    · exact fun freed => absurd rfl freed
    · obtain rfl := List.mem_singleton.mp inside
      trivial

/-- The socket thread is about to write and meets a user object. -/
def MeetsObject (sockets : Sockets) (action : SocketAction) : Prop :=
  (∃ rest, sockets.threads[action.thread]? = some (.poll :: rest)) ∧
    sockets.shared.MeetsObject action.input

private theorem step_object (sound : sockets.Sound)
    (meets : sockets.MeetsObject action) :
    sockets.step action = .error .assertion := by
  obtain ⟨⟨rest, current⟩, object⟩ := meets
  obtain ⟨balanced, settled⟩ := sound.top current
  have fails := Connection.poll_object balanced.proper settled object
  simp only [step, current, Connection.act, fails, bind, Except.bind]

/-- Any other step keeps the balance, or it has to wait. -/
theorem step_sound (sound : sockets.Sound)
    (plain : ¬sockets.MeetsObject action) :
    sockets.step action = .error .disabled ∨
      ∃ next, sockets.step action = .ok next ∧ next.Sound := by
  cases current : sockets.threads[action.thread]? with
  | none =>
      left
      simp only [step, current]
  | some stack =>
      cases stack with
      | nil =>
          left
          simp only [step, current]
      | cons top rest =>
          have polls : top = .poll →
              ¬sockets.shared.MeetsObject action.input := by
            rintro rfl object
            exact plain ⟨⟨rest, current⟩, object⟩
          have acts := Sound.act sound current fun others balanced fits =>
            Connection.act_steps balanced fits polls
          rcases acts with waits | ⟨moved, frames, done, kept⟩
          · left
            simp only [step, current, waits, bind, Except.bind]
          · right
            refine ⟨_, ?_, kept⟩
            simp only [step, current, done, bind, Except.bind]

theorem run_sound (valid : type ≠ .invalid)
    (run : Run type reading writing senders actions sockets) :
    sockets.Sound := by
  refine run.invariant Sound (start_sound valid) ?_
  intro current label after sound _ stepped
  have plain : ¬current.MeetsObject label := by
    intro meets
    have impossible := stepped.symm.trans (step_object sound meets)
    simp at impossible
  rcases step_sound sound plain with waits | ⟨reached, done, kept⟩
  · have impossible := stepped.symm.trans waits
    simp at impossible
  · obtain rfl := Except.ok.inj (stepped.symm.trans done)
    exact kept

/-- One sender writes a part of its package directly, another one sends through
the pipe, and the socket thread writes the rest. -/
def twoPackages : List SocketAction :=
  [⟨1, .send .high ⟨0, [1, 2, 3], false⟩⟩, ⟨1, .go⟩, ⟨1, .hint true⟩, ⟨1, .go⟩,
    ⟨1, .go⟩, ⟨1, .go⟩, ⟨1, .go⟩, ⟨1, .go⟩, ⟨2, .send .low ⟨1, [4], false⟩⟩, ⟨2, .go⟩,
    ⟨2, .go⟩, ⟨1, .wrote (.wrote 2)⟩, ⟨2, .go⟩, ⟨1, .go⟩, ⟨0, .command⟩,
    ⟨0, .go⟩, ⟨0, .command⟩, ⟨0, .writable [.wrote 1, .wrote 1]⟩]

/-- The peer hangs up while a sender holds the lock. -/
def hangUp : List SocketAction :=
  [⟨1, .send .high ⟨0, [1, 2, 3], false⟩⟩, ⟨1, .go⟩, ⟨1, .hint true⟩, ⟨1, .go⟩,
    ⟨1, .go⟩, ⟨1, .go⟩, ⟨1, .go⟩, ⟨1, .go⟩, ⟨0, .hangup⟩,
    ⟨1, .wrote (.wrote 2)⟩, ⟨0, .go⟩]

private theorem run_of_ran (ran : (Transition.runSteps step
      (start (.create type reading writing) senders) actions).toOption =
        some sockets) :
    Run type reading writing senders actions sockets := by
  refine Transition.Execution.ofRunSteps ?_ fun _ _ _ => trivial
  cases done : Transition.runSteps step
      (start (.create type reading writing) senders) actions with
  | error fault => simp [done, Except.toOption] at ran
  | ok reached =>
      rw [done] at ran
      rw [Option.some.inj ran]

/-- The packages that wait outside the pipe, the first of them perhaps written in
part. -/
def waiting (connection : Connection) : List Package :=
  (connection.dwBuffer.toList ++ connection.high ++ connection.low).map
    WriteBuffer.package

private theorem current_torn (high low : List WriteBuffer)
    (direct : Option WriteBuffer) (more : List Package) :
    Torn ((direct.toList ++ high ++ low).map WriteBuffer.package ++ more)
      (current high direct) := by
  cases direct with
  | some buf =>
      refine Or.inr ⟨buf.package, by simp, ?_⟩
      exact List.take_prefix _ _
  | none =>
      rcases headSent_prefix high with nothing | ⟨package, member, start⟩
      · exact Or.inl nothing
      · refine Or.inr ⟨package, ?_, start⟩
        simp only [Option.toList_none, List.nil_append, List.map_append,
          List.append_assoc]
        exact List.mem_append_left _ member

/-- What the peer can read is whole packages in the order in which they are
finished, and at the end a part of one that is not.  Only where a connection is
freed may a part be left behind, and only direct writes come after it. -/
theorem run_streams_packages (valid : type ≠ .invalid)
    (run : Run type reading writing senders actions sockets) :
    ∃ early torn late part,
      sockets.shared.finished = early ++ late ∧
      sockets.shared.output = bytesOf early ++ torn ++ bytesOf late ++ part ∧
      Torn sockets.shared.discarded torn ∧
      Torn (waiting sockets.shared ++ sockets.shared.discarded) part ∧
      (∀ entry ∈ late, entry.1 = .direct) ∧
      (sockets.shared.cut = none → torn = [] ∧ late = []) := by
  have proper := (run_sound valid run).balanced.proper
  have stream := proper.stream
  by_cases uncut : sockets.shared.cut = none
  · have live : sockets.shared.type ≠ .invalid := fun invalid =>
      (proper.ends.invalid invalid).1 uncut
    have written := stream.live live
    rw [uncut, wholeBytes_none] at written
    refine ⟨sockets.shared.finished, [], [], _, by simp, ?_, Or.inl rfl,
      current_torn sockets.shared.high sockets.shared.low
        sockets.shared.dwBuffer _, by simp, fun _ => ⟨rfl, rfl⟩⟩
    simpa using written
  · have late := stream.late uncut
    by_cases live : sockets.shared.type = .invalid
    · obtain ⟨last, torn, written⟩ := stream.dead live
      exact ⟨_, _, _, last, (List.take_append_drop _ _).symm, written,
        stream.torn, torn.of_append _, late, fun none => absurd none uncut⟩
    · exact ⟨_, _, _, _, (List.take_append_drop _ _).symm, stream.live live,
        stream.torn, current_torn _ _ _ _, late,
        fun none => absurd none uncut⟩

theorem run_streams_packages_twoPackages : ∃ sockets,
    Run .connected true false 2 twoPackages sockets ∧
      sockets.shared.output = [1, 2, 3, 4] ∧ ∃ early part,
        sockets.shared.output = bytesOf early ++ part := by
  have ran : (Transition.runSteps step
      (start (.create .connected true false) 2) twoPackages).toOption.map
        (fun sockets => (sockets.shared.cut, sockets.shared.output)) =
          some (none, [1, 2, 3, 4]) := by
    decide +kernel
  obtain ⟨sockets, reached, shown⟩ := Option.map_eq_some_iff.mp ran
  obtain ⟨uncut, bytes⟩ := Prod.mk.inj shown
  have run := run_of_ran reached
  obtain ⟨early, torn, late, part, _, written, _, _, _, whole⟩ :=
    run_streams_packages (by simp) run
  obtain ⟨rfl, rfl⟩ := whole uncut
  exact ⟨sockets, run, bytes, early, part, by simpa using written⟩

/-- The packages in the hands of the threads. -/
def inHand (sockets : Sockets) : List Package :=
  (sockets.frames.flatMap SocketFrame.carries).filterMap fun token =>
    match token with
    | .package package => some package
    | _ => none

private theorem count_inHand (sockets : Sockets) (package : Package) :
    sockets.inHand.count package =
      carried SocketFrame.carries sockets.frames (.package package) := by
  simp only [inHand, carried]
  induction sockets.frames.flatMap SocketFrame.carries with
  | nil => rfl
  | cons token tokens induction =>
      cases token with
      | package own =>
          simp [List.count_cons, induction]
      | _ => simpa [List.count_cons] using induction

/-- No package is lost and none is doubled: each one that was sent is in the hands
of its sender, in the pipe, in a list, written to its end, or given up. -/
theorem run_keeps_packages (valid : type ≠ .invalid)
    (run : Run type reading writing senders actions sockets) :
    sockets.shared.submitted.Perm
      (sockets.inHand ++ pipePackages sockets.shared.pipe ++
        waiting sockets.shared ++ sockets.shared.finished.map Prod.snd ++
        sockets.shared.discarded) := by
  apply List.perm_iff_count.mpr
  intro package
  have places := (run_sound valid run).balanced.counted.places package
  rw [← count_inHand] at places
  simp only [Connection.places, waiting, List.map_append, List.count_append,
    Connection.entries_snd] at places ⊢
  omega

theorem run_keeps_packages_hangUp : ∃ sockets,
    Run .connected true false 2 hangUp sockets ∧
      sockets.shared.discarded = [⟨0, [1, 2, 3], false⟩] ∧
      sockets.shared.submitted.Perm
        (sockets.inHand ++ pipePackages sockets.shared.pipe ++
          waiting sockets.shared ++ sockets.shared.finished.map Prod.snd ++
          sockets.shared.discarded) := by
  have ran : (Transition.runSteps step
      (start (.create .connected true false) 2) hangUp).toOption.map
        (fun sockets => sockets.shared.discarded) =
          some [⟨0, [1, 2, 3], false⟩] := by
    decide +kernel
  obtain ⟨sockets, reached, lost⟩ := Option.map_eq_some_iff.mp ran
  have run := run_of_ran reached
  exact ⟨sockets, run, lost, run_keeps_packages (by simp) run⟩

/-- Packages of a priority are finished in the order in which they were put into
the pipe, and those that wait come after them in that order. -/
theorem run_finishes_in_order (valid : type ≠ .invalid)
    (run : Run type reading writing senders actions sockets)
    (priority : Priority) :
    (via priority (sockets.shared.finished ++ entries sockets.shared.high ++
        entries sockets.shared.low) ++
      pipedIn priority sockets.shared.pipe).Sublist
      (queuedIn priority sockets.shared.piped) :=
  (run_sound valid run).balanced.proper.order.fifo priority

/-- A sender puts a package of low priority into the pipe. -/
def queueLow (package : Package) : List SocketAction :=
  [⟨1, .send .low package⟩, ⟨1, .go⟩, ⟨1, .go⟩, ⟨1, .go⟩]

/-- The socket thread takes a package out of it. -/
def takeQueued : List SocketAction :=
  [⟨0, .command⟩, ⟨0, .go⟩]

/-- Of three packages one is written, one in part, and so raised. -/
def raisedPackage : List SocketAction :=
  queueLow ⟨0, [1, 2], false⟩ ++ queueLow ⟨1, [3, 4], false⟩ ++
    queueLow ⟨2, [5], false⟩ ++ takeQueued ++ takeQueued ++ takeQueued ++
    [⟨0, .writable [.wrote 2, .wrote 1]⟩]

theorem run_finishes_in_order_raisedPackage : ∃ sockets,
    Run .connected true false 1 raisedPackage sockets ∧
      sockets.shared.high.map WriteBuffer.ptr = [1] ∧
      (via .low sockets.shared.finished ++
        via .low (entries sockets.shared.high) ++
        via .low (entries sockets.shared.low)).Sublist
          [⟨0, [1, 2], false⟩, ⟨1, [3, 4], false⟩, ⟨2, [5], false⟩] ∧
      via .low (entries sockets.shared.high) = [⟨1, [3, 4], false⟩] ∧
      via .low (entries sockets.shared.low) = [⟨2, [5], false⟩] := by
  have ran : (Transition.runSteps step
      (start (.create .connected true false) 1) raisedPackage).toOption.map
        (fun sockets => (queuedIn .low sockets.shared.piped,
          sockets.shared.high.map WriteBuffer.ptr,
          via .low (entries sockets.shared.high),
          via .low (entries sockets.shared.low))) =
          some ([⟨0, [1, 2], false⟩, ⟨1, [3, 4], false⟩, ⟨2, [5], false⟩], [1],
            [⟨1, [3, 4], false⟩], [⟨2, [5], false⟩]) := by
    decide +kernel
  obtain ⟨sockets, reached, shown⟩ := Option.map_eq_some_iff.mp ran
  simp only [Prod.mk.injEq] at shown
  obtain ⟨piped, part, raised, low⟩ := shown
  have run := run_of_ran reached
  have ordered := run_finishes_in_order (by simp) run .low
  rw [piped] at ordered
  simp only [via_append] at ordered
  exact ⟨sockets, run, part, (List.sublist_append_left _ _).trans ordered,
    raised, low⟩

private theorem objectFirst_submitted (sound : sockets.Sound)
    (object : objectFirst sockets.shared.low = true) :
    ∃ package ∈ sockets.shared.submitted, package.object = true := by
  cases low : sockets.shared.low with
  | nil => simp [objectFirst, low] at object
  | cons wb rest =>
      refine ⟨wb.package, ?_, by simpa [objectFirst, low] using object⟩
      have places := sound.balanced.counted.places wb.package
      apply List.count_pos_iff.mp
      simp only [Connection.places, low, List.map_append, List.count_append,
        Connection.entries_snd, List.map_cons, List.count_cons_self] at places
      omega

/-- An assertion fails only where the socket thread is about to write and the
first package of low priority is a user object, so never if all packages are
plain; no list is read that is not there; one thread at most is in a direct
write, and between the steps of the socket thread only then the lock is held; the
count of bytes to write is right until the lists are freed, and the count of
packages that are on their way is right at any time. -/
theorem run_sends_safely (valid : type ≠ .invalid)
    (run : Run type reading writing senders actions sockets)
    (action : SocketAction) :
    (sockets.step action = .error .assertion ↔ sockets.MeetsObject action) ∧
    ((∀ package ∈ sockets.shared.submitted, package.object = false) →
      sockets.step action ≠ .error .assertion) ∧
    sockets.step action ≠ .error .dangling ∧
    sockets.frames.countP SocketFrame.locks =
      (if sockets.shared.dwLock then 1 else 0) ∧
    (sockets.shared.cut = none → sockets.shared.wbSize =
      unwritten sockets.shared.high + unwritten sockets.shared.low) ∧
    sockets.shared.sending =
      carried SocketFrame.carries sockets.frames .sending +
        (pipePackages sockets.shared.pipe).length := by
  have sound := run_sound valid run
  have counted := sound.balanced.counted
  have lock := counted.lock
  rw [carried_lock] at lock
  have fails : sockets.step action = .error .assertion ↔
      sockets.MeetsObject action := by
    refine ⟨?_, step_object sound⟩
    intro failed
    by_contra plain
    rcases step_sound sound plain with waits | ⟨next, done, _⟩
    · have impossible := failed.symm.trans waits
      simp at impossible
    · have impossible := failed.symm.trans done
      simp at impossible
  refine ⟨fails, ?_, ?_, lock, sound.balanced.proper.ends.size, counted.sending⟩
  · intro plain failed
    obtain ⟨_, _, _, _, _, object⟩ := fails.mp failed
    obtain ⟨package, member, other⟩ := objectFirst_submitted sound object
    rw [plain package member] at other
    cases other
  · intro missing
    by_cases meets : sockets.MeetsObject action
    · have impossible := missing.symm.trans (fails.mpr meets)
      simp at impossible
    · rcases step_sound sound meets with waits | ⟨next, done, _⟩
      · have impossible := missing.symm.trans waits
        simp at impossible
      · have impossible := missing.symm.trans done
        simp at impossible

/-- A plain package waits to be written, and a user object of low priority behind
it. -/
def objectQueued : List SocketAction :=
  queueLow ⟨0, [1, 2], false⟩ ++ takeQueued ++
    queueLow ⟨1, [3, 4], true⟩ ++ takeQueued

theorem run_sends_safely_objectQueued : ∃ sockets,
    Run .connected true false 1 objectQueued sockets ∧
      sockets.step ⟨0, .writable [.wrote 1]⟩ = .error .assertion ∧
      sockets.step ⟨0, .readable .again⟩ ≠ .error .assertion := by
  have ran : (Transition.runSteps step
      (start (.create .connected true false) 1) objectQueued).toOption.map
        (fun sockets => (sockets.threads[0]?, sockets.shared.dwLock,
          sockets.shared.type, objectFirst sockets.shared.low)) =
          some (some [.poll], false, .connected, true) := by
    decide +kernel
  obtain ⟨sockets, reached, shown⟩ := Option.map_eq_some_iff.mp ran
  simp only [Prod.mk.injEq] at shown
  obtain ⟨current, unlocked, connected, object⟩ := shown
  have run := run_of_ran reached
  refine ⟨sockets, run, ?_, ?_⟩
  · apply (run_sends_safely (by simp) run _).1.mpr
    exact ⟨⟨[], current⟩, ⟨_, rfl⟩, unlocked, by simp [connected],
      by simp [connected], object⟩
  · intro failed
    obtain ⟨_, ⟨kernel, impossible⟩, _⟩ :=
      (run_sends_safely (by simp) run _).1.mp failed
    simp at impossible

/-- The end of a connection is reported once at most, no data comes after it, and
then the connection is not read any more. -/
theorem run_closes_once (valid : type ≠ .invalid)
    (run : Run type reading writing senders actions sockets) :
    sockets.shared.raised.count .close ≤ 1 ∧
    (∀ before after, sockets.shared.raised = before ++ .close :: after →
      ∀ bytes, .data bytes ∉ after) ∧
    (.close ∈ sockets.shared.raised →
      sockets.shared.type = .halfcloseRead ∨ sockets.shared.cut ≠ none) := by
  have reports := (run_sound valid run).balanced.proper.reports
  exact ⟨reports.once, reports.silent, reports.closed⟩

theorem run_closes_once_hangUp : ∃ sockets,
    Run .connected true false 2 hangUp sockets ∧
      sockets.shared.raised.count .close = 1 := by
  have ran : (Transition.runSteps step
      (start (.create .connected true false) 2) hangUp).toOption.map
        (fun sockets => decide (.close ∈ sockets.shared.raised)) =
          some true := by
    decide +kernel
  obtain ⟨sockets, reached, closed⟩ := Option.map_eq_some_iff.mp ran
  have run := run_of_ran reached
  obtain ⟨once, _, _⟩ := run_closes_once (by simp) run
  have some := List.count_pos_iff.mpr (of_decide_eq_true closed)
  exact ⟨sockets, run, by omega⟩

/-- What waits is never forgotten: the socket writes, or a request to write is in
the pipe or in the hands of a thread, unless the connection ends. -/
theorem run_wakes_writer (valid : type ≠ .invalid)
    (run : Run type reading writing senders actions sockets)
    (some : waiting sockets.shared ≠ []) :
    sockets.shared.writing = true ∨
      .enableWrite ∈ sockets.shared.pipe ∨
      .requestWrite ∈ sockets.frames ∨
      sockets.shared.type = .halfcloseWrite ∨ sockets.shared.cut ≠ none := by
  have busy : ¬sockets.shared.Idle := by
    rintro ⟨high, low, direct⟩
    simp [waiting, high, low, direct] at some
  rcases (run_sound valid run).balanced.woken with awake | queued | telling
  · rcases awake.busy busy with writes | ends
    · exact Or.inl writes
    · exact Or.inr (Or.inr (Or.inr ends))
  · exact Or.inr (Or.inl queued)
  · obtain ⟨frame, member, holds⟩ :=
      List.mem_flatMap.mp (List.count_pos_iff.mp telling)
    have tells : frame = .requestWrite := by
      cases frame <;> simp_all [SocketFrame.carries]
    exact Or.inr (Or.inr (Or.inl (tells ▸ member)))

/-- One sender has written a part of its package. -/
def partWritten : List SocketAction :=
  [⟨1, .send .high ⟨0, [1, 2, 3], false⟩⟩, ⟨1, .go⟩, ⟨1, .hint true⟩, ⟨1, .go⟩,
    ⟨1, .go⟩, ⟨1, .go⟩, ⟨1, .go⟩, ⟨1, .go⟩, ⟨1, .wrote (.wrote 2)⟩]

theorem run_wakes_writer_partWritten : ∃ sockets,
    Run .connected true false 1 partWritten sockets ∧
      .requestWrite ∈ sockets.frames := by
  have ran : (Transition.runSteps step
      (start (.create .connected true false) 1) partWritten).toOption.map
        (fun sockets => (waiting sockets.shared, sockets.shared.writing,
          sockets.shared.pipe, sockets.shared.type, sockets.shared.cut)) =
          some ([⟨0, [1, 2, 3], false⟩], false, [], .connected, none) := by
    decide +kernel
  obtain ⟨sockets, reached, shown⟩ := Option.map_eq_some_iff.mp ran
  simp only [Prod.mk.injEq] at shown
  obtain ⟨waits, idle, empty, type, uncut⟩ := shown
  have run := run_of_ran reached
  have wakes := run_wakes_writer (by simp) run (by simp [waits])
  refine ⟨sockets, run, ?_⟩
  simpa [idle, empty, type, uncut] using wakes

end Sockets

end Crynet.Skynet
