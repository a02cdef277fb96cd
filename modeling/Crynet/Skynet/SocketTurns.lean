import Crynet.Skynet.SocketSteps

/-!
# One step of a thread at a connection

Whatever frame is on top and whatever the others hold, a step has to wait or it
keeps the balance and leaves every other frame what it knows.
-/

namespace Crynet.Skynet

open CallStacks

namespace Connection

variable {connection next : Connection} {others : SocketToken → Nat}

abbrev Keeps (connection next : Connection) (frames : List SocketFrame)
    (others : SocketToken → Nat) : Prop :=
  CallStacks.Keeps SocketFrame.carries Balanced Fits connection next frames
    others

/-- A step has to wait, or it keeps what it should. -/
def Steps (connection : Connection) (others : SocketToken → Nat)
    (outcome : Outcome) : Prop :=
  outcome = .error .disabled ∨ ∃ next frames,
    outcome = .ok (next, frames) ∧ Keeps connection next frames others

theorem Keeps.steps {frames : List SocketFrame}
    (keeps : Keeps connection next frames others) :
    Steps connection others (.ok (next, frames)) :=
  Or.inr ⟨next, frames, rfl, keeps⟩

theorem Evolves.keeps {frames : List SocketFrame} (proper : next.Proper)
    (woken : next.Woken (load others (frames.flatMap SocketFrame.carries)))
    (counted : next.Counted
      (load others (frames.flatMap SocketFrame.carries)))
    (fits : ∀ frame ∈ frames, next.Fits frame)
    (evolves : Evolves connection next others) :
    Keeps connection next frames others :=
  ⟨⟨proper, woken, counted⟩, fits,
    fun _ carried fit => evolves.fits carried fit⟩

/-- Whoever is going to tell the socket thread to write still is. -/
theorem Woken.step {before after : SocketToken → Nat}
    (woken : connection.Woken before)
    (awake : connection.Awake → next.Awake)
    (pipe : .enableWrite ∈ connection.pipe → .enableWrite ∈ next.pipe)
    (held : before .enable ≤ after .enable) : next.Woken after := by
  rcases woken with wakes | queued | telling
  · exact Or.inl (awake wakes)
  · exact Or.inr (Or.inl (pipe queued))
  · exact Or.inr (Or.inr (Nat.lt_of_lt_of_le telling held))

/-- A change that other frames know nothing of. -/
theorem Evolves.unread (type : next.type = connection.type)
    (cut : next.cut = connection.cut) (high : next.high = connection.high)
    (low : next.low = connection.low)
    (direct : next.dwBuffer = connection.dwBuffer) :
    Evolves connection next others := by
  refine ⟨fun _ => ⟨cut, type⟩, ?_, ?_, ?_, ?_⟩
  · intro _ untouched
    simpa only [Untouched, high, low] using untouched
  · intro _ none
    rwa [direct]
  · intro _ valid
    rwa [type]
  · intro _ ends
    rwa [type]

/-- What is known when no other frame holds the lock. -/
theorem Evolves.alone (alone : others .lock = 0)
    (control : 0 < others .control →
      next.cut = connection.cut ∧ next.type = connection.type) :
    Evolves connection next others := by
  refine ⟨control, ?_, ?_, ?_, ?_⟩ <;>
  · intro held
    rw [alone] at held
    exact absurd held (Nat.lt_irrefl 0)

private theorem not_held {token : SocketToken} (none : others token = 0)
    {conclusion : Prop} (held : 0 < others token) : conclusion :=
  absurd held (by omega)

/-- The socket thread's turn. -/
theorem Polls.keeps {frames : List SocketFrame}
    (balanced : connection.Balanced (load others [.control]))
    (polls : Polls connection next frames) :
    Keeps connection next frames others := by
  obtain ⟨taken, rest, split, moves, holds, wakes⟩ := polls
  obtain ⟨_, woken, counted⟩ := balanced
  obtain ⟨lock, control, sending, places⟩ := counted
  have conserves := moves.conserves
  refine Evolves.keeps moves.proper ?_ ⟨?_, ?_, ?_, ?_⟩ moves.fits ?_
  · rw [holds]
    rcases woken with awake | queued | telling
    · exact Or.inl (conserves.awake awake)
    · rw [split] at queued
      rcases List.mem_append.mp queued with first | later
      · exact Or.inl (wakes first)
      · right
        left
        rw [conserves.pipe]
        exact later
    · right
      right
      simpa [load, List.count_replicate] using telling
  · have held : load others [.control] .lock = others .lock := by
      simp [load]
    rw [conserves.lock, holds, ← lock, held]
    simp [load, List.count_replicate]
  · rw [holds]
    simpa [load, List.count_replicate] using control
  · rw [conserves.sending, conserves.pipe, holds]
    rw [split, pipePackages_append, List.length_append] at sending
    simp only [load, List.count_cons, List.count_replicate, List.count_nil]
      at sending ⊢
    simp at sending ⊢
    omega
  · intro package
    have before := places package
    rw [conserves.submitted, conserves.places, holds]
    simp only [Connection.places, split, pipePackages_append,
      List.count_append] at before ⊢
    simp [load, List.count_replicate] at before ⊢
    omega
  · have alone : others .control = 0 := by
      simpa [load] using control
    have locked (held : 0 < others .lock) : connection.dwLock = true := by
      cases locks : connection.dwLock with
      | true => rfl
      | false =>
          rw [locks] at lock
          simp [load] at lock
          omega
    have relies (held : 0 < others .lock) : Relies connection next := by
      obtain ⟨untouched, direct, valid, halfclosed⟩ := moves.relies (locked held)
      exact ⟨untouched, direct, valid, halfclosed⟩
    exact ⟨not_held alone, fun held => (relies held).untouched,
      fun held => (relies held).direct, fun held => (relies held).valid,
      fun held => (relies held).halfclosed⟩

private theorem poll_steps
    (balanced : connection.Balanced (load others SocketFrame.poll.carries))
    (fits : connection.Fits .poll) {input : SocketInput}
    (plain : ¬connection.MeetsObject input) :
    Steps connection others (connection.poll input) := by
  rcases poll_turns balanced.proper fits plain with
    waits | ⟨next, frames, done, polls⟩
  · exact Or.inl waits
  · exact Or.inr ⟨next, frames, done, polls.keeps balanced⟩

/-- A request that was taken from the pipe is still counted. -/
theorem decSending_steps
    (balanced : connection.Balanced
      (load others SocketFrame.decSending.carries))
    (fits : connection.Fits .decSending) :
    Steps connection others (connection.controlStep .decSending) := by
  obtain ⟨proper, woken, lock, control, sending, places⟩ := balanced
  have one : load others SocketFrame.decSending.carries .sending =
      others .sending + 1 := by
    simp [load, SocketFrame.carries]
  have counted : connection.sending ≠ 0 := by omega
  simp only [controlStep, if_neg counted]
  apply Keeps.steps
  refine Evolves.keeps ⟨proper.stream, proper.order, proper.ends,
    proper.reports⟩ (woken.step id id (by simp [load, SocketFrame.carries]))
    ⟨?_, ?_, ?_, ?_⟩ ?_ (Evolves.unread rfl rfl rfl rfl rfl)
  · simpa [load, SocketFrame.carries] using lock
  · simpa [load, SocketFrame.carries] using control
  · simp [load, SocketFrame.carries] at sending ⊢
    omega
  · intro package
    have before := places package
    simpa [load, SocketFrame.carries, Connection.places] using before
  · intro frame member
    obtain rfl := List.mem_singleton.mp member
    exact fits

/-- The end of `force_close` waits for the lock. -/
theorem closeLocked_steps
    (balanced : connection.Balanced
      (load others SocketFrame.closeLocked.carries))
    (fits : connection.Fits .closeLocked) :
    Steps connection others (connection.controlStep .closeLocked) := by
  obtain ⟨proper, woken, lock, control, sending, places⟩ := balanced
  simp only [controlStep]
  split
  · exact Or.inl rfl
  · rename_i unlocked
    have alone : others .lock = 0 := by
      simpa [load, SocketFrame.carries, unlocked] using lock
    have single : others .control = 0 := by
      simpa [load, SocketFrame.carries] using control
    have conserves := freeDirect_conserves fits.1
    apply Keeps.steps
    refine Evolves.keeps (freeDirect_proper proper fits.2 fits.1)
      (Or.inl (awake_of_cut fits.1)) ⟨lock, control, sending, ?_⟩ ?_ (Evolves.alone alone (not_held single))
    · intro package
      rw [conserves.submitted, conserves.places]
      exact places package
    · intro frame member
      obtain rfl := List.mem_singleton.mp member
      exact fun _ => rfl

/-- What callers ask for. -/
theorem callStep_steps
    (balanced : connection.Balanced
      (load others SocketFrame.external.carries)) (input : SocketInput) :
    Steps connection others (connection.callStep input) := by
  obtain ⟨proper, woken, lock, control, sending, places⟩ := balanced
  simp only [SocketFrame.carries, load_nil] at lock control sending places
  have submits (package : Package) (frame : SocketFrame)
      (holds : frame.carries = [.package package])
      (fits : ∀ connection : Connection, connection.Fits frame) :
      Keeps connection { connection with
        submitted := connection.submitted ++ [package] } [frame, .external]
        others := by
    have tokens : [frame, .external].flatMap SocketFrame.carries =
        [.package package] := by
      rw [List.flatMap_cons, holds]
      rfl
    refine Evolves.keeps ⟨proper.stream, proper.order, proper.ends,
      proper.reports⟩ (woken.step id id ?_) ?_ ?_ (Evolves.unread rfl rfl rfl rfl rfl)
    · rw [tokens]
      simp [load, SocketFrame.carries]
    · rw [tokens]
      refine ⟨by simpa [load] using lock, by simpa [load] using control,
        by simpa [load] using sending, ?_⟩
      intro other
      have before := places other
      simp only [Connection.places] at before ⊢
      simp only [List.count_append, before, load,
        List.count_cons, List.count_nil, beq_iff_eq,
        SocketToken.package.injEq]
      omega
    · intro other member
      simp only [List.mem_cons, List.not_mem_nil, or_false] at member
      rcases member with rfl | rfl
      · exact fits _
      · trivial
  have posts (request : Request) (silent : pipePackages [request] = [])
      (quiet : ∀ priority, pipedIn priority [request] = []) :
      Keeps connection { connection with
        pipe := connection.pipe ++ [request] } [.external] others := by
    refine Evolves.keeps ⟨proper.stream, proper.order.post quiet, proper.ends,
      proper.reports⟩ (woken.step id (List.mem_append_left _)
        (by simp [load, SocketFrame.carries])) ⟨?_, ?_, ?_, ?_⟩ ?_ (Evolves.unread rfl rfl rfl rfl rfl)
    · simpa [load, SocketFrame.carries] using lock
    · simpa [load, SocketFrame.carries] using control
    · simpa [load, SocketFrame.carries, silent] using sending
    · intro other
      have before := places other
      simpa [load, SocketFrame.carries, Connection.places, silent] using before
    · simp [Fits]
  cases input with
  | send priority package =>
      cases priority with
      | high =>
          exact (submits package (.sendCheck package) rfl
            fun _ => trivial).steps
      | low =>
          exact (submits package (.lowCheck package) rfl fun _ => trivial).steps
  | request request =>
      cases request with
      | send priority package => exact Or.inl rfl
      | resume => exact (posts .resume rfl fun _ => rfl).steps
      | pause => exact (posts .pause rfl fun _ => rfl).steps
      | enableWrite => exact (posts .enableWrite rfl fun _ => rfl).steps
      | close shutdown => exact (posts (.close shutdown) rfl fun _ => rfl).steps
  | _ => exact Or.inl rfl

/-- A frame that only looks at the connection. -/
theorem Keeps.look {tokens : List SocketToken}
    (balanced : connection.Balanced (load others tokens)) (frame : SocketFrame)
    (holds : frame.carries = tokens) (fits : connection.Fits frame) :
    Keeps connection connection [frame] others := by
  refine Evolves.keeps balanced.proper ?_ ?_ ?_
    (Evolves.unread rfl rfl rfl rfl rfl)
  · rw [List.flatMap_singleton, holds]
    exact balanced.woken
  · rw [List.flatMap_singleton, holds]
    exact balanced.counted
  · intro other member
    obtain rfl := List.mem_singleton.mp member
    exact fits

/-- A frame gives up its package. -/
theorem Keeps.discard {package : Package}
    (balanced : connection.Balanced (load others [.package package])) :
    Keeps connection (connection.discard [package]) [] others := by
  obtain ⟨proper, woken, lock, control, sending, places⟩ := balanced
  have conserves := @discard_conserves connection [package]
  refine Evolves.keeps (discard_proper proper [package])
    (woken.step id id (by simp [load])) ⟨?_, ?_, ?_, ?_⟩ (by simp) (Evolves.unread rfl rfl rfl rfl rfl)
  · rw [conserves.lock]
    simpa [load] using lock
  · simpa [load] using control
  · rw [conserves.sending, conserves.pipe]
    simpa [load] using sending
  · intro other
    have before := places other
    rw [conserves.submitted, conserves.places, before]
    simp only [load, List.flatMap_nil, List.count_nil, List.count_cons,
      beq_iff_eq, SocketToken.package.injEq]
    omega

/-- The lock is taken. -/
theorem Keeps.lock {package : Package}
    (balanced : connection.Balanced (load others [.package package]))
    (unlocked : connection.dwLock = false) :
    Keeps connection { connection with dwLock := true } [.readLists package]
      others := by
  obtain ⟨proper, woken, lock, control, sending, places⟩ := balanced
  have free : others .lock = 0 := by
    simpa [load, unlocked] using lock
  refine Evolves.keeps ⟨proper.stream, proper.order, proper.ends,
    proper.reports⟩ (woken.step id id (by simp [load, SocketFrame.carries]))
    ⟨?_, ?_, ?_, ?_⟩ ?_ (Evolves.unread rfl rfl rfl rfl rfl)
  · simp [load, SocketFrame.carries, free]
  · simpa [load, SocketFrame.carries] using control
  · simpa [load, SocketFrame.carries] using sending
  · intro other
    have before := places other
    simpa [load, SocketFrame.carries, Connection.places, List.count_cons]
      using before
  · simp [Fits]

/-- The lock is given back. -/
theorem Keeps.unlock {package : Package}
    (balanced : connection.Balanced (load others [.lock, .package package])) :
    Keeps connection { connection with dwLock := false }
      [.incSending .high package] others := by
  obtain ⟨proper, woken, lock, control, sending, places⟩ := balanced
  have free : others .lock = 0 := by
    simp only [load, List.count_cons, List.count_nil] at lock
    simp at lock
    split at lock <;> omega
  refine Evolves.keeps ⟨proper.stream, proper.order, proper.ends,
    proper.reports⟩ (woken.step id id (by simp [load, SocketFrame.carries]))
    ⟨?_, ?_, ?_, ?_⟩ ?_ (Evolves.unread rfl rfl rfl rfl rfl)
  · simp [load, SocketFrame.carries, free]
  · simpa [load, SocketFrame.carries] using control
  · simpa [load, SocketFrame.carries] using sending
  · intro other
    have before := places other
    simpa [load, SocketFrame.carries, Connection.places, List.count_cons]
      using before
  · simp [Fits]

/-- A package goes into the pipe and is counted until the socket thread has
taken it. -/
theorem incSending_steps {priority : Priority} {package : Package}
    (balanced : connection.Balanced (load others [.package package])) :
    Keeps connection { connection with sending := connection.sending + 1 }
      [.sendRequest priority package] others := by
  obtain ⟨proper, woken, lock, control, sending, places⟩ := balanced
  refine Evolves.keeps ⟨proper.stream, proper.order, proper.ends,
    proper.reports⟩ (woken.step id id (by simp [load, SocketFrame.carries]))
    ⟨?_, ?_, ?_, ?_⟩ ?_ (Evolves.unread rfl rfl rfl rfl rfl)
  · simpa [load, SocketFrame.carries] using lock
  · simpa [load, SocketFrame.carries] using control
  · simp [load, SocketFrame.carries] at sending ⊢
    omega
  · intro other
    have before := places other
    simpa [load, SocketFrame.carries, Connection.places, List.count_cons]
      using before
  · simp [Fits]

private theorem sendRequest_steps {priority : Priority} {package : Package}
    (balanced : connection.Balanced
      (load others [.sending, .package package])) :
    Keeps connection { connection with
      pipe := connection.pipe ++ [.send priority package]
      piped := connection.piped ++ [(priority, package)] } [] others := by
  obtain ⟨proper, woken, lock, control, sending, places⟩ := balanced
  have adds : pipePackages [.send priority package] = [package] := rfl
  refine Evolves.keeps ⟨proper.stream, proper.order.postSend priority package,
    proper.ends, proper.reports⟩ (woken.step id (List.mem_append_left _)
      (by simp [load])) ⟨?_, ?_, ?_, ?_⟩ (by simp)
    (Evolves.unread rfl rfl rfl rfl rfl)
  · simpa [load] using lock
  · simpa [load] using control
  · simp [load, adds] at sending ⊢
    omega
  · intro other
    have before := places other
    simp only [Connection.places, pipePackages_append, adds, List.count_append,
      load, List.flatMap_nil, List.count_nil, List.count_cons, beq_iff_eq,
      SocketToken.package.injEq] at before ⊢
    simp only [reduceCtorEq, if_false] at before
    omega

private theorem requestWrite_steps
    (balanced : connection.Balanced (load others [.enable])) :
    Keeps connection { connection with
      pipe := connection.pipe ++ [.enableWrite] } [] others := by
  obtain ⟨proper, woken, lock, control, sending, places⟩ := balanced
  have none : pipePackages [.enableWrite] = [] := rfl
  refine Evolves.keeps ⟨proper.stream, proper.order.post fun _ => rfl,
    proper.ends, proper.reports⟩ (Or.inr (Or.inl (by simp)))
    ⟨?_, ?_, ?_, ?_⟩ (by simp)
    (Evolves.unread rfl rfl rfl rfl rfl)
  · simpa [load] using lock
  · simpa [load] using control
  · simpa [load, none] using sending
  · intro other
    have before := places other
    simpa [load, Connection.places, none] using before

/-- A direct write of some bytes under the lock, while nothing of the lists is
written. -/
theorem directWrite_taking {package : Package}
    (balanced : connection.Balanced (load others [.lock, .package package]))
    (untouched : connection.Untouched) (free : connection.dwBuffer = none)
    (live : connection.type ≠ .invalid) (n : Nat) :
    Steps connection others (.ok
      (if n = package.data.length then
        (({ connection with
          output := connection.output ++ package.data.take n
          dwLock := false } : Connection).finish
            ((WriteBuffer.fresh package .direct).advance n), [])
      else
        ({ connection with
          output := connection.output ++ package.data.take n
          dwLock := false
          dwBuffer := some ((WriteBuffer.fresh package .direct).advance n) },
          [.requestWrite]))) := by
  obtain ⟨proper, woken, lock, control, sending, places⟩ := balanced
  have alone : others .lock = 0 := by
    simp only [load, List.count_cons, List.count_nil] at lock
    simp at lock
    split at lock <;> omega
  have stream := proper.stream
  simp only [Streams, free] at stream
  have evolves : ∀ next : Connection, next.type = connection.type →
      next.cut = connection.cut → Evolves connection next others :=
    fun _ type cut => Evolves.alone alone fun _ => ⟨cut, type⟩
  split
  · rename_i whole
    apply Keeps.steps
    refine Evolves.keeps ⟨?_, proper.order.writeWhole package, proper.ends,
      proper.reports⟩ (woken.step id id (by simp [load])) ⟨?_, ?_, ?_, ?_⟩
      (by simp) (evolves _ rfl rfl)
    · have written := stream.writeWhole live untouched.1 package
      simp only [Streams, finish, free, whole, List.take_length]
      exact written
    · simp [load, alone, finish]
    · simpa [load] using control
    · simpa [load, finish] using sending
    · intro other
      have before := places other
      simp only [Connection.places, finish, List.map_append, List.map_cons,
        List.map_nil, List.count_append, load, List.flatMap_nil,
        List.count_nil, List.count_cons, beq_iff_eq, reduceCtorEq, if_false,
        SocketToken.package.injEq, WriteBuffer.advance, WriteBuffer.fresh]
        at before ⊢
      omega
  · apply Keeps.steps
    refine Evolves.keeps ⟨?_, proper.order.setDirect rfl, ?_, proper.reports⟩
      (Or.inr (Or.inr (by simp [load, SocketFrame.carries])))
      ⟨?_, ?_, ?_, ?_⟩ (by simp [Fits]) (evolves _ rfl rfl)
    · have sent : ((WriteBuffer.fresh package .direct).advance n).sent =
          package.data.take n := by
        rw [WriteBuffer.sent_advance]
        simp [WriteBuffer.fresh]
      have written := stream.writePart live untouched.1
        ((WriteBuffer.fresh package .direct).advance n)
      rw [sent] at written
      exact written
    · exact ⟨fun invalid => absurd invalid live, proper.ends.lists,
        proper.ends.closing, proper.ends.size⟩
    · simp [load, alone, SocketFrame.carries]
    · simpa [load, SocketFrame.carries] using control
    · simpa [load, SocketFrame.carries] using sending
    · intro other
      have before := places other
      simp only [Connection.places, free, Option.toList_some, Option.toList_none,
        List.map_cons, List.map_nil, SocketFrame.carries, List.flatMap_cons,
        List.flatMap_nil, List.append_nil, load, List.count_nil,
        List.count_cons, beq_iff_eq, reduceCtorEq, if_false,
        SocketToken.package.injEq, WriteBuffer.advance, WriteBuffer.fresh]
        at before ⊢
      omega

private theorem directWrite_steps {package : Package}
    (balanced : connection.Balanced (load others [.lock, .package package]))
    (untouched : connection.Untouched) (free : connection.dwBuffer = none)
    (live : connection.type ≠ .invalid) (result : WriteResult) :
    Steps connection others (.ok (connection.direct package result)) := by
  have writes := directWrite_taking balanced untouched free live
  cases result with
  | wrote count => exact writes (min count package.data.length)
  | interrupted => exact writes 0
  | again => exact writes 0
  | failed => exact writes 0

/-- `socket_server_send` and `socket_server_send_lowpriority`. -/
theorem senderStep_steps {frame : SocketFrame}
    (balanced : connection.Balanced (load others frame.carries))
    (fits : connection.Fits frame) (input : SocketInput) :
    Steps connection others (connection.senderStep frame input) := by
  cases frame with
  | poll | decSending | closeLocked | external => exact Or.inl rfl
  | sendCheck package =>
      cases input with
      | go =>
          simp only [senderStep]
          split
          · exact (Keeps.discard balanced).steps
          · exact (Keeps.look balanced (.sendHint package) rfl trivial).steps
      | _ => exact Or.inl rfl
  | sendHint package =>
      cases input with
      | hint direct =>
          simp only [senderStep]
          split
          · exact (Keeps.look balanced (.tryLock package) rfl trivial).steps
          · exact (Keeps.look balanced (.incSending .high package) rfl
              trivial).steps
      | _ => exact Or.inl rfl
  | tryLock package =>
      cases input with
      | go =>
          simp only [senderStep]
          split
          · exact (Keeps.look balanced (.incSending .high package) rfl
              trivial).steps
          · rename_i unlocked
            exact (Keeps.lock balanced (by simpa using unlocked)).steps
      | _ => exact Or.inl rfl
  | readLists package =>
      cases input with
      | go =>
          simp only [senderStep]
          split
          · rename_i empty
            simp only [sendBufferEmpty, Bool.and_eq_true, List.isEmpty_iff]
              at empty
            have untouched : connection.Untouched := by
              simp only [Untouched, empty.1, empty.2]
              exact ⟨unsent_nil, unsent_nil⟩
            exact (Keeps.look balanced (.readDirect package) rfl
              untouched).steps
          · exact (Keeps.look balanced (.readHalfclose package) rfl
              trivial).steps
      | _ => exact Or.inl rfl
  | readDirect package =>
      cases input with
      | go =>
          simp only [senderStep]
          split
          · rename_i free
            exact (Keeps.look balanced (.readSending package) rfl
              ⟨fits, by simpa using free⟩).steps
          · exact (Keeps.look balanced (.readHalfclose package) rfl
              trivial).steps
      | _ => exact Or.inl rfl
  | readSending package =>
      cases input with
      | go =>
          simp only [senderStep]
          split
          · exact (Keeps.look balanced (.readType true package) rfl fits).steps
          · exact (Keeps.look balanced (.readHalfclose package) rfl
              trivial).steps
      | _ => exact Or.inl rfl
  | readHalfclose package =>
      cases input with
      | go =>
          simp only [senderStep]
          split
          · rename_i half
            exact (Keeps.look balanced (.readType false package) rfl
              (Or.inl half)).steps
          · exact (Keeps.look balanced (.unlock package) rfl trivial).steps
      | _ => exact Or.inl rfl
  | readType empty package =>
      cases input with
      | go =>
          simp only [senderStep]
          split
          · rename_i connected
            have live : connection.type ≠ .invalid := by
              simp [connected]
            cases empty with
            | true =>
                exact (Keeps.look balanced (.directWrite package) rfl
                  ⟨fits.1, fits.2, live⟩).steps
            | false =>
                rcases fits with half | invalid
                · rw [connected] at half
                  simp at half
                · exact absurd invalid live
          · exact (Keeps.look balanced (.unlock package) rfl trivial).steps
      | _ => exact Or.inl rfl
  | directWrite package =>
      cases input with
      | wrote result =>
          exact directWrite_steps balanced fits.1 fits.2.1 fits.2.2 result
      | _ => exact Or.inl rfl
  | requestWrite =>
      cases input with
      | go => exact (requestWrite_steps balanced).steps
      | _ => exact Or.inl rfl
  | unlock package =>
      cases input with
      | go => exact (Keeps.unlock balanced).steps
      | _ => exact Or.inl rfl
  | lowCheck package =>
      cases input with
      | go =>
          simp only [senderStep]
          split
          · exact (Keeps.discard balanced).steps
          · exact (Keeps.look balanced (.incSending .low package) rfl
              trivial).steps
      | _ => exact Or.inl rfl
  | incSending priority package =>
      cases input with
      | go =>
          simp only [senderStep]
          split
          · exact Or.inl rfl
          · exact (incSending_steps balanced).steps
      | _ => exact Or.inl rfl
  | sendRequest priority package =>
      cases input with
      | go => exact (sendRequest_steps balanced).steps
      | _ => exact Or.inl rfl

/-- Every step of every frame, unless the socket thread meets a user object. -/
theorem act_steps {frame : SocketFrame}
    (balanced : connection.Balanced (load others frame.carries))
    (fits : connection.Fits frame) {input : SocketInput}
    (plain : frame = .poll → ¬connection.MeetsObject input) :
    Steps connection others (connection.act input frame) := by
  cases frame with
  | poll => exact poll_steps balanced fits (plain rfl)
  | decSending => exact decSending_steps balanced fits
  | closeLocked => exact closeLocked_steps balanced fits
  | external => exact callStep_steps balanced input
  | _ => exact senderStep_steps balanced fits input

end Connection

end Crynet.Skynet
