import Crynet.Skynet.SocketStreams

/-!
# One operation on a connection

Every operation keeps the connection proper and every package in one place, and
keeps what a thread that holds the lock for a direct write relies on.
-/

namespace Crynet.Skynet

namespace Connection

/-- An operation that keeps the counts, but for packages that it takes in. -/
structure Conserves (connection next : Connection) (gained : List Package) :
    Prop where
  lock : next.dwLock = connection.dwLock
  sending : next.sending = connection.sending
  pipe : next.pipe = connection.pipe
  submitted : next.submitted = connection.submitted
  places : ∀ package, next.places package =
    connection.places package + gained.count package
  awake : connection.Awake → next.Awake

theorem Conserves.refl (connection : Connection) :
    Conserves connection connection [] :=
  ⟨rfl, rfl, rfl, rfl, fun _ => rfl, id⟩

theorem Conserves.trans {connection between next : Connection}
    {gained : List Package} (first : Conserves connection between gained)
    (second : Conserves between next []) :
    Conserves connection next gained := by
  refine ⟨second.lock.trans first.lock, second.sending.trans first.sending,
    second.pipe.trans first.pipe, second.submitted.trans first.submitted, ?_,
    second.awake ∘ first.awake⟩
  intro package
  rw [second.places, first.places, List.count_nil, Nat.add_zero]

/-- What the holder of the lock relies on. -/
structure Relies (connection next : Connection) : Prop where
  untouched : connection.Untouched → next.Untouched
  direct : connection.dwBuffer = none → next.dwBuffer = none
  valid : connection.type ≠ .invalid → next.type ≠ .invalid
  halfclosed :
    connection.type = .halfcloseWrite ∨ connection.type = .invalid →
      next.type = .halfcloseWrite ∨ next.type = .invalid

theorem Relies.refl (connection : Connection) : Relies connection connection :=
  ⟨id, id, id, id⟩

theorem Relies.trans {connection between next : Connection}
    (first : Relies connection between) (second : Relies between next) :
    Relies connection next :=
  ⟨second.untouched ∘ first.untouched, second.direct ∘ first.direct,
    second.valid ∘ first.valid, second.halfclosed ∘ first.halfclosed⟩

theorem entries_snd (list : List WriteBuffer) :
    (entries list).map Prod.snd = list.map WriteBuffer.package := by
  simp [entries]

/-- A connection whose lists may be used: no end of it has begun. -/
structure Open (connection : Connection) : Prop where
  proper : connection.Proper
  live : connection.type ≠ .invalid
  uncut : connection.cut = none

theorem awake_of_cut {connection : Connection} (freed : connection.cut ≠ none) :
    connection.Awake :=
  Or.inr (Or.inr (Or.inr freed))

theorem Awake.busy {connection : Connection} (awake : connection.Awake)
    (busy : ¬connection.Idle) : connection.writing = true ∨
      connection.type = .halfcloseWrite ∨ connection.cut ≠ none :=
  awake.resolve_left busy

/-- Another type, unless the connection was closed for writing. -/
theorem Awake.retype {connection : Connection} (awake : connection.Awake)
    (writes : connection.type ≠ .halfcloseWrite) (type : SocketType) :
    ({ connection with type := type } : Connection).Awake := by
  rcases awake with idle | writing | half | freed
  · exact Or.inl idle
  · exact Or.inr (Or.inl writing)
  · exact absurd half writes
  · exact awake_of_cut freed

section Raising

variable {connection : Connection}

@[simp] theorem raise_type (event : SocketEvent) :
    (connection.raise event).type = connection.type := rfl

@[simp] theorem raise_cut (event : SocketEvent) :
    (connection.raise event).cut = connection.cut := rfl

private theorem raise_conserves (event : SocketEvent) :
    Conserves connection (connection.raise event) [] :=
  ⟨rfl, rfl, rfl, rfl, fun _ => rfl, id⟩

private theorem raise_relies (event : SocketEvent) :
    Relies connection (connection.raise event) :=
  ⟨id, id, id, id⟩

theorem Proper.quiet (proper : connection.Proper) (event : SocketEvent)
    (opens : event ≠ .close) (empty : ∀ bytes, event ≠ .data bytes) :
    (connection.raise event).Proper :=
  { proper with reports := proper.reports.quiet opens empty }

theorem Open.quiet (ready : connection.Open) (event : SocketEvent)
    (opens : event ≠ .close) (empty : ∀ bytes, event ≠ .data bytes) :
    (connection.raise event).Open :=
  { ready with proper := ready.proper.quiet event opens empty }

/-- Flags and sizes that nothing depends on. -/
theorem Open.unread (ready : connection.Open) (reading writing : Bool)
    (warnSize : Int) (size : Nat) :
    ({ connection with
      reading := reading, writing := writing
      warnSize := warnSize, size := size } : Connection).Open :=
  ⟨⟨ready.proper.stream, ready.proper.order, ready.proper.ends,
    ready.proper.reports⟩, ready.live, ready.uncut⟩

private theorem raiseClose_conserves (before : SocketType) :
    Conserves connection (connection.raiseClose before) [] := by
  unfold raiseClose
  split
  · exact Conserves.refl connection
  · exact raise_conserves .close

private theorem raiseClose_relies (before : SocketType) :
    Relies connection (connection.raiseClose before) := by
  unfold raiseClose
  split
  · exact Relies.refl connection
  · exact raise_relies .close

private theorem raiseClose_type (before : SocketType) :
    (connection.raiseClose before).type = connection.type := by
  unfold raiseClose
  split <;> rfl

private theorem raiseClose_cut (before : SocketType) :
    (connection.raiseClose before).cut = connection.cut := by
  unfold raiseClose
  split <;> rfl

end Raising

section Closing

variable {connection : Connection}

@[simp] theorem freeLists_cut :
    connection.freeLists.cut =
      some ⟨headSent connection.high, connection.finished.length⟩ := rfl

@[simp] theorem closeRead_type :
    connection.closeRead.type = .halfcloseRead := rfl

private theorem freeLists_proper (ready : connection.Open) :
    connection.freeLists.Proper := by
  have stream := ready.proper.stream
  simp only [Streams, ready.uncut] at stream
  refine ⟨stream.freeLists ready.live, ready.proper.order.free, ?_, ?_⟩
  · exact ⟨fun invalid => absurd invalid ready.live, fun _ => ⟨rfl, rfl⟩,
      fun _ => Or.inr (by simp), fun none => by simp at none⟩
  · exact ready.proper.reports.retype fun _ => Or.inr (by simp)

private theorem freeLists_conserves : Conserves connection connection.freeLists [] := by
  refine ⟨rfl, rfl, rfl, rfl, ?_, fun _ => awake_of_cut (by simp)⟩
  intro package
  simp only [places, freeLists, discard, List.map_append, entries_snd,
    List.count_append, List.map_nil, List.count_nil, entries_nil]
  omega

private theorem freeLists_relies : Relies connection connection.freeLists :=
  ⟨fun _ => ⟨unsent_nil, unsent_nil⟩, id, id, id⟩

theorem freeDirect_proper (proper : connection.Proper)
    (live : connection.type ≠ .invalid) (freed : connection.cut ≠ none) :
    connection.freeDirect.Proper := by
  obtain ⟨high, low⟩ := proper.ends.lists freed
  have stream := proper.stream
  simp only [Streams, high, low] at stream
  refine ⟨?_, proper.order.freeDirect, ?_, ?_⟩
  · simp only [Streams, freeDirect, discard, high, low]
    exact stream.freeDirect live
  · exact ⟨fun _ => ⟨freed, rfl⟩, fun _ => ⟨high, low⟩,
      fun _ => Or.inr freed, proper.ends.size⟩
  · exact proper.reports.retype fun _ => Or.inr freed

theorem freeDirect_conserves (freed : connection.cut ≠ none) :
    Conserves connection connection.freeDirect [] := by
  refine ⟨rfl, rfl, rfl, rfl, ?_, fun _ => awake_of_cut freed⟩
  intro package
  simp only [places, freeDirect, discard, List.count_append, Option.toList_none,
    List.map_nil, List.count_nil]
  omega

/-- Both halves of `force_close`. -/
theorem forceClose_proper (ready : connection.Open) :
    connection.freeLists.freeDirect.Proper :=
  freeDirect_proper (freeLists_proper ready) ready.live
    (by simp)

private theorem forceClose_conserves :
    Conserves connection connection.freeLists.freeDirect [] :=
  freeLists_conserves.trans (freeDirect_conserves (by simp))

private theorem closeRead_proper (ready : connection.Open) :
    connection.closeRead.Proper :=
  ⟨ready.proper.stream.retype ready.live (by simp),
    ready.proper.order,
    ⟨by simp, ready.proper.ends.lists, fun _ => Or.inl rfl,
      ready.proper.ends.size⟩,
    ready.proper.reports.retype fun _ => Or.inl rfl⟩

/-- `SOCKET_CLOSE` is reported when a connection is closed for reading. -/
theorem closeRead_close (ready : connection.Open)
    (reads : connection.type ≠ .halfcloseRead) :
    (connection.closeRead.raise .close).Proper :=
  { closeRead_proper ready with
    reports := ready.proper.reports.close reads ready.uncut (Or.inl rfl) }

/-- `SOCKET_CLOSE` is reported when a connection is freed, unless it was closed
for reading before. -/
theorem freeLists_close (ready : connection.Open) :
    (connection.freeLists.raiseClose connection.type).Proper := by
  unfold raiseClose
  split
  · exact freeLists_proper ready
  · rename_i reads
    exact { freeLists_proper ready with
      reports := ready.proper.reports.close reads ready.uncut
        (Or.inr (by simp)) }

end Closing

/-- What an operation of the socket thread leaves when it does not wait. -/
structure Advances (connection next : Connection) (gained : List Package) :
    Prop where
  proper : next.Proper
  conserves : Conserves connection next gained
  settled : next.cut ≠ none → next.type = .invalid

theorem Open.settled {connection : Connection} (ready : connection.Open) :
    connection.cut ≠ none → connection.type = .invalid :=
  fun freed => absurd ready.uncut freed

private theorem Open.stay {connection next : Connection} (ready : next.Open)
    {gained : List Package} (conserves : Conserves connection next gained) :
    Advances connection next gained :=
  ⟨ready.proper, conserves, ready.settled⟩

private theorem forceClose_advances {connection before : Connection}
    (ready : connection.Open) {gained : List Package}
    (conserves : Conserves before connection gained) :
    Advances before connection.freeLists.freeDirect gained :=
  ⟨forceClose_proper ready, conserves.trans forceClose_conserves,
    fun _ => rfl⟩

/-- A connection that still reads gets another type. -/
theorem Open.retype {connection : Connection} (ready : connection.Open)
    (reads : connection.type ≠ .halfcloseRead) {type : SocketType}
    (valid : type ≠ .invalid) :
    ({ connection with type := type } : Connection).Open := by
  have undone : ¬(connection.type = .halfcloseRead ∨ connection.cut ≠ none) := by
    simp [reads, ready.uncut]
  refine ⟨⟨ready.proper.stream.retype ready.live valid, ready.proper.order,
    ⟨fun invalid => absurd invalid valid, ready.proper.ends.lists, ?_,
      ready.proper.ends.size⟩, ?_⟩, valid, ready.uncut⟩
  · intro closing
    exact absurd (ready.proper.ends.closing closing) undone
  · exact ready.proper.reports.retype fun ends => absurd ends undone

private theorem closeWrite_advances {connection before : Connection}
    (ready : connection.Open) {gained : List Package}
    (conserves : Conserves before connection gained) :
    Advances before connection.closeWrite gained := by
  have closed := forceClose_advances ready conserves
  unfold closeWrite
  split
  · exact closed
  · split
    · exact closed
    · exact ready.stay conserves
    · rename_i reads _
      have half := (ready.unread connection.reading false connection.warnSize
        connection.size).retype reads
          (by simp : SocketType.halfcloseWrite ≠ .invalid)
      exact (half.quiet .error (by simp) (by simp)).stay
        (conserves.trans ⟨rfl, rfl, rfl, rfl, fun _ => rfl,
          fun _ => Or.inr (Or.inr (Or.inl rfl))⟩)

section Sending

variable {connection later : Connection} {left : List WriteBuffer}

private theorem takeDirect_open (ready : connection.Open) :
    connection.takeDirect.Open ∧ connection.takeDirect.dwBuffer = none ∧
      Conserves connection connection.takeDirect [] := by
  cases direct : connection.dwBuffer with
  | none =>
      have same : connection.takeDirect = connection := by
        simp [takeDirect, direct]
      rw [same]
      exact ⟨ready, direct, Conserves.refl connection⟩
  | some buf =>
      have same : connection.takeDirect = { connection with
          high := buf :: connection.high
          wbSize := connection.wbSize + buf.sz
          dwBuffer := none } := by
        simp [takeDirect, direct]
      have stream := ready.proper.stream
      have order := ready.proper.order
      have size := ready.proper.ends.size ready.uncut
      simp only [Streams, Orders, direct] at stream order
      rw [same]
      refine ⟨⟨⟨stream.takeDirect ready.live, order.takeDirect, ?_,
        ready.proper.reports⟩, ready.live, ready.uncut⟩, rfl,
        rfl, rfl, rfl, rfl, ?_, ?_⟩
      · refine ⟨fun invalid => absurd invalid ready.live,
          fun freed => absurd ready.uncut freed, ready.proper.ends.closing, ?_⟩
        intro _
        simp only [unwritten_cons, size]
        omega
      · intro package
        simp only [places, direct, entries_cons, List.map_append, List.map_cons,
          List.count_append, List.count_cons, Option.toList_none,
          Option.toList_some, List.map_nil, List.count_nil]
        omega
      · intro awake
        have busy : ¬connection.Idle := by simp [Idle, direct]
        exact Or.inr (awake.busy busy)

/-- What is left of no buffers is none. -/
theorem left_of_nil {done : List (Route × Package)}
    (split : entries [] = done ++ entries left) : left = [] := by
  have both := List.append_eq_nil_iff.mp split.symm
  exact List.map_eq_nil_iff.mp both.2

private theorem sendHigh_open (ready : connection.Open)
    (free : connection.dwBuffer = none)
    (sends : SendsList connection connection.high later left) :
    ({ later with high := left } : Connection).Open ∧
      Conserves connection { later with high := left } [] := by
  obtain ⟨same, ⟨done, finished, split, bytes⟩, size, tail⟩ := sends
  have stream := ready.proper.stream
  have order := ready.proper.order
  have before := ready.proper.ends.size ready.uncut
  simp only [Streams, ready.uncut, free] at stream
  have flow := stream.sends ready.live tail bytes
  rw [← finished] at flow
  have queue := order.finish split
  rw [← finished] at queue
  rw [same]
  refine ⟨⟨⟨?_, queue, ?_, ready.proper.reports⟩, ready.live, ready.uncut⟩,
    rfl, rfl, rfl, rfl, ?_, ?_⟩
  · simp only [Streams, ready.uncut, free]
    exact flow
  · refine ⟨ready.proper.ends.invalid, fun freed => absurd ready.uncut freed,
      ready.proper.ends.closing, ?_⟩
    intro _
    simp only
    omega
  · intro package
    simp only [places, finished, split, List.map_append, List.count_append,
      List.count_nil]
    omega
  · intro awake
    rcases awake with ⟨high, low, direct⟩ | busy
    · rw [high] at split
      exact Or.inl ⟨left_of_nil split, low, direct⟩
    · exact Or.inr busy

/-- The low list is written when the high list is empty; what is left of it is
divided again. -/
theorem sendLow_open (ready : connection.Open)
    (free : connection.dwBuffer = none) (empty : connection.high = [])
    (sends : SendsList connection connection.low later left)
    {higher lower : List WriteBuffer} (whole : higher ++ lower = left)
    (divides : ∀ output finished,
      Stream connection.type left [] none output finished connection.discarded
        none →
      Stream connection.type higher lower none output finished
        connection.discarded none) :
    ({ later with high := higher, low := lower } : Connection).Open ∧
      Conserves connection { later with high := higher, low := lower } [] := by
  obtain ⟨same, ⟨done, finished, split, bytes⟩, size, tail⟩ := sends
  have stream := ready.proper.stream
  have order := ready.proper.order
  have before := ready.proper.ends.size ready.uncut
  simp only [Streams, ready.uncut, free, empty] at stream
  have flow := stream.raise.sends ready.live tail bytes
  rw [← finished] at flow
  have routes : ∀ wb ∈ lower, wb.route = .piped .low := by
    intro wb member
    have left : (wb.route, wb.package) ∈ entries connection.low := by
      rw [split, ← whole, entries_append]
      exact List.mem_append_right _ (List.mem_append_right _
        (List.mem_map_of_mem member))
    obtain ⟨other, there, equal⟩ := List.mem_map.mp left
    rw [← order.lows other there]
    exact (Prod.ext_iff.mp equal).1.symm
  have queue : Ordered higher lower connection.dwBuffer later.finished
      connection.pipe connection.piped := by
    have raised : Ordered connection.low [] connection.dwBuffer
        connection.finished connection.pipe connection.piped :=
      order.relist (by simp [empty]) (by simp)
    have sent := raised.finish split
    rw [← finished] at sent
    exact sent.relist (by rw [← entries_append, whole]; simp) routes
  rw [same]
  refine ⟨⟨⟨?_, queue, ?_, ready.proper.reports⟩, ready.live, ready.uncut⟩,
    rfl, rfl, rfl, rfl, ?_, ?_⟩
  · simp only [Streams, ready.uncut, free]
    exact divides _ _ flow
  · refine ⟨ready.proper.ends.invalid, fun freed => absurd ready.uncut freed,
      ready.proper.ends.closing, ?_⟩
    intro _
    have parts := congrArg unwritten whole
    rw [unwritten_append] at parts
    simp only [empty, unwritten_nil] at before ⊢
    omega
  · intro package
    have parts := congrArg entries whole
    rw [entries_append] at parts
    have counted := congrArg (fun list => (list.map Prod.snd).count package)
      parts
    simp only [List.map_append, List.count_append] at counted
    simp only [places, finished, split, empty, List.map_append,
      List.count_append, List.count_nil, entries_nil, List.map_nil]
    omega
  · intro awake
    rcases awake with ⟨high, low, direct⟩ | busy
    · rw [low] at split
      rw [left_of_nil split] at whole
      have none := List.append_eq_nil_iff.mp whole
      exact Or.inl ⟨none.1, none.2, direct⟩
    · exact Or.inr busy

private theorem sendBufferEnd_advances {before : Connection} (ready : connection.Open)
    {gained : List Package} (conserves : Conserves before connection gained)
    (high : connection.high = []) (low : connection.low = [])
    (free : connection.dwBuffer = none) :
    ∃ next, connection.sendBufferEnd = .ok next ∧
      Advances before next gained := by
  have size := ready.proper.ends.size ready.uncut
  simp only [high, low, unwritten_nil] at size
  have idle := ready.unread connection.reading false connection.warnSize
    connection.size
  have calm := ready.unread connection.reading false 0 connection.size
  unfold sendBufferEnd
  rw [if_pos ⟨by simp [sendBufferEmpty, high, low], by simpa using size⟩]
  split
  · exact ⟨_, rfl, forceClose_advances ready conserves⟩
  · simp only
    split
    · exact ⟨_, rfl, (calm.quiet (.warning 0) (by simp) (by simp)).stay
        (conserves.trans ⟨rfl, rfl, rfl, rfl, fun _ => rfl,
          fun _ => Or.inl ⟨high, low, free⟩⟩)⟩
    · exact ⟨_, rfl, idle.stay
        (conserves.trans ⟨rfl, rfl, rfl, rfl, fun _ => rfl,
          fun _ => Or.inl ⟨high, low, free⟩⟩)⟩

/-- Steps 2 to 4 of `send_buffer_`. -/
theorem sendLow_advances {before : Connection} (ready : connection.Open)
    {gained : List Package} (conserves : Conserves before connection gained)
    (free : connection.dwBuffer = none) (empty : connection.high = [])
    (kernel : List WriteResult) :
    ∃ next,
      (if connection.low = [] then connection.sendBufferEnd
        else
          let second := connection.sendListTcp connection.low kernel
          let connection : Connection :=
            { second.2.2.1 with low := second.2.1 }
          if second.1 then
            if listUncomplete connection.low then
              connection.raiseUncomplete
            else if connection.low = [] then
              connection.sendBufferEnd
            else
              .ok connection
          else
            .ok connection.closeWrite) = .ok next ∧
      Advances before next gained := by
  have unsent := ready.proper.stream.low
  have sends := sendListTcp_sends kernel connection connection.low unsent.tail
  have fails := sendListTcp_unsent kernel connection connection.low unsent
  split
  · rename_i nothing
    exact sendBufferEnd_advances ready conserves empty nothing free
  · generalize connection.sendListTcp connection.low kernel = written
      at sends fails ⊢
    obtain ⟨goes, left, later, rest⟩ := written
    simp only at sends fails ⊢
    have high : later.high = [] := by
      rw [sends.same]
      exact empty
    have unused : later.dwBuffer = none := by
      rw [sends.same]
      exact free
    have same : ({ later with low := left } : Connection) =
        { later with high := [], low := left } := by
      rw [← high]
    have lowered (none : Unsent left) :
        ({ later with low := left } : Connection).Open ∧
          Conserves connection { later with low := left } [] := by
      rw [same]
      exact sendLow_open ready free empty sends (List.nil_append _)
        fun _ _ stream => stream.lower none
    cases goes with
    | false =>
        obtain ⟨proper, kept⟩ := lowered (fails rfl)
        exact ⟨_, rfl, closeWrite_advances proper (conserves.trans kept)⟩
    | true =>
        simp only [if_true]
        split
        · cases left with
          | nil => simp_all [listUncomplete]
          | cons tmp rest =>
              obtain ⟨proper, kept⟩ := sendLow_open ready free empty sends
                (List.singleton_append : [tmp] ++ rest = tmp :: rest)
                fun _ _ stream => stream.keepFirst
              refine ⟨_, ?_, proper.stay (conserves.trans kept)⟩
              simp [raiseUncomplete, high]
        · rename_i complete
          obtain ⟨proper, kept⟩ := lowered
            (unsent_of_complete sends.tail (by simpa using complete))
          split
          · rename_i nothing
            exact sendBufferEnd_advances proper (conserves.trans kept) high
              nothing unused
          · exact ⟨_, rfl, proper.stay (conserves.trans kept)⟩

end Sending

private theorem takeDirect_low (connection : Connection) :
    connection.takeDirect.low = connection.low := by
  unfold takeDirect
  split <;> rfl

/-- The assertion of `send_buffer_` fails when the first package of low priority
is a user object. -/
theorem sendBuffer_object {connection : Connection} (ready : connection.Open)
    (unlocked : connection.dwLock = false)
    (object : objectFirst connection.low = true) (kernel : List WriteResult) :
    connection.sendBuffer kernel = .error .assertion := by
  have uncomplete : listUncomplete connection.takeDirect.low = true := by
    rw [takeDirect_low,
      listUncomplete_eq_objectFirst ready.proper.stream.low, object]
  unfold sendBuffer
  rw [if_neg (by simp [unlocked])]
  unfold sendBufferLocked
  rw [if_pos uncomplete]

/-- Otherwise `send_buffer` fails no assertion, and it leaves a connection alone
while another thread writes. -/
theorem sendBuffer_advances {connection : Connection} (ready : connection.Open)
    (plain : connection.dwLock = false → objectFirst connection.low = false)
    (kernel : List WriteResult) :
    ∃ next, connection.sendBuffer kernel = .ok next ∧
      Advances connection next [] ∧
      (connection.dwLock = true → next = connection) := by
  unfold sendBuffer
  split
  · rename_i locked
    exact ⟨connection, rfl, ready.stay (Conserves.refl connection),
      fun _ => rfl⟩
  · rename_i unlocked
    obtain ⟨taken, free, kept⟩ := takeDirect_open ready
    have complete : listUncomplete connection.takeDirect.low = false := by
      rw [takeDirect_low,
        listUncomplete_eq_objectFirst ready.proper.stream.low]
      exact plain (Bool.eq_false_iff.mpr unlocked)
    have sends := sendListTcp_sends kernel connection.takeDirect
      connection.takeDirect.high taken.proper.stream.tail
    suffices ∃ next, connection.takeDirect.sendBufferLocked kernel = .ok next ∧
        Advances connection next [] by
      obtain ⟨next, done, advances⟩ := this
      exact ⟨next, done, advances, fun locked => absurd locked unlocked⟩
    unfold sendBufferLocked
    rw [if_neg (by simp [complete])]
    generalize connection.takeDirect.sendListTcp connection.takeDirect.high
      kernel = written at sends ⊢
    obtain ⟨goes, left, later, rest⟩ := written
    simp only at sends
    obtain ⟨proper, conserved⟩ := sendHigh_open taken free sends
    have conserves := kept.trans conserved
    simp only
    split
    · split
      · rename_i empty
        have idle : later.dwBuffer = none := by
          rw [sends.same]
          exact free
        exact sendLow_advances proper conserves idle empty rest
      · exact ⟨_, rfl, proper.stay conserves⟩
    · exact ⟨_, rfl, closeWrite_advances proper conserves⟩

/-- What the socket thread leaves with the frames that come next. -/
structure Moves (connection next : Connection) (gained : List Package)
    (frames : List SocketFrame) : Prop where
  proper : next.Proper
  conserves : Conserves connection next gained
  fits : ∀ frame ∈ frames, next.Fits frame
  relies : connection.dwLock = true → Relies connection next

theorem Advances.moves {connection next : Connection} {gained : List Package}
    {frame : SocketFrame} (advances : Advances connection next gained)
    (relies : connection.dwLock = true → Relies connection next)
    (polls : frame = .poll ∨ frame = .decSending) :
    Moves connection next gained [frame] := by
  refine ⟨advances.proper, advances.conserves, ?_, relies⟩
  intro other member
  obtain rfl := List.mem_singleton.mp member
  rcases polls with rfl | rfl
  · exact advances.settled
  · exact advances.settled

theorem Moves.poll {connection next : Connection} (proper : next.Proper)
    (conserves : Conserves connection next [])
    (settled : next.cut ≠ none → next.type = .invalid)
    (relies : Relies connection next) : Moves connection next [] [.poll] :=
  (Advances.mk proper conserves settled).moves (fun _ => relies) (Or.inl rfl)

section Warning

variable {connection : Connection}

private theorem warn_open (ready : connection.Open) : connection.warn.Open := by
  unfold warn
  split
  · exact (ready.unread connection.reading connection.writing _
      connection.size).quiet (.warning _) (by simp) (by simp)
  · exact ready

private theorem warn_conserves : Conserves connection connection.warn [] := by
  unfold warn
  split
  · exact ⟨rfl, rfl, rfl, rfl, fun _ => rfl, id⟩
  · exact Conserves.refl connection

private theorem warn_relies : Relies connection connection.warn := by
  unfold warn
  split
  · exact ⟨id, id, id, id⟩
  · exact Relies.refl connection

end Warning

section Requests

variable {connection : Connection} {rest : List Request}

/-- A connection whose first request has been taken. -/
abbrev popped (connection : Connection) (rest : List Request) : Connection :=
  { connection with pipe := rest }

theorem Proper.popped (proper : connection.Proper) {request : Request}
    (first : connection.pipe = request :: rest) :
    (connection.popped rest).Proper := by
  have order := proper.order
  simp only [Orders, first] at order
  exact { proper with order := order.drop }

theorem Proper.open (proper : connection.Proper)
    (settled : connection.cut ≠ none → connection.type = .invalid)
    (live : connection.type ≠ .invalid) : connection.Open :=
  ⟨proper, live, Decidable.by_contra fun freed => live (settled freed)⟩

theorem discard_proper (proper : connection.Proper) (packages : List Package) :
    (connection.discard packages).Proper :=
  { proper with stream := proper.stream.discard packages }

theorem discard_conserves (packages : List Package) :
    Conserves connection (connection.discard packages) packages := by
  refine ⟨rfl, rfl, rfl, rfl, ?_, id⟩
  intro package
  simp only [places, discard, List.count_append]
  omega

private theorem via_piped (priority own : Priority) (package : Package) :
    via priority [(.piped own, package)] = queuedIn priority [(own, package)] := by
  simp [via, queuedIn, List.filterMap_cons]

private theorem queuedIn_high (package : Package) :
    queuedIn .low [(.high, package)] = [] := rfl

/-- A package becomes the last of the high list. -/
theorem appendHigh_open (ready : connection.Open) {own : Priority}
    {package : Package} (first : connection.pipe = .send own package :: rest)
    (placed : own = .high ∨ connection.low = []) :
    ((connection.popped rest).appendSendbuffer .high
      (.fresh package (.piped own))).Open := by
  have order := ready.proper.order
  have size := ready.proper.ends.size ready.uncut
  simp only [Orders, first] at order
  refine ⟨⟨ready.proper.stream.appendHigh package (.piped own), ?_, ?_,
    ready.proper.reports⟩, ready.live, ready.uncut⟩
  · apply order.accept order.lows
    intro priority
    have after : via priority [(.piped own, package)] ++
        via priority (entries connection.low) =
          via priority (entries connection.low) ++
            via priority [(.piped own, package)] := by
      rcases placed with rfl | none
      · cases priority with
        | high => rw [via_low_only _ order.lows, List.append_nil,
            List.nil_append]
        | low => rw [via_piped, queuedIn_high, List.append_nil,
            List.nil_append]
      · rw [none, entries_nil, via_nil, List.append_nil, List.nil_append]
    simp only [appendSendbuffer, entries_append, entries_cons, entries_nil,
      via_append, ← via_piped, WriteBuffer.fresh, List.append_assoc, after]
  · refine ⟨fun invalid => absurd invalid ready.live,
      fun freed => absurd ready.uncut freed, ready.proper.ends.closing, ?_⟩
    intro _
    simp only [appendSendbuffer, unwritten_append, unwritten_cons,
      unwritten_nil, size]
    omega

/-- A package becomes the last of the low list. -/
theorem appendLow_open (ready : connection.Open) {package : Package}
    (first : connection.pipe = .send .low package :: rest) :
    ((connection.popped rest).appendSendbuffer .low
      (.fresh package (.piped .low))).Open := by
  have order := ready.proper.order
  have size := ready.proper.ends.size ready.uncut
  simp only [Orders, first] at order
  refine ⟨⟨ready.proper.stream.appendLow package (.piped .low), ?_, ?_,
    ready.proper.reports⟩, ready.live, ready.uncut⟩
  · apply order.accept
    · intro wb member
      rcases List.mem_append.mp member with old | new
      · exact order.lows wb old
      · rw [List.mem_singleton.mp new]
        rfl
    · intro priority
      simp only [appendSendbuffer, entries_append, entries_cons, entries_nil,
        via_append, ← via_piped, WriteBuffer.fresh, List.append_assoc]
  · refine ⟨fun invalid => absurd invalid ready.live,
      fun freed => absurd ready.uncut freed, ready.proper.ends.closing, ?_⟩
    intro _
    simp only [appendSendbuffer, unwritten_append, unwritten_cons,
      unwritten_nil, size]
    omega

private theorem append_places (priority own : Priority) (package other : Package) :
    (connection.appendSendbuffer priority
      (.fresh package (.piped own))).places other =
        connection.places other + [package].count other := by
  cases priority with
  | high =>
      simp only [places, appendSendbuffer, entries_append, entries_cons,
        entries_nil, List.map_append, List.map_cons, List.map_nil,
        List.count_append, WriteBuffer.fresh]
      omega
  | low =>
      simp only [places, appendSendbuffer, entries_append, entries_cons,
        entries_nil, List.map_append, List.map_cons, List.map_nil,
        List.count_append, WriteBuffer.fresh]
      omega

/-- A package that comes after others is written with them. -/
theorem append_conserves (busy : ¬connection.Idle) (priority own : Priority)
    (package : Package) :
    Conserves connection (connection.appendSendbuffer priority
      (.fresh package (.piped own))) [package] := by
  have places := @append_places connection priority own package
  cases priority with
  | high =>
      exact ⟨rfl, rfl, rfl, rfl, places, fun awake =>
        Or.inr (awake.busy busy)⟩
  | low =>
      exact ⟨rfl, rfl, rfl, rfl, places, fun awake =>
        Or.inr (awake.busy busy)⟩

private theorem append_relies (priority : Priority) (package : Package)
    (route : Route) :
    Relies connection (connection.appendSendbuffer priority
      (.fresh package route)) := by
  have fresh := unsent_fresh package route
  cases priority with
  | high =>
      exact ⟨fun untouched => ⟨Unsent.append untouched.1 fresh, untouched.2⟩, id,
        id, id⟩
  | low =>
      exact ⟨fun untouched => ⟨untouched.1, Unsent.append untouched.2 fresh⟩, id,
        id, id⟩

/-- `send_socket` puts a package into a list or gives it up. -/
theorem sendSocket_moves (proper : connection.Proper)
    (settled : connection.cut ≠ none → connection.type = .invalid)
    {own : Priority} {package : Package}
    (first : connection.pipe = .send own package :: rest) :
    Moves (connection.popped rest)
      ((connection.popped rest).sendSocket own package) [package]
      [.decSending] := by
  unfold sendSocket
  split
  · refine ⟨discard_proper (proper.popped first) _, discard_conserves _, ?_,
      fun _ => ⟨id, id, id, id⟩⟩
    intro frame member
    obtain rfl := List.mem_singleton.mp member
    exact settled
  · rename_i usable
    simp only [not_or] at usable
    have ready := proper.open settled usable.1
    have relies := @append_relies (connection.popped rest)
    split
    · rename_i empty
      simp only [sendBufferEmpty, Bool.and_eq_true, List.isEmpty_iff] at empty
      have added := appendHigh_open ready first (Or.inr empty.2)
      have marked := added.unread connection.reading true connection.warnSize
        connection.size
      have kept : Conserves (connection.popped rest)
          { (connection.popped rest).appendSendbuffer .high
            (.fresh package (.piped own)) with writing := true } [package] :=
        ⟨rfl, rfl, rfl, rfl,
          @append_places (connection.popped rest) .high own package,
          fun _ => Or.inr (Or.inl rfl)⟩
      have flagged : Relies (connection.popped rest)
          { (connection.popped rest).appendSendbuffer .high
            (.fresh package (.piped own)) with writing := true } :=
        (relies .high package (.piped own)).trans ⟨id, id, id, id⟩
      exact ((warn_open marked).stay (kept.trans warn_conserves)).moves
        (fun _ => flagged.trans warn_relies) (Or.inr rfl)
    · rename_i nonempty
      have busy : ¬(connection.popped rest).Idle := by
        intro idle
        apply nonempty
        rw [sendBufferEmpty, List.isEmpty_iff.mpr idle.1,
          List.isEmpty_iff.mpr idle.2.1]
        rfl
      have kept := append_conserves busy
      cases own with
      | high =>
          refine ((warn_open (appendHigh_open ready first (Or.inl rfl))).stay
            ((kept .high .high package).trans warn_conserves)).moves ?_
            (Or.inr rfl)
          intro _
          exact (relies .high package (.piped .high)).trans warn_relies
      | low =>
          refine ((warn_open (appendLow_open ready first)).stay
            ((kept .low .low package).trans warn_conserves)).moves ?_
            (Or.inr rfl)
          intro _
          exact (relies .low package (.piped .low)).trans warn_relies

private theorem resumeSocket_moves (proper : connection.Proper)
    (settled : connection.cut ≠ none → connection.type = .invalid) :
    Moves connection connection.resumeSocket [] [.poll] := by
  unfold resumeSocket
  split
  · exact Moves.poll (proper.quiet .error (by simp) (by simp))
      (raise_conserves .error) settled (raise_relies .error)
  · rename_i usable
    simp only [not_or] at usable
    have ready := proper.open settled usable.1
    have reading := ready.unread true connection.writing connection.warnSize
      connection.size
    dsimp only
    split
    · rename_i accepted
      have connected := reading.retype usable.2
        (by simp : SocketType.connected ≠ .invalid)
      have opened := connected.quiet .opened (by simp) (by simp)
      refine Moves.poll opened.proper ⟨rfl, rfl, rfl, rfl, fun _ => rfl,
        fun awake => Awake.retype awake (by simp [accepted]) .connected⟩
        opened.settled ⟨id, id, by simp, ?_⟩
      intro ends
      simp [accepted] at ends
    · have opened := reading.quiet .opened (by simp) (by simp)
      exact Moves.poll opened.proper ⟨rfl, rfl, rfl, rfl, fun _ => rfl, id⟩
        opened.settled ⟨id, id, id, id⟩
    · exact Moves.poll reading.proper ⟨rfl, rfl, rfl, rfl, fun _ => rfl, id⟩
        reading.settled ⟨id, id, id, id⟩

private theorem still_moves (proper : connection.Proper)
    (settled : connection.cut ≠ none → connection.type = .invalid) :
    Moves connection connection [] [.poll] :=
  Moves.poll proper (Conserves.refl connection) settled (Relies.refl connection)

private theorem pauseSocket_moves (proper : connection.Proper)
    (settled : connection.cut ≠ none → connection.type = .invalid) :
    Moves connection connection.pauseSocket [] [.poll] := by
  unfold pauseSocket
  split
  · exact still_moves proper settled
  · exact Moves.poll ⟨proper.stream, proper.order, proper.ends, proper.reports⟩
      ⟨rfl, rfl, rfl, rfl, fun _ => rfl, id⟩ settled ⟨id, id, id, id⟩

private theorem triggerWrite_moves (proper : connection.Proper)
    (settled : connection.cut ≠ none → connection.type = .invalid) :
    Moves connection connection.triggerWrite [] [.poll] ∧
      connection.triggerWrite.Awake := by
  unfold triggerWrite
  split
  · rename_i invalid
    exact ⟨still_moves proper settled,
      awake_of_cut (proper.ends.invalid invalid).1⟩
  · have awake : ({ connection with writing := true } : Connection).Awake :=
      Or.inr (Or.inl rfl)
    exact ⟨Moves.poll ⟨proper.stream, proper.order, proper.ends, proper.reports⟩
      ⟨rfl, rfl, rfl, rfl, fun _ => rfl, fun _ => awake⟩ settled
      ⟨id, id, id, id⟩, awake⟩

/-- A forced close begins: the lists are freed, and the lock is waited for. -/
theorem close_moves {next : Connection} (ready : connection.Open)
    (proper : next.Proper) (conserves : Conserves connection next [])
    (freed : next.cut ≠ none) (type : next.type = connection.type)
    (relies : Relies connection next) :
    Moves connection next [] [.closeLocked] := by
  refine ⟨proper, conserves, ?_, fun _ => relies⟩
  intro frame member
  obtain rfl := List.mem_singleton.mp member
  exact ⟨freed, type ▸ ready.live⟩

private theorem freeLists_moves (ready : connection.Open) :
    Moves connection connection.freeLists [] [.closeLocked] :=
  close_moves ready (freeLists_proper ready) freeLists_conserves (by simp) rfl
    freeLists_relies

private theorem freeListsClose_moves (ready : connection.Open) :
    Moves connection (connection.freeLists.raiseClose connection.type) []
      [.closeLocked] := by
  apply close_moves ready (freeLists_close ready)
    (freeLists_conserves.trans (raiseClose_conserves _))
  · simp [raiseClose_cut]
  · rw [raiseClose_type]
    rfl
  · exact freeLists_relies.trans (raiseClose_relies _)

private theorem freeListsError_moves (ready : connection.Open) :
    Moves connection (connection.freeLists.raise .error) [] [.closeLocked] :=
  close_moves ready ((freeLists_proper ready).quiet .error (by simp) (by simp))
    (freeLists_conserves.trans (raise_conserves _)) (by simp) rfl
    (freeLists_relies.trans (raise_relies _))

/-- A connection is closed for reading. -/
theorem closeRead_moves (ready : connection.Open)
    (reads : connection.type ≠ .halfcloseRead)
    (writes : connection.type ≠ .halfcloseWrite) (closing : Bool) :
    Moves connection
      (({ connection with closing := closing } : Connection).closeRead.raise
        .close) [] [.poll] := by
  have closed := closeRead_close ready reads
  have proper : (({ connection with closing := closing } :
      Connection).closeRead.raise .close).Proper :=
    ⟨closed.stream, closed.order, ⟨by simp, closed.ends.lists,
      fun _ => Or.inl rfl, closed.ends.size⟩, closed.reports⟩
  refine Moves.poll proper ⟨rfl, rfl, rfl, rfl, fun _ => rfl,
    fun awake => Awake.retype awake writes .halfcloseRead⟩
    (fun freed => absurd ready.uncut freed) ⟨id, id, by simp, ?_⟩
  intro ends
  rcases ends with half | invalid
  · exact absurd half writes
  · exact absurd invalid ready.live

private theorem halfcloseWrite_of_sending (sending : ¬connection.nomoreSendingData = true) :
    connection.type ≠ .halfcloseWrite := by
  intro half
  simp [nomoreSendingData, half] at sending

end Requests

/-- What one turn of the socket thread does: it may take a request from the
pipe, and with it a package. -/
def Polls (connection next : Connection) (frames : List SocketFrame) : Prop :=
  ∃ taken rest, connection.pipe = taken ++ rest ∧
    Moves (connection.popped rest) next (pipePackages taken) frames ∧
    frames.flatMap SocketFrame.carries =
      .control :: List.replicate (pipePackages taken).length .sending ∧
    (.enableWrite ∈ taken → next.Awake)

theorem Moves.polls {connection next : Connection} {frame : SocketFrame}
    (moves : Moves connection next [] [frame])
    (holds : frame.carries = [.control]) : Polls connection next [frame] :=
  ⟨[], connection.pipe, rfl, moves, by simp [holds, pipePackages],
    fun member => absurd member List.not_mem_nil⟩

private theorem Moves.takes {connection next : Connection} {request : Request}
    {rest : List Request} {frame : SocketFrame}
    (moves : Moves (connection.popped rest) next [] [frame])
    (first : connection.pipe = request :: rest)
    (other : pipePackages [request] = [])
    (holds : frame.carries = [.control])
    (wakes : request = .enableWrite → next.Awake) :
    Polls connection next [frame] := by
  refine ⟨[request], rest, first, ?_, ?_, ?_⟩
  · rw [other]
    exact moves
  · rw [other]
    simp [holds]
  · intro member
    exact wakes (List.mem_singleton.mp member).symm

/-- A turn of the socket thread is not possible, or it does what it should. -/
def Turns (connection : Connection) (outcome : Outcome) : Prop :=
  outcome = .error .disabled ∨
    ∃ next frames, outcome = .ok (next, frames) ∧ Polls connection next frames

theorem Polls.turns {connection next : Connection} {frames : List SocketFrame}
    (polls : Polls connection next frames) :
    Turns connection (.ok (next, frames)) :=
  Or.inr ⟨next, frames, rfl, polls⟩

section Turns

variable {connection : Connection}

private theorem ctrlCmd_turns (proper : connection.Proper)
    (settled : connection.cut ≠ none → connection.type = .invalid) :
    Turns connection connection.ctrlCmd := by
  unfold ctrlCmd
  cases first : connection.pipe with
  | nil => exact Or.inl rfl
  | cons request rest =>
      have kept := proper.popped first
      cases request with
      | resume =>
          exact ((resumeSocket_moves kept settled).takes first rfl rfl
            (by simp)).turns
      | pause =>
          exact ((pauseSocket_moves kept settled).takes first rfl rfl
            (by simp)).turns
      | enableWrite =>
          obtain ⟨moves, awake⟩ := triggerWrite_moves kept settled
          exact (moves.takes first rfl rfl fun _ => awake).turns
      | send own package =>
          exact Polls.turns ⟨[.send own package], rest, first,
            sendSocket_moves proper settled first, rfl, by simp⟩
      | close shutdown =>
          dsimp only
          split
          · exact ((still_moves kept settled).takes first rfl rfl
              (by simp)).turns
          · rename_i live
            have ready := kept.open settled live
            split
            · exact ((freeListsClose_moves ready).takes first rfl rfl
                (by simp)).turns
            · rename_i waits
              simp only [Bool.or_eq_true, not_or] at waits
              have writes := halfcloseWrite_of_sending waits.2
              split
              · rename_i half
                have closing : ({ connection.popped rest with
                    closing := true } : Connection).Proper :=
                  ⟨kept.stream, kept.order, ⟨kept.ends.invalid,
                    kept.ends.lists, fun _ => Or.inl half, kept.ends.size⟩,
                    kept.reports⟩
                have moves : Moves (connection.popped rest)
                    { connection.popped rest with closing := true } []
                    [.poll] :=
                  Moves.poll closing ⟨rfl, rfl, rfl, rfl, fun _ => rfl, id⟩ settled
                    ⟨id, id, id, id⟩
                exact (moves.takes first rfl rfl (by simp)).turns
              · rename_i reads
                exact ((closeRead_moves ready reads writes true).takes first rfl
                  rfl (by simp)).turns

private theorem forwardMessageTcp_turns (ready : connection.Open)
    (result : ReadResult) :
    Turns connection (connection.forwardMessageTcp result) := by
  have still := still_moves ready.proper ready.settled
  cases result with
  | failed =>
      have failed := ready.quiet .error (by simp) (by simp)
      exact ((Moves.poll failed.proper (raise_conserves .error) failed.settled
        (raise_relies .error)).polls rfl).turns
  | again => exact (still.polls rfl).turns
  | eof =>
      simp only [forwardMessageTcp]
      split
      · split
        · exact ((freeLists_moves ready).polls rfl).turns
        · exact (still.polls rfl).turns
      · split
        · exact (still.polls rfl).turns
        · rename_i half
          have reads : connection.type ≠ .halfcloseRead := by simp [half]
          have moves := freeListsClose_moves ready
          rw [raiseClose, if_neg reads] at moves
          exact (moves.polls rfl).turns
        · rename_i reads writes
          exact ((closeRead_moves ready reads writes
            connection.closing).polls rfl).turns
  | bytes first rest =>
      simp only [forwardMessageTcp]
      split
      · exact Or.inl rfl
      · split
        · exact (still.polls rfl).turns
        · rename_i reads
          have sized := ready.unread connection.reading connection.writing
            connection.warnSize
          have received (size : Nat) : Moves connection
              (({ connection with size := size } : Connection).raise
                (.data (first :: rest))) [] [.poll] :=
            Moves.poll { (sized size).proper with
                reports := ready.proper.reports.data reads ready.uncut _ }
              ⟨rfl, rfl, rfl, rfl, fun _ => rfl, id⟩ ready.settled
              ⟨id, id, id, id⟩
          exact ((received _).polls rfl).turns

private theorem reportConnect_turns (ready : connection.Open)
    (connecting : connection.type = .connecting) (succeeded : Bool) :
    Turns connection (connection.reportConnect succeeded) := by
  unfold reportConnect
  split
  · have connected := ready.retype (by simp [connecting])
      (by simp : SocketType.connected ≠ .invalid)
    have opens (writing : Bool) (awakes : connection.Awake →
        ({ connection with type := .connected, writing := writing } :
          Connection).Awake) : Moves connection
        (({ connection with type := .connected, writing := writing } :
          Connection).raise .opened) [] [.poll] := by
      have opened := (connected.unread connection.reading writing
        connection.warnSize connection.size).quiet .opened (by simp) (by simp)
      refine Moves.poll opened.proper
        ⟨rfl, rfl, rfl, rfl, fun _ => rfl, awakes⟩ opened.settled
        ⟨id, id, by simp, ?_⟩
      intro ends
      simp [connecting] at ends
    dsimp only
    split
    · rename_i nothing
      have idle : connection.Idle := by
        simp [nomoreSendingData, sendBufferEmpty] at nothing
        exact ⟨nothing.1.1.1, nothing.1.1.2, nothing.1.2⟩
      exact ((opens false fun _ => Or.inl idle).polls rfl).turns
    · exact ((opens connection.writing fun awake =>
        Awake.retype awake (by simp [connecting]) .connected).polls rfl).turns
  · exact ((freeListsError_moves ready).polls rfl).turns

/-- A write event that no direct write holds up finds a user object first in the
low list. -/
def MeetsObject (connection : Connection) (input : SocketInput) : Prop :=
  (∃ kernel, input = .writable kernel) ∧ connection.dwLock = false ∧
    connection.type ≠ .connecting ∧ connection.type ≠ .invalid ∧
    objectFirst connection.low = true

theorem poll_object (proper : connection.Proper)
    (settled : connection.cut ≠ none → connection.type = .invalid)
    {input : SocketInput} (meets : connection.MeetsObject input) :
    connection.poll input = .error .assertion := by
  obtain ⟨⟨kernel, rfl⟩, unlocked, connected, live, object⟩ := meets
  have ready := proper.open settled live
  simp only [poll]
  rw [if_neg (not_or.mpr ⟨connected, live⟩),
    sendBuffer_object ready unlocked object]
  rfl

theorem poll_turns (proper : connection.Proper)
    (settled : connection.cut ≠ none → connection.type = .invalid)
    {input : SocketInput} (plain : ¬connection.MeetsObject input) :
    Turns connection (connection.poll input) := by
  have usable (live : ¬(connection.type = .connecting ∨
      connection.type = .invalid)) : connection.Open :=
    proper.open settled fun invalid => live (Or.inr invalid)
  cases input with
  | command => exact ctrlCmd_turns proper settled
  | connectResult succeeded =>
      simp only [poll]
      split
      · rename_i connecting
        exact reportConnect_turns (proper.open settled (by simp [connecting]))
          connecting succeeded
      · exact Or.inl rfl
  | readable result =>
      simp only [poll]
      split
      · exact Or.inl rfl
      · rename_i live
        exact forwardMessageTcp_turns (usable live) result
  | writable kernel =>
      simp only [poll]
      split
      · exact Or.inl rfl
      · rename_i live
        have first : connection.dwLock = false →
            objectFirst connection.low = false := by
          intro unlocked
          rw [Bool.eq_false_iff]
          intro object
          exact plain ⟨⟨kernel, rfl⟩, unlocked, (not_or.mp live).1,
            (not_or.mp live).2, object⟩
        obtain ⟨next, sent, advances, locked⟩ :=
          sendBuffer_advances (usable live) first kernel
        rw [sent]
        refine ((advances.moves ?_ (Or.inl rfl)).polls rfl).turns
        intro held
        rw [locked held]
        exact Relies.refl connection
  | failed =>
      simp only [poll]
      split
      · exact Or.inl rfl
      · exact ((Moves.poll (proper.quiet .error (by simp) (by simp))
          (raise_conserves .error) settled (raise_relies .error)).polls
          rfl).turns
  | hangup =>
      simp only [poll]
      split
      · exact Or.inl rfl
      · rename_i live
        exact ((freeListsClose_moves (usable live)).polls rfl).turns
  | send priority package => exact Or.inl rfl
  | request request => exact Or.inl rfl
  | hint direct => exact Or.inl rfl
  | wrote result => exact Or.inl rfl
  | go => exact Or.inl rfl

end Turns

end Connection

end Crynet.Skynet
