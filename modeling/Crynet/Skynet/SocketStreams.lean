import Crynet.Skynet.SocketBalance

/-!
# What the parts of an operation keep

The operations on a connection move buffers between its lists, write a part of
the first one, or give buffers up.  Each of these moves keeps the stream, the
order of packages, the end of the connection and its reports.
-/

namespace Crynet.Skynet

theorem headSent_prefix (list : List WriteBuffer) :
    headSent list = [] ∨
      ∃ package ∈ list.map WriteBuffer.package,
        headSent list <+: package.data := by
  cases list with
  | nil => exact Or.inl rfl
  | cons wb rest =>
      refine Or.inr ⟨wb.package, by simp, ?_⟩
      exact List.take_prefix _ _

private theorem current_prefix (direct : Option WriteBuffer) :
    current [] direct = [] ∨
      ∃ package ∈ direct.toList.map WriteBuffer.package,
        current [] direct <+: package.data := by
  cases direct with
  | none => exact Or.inl rfl
  | some buf =>
      refine Or.inr ⟨buf.package, by simp, ?_⟩
      exact List.take_prefix _ _

private theorem current_of_unsent {high : List WriteBuffer} (unsent : Unsent high) :
    current high none = [] :=
  headSent_of_unsent unsent

theorem unsent_nil : Unsent [] :=
  fun _ member => absurd member List.not_mem_nil

theorem Unsent.append {first second : List WriteBuffer} (left : Unsent first)
    (right : Unsent second) : Unsent (first ++ second) := by
  intro wb member
  rcases List.mem_append.mp member with early | late
  · exact left wb early
  · exact right wb late

theorem unsent_fresh (package : Package) (route : Route) :
    Unsent [.fresh package route] := by
  intro wb member
  rw [List.mem_singleton.mp member]
  rfl

section Streams

variable {type : SocketType} {high low : List WriteBuffer}
variable {direct : Option WriteBuffer} {output : List UInt8}
variable {finished : List (Route × Package)} {discarded : List Package}
variable {cut : Option Cut}

theorem Stream.retype
    (stream : Stream type high low direct output finished discarded cut)
    (live : type ≠ .invalid) {other : SocketType} (valid : other ≠ .invalid) :
    Stream other high low direct output finished discarded cut :=
  { stream with
    live := fun _ => stream.live live
    dead := fun invalid => absurd invalid valid }

theorem Stream.discard
    (stream : Stream type high low direct output finished discarded cut)
    (more : List Package) :
    Stream type high low direct output finished (discarded ++ more) cut := by
  refine { stream with dead := ?_, torn := stream.torn.mono more }
  intro invalid
  obtain ⟨last, torn, written⟩ := stream.dead invalid
  exact ⟨last, torn.mono more, written⟩

/-- The first half of `force_close`. -/
theorem Stream.freeLists
    (stream : Stream type high low direct output finished discarded none)
    (live : type ≠ .invalid) :
    Stream type [] [] direct output finished
      (discarded ++ (high ++ low).map WriteBuffer.package)
      (some ⟨headSent high, finished.length⟩) := by
  have whole : wholeBytes (some ⟨headSent high, finished.length⟩) finished =
      bytesOf finished ++ headSent high := by
    simp [wholeBytes, finishedAt, tornAt]
  refine ⟨unsent_nil, unsent_nil, fun _ => unsent_nil, ?_, ?_, Nat.le_refl _,
    ?_, by simp [finishedAt]⟩
  · intro _
    rw [stream.live live, whole, wholeBytes_none]
    cases direct with
    | none => simp [current, headSent]
    | some buf =>
        have unsent := stream.ahead (by simp)
        simp [current, headSent_of_unsent unsent]
  · intro invalid
    exact absurd invalid live
  · simp only [tornAt]
    rcases headSent_prefix high with nothing | ⟨package, member, start⟩
    · exact Or.inl nothing
    · refine Or.inr ⟨package, ?_, start⟩
      rw [List.map_append]
      exact List.mem_append_right _ (List.mem_append_left _ member)

/-- The second half of `force_close`. -/
theorem Stream.freeDirect
    (stream : Stream type [] [] direct output finished discarded cut)
    (live : type ≠ .invalid) :
    Stream .invalid [] [] none output finished
      (discarded ++ direct.toList.map WriteBuffer.package) cut := by
  refine ⟨unsent_nil, unsent_nil, fun _ => unsent_nil,
    fun valid => absurd rfl valid, ?_, stream.within, stream.torn.mono _,
    stream.late⟩
  intro _
  refine ⟨current [] direct, ?_, stream.live live⟩
  rcases current_prefix direct with nothing | ⟨package, member, start⟩
  · exact Or.inl nothing
  · exact Or.inr ⟨package, List.mem_append_right _ member, start⟩

/-- The direct write buffer becomes the first buffer. -/
theorem Stream.takeDirect {buf : WriteBuffer}
    (stream : Stream type high low (some buf) output finished discarded cut)
    (live : type ≠ .invalid) :
    Stream type (buf :: high) low none output finished discarded cut :=
  { stream with
    tail := stream.ahead (by simp)
    ahead := fun some => absurd rfl some
    live := fun _ => stream.live live
    dead := fun invalid => absurd invalid live }

/-- Buffers that nothing is written of become the first list. -/
theorem Stream.raise
    (stream : Stream type [] low none output finished discarded cut) :
    Stream type low [] none output finished discarded cut := by
  refine { stream with
    low := unsent_nil
    tail := stream.low.tail
    ahead := fun some => absurd rfl some
    live := ?_ }
  intro live
  rw [stream.live live, current_of_unsent stream.low,
    current_of_unsent unsent_nil]

/-- The first list, if nothing is written of it, becomes the second. -/
theorem Stream.lower
    (stream : Stream type high [] none output finished discarded cut)
    (unsent : Unsent high) :
    Stream type [] high none output finished discarded cut := by
  refine { stream with
    low := unsent
    tail := unsent_nil
    ahead := fun some => absurd rfl some
    live := ?_ }
  intro live
  rw [stream.live live, current_of_unsent unsent, current_of_unsent unsent_nil]

/-- All but the first buffer go to the second list. -/
theorem Stream.keepFirst {wb : WriteBuffer} {rest : List WriteBuffer}
    (stream : Stream type (wb :: rest) [] none output finished discarded cut) :
    Stream type [wb] rest none output finished discarded cut :=
  { stream with
    low := stream.tail
    tail := unsent_nil
    ahead := fun some => absurd rfl some }

theorem Stream.appendHigh
    (stream : Stream type high low direct output finished discarded cut)
    (package : Package) (route : Route) :
    Stream type (high ++ [.fresh package route]) low direct output finished
      discarded cut := by
  have fresh := unsent_fresh package route
  refine { stream with tail := ?_, ahead := ?_, live := ?_ }
  · cases high with
    | nil => exact unsent_nil
    | cons wb rest => exact Unsent.append stream.tail fresh
  · intro some
    exact Unsent.append (stream.ahead some) fresh
  · intro live
    rw [stream.live live]
    cases direct with
    | some buf => rfl
    | none =>
        cases high with
        | nil => rfl
        | cons wb rest => rfl

theorem Stream.appendLow
    (stream : Stream type high low direct output finished discarded cut)
    (package : Package) (route : Route) :
    Stream type high (low ++ [.fresh package route]) direct output finished
      discarded cut :=
  { stream with low := Unsent.append stream.low (unsent_fresh package route) }

/-- Buffers of the list that is written are finished, and one may be left in
part. -/
theorem Stream.sends {left : List WriteBuffer}
    (stream : Stream type high low none output finished discarded none)
    (live : type ≠ .invalid) {written : List UInt8}
    {done : List (Route × Package)} (tail : Unsent left.tail)
    (bytes : ∀ before, output = before ++ headSent high →
      written = before ++ bytesOf done ++ headSent left) :
    Stream type left low none written (finished ++ done) discarded none := by
  refine ⟨stream.low, tail, fun some => absurd rfl some, ?_,
    fun invalid => absurd invalid live, Nat.zero_le _, stream.torn,
    fun freed => absurd rfl freed⟩
  intro _
  have before := stream.live live
  rw [wholeBytes_none] at before
  rw [bytes _ before, wholeBytes_none, bytesOf_append]
  rfl

/-- A direct write that takes the whole package. -/
theorem Stream.writeWhole
    (stream : Stream type high low none output finished discarded cut)
    (live : type ≠ .invalid) (unsent : Unsent high) (package : Package) :
    Stream type high low none (output ++ package.data)
      (finished ++ [(.direct, package)]) discarded cut := by
  refine { stream with live := ?_, dead := ?_, within := ?_, late := ?_ }
  · intro _
    rw [stream.live live, wholeBytes_append stream.within,
      current_of_unsent unsent, bytesOf_singleton]
    simp
  · intro invalid
    exact absurd invalid live
  · rw [List.length_append]
    exact Nat.le_add_right_of_le stream.within
  · intro freed entry member
    rw [List.drop_append_of_le_length stream.within] at member
    rcases List.mem_append.mp member with old | new
    · exact stream.late freed entry old
    · rw [List.mem_singleton.mp new]

/-- A direct write that leaves a part of the package. -/
theorem Stream.writePart
    (stream : Stream type high low none output finished discarded cut)
    (live : type ≠ .invalid) (unsent : Unsent high) (buf : WriteBuffer) :
    Stream type high low (some buf) (output ++ buf.sent) finished discarded
      cut := by
  refine { stream with ahead := fun _ => unsent, live := ?_, dead := ?_ }
  · intro _
    rw [stream.live live, current_of_unsent unsent, List.append_nil]
    rfl
  · intro invalid
    exact absurd invalid live

end Streams

section Orders

variable {high low : List WriteBuffer} {direct : Option WriteBuffer}
variable {finished : List (Route × Package)} {pipe : List Request}
variable {piped : List (Priority × Package)}

/-- Buffers move between the lists. -/
theorem Ordered.relist
    (order : Ordered high low direct finished pipe piped)
    {higher lower : List WriteBuffer}
    (same : entries higher ++ entries lower = entries high ++ entries low)
    (lows : ∀ wb ∈ lower, wb.route = .piped .low) :
    Ordered higher lower direct finished pipe piped := by
  refine ⟨lows, order.directs, ?_⟩
  intro priority
  have before := order.fifo priority
  rw [List.append_assoc, same, ← List.append_assoc]
  exact before

/-- Some of the first buffers are finished. -/
theorem Ordered.finish
    (order : Ordered high low direct finished pipe piped)
    {higher : List WriteBuffer} {done : List (Route × Package)}
    (split : entries high = done ++ entries higher) :
    Ordered higher low direct (finished ++ done) pipe piped := by
  refine ⟨order.lows, order.directs, ?_⟩
  intro priority
  have before := order.fifo priority
  rw [split] at before
  simpa only [List.append_assoc] using before

theorem Ordered.free
    (order : Ordered high low direct finished pipe piped) :
    Ordered [] [] direct finished pipe piped := by
  refine ⟨fun wb member => absurd member List.not_mem_nil, order.directs, ?_⟩
  intro priority
  refine List.Sublist.trans ?_ (order.fifo priority)
  apply List.Sublist.append_right
  simp only [entries_nil, List.append_nil, via_append, List.append_assoc]
  exact List.sublist_append_left _ _

theorem Ordered.freeDirect
    (order : Ordered high low direct finished pipe piped) :
    Ordered high low none finished pipe piped :=
  { order with directs := nofun }

theorem Ordered.setDirect
    (order : Ordered high low direct finished pipe piped) {buf : WriteBuffer}
    (route : buf.route = .direct) :
    Ordered high low (some buf) finished pipe piped :=
  { order with directs := fun _ same => (Option.some.inj same) ▸ route }

/-- A direct write is not in the order of the pipe. -/
theorem via_direct (priority : Priority) (package : Package) :
    via priority [(.direct, package)] = [] := rfl

theorem Ordered.takeDirect {buf : WriteBuffer}
    (order : Ordered high low (some buf) finished pipe piped) :
    Ordered (buf :: high) low none finished pipe piped := by
  refine ⟨order.lows, nofun, ?_⟩
  intro priority
  have nothing : via priority [(buf.route, buf.package)] = [] := by
    rw [order.directs buf rfl]
    exact via_direct priority buf.package
  have split : entries (buf :: high) =
      [(buf.route, buf.package)] ++ entries high := rfl
  have before := order.fifo priority
  simp only [via_append] at before
  simp only [split, via_append, nothing, List.nil_append]
  exact before

theorem Ordered.writeWhole
    (order : Ordered high low direct finished pipe piped) (package : Package) :
    Ordered high low direct (finished ++ [(.direct, package)]) pipe piped := by
  refine ⟨order.lows, order.directs, ?_⟩
  intro priority
  have before := order.fifo priority
  simpa only [via_append, via_direct, List.append_nil] using before

theorem Ordered.post
    (order : Ordered high low direct finished pipe piped) {request : Request}
    (silent : ∀ priority, pipedIn priority [request] = []) :
    Ordered high low direct finished (pipe ++ [request]) piped := by
  refine ⟨order.lows, order.directs, ?_⟩
  intro priority
  have before := order.fifo priority
  rw [pipedIn_append, silent, List.append_nil]
  exact before

private theorem pipedIn_send (priority own : Priority) (package : Package) :
    pipedIn priority [.send own package] =
      queuedIn priority [(own, package)] := by
  simp only [pipedIn, queuedIn, List.filterMap_cons, List.filterMap_nil]

theorem Ordered.postSend
    (order : Ordered high low direct finished pipe piped) (own : Priority)
    (package : Package) :
    Ordered high low direct finished (pipe ++ [.send own package])
      (piped ++ [(own, package)]) := by
  refine ⟨order.lows, order.directs, ?_⟩
  intro priority
  have before := order.fifo priority
  rw [pipedIn_append, queuedIn_append, pipedIn_send, ← List.append_assoc]
  exact before.append_right _

/-- A request is taken from the pipe and given up. -/
theorem Ordered.drop {request : Request} {rest : List Request}
    (order : Ordered high low direct finished (request :: rest) piped) :
    Ordered high low direct finished rest piped := by
  refine ⟨order.lows, order.directs, ?_⟩
  intro priority
  refine List.Sublist.trans ?_ (order.fifo priority)
  apply List.Sublist.append_left
  exact (List.sublist_cons_self request rest).filterMap _

/-- A request is taken from the pipe and its package comes last among those of
its priority. -/
theorem Ordered.accept {own : Priority} {package : Package}
    {rest : List Request}
    (order : Ordered high low direct finished (.send own package :: rest) piped)
    {higher lower : List WriteBuffer}
    (lows : ∀ wb ∈ lower, wb.route = .piped .low)
    (added : ∀ priority, via priority (entries higher ++ entries lower) =
      via priority (entries high ++ entries low) ++
        queuedIn priority [(own, package)]) :
    Ordered higher lower direct finished rest piped := by
  refine ⟨lows, order.directs, ?_⟩
  intro priority
  have before := order.fifo priority
  have head : pipedIn priority (.send own package :: rest) =
      queuedIn priority [(own, package)] ++ pipedIn priority rest := by
    rw [← pipedIn_send, ← pipedIn_append]
    rfl
  rw [List.append_assoc, via_append, head] at before
  rw [List.append_assoc, via_append, added]
  simpa only [List.append_assoc] using before

theorem via_low_only (list : List WriteBuffer)
    (lows : ∀ wb ∈ list, wb.route = .piped .low) :
    via .high (entries list) = [] := by
  induction list with
  | nil => rfl
  | cons wb rest induction =>
      have first := lows wb List.mem_cons_self
      have later := induction fun other member =>
        lows other (List.mem_cons_of_mem _ member)
      simp only [entries_cons, via, List.filterMap_cons, first]
      simpa [via] using later

end Orders

section Reports

variable {raised : List SocketEvent} {type : SocketType} {cut : Option Cut}

theorem Raised.retype (reports : Raised raised type cut) {other : SocketType}
    {later : Option Cut}
    (keeps : type = .halfcloseRead ∨ cut ≠ none →
      other = .halfcloseRead ∨ later ≠ none) :
    Raised raised other later :=
  { reports with closed := fun member => keeps (reports.closed member) }

private theorem append_eq_split {events before after : List SocketEvent}
    {event : SocketEvent}
    (split : events ++ [event] = before ++ .close :: after) :
    (∃ earlier, after = earlier ++ [event] ∧
      events = before ++ .close :: earlier) ∨
      after = [] ∧ event = .close := by
  rcases List.eq_nil_or_concat after with none | ⟨earlier, last, some⟩
  · rw [none] at split
    have both := List.append_inj_right' split rfl
    exact Or.inr ⟨none, List.head_eq_of_cons_eq both⟩
  · rw [some, List.concat_eq_append, ← List.cons_append,
      ← List.append_assoc] at split
    have first := List.append_inj_left' split rfl
    have second := List.append_inj_right' split rfl
    refine Or.inl ⟨earlier, ?_, first⟩
    rw [some, List.concat_eq_append, List.head_eq_of_cons_eq second]

theorem Raised.quiet (reports : Raised raised type cut) {event : SocketEvent}
    (opens : event ≠ .close) (empty : ∀ bytes, event ≠ .data bytes) :
    Raised (raised ++ [event]) type cut := by
  refine ⟨?_, ?_, ?_⟩
  · rw [List.count_append, List.count_singleton, if_neg (by simpa using opens)]
    exact reports.once
  · intro member
    rcases List.mem_append.mp member with old | new
    · exact reports.closed old
    · exact absurd (List.mem_singleton.mp new).symm opens
  · intro before after split bytes member
    rcases append_eq_split split with ⟨earlier, later, same⟩ | ⟨_, same⟩
    · rw [later] at member
      rcases List.mem_append.mp member with old | new
      · exact reports.silent before earlier same bytes old
      · exact empty bytes (List.mem_singleton.mp new).symm
    · exact opens same

private theorem Raised.not_closed (reports : Raised raised type cut)
    (reads : type ≠ .halfcloseRead) (uncut : cut = none) :
    .close ∉ raised := by
  intro member
  rcases reports.closed member with half | freed
  · exact reads half
  · exact freed uncut

theorem Raised.data (reports : Raised raised type cut)
    (reads : type ≠ .halfcloseRead) (uncut : cut = none)
    (bytes : List UInt8) : Raised (raised ++ [.data bytes]) type cut := by
  have unclosed := reports.not_closed reads uncut
  have absent : .close ∉ raised ++ [.data bytes] := by
    simpa using unclosed
  refine ⟨?_, fun member => absurd member absent, ?_⟩
  · rw [List.count_eq_zero_of_not_mem absent]
    exact Nat.zero_le 1
  · intro before after split
    rw [split] at absent
    simp at absent

theorem Raised.close (reports : Raised raised type cut)
    (reads : type ≠ .halfcloseRead) (uncut : cut = none) {other : SocketType}
    {later : Option Cut} (ends : other = .halfcloseRead ∨ later ≠ none) :
    Raised (raised ++ [.close]) other later := by
  have unclosed := reports.not_closed reads uncut
  refine ⟨?_, fun _ => ends, ?_⟩
  · rw [List.count_append, List.count_eq_zero_of_not_mem unclosed]
    exact Nat.le_refl 1
  · intro before after split bytes
    rcases append_eq_split split with ⟨earlier, _, same⟩ | ⟨none, _⟩
    · rw [same] at unclosed
      simp at unclosed
    · rw [none]
      exact List.not_mem_nil

end Reports

end Crynet.Skynet
