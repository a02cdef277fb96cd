import Crynet.Skynet.SocketLists

/-!
# What holds of a connection

The stream that was written is whole packages and a part of the one that is
being written; packages come out of the pipe in order and are never lost or
doubled; the count of bytes to write is right; and the connection is reported as
closed once.
-/

namespace Crynet.Skynet

open CallStacks

inductive SocketToken where
  | lock
  | control
  | sending
  | enable
  | package (package : Package)
  deriving DecidableEq, Repr

/-- What a frame holds. -/
def SocketFrame.carries : SocketFrame → List SocketToken
  | .poll | .closeLocked => [.control]
  | .decSending => [.control, .sending]
  | .sendCheck package | .sendHint package | .tryLock package
  | .lowCheck package | .incSending _ package => [.package package]
  | .readLists package | .readDirect package | .readSending package
  | .readHalfclose package | .readType _ package | .directWrite package
  | .unlock package => [.lock, .package package]
  | .sendRequest _ package => [.sending, .package package]
  | .requestWrite => [.enable]
  | .external => []

/-- The packages that came through the pipe with a priority, in order. -/
def via (priority : Priority) (list : List (Route × Package)) : List Package :=
  list.filterMap fun entry =>
    if entry.1 = .piped priority then some entry.2 else none

/-- The packages of a priority that wait in the pipe. -/
def pipedIn (priority : Priority) (pipe : List Request) : List Package :=
  pipe.filterMap fun request =>
    match request with
    | .send own package => if own = priority then some package else none
    | _ => none

/-- The packages of a priority that were put into the pipe. -/
def queuedIn (priority : Priority) (piped : List (Priority × Package)) :
    List Package :=
  piped.filterMap fun entry =>
    if entry.1 = priority then some entry.2 else none

/-- The packages in the pipe. -/
def pipePackages (pipe : List Request) : List Package :=
  pipe.filterMap fun request =>
    match request with
    | .send _ package => some package
    | _ => none

@[simp] theorem via_append (priority : Priority)
    (first second : List (Route × Package)) :
    via priority (first ++ second) =
      via priority first ++ via priority second :=
  List.filterMap_append

@[simp] theorem via_nil (priority : Priority) : via priority [] = [] := rfl

@[simp] theorem pipedIn_append (priority : Priority)
    (first second : List Request) :
    pipedIn priority (first ++ second) =
      pipedIn priority first ++ pipedIn priority second :=
  List.filterMap_append

@[simp] theorem queuedIn_append (priority : Priority)
    (first second : List (Priority × Package)) :
    queuedIn priority (first ++ second) =
      queuedIn priority first ++ queuedIn priority second :=
  List.filterMap_append

@[simp] theorem pipePackages_append (first second : List Request) :
    pipePackages (first ++ second) =
      pipePackages first ++ pipePackages second :=
  List.filterMap_append

/-- A part of a package that was given up, or nothing. -/
def Torn (discarded : List Package) (bytes : List UInt8) : Prop :=
  bytes = [] ∨ ∃ package ∈ discarded, bytes <+: package.data

theorem Torn.mono {discarded : List Package} {bytes : List UInt8}
    (torn : Torn discarded bytes) (more : List Package) :
    Torn (discarded ++ more) bytes := by
  rcases torn with none | ⟨package, member, start⟩
  · exact Or.inl none
  · exact Or.inr ⟨package, List.mem_append_left _ member, start⟩

theorem Torn.of_append {first : List Package} {bytes : List UInt8}
    (torn : Torn first bytes) (more : List Package) :
    Torn (more ++ first) bytes := by
  rcases torn with none | ⟨package, member, start⟩
  · exact Or.inl none
  · exact Or.inr ⟨package, List.mem_append_right _ member, start⟩

/-- What has been written of the package that is being written. -/
def current (high : List WriteBuffer) (direct : Option WriteBuffer) :
    List UInt8 :=
  match direct with
  | some buf => buf.sent
  | none => headSent high

/-- The part of a package that was written when the lists were freed. -/
def tornAt : Option Cut → List UInt8
  | none => []
  | some cut => cut.torn

/-- How many packages had been finished when the lists were freed. -/
def finishedAt : Option Cut → Nat
  | none => 0
  | some cut => cut.finished

/-- The bytes of the finished packages, with the part of a package that was given
up where the lists were freed. -/
def wholeBytes (cut : Option Cut) (finished : List (Route × Package)) :
    List UInt8 :=
  bytesOf (finished.take (finishedAt cut)) ++ tornAt cut ++
    bytesOf (finished.drop (finishedAt cut))

@[simp] theorem wholeBytes_none (finished : List (Route × Package)) :
    wholeBytes none finished = bytesOf finished := by
  simp [wholeBytes, finishedAt, tornAt]

theorem wholeBytes_append {cut : Option Cut}
    {finished : List (Route × Package)}
    (within : finishedAt cut ≤ finished.length)
    (more : List (Route × Package)) :
    wholeBytes cut (finished ++ more) =
      wholeBytes cut finished ++ bytesOf more := by
  rw [wholeBytes, wholeBytes, List.take_append_of_le_length within,
    List.drop_append_of_le_length within, bytesOf_append, List.append_assoc]
  simp only [List.append_assoc]

/-- The bytes on the wire: whole packages, then a part of the one that is being
written or was given up. -/
structure Stream (type : SocketType) (high low : List WriteBuffer)
    (direct : Option WriteBuffer) (output : List UInt8)
    (finished : List (Route × Package)) (discarded : List Package)
    (cut : Option Cut) : Prop where
  low : Unsent low
  tail : Unsent high.tail
  ahead : direct ≠ none → Unsent high
  live : type ≠ .invalid →
    output = wholeBytes cut finished ++ current high direct
  dead : type = .invalid → ∃ last, Torn discarded last ∧
    output = wholeBytes cut finished ++ last
  within : finishedAt cut ≤ finished.length
  torn : Torn discarded (tornAt cut)
  late : cut ≠ none →
    ∀ entry ∈ finished.drop (finishedAt cut), entry.1 = .direct

/-- Packages keep the order in which they were put into the pipe. -/
structure Ordered (high low : List WriteBuffer) (direct : Option WriteBuffer)
    (finished : List (Route × Package)) (pipe : List Request)
    (piped : List (Priority × Package)) : Prop where
  lows : ∀ wb ∈ low, wb.route = .piped .low
  directs : ∀ buf, direct = some buf → buf.route = .direct
  fifo : ∀ priority,
    (via priority (finished ++ entries high ++ entries low) ++
      pipedIn priority pipe).Sublist (queuedIn priority piped)

/-- A connection that ends, and its count of bytes until then. -/
structure Closes (type : SocketType) (cut : Option Cut)
    (high low : List WriteBuffer) (direct : Option WriteBuffer)
    (closing : Bool) (wbSize : Int) : Prop where
  invalid : type = .invalid → cut ≠ none ∧ direct = none
  lists : cut ≠ none → high = [] ∧ low = []
  closing : closing = true → type = .halfcloseRead ∨ cut ≠ none
  size : cut = none → wbSize = unwritten high + unwritten low

/-- What has been reported. -/
structure Raised (raised : List SocketEvent) (type : SocketType)
    (cut : Option Cut) : Prop where
  once : raised.count .close ≤ 1
  closed : .close ∈ raised → type = .halfcloseRead ∨ cut ≠ none
  silent : ∀ before after, raised = before ++ .close :: after →
    ∀ bytes, .data bytes ∉ after

namespace Connection

abbrev Streams (connection : Connection) : Prop :=
  Stream connection.type connection.high connection.low connection.dwBuffer
    connection.output connection.finished connection.discarded connection.cut

abbrev Orders (connection : Connection) : Prop :=
  Ordered connection.high connection.low connection.dwBuffer
    connection.finished connection.pipe connection.piped

abbrev Ends (connection : Connection) : Prop :=
  Closes connection.type connection.cut connection.high connection.low
    connection.dwBuffer connection.closing connection.wbSize

abbrev Reports (connection : Connection) : Prop :=
  Raised connection.raised connection.type connection.cut

/-- Where packages are that no frame holds. -/
def places (connection : Connection) (package : Package) : Nat :=
  (pipePackages connection.pipe).count package +
    ((connection.finished ++ entries connection.high ++
      entries connection.low).map Prod.snd).count package +
    (connection.dwBuffer.toList.map WriteBuffer.package).count package +
    connection.discarded.count package

/-- What holds of a connection by itself. -/
structure Proper (connection : Connection) : Prop where
  stream : connection.Streams
  order : connection.Orders
  ends : connection.Ends
  reports : connection.Reports

/-- What the frames of all threads hold agrees with the connection. -/
structure Counted (connection : Connection) (held : SocketToken → Nat) :
    Prop where
  lock : held .lock = if connection.dwLock then 1 else 0
  control : held .control = 1
  sending : connection.sending =
    held .sending + (pipePackages connection.pipe).length
  places : ∀ package, connection.submitted.count package =
    held (.package package) + connection.places package

/-- Nothing waits to be written outside the pipe. -/
def Idle (connection : Connection) : Prop :=
  connection.high = [] ∧ connection.low = [] ∧ connection.dwBuffer = none

/-- What waits is going to be written, unless the connection ends. -/
def Awake (connection : Connection) : Prop :=
  connection.Idle ∨ connection.writing = true ∨
    connection.type = .halfcloseWrite ∨ connection.cut ≠ none

/-- The socket thread writes, or it is going to be told to. -/
def Woken (connection : Connection) (held : SocketToken → Nat) : Prop :=
  connection.Awake ∨ .enableWrite ∈ connection.pipe ∨ 0 < held .enable

structure Balanced (connection : Connection) (held : SocketToken → Nat) :
    Prop where
  proper : connection.Proper
  woken : connection.Woken held
  counted : connection.Counted held

/-- Nothing of the buffers in the lists has been written. -/
def Untouched (connection : Connection) : Prop :=
  Unsent connection.high ∧ Unsent connection.low

/-- What a frame knows of the connection. -/
def Fits (connection : Connection) : SocketFrame → Prop
  | .poll | .decSending => connection.cut ≠ none → connection.type = .invalid
  | .closeLocked => connection.cut ≠ none ∧ connection.type ≠ .invalid
  | .readDirect _ => connection.Untouched
  | .readSending _ | .readType true _ =>
      connection.Untouched ∧ connection.dwBuffer = none
  | .readType false _ =>
      connection.type = .halfcloseWrite ∨ connection.type = .invalid
  | .directWrite _ => connection.Untouched ∧ connection.dwBuffer = none ∧
      connection.type ≠ .invalid
  | _ => True

/-- What the frames of other threads rely on. -/
structure Evolves (connection next : Connection)
    (others : SocketToken → Nat) : Prop where
  control : 0 < others .control →
    next.cut = connection.cut ∧ next.type = connection.type
  untouched : 0 < others .lock → connection.Untouched → next.Untouched
  direct : 0 < others .lock → connection.dwBuffer = none →
    next.dwBuffer = none
  valid : 0 < others .lock → connection.type ≠ .invalid →
    next.type ≠ .invalid
  halfclosed : 0 < others .lock →
    connection.type = .halfcloseWrite ∨ connection.type = .invalid →
      next.type = .halfcloseWrite ∨ next.type = .invalid

theorem Evolves.fits {connection next : Connection}
    {others : SocketToken → Nat} (evolves : Evolves connection next others)
    {frame : SocketFrame}
    (carried : ∀ token ∈ frame.carries, 0 < others token)
    (fits : connection.Fits frame) : next.Fits frame := by
  cases frame with
  | poll | decSending =>
      obtain ⟨cut, type⟩ :=
        evolves.control (carried _ (by simp [SocketFrame.carries]))
      simp only [Fits, cut, type]
      exact fits
  | closeLocked =>
      obtain ⟨cut, type⟩ :=
        evolves.control (carried _ (by simp [SocketFrame.carries]))
      simp only [Fits, cut, type]
      exact fits
  | readDirect package =>
      exact evolves.untouched (carried _ (by simp [SocketFrame.carries])) fits
  | readSending package =>
      have lock := carried .lock (by simp [SocketFrame.carries])
      exact ⟨evolves.untouched lock fits.1, evolves.direct lock fits.2⟩
  | readType empty package =>
      have lock := carried .lock (by simp [SocketFrame.carries])
      cases empty with
      | true =>
          exact ⟨evolves.untouched lock fits.1, evolves.direct lock fits.2⟩
      | false => exact evolves.halfclosed lock fits
  | directWrite package =>
      have lock := carried .lock (by simp [SocketFrame.carries])
      exact ⟨evolves.untouched lock fits.1, evolves.direct lock fits.2.1,
        evolves.valid lock fits.2.2⟩
  | _ => trivial

end Connection

end Crynet.Skynet
