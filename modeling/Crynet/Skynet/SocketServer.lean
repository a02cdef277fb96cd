import Crynet.Foundation.CallStacks
import Crynet.Skynet.SkynetHandle

/-!
# The life of one connection in the socket server

The socket thread takes requests from its pipe and events from the kernel, and
any number of threads send packages on the connection: through the pipe, or
directly when nothing else is to be written.  The lists of a socket are changed
by the socket thread without a lock, so a thread that wants to write directly
reads them one by one.  A package is told apart from others by a number.

The life begins when `new_fd` has set the socket up, so a package that is sent
while the identifier is only reserved, and is not counted, does not occur; it
ends before the slot is taken again.  UDP, bound and listening sockets and
failures of the poll are left out.
-/

namespace Crynet.Skynet

/-- A buffer handed to `socket_server_send`.  The bytes of a user object do not
begin where the object does. -/
structure Package where
  number : Nat
  data : List UInt8
  object : Bool
  deriving DecidableEq, Repr

inductive Priority where
  | high
  | low
  deriving DecidableEq, Repr

/-- How a package came to the socket, which no step reads. -/
inductive Route where
  | direct
  | piped (priority : Priority)
  deriving DecidableEq, Repr

/-- `struct write_buffer`; `ptr` is counted from where the bytes begin, and what
is before it has been written. -/
structure WriteBuffer where
  package : Package
  ptr : Nat
  route : Route
  within : ptr ≤ package.data.length
  deriving DecidableEq, Repr

namespace WriteBuffer

def sz (wb : WriteBuffer) : Nat := wb.package.data.length - wb.ptr

/-- What has been written of the buffer. -/
def sent (wb : WriteBuffer) : List UInt8 := wb.package.data.take wb.ptr

def fresh (package : Package) (route : Route) : WriteBuffer :=
  ⟨package, 0, route, Nat.zero_le _⟩

/-- The buffer after `count` more bytes. -/
def advance (wb : WriteBuffer) (count : Nat) : WriteBuffer :=
  ⟨wb.package, min (wb.ptr + count) wb.package.data.length, wb.route,
    Nat.min_le_right _ _⟩

end WriteBuffer

/-- The types of a connection's socket. -/
inductive SocketType where
  | invalid
  | connecting
  | connected
  | halfcloseRead
  | halfcloseWrite
  | paccept
  deriving DecidableEq, Repr

/-- What `socket_server_poll` reports. -/
inductive SocketEvent where
  | data (bytes : List UInt8)
  | close
  | opened
  | error
  | warning (kilobytes : Int)
  deriving DecidableEq, Repr

/-- The requests in the pipe. -/
inductive Request where
  | resume
  | pause
  | close (shutdown : Bool)
  | enableWrite
  | send (priority : Priority) (package : Package)
  deriving DecidableEq, Repr

/-- What a `write` returns: the number of bytes it took, or its error. -/
inductive WriteResult where
  | wrote (count : Nat)
  | interrupted
  | again
  | failed
  deriving DecidableEq, Repr

/-- What a `read` returns: bytes, the end of the stream, or an error. -/
inductive ReadResult where
  | bytes (first : UInt8) (rest : List UInt8)
  | eof
  | again
  | failed
  deriving DecidableEq, Repr

/-- What has been written of the first buffer. -/
def headSent (list : List WriteBuffer) : List UInt8 :=
  match list with
  | [] => []
  | wb :: _ => wb.sent

/-- When a socket frees its lists: the part of a buffer that was written, and how
many packages had been finished. -/
structure Cut where
  torn : List UInt8
  finished : Nat
  deriving DecidableEq, Repr

abbrev minReadBuffer : Nat := 64
abbrev warningSize : Int := 1048576
abbrev maxSending : Nat := 0xffff

/-- `struct socket`, the pipe, and a history that no step reads: what was
written, which packages are done with, and what was reported. -/
structure Connection where
  type : SocketType
  high : List WriteBuffer
  low : List WriteBuffer
  wbSize : Int
  warnSize : Int
  sending : Nat
  reading : Bool
  writing : Bool
  closing : Bool
  size : Nat
  dwLock : Bool
  dwBuffer : Option WriteBuffer
  pipe : List Request
  output : List UInt8
  finished : List (Route × Package)
  discarded : List Package
  submitted : List Package
  piped : List (Priority × Package)
  raised : List SocketEvent
  cut : Option Cut
  deriving DecidableEq, Repr

namespace Connection

/-- A socket as `new_fd` leaves it, with the type its caller gives it. -/
def create (type : SocketType) (reading writing : Bool) : Connection :=
  { type := type
    high := []
    low := []
    wbSize := 0
    warnSize := 0
    sending := 0
    reading := reading
    writing := writing
    closing := false
    size := minReadBuffer
    dwLock := false
    dwBuffer := none
    pipe := []
    output := []
    finished := []
    discarded := []
    submitted := []
    piped := []
    raised := []
    cut := none }

def raise (connection : Connection) (event : SocketEvent) : Connection :=
  { connection with raised := connection.raised ++ [event] }

def discard (connection : Connection) (packages : List Package) : Connection :=
  { connection with discarded := connection.discarded ++ packages }

/-- `send_buffer_empty`. -/
def sendBufferEmpty (connection : Connection) : Bool :=
  connection.high.isEmpty && connection.low.isEmpty

/-- `nomore_sending_data`. -/
def nomoreSendingData (connection : Connection) : Bool :=
  (connection.sendBufferEmpty && connection.dwBuffer.isNone &&
    connection.sending == 0) ||
  connection.type == .halfcloseWrite

/-- The first half of `force_close`, before it waits for the lock. -/
def freeLists (connection : Connection) : Connection :=
  { connection.discard
      ((connection.high ++ connection.low).map WriteBuffer.package) with
    high := []
    low := []
    cut := some ⟨headSent connection.high, connection.finished.length⟩ }

/-- The second half of `force_close`, under the lock. -/
def freeDirect (connection : Connection) : Connection :=
  { connection.discard
      (connection.dwBuffer.toList.map WriteBuffer.package) with
    type := .invalid
    dwBuffer := none }

/-- `close_read`. -/
def closeRead (connection : Connection) : Connection :=
  { connection with type := .halfcloseRead, reading := false }

/-- `close_write`, under the lock. -/
def closeWrite (connection : Connection) : Connection :=
  if connection.closing then
    connection.freeLists.freeDirect
  else
    match connection.type with
    | .halfcloseRead => connection.freeLists.freeDirect
    | .halfcloseWrite => connection
    | _ =>
        ({ connection with type := .halfcloseWrite, writing := false }).raise
          .error

/-- Bytes of a buffer are written. -/
def wrote (connection : Connection) (wb : WriteBuffer) (count : Nat) :
    Connection :=
  { connection with
    output := connection.output ++
      (wb.package.data.drop wb.ptr).take count
    wbSize := connection.wbSize - count }

def finish (connection : Connection) (wb : WriteBuffer) : Connection :=
  { connection with
    finished := connection.finished ++ [(wb.route, wb.package)] }

/-- `send_list_tcp` up to `close_write`: whether it goes on without an error,
what is left of the list, and the results of the kernel that are left.  A kernel
without further results would block. -/
def sendListTcp (connection : Connection) :
    List WriteBuffer → List WriteResult →
      Bool × List WriteBuffer × Connection × List WriteResult
  | [], kernel => (true, [], connection, kernel)
  | tmp :: rest, [] => (true, tmp :: rest, connection, [])
  | tmp :: rest, .interrupted :: kernel =>
      sendListTcp connection (tmp :: rest) kernel
  | tmp :: rest, .again :: kernel => (true, tmp :: rest, connection, kernel)
  | tmp :: rest, .failed :: kernel => (false, tmp :: rest, connection, kernel)
  | tmp :: rest, .wrote count :: kernel =>
      let sz := min count tmp.sz
      let written := connection.wrote tmp sz
      if sz ≠ tmp.sz then
        (true, tmp.advance sz :: rest, written, kernel)
      else
        sendListTcp (written.finish tmp) rest kernel

/-- `list_uncomplete` tells whether the first pointer is not that of its buffer,
which for a user object it never is. -/
def listUncomplete : List WriteBuffer → Bool
  | [] => false
  | wb :: _ => wb.ptr ≠ 0 || wb.package.object

/-- `raise_uncomplete`. -/
def raiseUncomplete (connection : Connection) : Except Fault Connection :=
  match connection.low with
  | [] => .error .dangling
  | tmp :: rest =>
      if connection.high = [] then
        .ok { connection with high := [tmp], low := rest }
      else
        .error .assertion

/-- Step 4 of `send_buffer_`: nothing is left to write. -/
def sendBufferEnd (connection : Connection) : Except Fault Connection :=
  if connection.sendBufferEmpty = true ∧ connection.wbSize = 0 then
    if connection.closing then
      .ok connection.freeLists.freeDirect
    else
      let idle := { connection with writing := false }
      if connection.warnSize > 0 then
        .ok (({ idle with warnSize := 0 }).raise (.warning 0))
      else
        .ok idle
  else
    .error .assertion

/-- `send_buffer_`, under the lock. -/
def sendBufferLocked (connection : Connection) (kernel : List WriteResult) :
    Except Fault Connection :=
  if listUncomplete connection.low then
    .error .assertion
  else
    let first := connection.sendListTcp connection.high kernel
    let connection : Connection := { first.2.2.1 with high := first.2.1 }
    if first.1 then
      if connection.high = [] then
        if connection.low = [] then
          connection.sendBufferEnd
        else
          let second := connection.sendListTcp connection.low first.2.2.2
          let connection : Connection :=
            { second.2.2.1 with low := second.2.1 }
          if second.1 then
            if listUncomplete connection.low then
              connection.raiseUncomplete
            else if connection.low = [] then
              connection.sendBufferEnd
            else
              .ok connection
          else
            .ok connection.closeWrite
      else
        .ok connection
    else
      .ok connection.closeWrite

/-- The direct write buffer goes before the head of the high list. -/
def takeDirect (connection : Connection) : Connection :=
  match connection.dwBuffer with
  | none => connection
  | some buf =>
      { connection with
        high := buf :: connection.high
        wbSize := connection.wbSize + buf.sz
        dwBuffer := none }

/-- `send_buffer`, which leaves everything when a direct write has the lock. -/
def sendBuffer (connection : Connection) (kernel : List WriteResult) :
    Except Fault Connection :=
  if connection.dwLock then .ok connection
  else connection.takeDirect.sendBufferLocked kernel

/-- `append_sendbuffer` and `append_sendbuffer_low`. -/
def appendSendbuffer (connection : Connection) (priority : Priority)
    (buf : WriteBuffer) : Connection :=
  match priority with
  | .high =>
      { connection with
        high := connection.high ++ [buf]
        wbSize := connection.wbSize + buf.sz }
  | .low =>
      { connection with
        low := connection.low ++ [buf]
        wbSize := connection.wbSize + buf.sz }

/-- The warning at the end of `send_socket`. -/
def warn (connection : Connection) : Connection :=
  if connection.wbSize ≥ warningSize ∧
      connection.wbSize ≥ connection.warnSize then
    ({ connection with
        warnSize := if connection.warnSize = 0 then warningSize * 2
          else connection.warnSize * 2 }).raise
      (.warning (if connection.wbSize % 1024 = 0 then connection.wbSize / 1024
        else connection.wbSize / 1024 + 1))
  else
    connection

/-- `send_socket`. -/
def sendSocket (connection : Connection) (priority : Priority)
    (package : Package) : Connection :=
  if connection.type = .invalid ∨ connection.type = .halfcloseWrite ∨
      connection.type = .paccept ∨ connection.closing = true then
    connection.discard [package]
  else if connection.sendBufferEmpty then
    ({ connection.appendSendbuffer .high
        (.fresh package (.piped priority)) with writing := true }).warn
  else
    (connection.appendSendbuffer priority
      (.fresh package (.piped priority))).warn

/-- `resume_socket`. -/
def resumeSocket (connection : Connection) : Connection :=
  if connection.type = .invalid ∨ connection.type = .halfcloseRead then
    connection.raise .error
  else
    let connection := { connection with reading := true }
    match connection.type with
    | .paccept => ({ connection with type := .connected }).raise .opened
    | .connected => connection.raise .opened
    | _ => connection

/-- `pause_socket`. -/
def pauseSocket (connection : Connection) : Connection :=
  if connection.type = .invalid then connection
  else { connection with reading := false }

/-- `trigger_write`. -/
def triggerWrite (connection : Connection) : Connection :=
  if connection.type = .invalid then connection
  else { connection with writing := true }

/-- `SOCKET_CLOSE`, unless the socket was shut down for reading before. -/
def raiseClose (connection : Connection) (before : SocketType) : Connection :=
  if before = .halfcloseRead then connection else connection.raise .close

end Connection

/-- The frames of the socket thread and of the threads that send. -/
inductive SocketFrame where
  | poll
  | decSending
  | closeLocked
  | external
  | sendCheck (package : Package)
  | sendHint (package : Package)
  | tryLock (package : Package)
  | readLists (package : Package)
  | readDirect (package : Package)
  | readSending (package : Package)
  | readHalfclose (package : Package)
  | readType (empty : Bool) (package : Package)
  | directWrite (package : Package)
  | requestWrite
  | unlock (package : Package)
  | lowCheck (package : Package)
  | incSending (priority : Priority) (package : Package)
  | sendRequest (priority : Priority) (package : Package)
  deriving DecidableEq, Repr

/-- What the kernel tells the socket thread, and what callers ask for. -/
inductive SocketInput where
  | command
  | readable (result : ReadResult)
  | writable (kernel : List WriteResult)
  | connectResult (succeeded : Bool)
  | failed
  | hangup
  | send (priority : Priority) (package : Package)
  | request (request : Request)
  | hint (direct : Bool)
  | wrote (result : WriteResult)
  | go
  deriving DecidableEq, Repr

namespace Connection

/-- A step of a frame: the state after it and the frames that take its place. -/
abbrev Outcome := Except Fault (Connection × List SocketFrame)

/-- `ctrl_cmd`. -/
def ctrlCmd (connection : Connection) : Outcome :=
  match connection.pipe with
  | [] => .error .disabled
  | request :: pipe =>
      let connection := { connection with pipe := pipe }
      match request with
      | .resume => .ok (connection.resumeSocket, [.poll])
      | .pause => .ok (connection.pauseSocket, [.poll])
      | .enableWrite => .ok (connection.triggerWrite, [.poll])
      | .send priority package =>
          .ok (connection.sendSocket priority package, [.decSending])
      | .close shutdown =>
          if connection.type = .invalid then
            .ok (connection, [.poll])
          else if shutdown || connection.nomoreSendingData then
            .ok (connection.freeLists.raiseClose connection.type,
              [.closeLocked])
          else
            let closing := { connection with closing := true }
            if connection.type = .halfcloseRead then .ok (closing, [.poll])
            else .ok (closing.closeRead.raise .close, [.poll])

/-- `forward_message_tcp`. -/
def forwardMessageTcp (connection : Connection) : ReadResult → Outcome
  | .failed => .ok (connection.raise .error, [.poll])
  | .again => .ok (connection, [.poll])
  | .eof =>
      if connection.closing then
        if connection.nomoreSendingData then
          .ok (connection.freeLists, [.closeLocked])
        else
          .ok (connection, [.poll])
      else
        match connection.type with
        | .halfcloseRead => .ok (connection, [.poll])
        | .halfcloseWrite =>
            .ok (connection.freeLists.raise .close, [.closeLocked])
        | _ => .ok (connection.closeRead.raise .close, [.poll])
  | .bytes first rest =>
      let n := (first :: rest).length
      if n > connection.size then
        .error .disabled
      else if connection.type = .halfcloseRead then
        .ok (connection, [.poll])
      else
        let size := if n = connection.size then connection.size * 2
          else if connection.size > minReadBuffer ∧ n * 2 < connection.size then
            connection.size / 2
          else connection.size
        .ok (({ connection with size := size }).raise (.data (first :: rest)),
          [.poll])

/-- `report_connect`. -/
def reportConnect (connection : Connection) (succeeded : Bool) : Outcome :=
  if succeeded then
    let opened := { connection with type := .connected }
    let opened := if opened.nomoreSendingData then
        { opened with writing := false }
      else opened
    .ok (opened.raise .opened, [.poll])
  else
    .ok (connection.freeLists.raise .error, [.closeLocked])

/-- One turn of the loop in `socket_server_poll`. -/
def poll (connection : Connection) : SocketInput → Outcome
  | .command => connection.ctrlCmd
  | .connectResult succeeded =>
      if connection.type = .connecting then connection.reportConnect succeeded
      else .error .disabled
  | .readable result =>
      if connection.type = .connecting ∨ connection.type = .invalid then
        .error .disabled
      else connection.forwardMessageTcp result
  | .writable kernel =>
      if connection.type = .connecting ∨ connection.type = .invalid then
        .error .disabled
      else do
        let next ← connection.sendBuffer kernel
        .ok (next, [.poll])
  | .failed =>
      if connection.type = .connecting ∨ connection.type = .invalid then
        .error .disabled
      else .ok (connection.raise .error, [.poll])
  | .hangup =>
      if connection.type = .connecting ∨ connection.type = .invalid then
        .error .disabled
      else
        .ok (connection.freeLists.raiseClose connection.type, [.closeLocked])
  | _ => .error .disabled

/-- The rest of the socket thread's work: the count of a request that was taken
from the pipe, and the end of `force_close`, which waits for the lock. -/
def controlStep (connection : Connection) : SocketFrame → Outcome
  | .decSending =>
      if connection.sending = 0 then .error .assertion
      else .ok ({ connection with sending := connection.sending - 1 }, [.poll])
  | .closeLocked =>
      if connection.dwLock then .error .disabled
      else .ok (connection.freeDirect, [.poll])
  | _ => .error .disabled

/-- The direct write of `socket_server_send`: what is not written is left to the
socket thread.  An error of the kernel is ignored. -/
def direct (connection : Connection) (package : Package)
    (result : WriteResult) : Connection × List SocketFrame :=
  let n := match result with
    | .wrote count => min count package.data.length
    | _ => 0
  let buf := (WriteBuffer.fresh package .direct).advance n
  let connection :=
    { connection with
      output := connection.output ++ package.data.take n
      dwLock := false }
  if n = package.data.length then
    (connection.finish buf, [])
  else
    ({ connection with dwBuffer := some buf }, [.requestWrite])

/-- `socket_server_send` and `socket_server_send_lowpriority`, one read or write
of the shared state at a time. -/
def senderStep (connection : Connection) :
    SocketFrame → SocketInput → Outcome
  | .sendCheck package, .go =>
      if connection.type = .invalid ∨ connection.closing = true then
        .ok (connection.discard [package], [])
      else .ok (connection, [.sendHint package])
  | .sendHint package, .hint direct =>
      if direct then .ok (connection, [.tryLock package])
      else .ok (connection, [.incSending .high package])
  | .tryLock package, .go =>
      if connection.dwLock then .ok (connection, [.incSending .high package])
      else .ok ({ connection with dwLock := true }, [.readLists package])
  | .readLists package, .go =>
      if connection.sendBufferEmpty then .ok (connection, [.readDirect package])
      else .ok (connection, [.readHalfclose package])
  | .readDirect package, .go =>
      if connection.dwBuffer.isNone then
        .ok (connection, [.readSending package])
      else .ok (connection, [.readHalfclose package])
  | .readSending package, .go =>
      if connection.sending = 0 then .ok (connection, [.readType true package])
      else .ok (connection, [.readHalfclose package])
  | .readHalfclose package, .go =>
      if connection.type = .halfcloseWrite then
        .ok (connection, [.readType false package])
      else .ok (connection, [.unlock package])
  | .readType _ package, .go =>
      if connection.type = .connected then
        .ok (connection, [.directWrite package])
      else .ok (connection, [.unlock package])
  | .directWrite package, .wrote result =>
      .ok (connection.direct package result)
  | .requestWrite, .go =>
      .ok ({ connection with pipe := connection.pipe ++ [.enableWrite] }, [])
  | .unlock package, .go =>
      .ok ({ connection with dwLock := false }, [.incSending .high package])
  | .lowCheck package, .go =>
      if connection.type = .invalid then .ok (connection.discard [package], [])
      else .ok (connection, [.incSending .low package])
  | .incSending priority package, .go =>
      if connection.sending = maxSending then .error .disabled
      else .ok ({ connection with sending := connection.sending + 1 },
        [.sendRequest priority package])
  | .sendRequest priority package, .go =>
      .ok ({ connection with
          pipe := connection.pipe ++ [.send priority package]
          piped := connection.piped ++ [(priority, package)] }, [])
  | _, _ => .error .disabled

/-- What a thread outside the socket server asks for. -/
def callStep (connection : Connection) : SocketInput → Outcome
  | .send .high package =>
      .ok ({ connection with submitted := connection.submitted ++ [package] },
        [.sendCheck package, .external])
  | .send .low package =>
      .ok ({ connection with submitted := connection.submitted ++ [package] },
        [.lowCheck package, .external])
  | .request (.send _ _) => .error .disabled
  | .request request =>
      .ok ({ connection with pipe := connection.pipe ++ [request] },
        [.external])
  | _ => .error .disabled

/-- One step of the topmost frame of a thread. -/
def act (connection : Connection) (input : SocketInput) :
    SocketFrame → Outcome
  | .poll => connection.poll input
  | .decSending => connection.controlStep .decSending
  | .closeLocked => connection.controlStep .closeLocked
  | .external => connection.callStep input
  | frame => connection.senderStep frame input

end Connection

/-- A connection with the socket thread, which is thread 0, and its senders. -/
abbrev Sockets := CallStacks.Machine Connection SocketFrame

structure SocketAction where
  thread : Nat
  input : SocketInput
  deriving DecidableEq, Repr

namespace Sockets

def start (connection : Connection) (senders : Nat) : Sockets :=
  { shared := connection
    threads := [.poll] :: List.replicate senders [.external] }

def step (sockets : Sockets) (action : SocketAction) :
    Except Fault Sockets :=
  match sockets.threads[action.thread]? with
  | some (top :: rest) => do
      let moved ← sockets.shared.act action.input top
      .ok ⟨moved.1, sockets.threads.set action.thread (moved.2 ++ rest)⟩
  | _ => .error .disabled

end Sockets

end Crynet.Skynet
