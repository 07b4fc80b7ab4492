import EventChannel.EventLoop
import EventChannel.Socket.Connect
import EventChannel.Tcp.System

/-! What the driver of a stream channel keeps: its sockets, a connection that is being made, and
what it has registered with its event loop. While a connection is being made the channel's wishes
about conditions and blocking are kept for later, because the socket may still change. -/

namespace EventChannel

/-- Who gets the connections that a server accepts. -/
inductive AcceptTarget
  | routine (id : RoutineId)
  | record (id : RecordId)
  deriving DecidableEq

/-- The state of a stream channel. -/
structure TcpState where
  /-- The event loop that descriptors are registered with. -/
  loop : LoopId
  server : Bool := false
  nonblocking : Bool := false
  /-- A connection is being made and its outcome is not known yet. -/
  connecting : Bool := false
  /-- The event loop has been asked to tell when the connection goes on. -/
  connectPending : Bool := false
  connectFailed : Bool := false
  /-- A connection goes on only when the event loop says so or somebody has to wait for it. -/
  testMode : Bool := false
  /-- The connected socket of a client, or all listening sockets of a server. -/
  sockets : List Socket := []
  attempt? : Option ConnectAttempt := none
  /-- The conditions that are passed on to the channel. -/
  interest : Interest := .none
  cachedWatch : Interest := .none
  cachedBlocking : Bool := true
  /-- Why no connection was made, until somebody asks. -/
  connectError? : Option SystemError := none
  epoch : Nat := 0
  /-- The descriptors registered with the event loop. -/
  registered : List Descriptor := []
  accept? : Option AcceptTarget := none
  /-- Conditions to be passed on once the state is free again. -/
  forward : Interest := .none
  deriving DecidableEq

namespace TcpState

/-- The socket of a client: that of the connection being made, or the connected one. -/
def clientSocket? (t : TcpState) : Option Socket :=
  (t.attempt?.bind (·.socket?)).or t.sockets.head?

/-- The socket that options are about: for a server the first that listens. -/
def optionSocket? (t : TcpState) : Option Socket :=
  if t.server then t.sockets.head? else t.clientSocket?

end TcpState

/-- The state of a stream channel at work: with the system, and with what was done to event loops
so far. -/
structure TcpHeld (ν : Type) where
  state : TcpState
  net : ν
  commands : List LoopCommand := []

namespace TcpHeld

variable {ν : Type}

def update (h : TcpHeld ν) (f : TcpState → TcpState) : TcpHeld ν := { h with state := f h.state }

def command (h : TcpHeld ν) (c : LoopCommand) : TcpHeld ν :=
  { h with commands := h.commands ++ [c] }

/-- Makes a call to the system. -/
def call (system : StreamSystem ν) (c : StreamCall) (h : TcpHeld ν) : c.Answer × TcpHeld ν :=
  let (answer, net) := system.stream c h.net
  (answer, { h with net })

/-- The same for the calls that set sockets up. -/
def socketCall (system : StreamSystem ν) (c : SocketCall) (h : TcpHeld ν) :
    c.Answer × TcpHeld ν :=
  let (answer, net) := system.answer c h.net
  (answer, { h with net })

/-- Registers a descriptor with the event loop. -/
def register (fd : Descriptor) (mask : Interest) (handler : FileHandler) (h : TcpHeld ν) :
    TcpHeld ν :=
  (h.command (.create h.state.loop fd mask handler)).update fun t =>
    { t with registered := if t.registered.contains fd then t.registered else t.registered ++ [fd] }

/-- A list without an element; the last takes its place. -/
def swapRemove (fds : List Descriptor) (fd : Descriptor) : List Descriptor :=
  match fds.idxOf? fd, fds.getLast? with
  | some i, some last => (fds.set i last).dropLast
  | _, _ => fds

/-- Takes a descriptor out of the event loop, if it is registered. -/
def unregister (fd : Descriptor) (h : TcpHeld ν) : TcpHeld ν :=
  if h.state.registered.contains fd then
    (h.update fun t => { t with registered := swapRemove t.registered fd }).command
      (.delete h.state.loop fd)
  else h

/-- Takes all descriptors out of the event loop. -/
def unregisterAll (h : TcpHeld ν) : TcpHeld ν :=
  { h with
    state := { h.state with registered := [] }
    commands := h.commands ++ h.state.registered.map (.delete h.state.loop) }

/-- Waits in the event loop for the connection to go on. -/
def registerConnect (self : ChannelId) (h : TcpHeld ν) : TcpHeld ν :=
  match h.state.clientSocket? with
  | none => h
  | some socket =>
    (h.register (Socket.descriptor socket) (.writing ∪ .trouble)
      (.connecting self h.state.epoch)).update ({ · with connectPending := true })

/-- Waits in the event loop for connections to accept, on each listening socket. -/
def registerAccept (self : ChannelId) (h : TcpHeld ν) : TcpHeld ν :=
  h.state.sockets.zipIdx.foldl (fun h (socket, index) =>
    h.register (Socket.descriptor socket) .reading (.accepting self h.state.epoch index)) h

/-- Waits for conditions of the channel. Reading is always waited for as well, because an ending
connection shows there first. A server does not wait; while a connection is being made the wish
is kept. -/
def watch (self : ChannelId) (mask : Interest) (h : TcpHeld ν) : TcpHeld ν :=
  if h.state.server then h
  else if h.state.connectPending then h.update ({ · with cachedWatch := mask })
  else
    match h.state.clientSocket? with
    | none => h
    | some socket =>
      let h := h.update ({ · with interest := mask })
      if mask.isEmpty then h.unregister (Socket.descriptor socket)
      else h.register (Socket.descriptor socket) (mask ∪ .reading) (.traffic self h.state.epoch)

/-- The connection is made, or has failed for good: the wishes kept meanwhile are carried out, and
a channel that does not block is told. -/
def finishConnect (system : StreamSystem ν) (self : ChannelId) (error? : Option SystemError)
    (h : TcpHeld ν) : TcpHeld ν :=
  let taken? := h.state.attempt?.bind (·.socket?)
  let h := h.update fun t =>
    { t with
      attempt? := none
      sockets := match taken? with
        | some socket => [socket]
        | none => t.sockets
      connecting := false }
  let h := h.watch self h.state.cachedWatch
  let h := match h.state.sockets.head? with
    | some socket => (h.socketCall system (.setNonblocking socket (!h.state.cachedBlocking))).2
    | none => h
  h.update fun t =>
    { t with
      connectFailed := t.connectFailed || error?.isSome
      connectError? := error?
      forward := if t.cachedBlocking then t.forward else t.forward ∪ .writing }

/-- The connection goes on: its socket tells how the latest try ended, and if it failed the next
one is made. -/
def continueConnect (system : StreamSystem ν) (self : ChannelId) (h : TcpHeld ν) : TcpHeld ν :=
  if !h.state.connectPending then h
  else
    let h := h.update ({ · with connectPending := false })
    let h := match h.state.clientSocket? with
      | some socket => h.unregister (Socket.descriptor socket)
      | none => h
    match h.state.attempt? with
    | none => h
    | some attempt =>
      let (attempt, net) := attempt.resume system.toSocketSystem h.net
      let h := { h with net, state := { h.state with attempt? := some attempt } }
      match attempt.outcome with
      | .pending => h.registerConnect self
      | .connected => h.finishConnect system self none
      | .failed e => h.finishConnect system self (some e)

/-- Waits for the connection, one try after the other, up to `tries` times. -/
def awaitConnect (system : StreamSystem ν) (self : ChannelId) : Nat → TcpHeld ν → TcpHeld ν
  | 0, h => h
  | tries + 1, h =>
    match h.state.clientSocket? with
    | none => h
    | some socket =>
      match h.call system (.await socket (.writing ∪ .trouble)) with
      | (.error _, h) => h
      | (.ok _, h) =>
        let h := h.continueConnect system self
        if h.state.connecting then awaitConnect system self tries h else h

/-- Looks once whether the connection goes on. -/
def probeConnect (system : StreamSystem ν) (self : ChannelId) (h : TcpHeld ν) : TcpHeld ν :=
  match h.state.clientSocket? with
  | none => h
  | some socket =>
    match h.call system (.poll socket (.writing ∪ .trouble)) with
    | (.error _, h) => h
    | (.ok ready, h) => if ready.isEmpty then h else h.continueConnect system self

/-- How many tries a connection being made may still come to. -/
def triesLeft (h : TcpHeld ν) : Nat :=
  match h.state.attempt? with
  | some attempt => attempt.untried.length + 1
  | none => 1

/-- How the connection stands. A transfer (`report`) learns of a connection that failed or is still
being made, and waits for it unless the channel does not block; any other question only looks. -/
def waitForConnect (system : StreamSystem ν) (self : ChannelId) (report : Bool) (h : TcpHeld ν) :
    Except SystemError Unit × TcpHeld ν :=
  if report && h.state.connectFailed then (.error (.number Errno.notConnected), h)
  else if !h.state.connectPending then (.ok (), h)
  else
    let waiting := report && !h.state.nonblocking
    if h.state.testMode && !waiting then (.error (.number Errno.again), h)
    else
      let h :=
        if waiting then h.awaitConnect system self h.triesLeft else h.probeConnect system self
      if report && h.state.connectPending then (.error (.number Errno.again), h)
      else if report && h.state.connectError?.isSome then (.error (.number Errno.notConnected), h)
      else (.ok (), h)

/-- Leaves the event loop. What was registered so far no longer acts. -/
def cut (h : TcpHeld ν) : TcpHeld ν :=
  h.unregisterAll.update fun t =>
    { t with
      epoch := t.epoch + 1
      connectPending := if t.connecting then false else t.connectPending }

/-- Joins an event loop. -/
def splice (self : ChannelId) (loop : LoopId) (h : TcpHeld ν) : TcpHeld ν :=
  let h := h.update ({ · with loop })
  if h.state.server then h.registerAccept self
  else if h.state.connecting then h.registerConnect self
  else h

/-- Closes all sockets and leaves the event loop. -/
def close (system : StreamSystem ν) (h : TcpHeld ν) : TcpHeld ν :=
  let h := h.unregisterAll
  let held := (h.state.attempt?.bind (·.socket?)).toList ++ h.state.sockets
  { h with
    net := system.closeAll held h.net
    state :=
      { h.state with
        epoch := h.state.epoch + 1, attempt? := none, sockets := [], accept? := none
        nonblocking := false, connecting := false, connectPending := false
        connectFailed := false, testMode := false } }

end TcpHeld

end EventChannel
