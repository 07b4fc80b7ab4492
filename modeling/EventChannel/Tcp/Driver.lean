import EventChannel.Driver
import EventChannel.Tcp.Option

/-! The calls of a channel carried out on its state. A connection that was reset reads like one that
came to its end. -/

namespace EventChannel

/-- The states of all stream channels, with the system they work on. -/
structure TcpEnv (ν : Type) where
  states : List (ChannelId × TcpState) := []
  net : ν
  /-- How many stream channels have been made. -/
  made : Nat := 0

namespace TcpEnv

variable {ν : Type}

def state? (env : TcpEnv ν) (id : ChannelId) : Option TcpState := env.states.lookup id

def setState (env : TcpEnv ν) (id : ChannelId) (t : TcpState) : TcpEnv ν :=
  { env with states := (id, t) :: env.states.filter (·.1 != id) }

/-- Forgets a channel that is gone; its sockets are closed with it. -/
def forget (system : StreamSystem ν) (env : TcpEnv ν) (id : ChannelId) : TcpEnv ν :=
  match env.state? id with
  | none => env
  | some t =>
    let held := (t.attempt?.bind (·.socket?)).toList ++ t.sockets
    { env with states := env.states.filter (·.1 != id), net := system.closeAll held env.net }

/-- Works on the state of a channel. The conditions to pass on come out with the answer. -/
def work {α : Type} (env : TcpEnv ν) (id : ChannelId) (t : TcpState)
    (f : TcpHeld ν → α × TcpHeld ν) : Driven (TcpEnv ν) α :=
  let (answer, h) := f { state := t, net := env.net }
  { answer
    env := { env with net := h.net }.setState id { h.state with forward := .none }
    raised := h.state.forward
    commands := h.commands }

end TcpEnv

namespace TcpHeld

variable {ν : Type}

/-- The socket for a transfer, once the connection stands. -/
def transferSocket (system : StreamSystem ν) (self : ChannelId) (h : TcpHeld ν) :
    Except SystemError Socket × TcpHeld ν :=
  match h.waitForConnect system self true with
  | (.error e, h) => (.error e, h)
  | (.ok (), h) =>
    match h.state.sockets.head? with
    | none => (.error notConnected, h)
    | some socket => (.ok socket, h)

def input (system : StreamSystem ν) (self : ChannelId) (room : Nat) (h : TcpHeld ν) :
    (DriverCall.input room).Answer × TcpHeld ν :=
  match h.transferSocket system self with
  | (.error e, h) => (.error ⟨e, none⟩, h)
  | (.ok socket, h) =>
    match h.call system (.receive socket room) with
    | (.ok bytes, h) => (.ok bytes, h)
    | (.error e, h) =>
      if e.errno? = some Errno.connectionReset then (.ok ⟨[], Nat.zero_le _⟩, h)
      else (.error ⟨e, none⟩, h)

def output (system : StreamSystem ν) (self : ChannelId) (bytes : Bytes) (h : TcpHeld ν) :
    (DriverCall.output bytes).Answer × TcpHeld ν :=
  match h.transferSocket system self with
  | (.error e, h) => (.error ⟨e, none⟩, h)
  | (.ok socket, h) =>
    match h.call system (.send socket bytes) with
    | (.ok n, h) => (.ok n, h)
    | (.error e, h) => (.error ⟨e, none⟩, h)

def closeHalf (system : StreamSystem ν) (d : Direction) (h : TcpHeld ν) :
    Except SystemError Unit × TcpHeld ν :=
  match h.state.clientSocket? with
  | none => (.error notConnected, h)
  | some socket => h.call system (.shutdown socket d)

/-- Switches the mode. While a connection is being made the wish is kept. -/
def setBlocking (system : StreamSystem ν) (on : Bool) (h : TcpHeld ν) :
    Except SystemError Unit × TcpHeld ν :=
  let h := h.update ({ · with nonblocking := !on })
  if h.state.connectPending then (.ok (), h.update ({ · with cachedBlocking := on }))
  else if h.state.server then (.ok (), h)
  else
    match h.state.clientSocket? with
    | none => (.ok (), h)
    | some socket => h.socketCall system (.setNonblocking socket (!on))

/-- Carries out a call of the channel. -/
def perform (system : StreamSystem ν) (self : ChannelId) :
    (call : DriverCall) → TcpHeld ν → call.Answer × TcpHeld ν
  | .attach, h => ((), h)
  | .input room, h => h.input system self room
  | .output bytes, h => h.output system self bytes
  | .seek target, h => ((DriverCall.seek target).unsupported, h)
  | .close, h => (.ok (), h.close system)
  | .closeHalf d, h => h.closeHalf system d
  | .setBlocking on, h => h.setBlocking system on
  | .setOption name value, h => h.setOption system name value
  | .getOption reverseDns name?, h => h.getOption system self reverseDns name?
  | .watch mask, h => ((), h.watch self mask)
  | .handle _, h => (h.state.optionSocket?.map Socket.descriptor, h)
  | .cut, h => ((), h.cut)
  | .splice loop, h => ((), h.splice self loop)

end TcpHeld

/-- The driver of a stream channel. A channel without a state answers as if it could do nothing. -/
def tcpDriver {ν : Type} (system : StreamSystem ν) (self : ChannelId) : Driver (TcpEnv ν) :=
  fun call env =>
    match env.state? self with
    | none => { answer := call.unsupported, env }
    | some t => env.work self t (TcpHeld.perform system self call)

end EventChannel
