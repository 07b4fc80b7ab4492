import EventChannel.Program.Interp
import EventChannel.Socket.Listen
import EventChannel.Tcp.Driver

/-! How stream channels come into being, by connecting, by accepting or from a socket that is there
already, and what their handlers do when the event loop calls them. -/

namespace EventChannel

/-- Where the stream channels have their place in an environment. -/
structure TcpSite (σ ν : Type) where
  system : StreamSystem ν
  get : σ → TcpEnv ν
  set : TcpEnv ν → σ → σ
  /-- Told of each thing that is done to an event loop. -/
  note : LoopCommand → σ → σ

/-- How stream channels are opened: in which event loop, and with which names for hosts. -/
structure Transport where
  loop : LoopId
  names : NameService.Table := []
  testMode : Bool := false

/-- The name of the channel made after so many others. -/
def streamName (made : Nat) : String := "sock" ++ hexText (0x7f5a00000000 + 64 * made)

namespace TcpSite

variable {σ ν α : Type}

def noteAll (site : TcpSite σ ν) (commands : List LoopCommand) (env : σ) : σ :=
  commands.foldl (fun env c => site.note c env) env

/-- The driver of a stream channel, in its place. -/
def driver (site : TcpSite σ ν) (self : ChannelId) : Driver σ := fun call env =>
  let driven := tcpDriver site.system self call (site.get env)
  { answer := driven.answer
    env := site.noteAll driven.commands (site.set driven.env env)
    raised := driven.raised
    commands := driven.commands }

/-- Works with the system alone. -/
def onNet (site : TcpSite σ ν) (f : ν → α × ν) : Program σ α :=
  .act <| .env fun env =>
    let tcp := site.get env
    let (a, net) := f tcp.net
    (a, site.set { tcp with net } env)

def runCommands : List LoopCommand → Program σ Unit
  | [] => .done ()
  | c :: rest => .step (.command c) fun _ => runCommands rest

/-- Works on the state of a channel outside its own operations. What it does to event loops is done
next, then the conditions to pass on are passed on. Nothing happens if the state is gone. -/
def work (site : TcpSite σ ν) (self : ChannelId) (f : TcpHeld ν → α × TcpHeld ν) :
    Program σ (Option α) := do
  let worked ← Program.act <| .env fun env =>
    match (site.get env).state? self with
    | none => (none, env)
    | some t =>
      let driven := (site.get env).work self t f
      (some (driven.answer, driven.raised, driven.commands),
        site.noteAll driven.commands (site.set driven.env env))
  match worked with
  | none => return none
  | some (answer, raised, commands) =>
    runCommands commands
    if !raised.isEmpty then Program.notifyFromDriver self raised
    return some answer

/-- Makes a stream channel with a state. -/
def newChannel (site : TcpSite σ ν) (mode : Mode) (t : TcpState)
    (prepare : ChannelId → TcpHeld ν → TcpHeld ν) : Program σ ChannelId := do
  let made ← Program.act <| .env fun env => ((site.get env).made, env)
  let self ← Program.act (.open { name := streamName made, type := "tcp", mode })
  Program.act <| .env fun env =>
    ((), site.set { (site.get env).setState self t with made := made + 1 } env)
  let _ ← site.work self fun h => ((), prepare self h)
  return self

/-- A channel for a socket that is connected already. -/
def adopt (site : TcpSite σ ν) (loop : LoopId) (socket : Socket) (mode : Mode) :
    Program σ ChannelId := do
  site.onNet (site.system.answer (.minimumBuffers socket minimumBufferSize))
  site.newChannel mode { loop, sockets := [socket] } fun _ h => h

/-- The conditions of the channel that the readiness of its descriptor means. If it waits for none
of them, the other end may be gone; then a write would show it. -/
def trafficMask (system : StreamSystem ν) (epoch : Nat) (ready : Interest) (h : TcpHeld ν) :
    Interest × TcpHeld ν :=
  if h.state.epoch ≠ epoch then (.none, h)
  else if ready.meets h.state.interest then (ready ∩ h.state.interest, h)
  else
    match h.state.clientSocket? with
    | none => (.none, h)
    | some socket =>
      match h.call system (.peek socket) with
      | (.ok true, h) => (.none, h)
      | (.ok false, h) => (.writing, h)
      | (.error e, h) => (if e.isWouldBlock then .none else .writing, h)

/-- A connection taken from a listening socket: its socket and peer, with the event loop and the
target of the server. -/
structure Accepted where
  socket : Socket
  peer : SocketAddress
  loop : LoopId
  target? : Option AcceptTarget

def takeConnection (system : StreamSystem ν) (epoch index : Nat) (h : TcpHeld ν) :
    Option Accepted × TcpHeld ν :=
  if h.state.epoch ≠ epoch then (none, h)
  else
    match h.state.sockets[index]? with
    | none => (none, h)
    | some listener =>
      match h.call system (.accept listener) with
      | (.error _, h) => (none, h)
      | (.ok (socket, peer), h) =>
        (some { socket, peer, loop := h.state.loop, target? := h.state.accept? }, h)

/-- Makes a channel of a new connection and hands it to whom the server names. -/
def welcome (site : TcpSite σ ν) (a : Accepted) : Program σ Unit := do
  let _ ← site.onNet (site.system.answer (.setNonblocking a.socket false))
  let channel ← site.adopt a.loop a.socket .both
  match a.target? with
  | none =>
    let _ ← Program.close channel
  | some (.routine r) =>
    Program.referring (.channel channel)
      (Program.invoke (.user (.arrival r channel a.peer.host.text a.peer.port)))
  | some (.record record) =>
    Program.referring (.record record)
      (Program.accept record channel a.peer.host.text a.peer.port)

/-- What the handlers of stream channels do. -/
def fire (site : TcpSite σ ν) : FileHandler → Interest → Program σ Unit
  | .routine _, _ => .done ()
  | .connecting self epoch, _ => do
    let _ ← site.work self fun h =>
      ((), if h.state.epoch = epoch then h.continueConnect site.system self else h)
  | .traffic self epoch, ready => do
    match ← site.work self (trafficMask site.system epoch ready) with
    | some mask => if !mask.isEmpty then Program.notifyFromDriver self mask
    | none => return ()
  | .accepting self epoch index, _ => do
    match ← site.work self (takeConnection site.system epoch index) with
    | some (some accepted) => site.welcome accepted
    | _ => return ()

/-- A channel for an attempt to connect that has been started. -/
def channelOfAttempt (site : TcpSite σ ν) (transport : Transport) (attempt : ConnectAttempt) :
    Program σ (Except Report ChannelId) := do
  let fresh : TcpState := { loop := transport.loop, testMode := transport.testMode }
  match attempt.outcome with
  | .failed e =>
    site.onNet fun net => ((), attempt.dropSocket site.system.toSocketSystem net)
    return .error (openReport e)
  | .pending =>
    return .ok (← site.newChannel .both { fresh with connecting := true, attempt? := some attempt }
      fun self h => h.registerConnect self)
  | .connected =>
    match attempt.socket? with
    | none => return .error (openReport (.number Errno.notConnected))
    | some socket =>
      match ← site.onNet (site.system.answer (.setNonblocking socket false)) with
      | .error e =>
        site.onNet (site.system.answer (.close socket))
        return .error (openReport e)
      | .ok () =>
        return .ok (← site.newChannel .both { fresh with sockets := [socket] } fun _ h => h)

/-- Connects to a host. -/
def openClient (site : TcpSite σ ν) (transport : Transport) (plan : ClientPlan) :
    Program σ (Except Report ChannelId) := do
  match (ConnectAttempt.resolve (NameService.ofTable transport.names) plan ()).1 with
  | .error r => return .error r
  | .ok attempt =>
    let attempt ← site.onNet (attempt.start site.system.toSocketSystem)
    site.channelOfAttempt transport attempt

/-- Listens for connections. -/
def openServer (site : TcpSite σ ν) (transport : Transport) (plan : ServerPlan)
    (target : AcceptTarget) : Program σ (Except Report ChannelId) := do
  match (resolve (NameService.ofTable transport.names) plan.host? plan.service .listen ()).1 with
  | .error r => return .error r
  | .ok candidates =>
    match ← site.onNet (openListeners site.system.toSocketSystem candidates plan.options) with
    | .error r => return .error r
    | .ok listeners =>
      let t : TcpState :=
        { loop := transport.loop, server := true, sockets := listeners.map (·.socket)
          accept? := some target }
      return .ok (← site.newChannel .none t fun self h => h.registerAccept self)

/-- Opens the channel of a sound request. A server hands its connections to a script until it is
closed. -/
def openPlanned (site : TcpSite σ ν) (transport : Transport) (interp : InterpId)
    (script? : Option RoutineId) : SocketPlan → Program σ (Except Report ChannelId)
  | .client plan => site.openClient transport plan
  | .server plan =>
    match script? with
    | none => .done (.error RequestFault.missingServerCommand.report)
    | some script => do
      let record ← Program.act (.newRecord interp script)
      match ← site.openServer transport plan (.record record) with
      | .error r => return .error r
      | .ok channel =>
        Program.act (.addCloseAction channel (.detach record))
        return .ok channel

/-- Opens a channel as a script asks for it and enters it into the table of its interpreter. -/
def openSocket (site : TcpSite σ ν) (transport : Transport) (interp : InterpId)
    (request : SocketRequest) (script? : Option RoutineId) :
    Program σ (Except Report ChannelId) := do
  match request.validate with
  | .error fault => return .error fault.report
  | .ok plan =>
    match ← site.openPlanned transport interp script? plan with
    | .error r => return .error r
    | .ok channel =>
      Program.register interp channel
      return .ok channel

end TcpSite

end EventChannel
