import EventChannel.Session.Scene

/-! What the commands on transports, stream channels and raw sockets come to. -/

namespace EventChannel.Session

/-- The name of the host that a session runs on. -/
def hostName : String := "unit.example.org"

def createTransport (name : String) (r : TransportRequest) : Program Scene Reply :=
  withFound (·.loops.meaning? r.loop) .loop fun loop => do
    let transport : Transport := { loop, names := r.names?.getD [], testMode := r.testMode }
    alter fun s => { s with transports := s.transports.put name transport }
    return if r.names?.isSome then .text hostName else .done

/-- The names of the sockets of a channel: its own, and numbered ones for the others. -/
def socketNames (name : String) (sockets : List Socket) : Names Descriptor :=
  sockets.zipIdx.map fun (socket, i) =>
    (if i = 0 then name else name ++ "#" ++ toString i, Socket.descriptor socket)

/-- Enters a stream channel under a name, with its sockets and its port. -/
def enterStream (name : String) (id : ChannelId) : Program Scene Unit := do
  let own := (← Program.look id).name
  alter fun s =>
    let sockets := match s.tcp.state? id with
      | some t => (t.attempt?.bind (·.socket?)).toList ++ t.sockets
      | none => []
    let s :=
      { s with
        channels := s.channels.put name id
        streams := s.streams.put own name
        descriptors := (socketNames name sockets).foldl (fun all (name, fd) => all.add name fd)
          s.descriptors }
    match (sockets.head?.map fun socket => s.tcp.net.localAddress socket) with
    | some (.ok address) => { s with ports := s.ports.add name address.port }
    | _ => s

/-- What the opening of a stream channel is answered with. -/
def answerStream (name : String) (opened : Except Report ChannelId) : Program Scene Reply := do
  match opened with
  | .error r => return .report r
  | .ok id => do
    enterStream name id
    return .stream

def ServerRequest.plan (r : ServerRequest) (s : Scene) : ServerPlan where
  service := s.serviceText r.service
  host? := r.host?
  options := r.options

def ClientRequest.plan (r : ClientRequest) (s : Scene) : ClientPlan where
  host := r.host
  port := s.portNumber r.port
  localHost? := r.localHost?
  localPort := s.portNumber r.localPort
  async := r.async

/-- Opens a stream channel. -/
def StreamRequest.perform (name : String) (transport : Transport) :
    StreamRequest Command → Program Scene Reply
  | .server request accepted => do
    let r ← enrol accepted none true
    let plan ← ask request.plan
    answerStream name (← Scene.site.openServer transport plan (.routine r))
  | .client request => do
    let plan ← ask request.plan
    answerStream name (← Scene.site.openClient transport plan)
  | .script interp request service? localPort? accepted? =>
    withInterp interp fun i => do
      let script? ← match accepted? with
        | some (routine, failure?) => do pure (some (← enrol routine failure? true))
        | none => pure none
      let port := fun (name : String) => ask (·.serviceText (.of name))
      let service ← match service? with
        | some name => port name
        | none => pure request.service
      let localPort? ← match localPort? with
        | some name => do pure (some (← port name))
        | none => pure request.localPort?
      answerStream name
        (← Scene.site.openSocket transport i { request with service, localPort? } script?)
  | .adopt raw mode =>
    withFound (·.rawSocket? false raw) .rawSocket fun socket => do
      alter fun s => { s with rawSockets := s.rawSockets.forget raw }
      answerStream name (.ok (← Scene.site.adopt transport.loop socket mode))

/-- Whether a socket gets into one of some conditions. The host keeps nobody waiting. -/
def awaitSocket (name : String) (mask : Interest) : Program Scene Reply :=
  let find := fun (s : Scene) =>
    (s.descriptors.meaning? name).or ((s.rawSockets.meaning? name).map (·.socket.descriptor))
  withFound find .socket fun fd =>
    return .truth ((← ask fun s => s.tcp.net.ready fd).meets mask)

/-- Makes a socket call of which only failure matters. -/
def attempt {α : Type} (f : OfflineHost → Except SystemError α × OfflineHost) :
    ExceptT SystemError (Program Scene) α :=
  ExceptT.mk (Scene.site.onNet f)

/-- Opens a raw socket, prepares it and enters it; one that cannot be prepared is closed. So is an
earlier one of that name. -/
def createRaw (name : String) (listens : Bool) (address : SocketAddress)
    (prepare : Socket → ExceptT SystemError (Program Scene) Unit) : Program Scene Reply := do
  match ← Scene.site.onNet (Scene.site.system.answer (.create address)) with
  | .error e => return .failure e
  | .ok socket =>
    match ← (prepare socket).run with
    | .error e => do
      Scene.site.onNet (Scene.site.system.answer (.close socket))
      return .failure e
    | .ok () => do
      let earlier? ← ask (·.rawSockets.meaning? name)
      alter fun s =>
        let s := { s with rawSockets := s.rawSockets.put name { socket, listens } }
        match s.tcp.net.localAddress socket with
        | .ok own => { s with ports := s.ports.add name own.port }
        | .error _ => s
      if let some earlier := earlier? then
        Scene.site.onNet (Scene.site.system.answer (.close earlier.socket))
      return .done

/-- The address that a text gives for a host; the loopback address where it gives none. -/
def rawAddress (host : String) (port : Port) : SocketAddress :=
  { host := (HostAddress.ofText? host).getD (.v4 127 0 0 1), port }

/-- Makes a call on a raw socket that listens, or on one that does not. -/
def callRaw (listens : Bool) (name : String) (f : Socket → Program Scene Reply) :
    Program Scene Reply :=
  withFound (·.rawSocket? listens name) .rawSocket f

/-- Sends bytes through a raw socket; answers how many. -/
def sendRaw (socket : Socket) (bytes : Bytes) : Program Scene Reply := do
  match ← Scene.site.onNet (Scene.site.system.stream (.send socket bytes)) with
  | .error e => return .failure e
  | .ok n => return .number n.1

/-- Carries out a command on a raw socket. -/
def RawAction.perform (name : String) : RawAction → Program Scene Reply
  | .listen host backlog =>
    let address := rawAddress host 0
    createRaw name true address fun socket => do
      attempt (Scene.site.system.answer (.bind socket address))
      attempt (Scene.site.system.answer (.listen socket backlog))
  | .accept listener =>
    callRaw true listener fun socket => do
      match ← Scene.site.onNet (Scene.site.system.stream (.accept socket)) with
      | .error e => return .failure e
      | .ok (accepted, _) => do
        alter fun s =>
          { s with rawSockets := s.rawSockets.put name { socket := accepted, listens := false } }
        return .done
  | .connect host port => do
    let address := rawAddress host (← ask (·.portNumber port))
    createRaw name false address fun socket =>
      attempt (Scene.site.system.answer (.connect socket address))
  | .send bytes => callRaw false name fun socket => sendRaw socket bytes
  | .sendUrgent bytes => do
    match ← ask (·.rawSocket? false name) with
    | none => return .nothing
    | some socket => sendRaw socket bytes
  | .receive n =>
    callRaw false name fun socket => do
      match ← Scene.site.onNet (Scene.site.system.stream (.receive socket n)) with
      | .error e => return .failure e
      | .ok bytes => return .bytes bytes.1
  | .close => do
    match ← ask (·.rawSockets.meaning? name) with
    | none => return .text "none"
    | some raw => do
      alter fun s => { s with rawSockets := s.rawSockets.forget name }
      Scene.site.onNet (Scene.site.system.answer (.close raw.socket))
      return .done

end EventChannel.Session
