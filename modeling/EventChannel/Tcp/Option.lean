import EventChannel.Option
import EventChannel.Tcp.State

/-! The addresses of both ends, how a connection stands, and two switches of the socket. Values are
asked of the socket each time; only why a connection failed is kept, and told once. -/

namespace EventChannel

/-- The options that can be read. -/
def readableTcpOptions : List String :=
  ["error", "connecting", "peername", "sockname", "keepalive", "nodelay"]

/-- The readable options that an unknown one is answered with. -/
def shownTcpOptions : List String := ["connecting", "keepalive", "nodelay", "peername", "sockname"]

/-- The options that can be set. -/
def settableTcpOptions : List String := ["keepalive", "nodelay"]

namespace TcpHeld

variable {ν : Type}

def setOptionReport (e : SystemError) : Report :=
  .ofSystem "conduit.transport.tcp.set_option_failed" "couldn't set socket option" e

def getOptionReport (e : SystemError) : Report :=
  .ofSystem "conduit.transport.tcp.get_option_failed" "couldn't get socket option" e

def peerNameReport (e : SystemError) : Report :=
  .ofSystem "conduit.transport.tcp.peername_failed" "can't get peername" e

def sockNameReport (e : SystemError) : Report :=
  .ofSystem "conduit.transport.tcp.sockname_failed" "can't get sockname" e

def notConnected : SystemError := .number Errno.notConnected

/-- An address as three texts: the number, the name of the host if it is wanted and known, and the
port. Addresses that stand for all others have no name. -/
def addressTriple (system : StreamSystem ν) (reverseDns : Bool) (address : SocketAddress)
    (h : TcpHeld ν) : List String × TcpHeld ν :=
  let numeric := address.host.text
  let port := toString address.port.toNat
  if address.host.isWildcard || !reverseDns then ([numeric, numeric, port], h)
  else
    let (name?, h) := h.call system (.hostName address)
    ([numeric, name?.getD numeric, port], h)

/-- The address of the other end. -/
def peerTriple (system : StreamSystem ν) (reverseDns : Bool) (h : TcpHeld ν) :
    Except Report OptionValue × TcpHeld ν :=
  match if h.state.server then none else h.state.clientSocket? with
  | none => (.error (peerNameReport notConnected), h)
  | some socket =>
    match h.call system (.peerAddress socket) with
    | (.error e, h) => (.error (peerNameReport e), h)
    | (.ok peer, h) =>
      let (triple, h) := h.addressTriple system reverseDns peer
      (.ok (.list triple), h)

/-- The triples of those sockets that have an address, and the latest failure. -/
def sockTriples (system : StreamSystem ν) (reverseDns : Bool) :
    List Socket → List String → Option SystemError → TcpHeld ν →
    List String × Option SystemError × TcpHeld ν
  | [], values, error?, h => (values, error?, h)
  | socket :: rest, values, error?, h =>
    match h.socketCall system (.localAddress socket) with
    | (.error e, h) => sockTriples system reverseDns rest values (some e) h
    | (.ok address, h) =>
      let (triple, h) := h.addressTriple system reverseDns address
      sockTriples system reverseDns rest (values ++ triple) error? h

/-- The addresses of this end: one, or all that a server listens on. -/
def sockName (system : StreamSystem ν) (reverseDns : Bool) (h : TcpHeld ν) :
    Except Report OptionValue × TcpHeld ν :=
  if h.state.connecting then (.ok .empty, h)
  else
    let sockets := if h.state.server then h.state.sockets else h.state.clientSocket?.toList
    let (values, error?, h) := sockTriples system reverseDns sockets [] none h
    if values.isEmpty then (.error (sockNameReport (error?.getD notConnected)), h)
    else (.ok (.list values), h)

/-- Why no connection was made, told once; after that the error that the socket itself has. -/
def errorValue (system : StreamSystem ν) (h : TcpHeld ν) : OptionValue × TcpHeld ν :=
  if h.state.connecting then (.empty, h)
  else
    match h.state.connectError? with
    | some e => (.text e.message, h.update ({ · with connectError? := none }))
    | none =>
      match h.state.clientSocket? with
      | none => (.empty, h)
      | some socket =>
        match h.socketCall system (.takeError socket) with
        | (.ok (some e), h) => (.text e.message, h)
        | (.ok none, h) => (.empty, h)
        | (.error e, h) => (.text e.message, h)

/-- The state of a switch of the socket; `query` asks for it. -/
def switch (query : Socket → TcpHeld ν → Except SystemError Bool × TcpHeld ν) (h : TcpHeld ν) :
    Except Report Bool × TcpHeld ν :=
  match h.state.optionSocket? with
  | none => (.error (getOptionReport notConnected), h)
  | some socket =>
    let (answer, h) := query socket h
    (answer.mapError getOptionReport, h)

def keepAlive (system : StreamSystem ν) (h : TcpHeld ν) : Except Report Bool × TcpHeld ν :=
  h.switch fun socket h => h.call system (.keepAlive socket)

def noDelay (system : StreamSystem ν) (h : TcpHeld ν) : Except Report Bool × TcpHeld ν :=
  h.switch fun socket h => h.call system (.noDelay socket)

/-- All options that are listed. A server has no other end; a switch that cannot be read counts as
off. -/
def allOptions (system : StreamSystem ν) (reverseDns : Bool) (h : TcpHeld ν) :
    Except Report OptionListing × TcpHeld ν :=
  let (peer, h) :=
    if h.state.connecting then (.ok .empty, h) else h.peerTriple system reverseDns
  let peerEntry : OptionListing := match peer with
    | .ok value => [("-peername", value)]
    | .error _ => []
  match h.sockName system reverseDns with
  | (.error r, h) => (.error r, h)
  | (.ok value, h) =>
    let (alive, h) := h.keepAlive system
    let (direct, h) := h.noDelay system
    let flag := fun (answer : Except Report Bool) => OptionValue.flag (answer.toOption.getD false)
    (.ok (peerEntry ++
      [("-sockname", value), ("-keepalive", flag alive), ("-nodelay", flag direct)]), h)

/-- The value of one option. -/
def optionValue (system : StreamSystem ν) (reverseDns : Bool) (option : String) (h : TcpHeld ν) :
    Except Report OptionValue × TcpHeld ν :=
  match option with
  | "error" =>
    let (value, h) := h.errorValue system
    (.ok value, h)
  | "connecting" => (.ok (.flag h.state.connecting), h)
  | "peername" => if h.state.connecting then (.ok .empty, h) else h.peerTriple system reverseDns
  | "sockname" => h.sockName system reverseDns
  | "keepalive" =>
    let (on, h) := h.keepAlive system
    (on.map .flag, h)
  | _ =>
    let (on, h) := h.noDelay system
    (on.map .flag, h)

/-- Reads one option, or all. Before that it is looked whether a connection goes on. -/
def getOption (system : StreamSystem ν) (self : ChannelId) (reverseDns : Bool)
    (name? : Option String) (h : TcpHeld ν) : Except Report OptionListing × TcpHeld ν :=
  match name? with
  | none => ((h.waitForConnect system self false).2).allOptions system reverseDns
  | some name =>
    match matchOption name readableTcpOptions with
    | none => (.error (.ofMisuse (.badOption name shownTcpOptions)), h)
    | some option =>
      match ((h.waitForConnect system self false).2).optionValue system reverseDns option with
      | (.error r, h) => (.error r, h)
      | (.ok value, h) => (.ok [("-" ++ option, value)], h)

def setOption (system : StreamSystem ν) (name value : String) (h : TcpHeld ν) :
    Except Report Unit × TcpHeld ν :=
  match matchOption name settableTcpOptions with
  | none => (.error (.ofMisuse (.badOption name settableTcpOptions)), h)
  | some option =>
    match parseBoolean value with
    | .error m => (.error (.ofMisuse m), h)
    | .ok on =>
      match h.state.optionSocket? with
      | none => (.error (setOptionReport notConnected), h)
      | some socket =>
        let (answer, h) :=
          if option = "keepalive" then h.call system (.setKeepAlive socket on)
          else h.call system (.setNoDelay socket on)
        (answer.mapError setOptionReport, h)

end TcpHeld

end EventChannel
