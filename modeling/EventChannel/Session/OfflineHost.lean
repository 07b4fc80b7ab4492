import EventChannel.Tcp.System

/-! A stand-in for a system whose network is down. Sockets can be bound and put to listening, but no
address can be reached and nobody ever connects. Pairs of connected descriptors, which need no
network, work. A new descriptor is the lowest number that is free. -/

namespace EventChannel

/-- A socket of the host. -/
structure HostSocket where
  isV4 : Bool
  bound? : Option SocketAddress := none
  listening : Bool := false
  reusePort : Bool := false
  /-- The socket has nothing to do with the old family, not even in embedded form. -/
  v6Only : Bool := false
  keepAlive : Bool := false
  noDelay : Bool := false
  deriving DecidableEq

/-- One end of a pair: what has been sent to it, and whether the other end is gone. -/
structure PairEnd where
  peer : Descriptor
  unread : Bytes := []
  peerClosed : Bool := false
  deriving DecidableEq

/-- The host. -/
structure OfflineHost where
  sockets : List (Socket × HostSocket) := []
  pairs : List (Descriptor × PairEnd) := []
  nextPort : Port := 51800
  deriving DecidableEq

namespace OfflineHost

def socket? (host : OfflineHost) (socket : Socket) : Option HostSocket :=
  host.sockets.lookup socket

def modify (host : OfflineHost) (socket : Socket) (f : HostSocket → HostSocket) : OfflineHost :=
  { host with sockets := host.sockets.map fun (id, s) => (id, if id == socket then f s else s) }

def isOpen (host : OfflineHost) (n : Nat) : Bool :=
  host.sockets.any (·.1 == n) || host.pairs.any (·.1 == Int.ofNat n)

/-- The first number from `n` on that is not open, looking at most `tries` times. -/
def freeNumber (host : OfflineHost) : Nat → Nat → Nat
  | 0, n => n
  | tries + 1, n => if host.isOpen n then freeNumber host tries (n + 1) else n

/-- The number of the next descriptor. Three are open from the beginning. -/
def nextDescriptor (host : OfflineHost) : Nat :=
  host.freeNumber (host.sockets.length + host.pairs.length) 3

/-- The address of the old family that a socket bound to a host takes, if it takes one. The
address that stands for all of the new family takes the old one with it, unless the socket is told
not to. -/
def takenV4? (s : HostSocket) (host : HostAddress) : Option HostAddress :=
  if host.isV4 then some host
  else if host = .anyV6 then (if s.v6Only then none else some .anyV4)
  else host.embeddedV4?

/-- The address of the new family that a socket bound to a host takes, if it takes one. -/
def takenV6? (host : HostAddress) : Option HostAddress :=
  if host.isV4 || host.embeddedV4?.isSome then none else some host

/-- Whether two addresses of one family are the same or one of them stands for all. -/
def overlap : Option HostAddress → Option HostAddress → Bool
  | some a, some b => a == b || a.isWildcard || b.isWildcard
  | _, _ => false

/-- Whether two sockets cannot be bound to two addresses at one time. Sockets that both agree to it
may share an address. -/
def clash (s : HostSocket) (a : SocketAddress) (t : HostSocket) (b : SocketAddress) : Bool :=
  a.port == b.port && !(s.reusePort && t.reusePort) &&
    (overlap (takenV4? s a.host) (takenV4? t b.host) || overlap (takenV6? a.host) (takenV6? b.host))

/-- Whether an address is taken for a socket. -/
def isTaken (host : OfflineHost) (s : HostSocket) (address : SocketAddress) : Bool :=
  host.sockets.any fun (_, t) => t.bound?.any (clash s address t)

/-- The first port from `port` on that no socket is bound to, looking at most `tries` times. -/
def freePort (host : OfflineHost) : Nat → Port → Port
  | 0, port => port
  | tries + 1, port =>
    if host.sockets.any (fun (_, s) => s.bound?.any (·.port == port)) || port == 0 then
      freePort host tries (port + 1)
    else port

/-- Whether sockets can be bound to an address. While the network is down the host takes any address
of the old family for one of its own, and none of the new. -/
def isOwn (address : SocketAddress) : Bool :=
  address.isV4 || address.host.isWildcard || address.host.embeddedV4?.isSome

/-- The one network interface of the host, by which it reaches itself. -/
def loopback : Scope := 1

/-- Why a socket cannot be bound to an address, whatever is bound already. A link-local address
needs an interface. -/
def bindFault? (s : HostSocket) (address : SocketAddress) : Option SystemError :=
  let host := address.host
  let noInterface := host.isLinkLocalV6 && address.scope == 0
  if host.isGroupV6 || noInterface || (s.v6Only && host.embeddedV4?.isSome) then
    some (.number Errno.invalidArgument)
  else if host.isLinkLocalV6 && address.scope != loopback then some (.number Errno.noDevice)
  else if isOwn address then none
  else some (.number Errno.addressNotAvailable)

/-- Why a socket cannot reach an address. To an address of the new family proper there is not even
one to go from, unless the socket is bound to one. -/
def unreachable (s : HostSocket) (address : SocketAddress) : SystemError :=
  let host := address.host
  let hasSource := s.bound?.any fun bound => !bound.host.isWildcard
  if host.isLinkLocalV6 && address.scope == 0 then .number Errno.invalidArgument
  else if host.isV4 || host.embeddedV4?.isSome || host.isGroupV6 || hasSource then
    .number Errno.networkUnreachable
  else .number Errno.addressNotAvailable

def bind (host : OfflineHost) (socket : Socket) (address : SocketAddress) :
    Except SystemError Unit × OfflineHost :=
  match host.socket? socket with
  | none => (.error (.number Errno.badDescriptor), host)
  | some s =>
    match bindFault? s address with
    | some e => (.error e, host)
    | none =>
      let address := address.plain
      if address.port == 0 then
        let port := host.freePort host.sockets.length.succ host.nextPort
        (.ok (), { host.modify socket ({ · with bound? := some (address.withPort port) }) with
          nextPort := port + 1 })
      else if host.isTaken s address then (.error (.number Errno.addressInUse), host)
      else (.ok (), host.modify socket ({ · with bound? := some address }))

/-- The address of a socket; one that is not bound has none of its own. -/
def localAddress (host : OfflineHost) (socket : Socket) : Except SystemError SocketAddress :=
  match host.socket? socket with
  | none => .error (.number Errno.badDescriptor)
  | some s =>
    let unbound := if s.isV4 then HostAddress.anyV4 else .anyV6
    .ok (s.bound?.getD { host := unbound, port := 0 })

def answer : (call : SocketCall) → OfflineHost → call.Answer × OfflineHost
  | .create address, host =>
    (.ok host.nextDescriptor,
      { host with
        sockets := host.sockets ++ [(host.nextDescriptor, { isV4 := address.isV4 })] })
  | .minimumBuffers _ _, host => ((), host)
  | .setNonblocking _ _, host => (.ok (), host)
  | .setReuseAddress _ _, host => (.ok (), host)
  | .setReusePort socket on, host => (.ok (), host.modify socket ({ · with reusePort := on }))
  | .setV6Only socket on, host => (.ok (), host.modify socket ({ · with v6Only := on }))
  | .bind socket address, host => host.bind socket address
  | .connect socket address, host =>
    (.error (match host.socket? socket with
      | some s => unreachable s address
      | none => .number Errno.badDescriptor), host)
  | .takeError _, host => (.ok none, host)
  | .listen socket _, host => (.ok (), host.modify socket ({ · with listening := true }))
  | .localAddress socket, host => (host.localAddress socket, host)
  | .close socket, host => ((), { host with sockets := host.sockets.filter (·.1 != socket) })

def notConnected : SystemError := .number Errno.notConnected

/-- Ends one direction of a socket, which on a listening one means that it takes no more
connections, or nothing. -/
def shutdown (host : OfflineHost) (socket : Socket) (d : Direction) :
    Except SystemError Unit × OfflineHost :=
  if (host.socket? socket).any (·.listening) then
    match d with
    | .read => (.ok (), host.modify socket ({ · with listening := false }))
    | .write => (.ok (), host)
  else (.error notConnected, host)

def stream : (call : StreamCall) → OfflineHost → call.Answer × OfflineHost
  | .accept _, host => (.error .wouldBlock, host)
  | .receive _ _, host => (.error notConnected, host)
  | .send _ _, host => (.error (.number Errno.brokenPipe), host)
  | .peek _, host => (.error notConnected, host)
  | .shutdown socket d, host => host.shutdown socket d
  | .peerAddress _, host => (.error notConnected, host)
  | .keepAlive socket, host => (.ok ((host.socket? socket).any (·.keepAlive)), host)
  | .setKeepAlive socket on, host => (.ok (), host.modify socket ({ · with keepAlive := on }))
  | .noDelay socket, host => (.ok ((host.socket? socket).any (·.noDelay)), host)
  | .setNoDelay socket on, host => (.ok (), host.modify socket ({ · with noDelay := on }))
  | .poll _ _, host => (.ok .none, host)
  | .await _ _, host => (.error (.bare .timedOut), host)
  | .hostName address, host =>
    (if address.host = .v4 127 0 0 1 then some "localhost" else none, host)

/-- The host as a system of streams. -/
def system : StreamSystem OfflineHost where
  answer := answer
  stream := stream

/-- A pair of connected descriptors. -/
def pair (host : OfflineHost) : (Descriptor × Descriptor) × OfflineHost :=
  let first := host.nextDescriptor
  let second := host.freeNumber (host.sockets.length + host.pairs.length) (first + 1)
  let a := Int.ofNat first
  let b := Int.ofNat second
  ((a, b), { host with pairs := host.pairs ++ [(a, { peer := b }), (b, { peer := a })] })

def pairEnd? (host : OfflineHost) (fd : Descriptor) : Option PairEnd := host.pairs.lookup fd

def modifyEnd (host : OfflineHost) (fd : Descriptor) (f : PairEnd → PairEnd) : OfflineHost :=
  { host with pairs := host.pairs.map fun (id, e) => (id, if id == fd then f e else e) }

/-- Sends bytes to the other end of a pair. -/
def writePair (host : OfflineHost) (fd : Descriptor) (bytes : Bytes) :
    Except SystemError Nat × OfflineHost :=
  match host.pairEnd? fd with
  | none => (.error (.number Errno.badDescriptor), host)
  | some e =>
    if e.peerClosed then (.error (.number Errno.brokenPipe), host)
    else (.ok bytes.length, host.modifyEnd e.peer fun p => { p with unread := p.unread ++ bytes })

/-- Takes what is there; nothing means the end of the stream. -/
def readPair (host : OfflineHost) (fd : Descriptor) (n : Nat) :
    Except SystemError Bytes × OfflineHost :=
  match host.pairEnd? fd with
  | none => (.error (.number Errno.badDescriptor), host)
  | some e =>
    if e.unread.isEmpty && !e.peerClosed then (.error .wouldBlock, host)
    else (.ok (e.unread.take n), host.modifyEnd fd fun e => { e with unread := e.unread.drop n })

def closePair (host : OfflineHost) (fd : Descriptor) : OfflineHost :=
  match host.pairEnd? fd with
  | none => host
  | some e =>
    let host := { host with pairs := host.pairs.filter (·.1 != fd) }
    host.modifyEnd e.peer ({ · with peerClosed := true })

/-- The conditions that a descriptor is in. A listening socket is never ready; one that does not
listen has come to its end, which shows in both directions. -/
def ready (host : OfflineHost) (fd : Descriptor) : Interest :=
  match host.pairEnd? fd with
  | some e => { readable := !e.unread.isEmpty || e.peerClosed, writable := true }
  | none =>
    match host.sockets.find? (Socket.descriptor ·.1 == fd) with
    | some (_, s) => { readable := !s.listening, writable := !s.listening }
    | none => .none

end OfflineHost

end EventChannel
