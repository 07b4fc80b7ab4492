import EventChannel.Request
import EventChannel.Socket.Connect

/-! A server listens on each of its candidate addresses that it can. If it left the port to the
system, the first socket that is bound chooses it for all; when that port turns out to be taken for
a later candidate, everything is taken down and opened again, up to ten times. -/

namespace EventChannel

/-- A listening socket and the address it listens on. -/
structure Listener where
  socket : Socket
  address : SocketAddress
  deriving DecidableEq

/-- How far a candidate came before it failed. -/
inductive ListenStage
  | create | bind | listen
  deriving DecidableEq

def ListenStage.rank : ListenStage → Nat
  | create => 0
  | bind => 1
  | listen => 2

/-- A failure of a candidate and how far it came. -/
structure ListenFailure where
  stage : ListenStage
  error : SystemError
  deriving DecidableEq

/-- The failure to report after another one: the earliest of those that came farthest. -/
def ListenFailure.farther (known? : Option ListenFailure) (failure : ListenFailure) :
    ListenFailure :=
  match known? with
  | none => failure
  | some known => if known.stage.rank < failure.stage.rank then failure else known

/-- What is kept while the candidates are gone through. -/
structure ListenRound where
  /-- The port that the first bound socket got, if the system was to choose it. -/
  chosen? : Option Port := none
  listeners : List Listener := []
  failure? : Option ListenFailure := none
  deriving DecidableEq

/-- How a candidate, or a whole round, ended. -/
inductive ListenStep
  | next
  /-- The chosen port is taken. -/
  | collision
  /-- The system does not have the option asked for. -/
  | unsupported
  deriving DecidableEq

/-- How often the candidates are gone through at most. -/
def maxListenRounds : Nat := 10

def reusePortUnsupported : String := "SO_REUSEPORT isn't supported by this platform"

/-- The report of a socket that could not be opened. -/
def openReport (e : SystemError) : Report :=
  .ofSystem "conduit.transport.tcp.open_failed" "couldn't open socket" e

namespace ListenRound

variable {σ : Type}

def fail (r : ListenRound) (stage : ListenStage) (error : SystemError) : ListenRound :=
  { r with failure? := some (.farther r.failure? ⟨stage, error⟩) }

/-- A candidate that failed: its socket is closed, and if a chosen port turned out to be taken,
the round is over. -/
def giveUp (system : SocketSystem σ) (shared : Bool) (r : ListenRound) (socket : Socket)
    (stage : ListenStage) (e : SystemError) (s : σ) : ListenStep × ListenRound × σ :=
  let step := if shared && e.errno? == some Errno.addressInUse then .collision else .next
  (step, r.fail stage e, system.after (.close socket) s)

/-- Sets the options of a new socket. Only a missing option that was asked for matters. -/
def setUp (system : SocketSystem σ) (options : ListenOptions) (address : SocketAddress)
    (socket : Socket) (s : σ) : Bool × σ :=
  let s := system.after (.minimumBuffers socket minimumBufferSize) s
  let s := if options.reuseAddress then system.after (.setReuseAddress socket true) s else s
  let (reused, s) :=
    if options.reusePort then system.answer (.setReusePort socket true) s else (.ok (), s)
  match reused with
  | .error e =>
    if e.kind = .unsupported then (false, s)
    else (true, if address.isV4 then s else system.after (.setV6Only socket true) s)
  | .ok () => (true, if address.isV4 then s else system.after (.setV6Only socket true) s)

/-- The port that a socket was bound to, if it is still to be chosen. -/
def choosePort (system : SocketSystem σ) (shared : Bool) (r : ListenRound) (socket : Socket)
    (s : σ) : ListenRound × σ :=
  if shared && r.chosen?.isNone then
    match system.answer (.localAddress socket) s with
    | (.ok bound, s) => ({ r with chosen? := some bound.port }, s)
    | (.error _, s) => (r, s)
  else (r, s)

/-- Opens one candidate. With `shared` all candidates take the port of the first bound one. -/
def openCandidate (system : SocketSystem σ) (options : ListenOptions) (shared : Bool)
    (r : ListenRound) (candidate : SocketAddress) (s : σ) : ListenStep × ListenRound × σ :=
  let address := if shared then candidate.withPort (r.chosen?.getD candidate.port) else candidate
  match system.answer (.create address) s with
  | (.error e, s) => (.next, r.fail .create e, s)
  | (.ok socket, s) =>
    match setUp system options address socket s with
    | (false, s) => (.unsupported, r, system.after (.close socket) s)
    | (true, s) =>
      match system.answer (.bind socket address) s with
      | (.error e, s) => giveUp system shared r socket .bind e s
      | (.ok (), s) =>
        let (r, s) := choosePort system shared r socket s
        match system.answer (.listen socket options.queueLength) s with
        | (.error e, s) => giveUp system shared r socket .listen e s
        | (.ok (), s) =>
          let s := system.after (.setNonblocking socket true) s
          let (bound, s) := system.answer (.localAddress socket) s
          let address := match bound with
            | .ok bound => bound
            | .error _ => address
          (.next, { r with listeners := r.listeners ++ [⟨socket, address⟩] }, s)

/-- Opens the candidates in turn. If the round is abandoned, the sockets opened in it are closed
in the order in which they were opened. -/
def openAll (system : SocketSystem σ) (options : ListenOptions) (shared : Bool) :
    List SocketAddress → ListenRound → σ → ListenStep × ListenRound × σ
  | [], r, s => (.next, r, s)
  | candidate :: rest, r, s =>
    match openCandidate system options shared r candidate s with
    | (.next, r, s) => openAll system options shared rest r s
    | (step, r, s) =>
      (step, { r with listeners := [] }, system.closeAll (r.listeners.map (·.socket)) s)

end ListenRound

variable {σ : Type}

/-- Goes through the candidates up to `rounds` times. -/
def listenRounds (system : SocketSystem σ) (options : ListenOptions) (shared : Bool)
    (candidates : List SocketAddress) :
    Nat → Option ListenFailure → σ → Except Report (List Listener) × σ
  | 0, failure?, s =>
    (.error (openReport ((failure?.map (·.error)).getD (.number Errno.addressNotAvailable))), s)
  | rounds + 1, failure?, s =>
    match ListenRound.openAll system options shared candidates { failure? } s with
    | (.unsupported, _, s) => (.error (.ofMisuse (.unsupportedOption reusePortUnsupported)), s)
    | (.collision, r, s) => listenRounds system options shared candidates rounds r.failure? s
    | (.next, r, s) =>
      if r.listeners.isEmpty then listenRounds system options shared candidates 0 r.failure? s
      else (.ok r.listeners, s)

/-- Opens the listening sockets of a server. -/
def openListeners (system : SocketSystem σ) (candidates : List SocketAddress)
    (options : ListenOptions) (s : σ) : Except Report (List Listener) × σ :=
  let shared := candidates.head?.any fun first => first.port == 0
  listenRounds system options shared candidates maxListenRounds none s

end EventChannel
