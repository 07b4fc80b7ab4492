import EventChannel.Resolver
import EventChannel.Socket.System

/-! A host may have several addresses, and so may this one. An attempt goes through the remote
addresses and for each of them through the local ones, and tries the pairs of one family. In the
background a try may be suspended; two cursors tell where the attempt goes on if that try fails. It
holds at most one socket, that of the latest try. -/

namespace EventChannel

/-- Where an attempt stands between calls. -/
inductive ConnectPhase
  | idle | waitingWritable | connected | failed
  deriving DecidableEq

/-- What an attempt has come to. -/
inductive ConnectOutcome
  | connected
  | pending
  | failed (error : SystemError)
  deriving DecidableEq

/-- The size below which the buffers of a socket are raised. -/
def minimumBufferSize : Nat := 4096

/-- The answer that a connection is under way. -/
def SystemError.isInProgress (e : SystemError) : Bool := e.errno? == some Errno.inProgress

/-- The pairs of a remote address with the local ones of its family. -/
def pairsOf (address : SocketAddress) (locals : List SocketAddress) :
    List (SocketAddress × SocketAddress) :=
  (locals.filter fun origin => origin.isV4 == address.isV4).map fun origin => (address, origin)

/-- The pairs of a remote and a local address of one family, those of the first remote address
first. -/
def addressPairs (remote locals : List SocketAddress) : List (SocketAddress × SocketAddress) :=
  remote.flatMap fun address => pairsOf address locals

/-- An attempt to connect to one of several addresses. -/
structure ConnectAttempt where
  remote : List SocketAddress
  locals : List SocketAddress
  async : Bool
  /-- How many remote addresses are done with. -/
  remoteCursor : Nat := 0
  /-- How many local addresses the next remote address is done with. -/
  localCursor : Nat := 0
  socket? : Option Socket := none
  /-- The remote address of the latest try. -/
  current? : Option SocketAddress := none
  lastError : SystemError := .number Errno.hostUnreachable
  phase : ConnectPhase := .idle
  /-- The number of tries so far. -/
  tries : Nat := 0
  deriving DecidableEq

namespace ConnectAttempt

variable {σ : Type}

/-- An attempt whose addresses are those of a plan. -/
def resolve (names : NameService σ) (plan : ClientPlan) (s : σ) :
    Except Report ConnectAttempt × σ :=
  match resolvePort names (some plan.host) plan.port .connect s with
  | (.error r, s) => (.error r, s)
  | (.ok remote, s) =>
    match resolvePort names plan.localHost? plan.localPort .clientBind s with
    | (.error r, s) => (.error r, s)
    | (.ok locals, s) => (.ok { remote, locals, async := plan.async }, s)

/-- What the attempt has come to so far. -/
def outcome (a : ConnectAttempt) : ConnectOutcome :=
  match a.phase with
  | .connected => .connected
  | .failed => .failed a.lastError.copy
  | .idle | .waitingWritable => .pending

/-- The pairs that have not been tried yet. -/
def untried (a : ConnectAttempt) : List (SocketAddress × SocketAddress) :=
  match a.remote.drop a.remoteCursor with
  | [] => []
  | address :: rest => pairsOf address (a.locals.drop a.localCursor) ++ addressPairs rest a.locals

/-- The socket held, which the attempt no longer holds. -/
def takeSocket (a : ConnectAttempt) : Option Socket × ConnectAttempt :=
  (a.socket?, { a with socket? := none })

/-- The state after the socket held was closed. -/
def dropSocket (a : ConnectAttempt) (system : SocketSystem σ) (s : σ) : σ :=
  system.closeAll a.socket?.toList s

/-- One try: a new socket in the place of the one held, bound to the local address and on its way
to the remote one. A socket that cannot be made non-blocking is closed at once. -/
def tryPair (system : SocketSystem σ) (a : ConnectAttempt) (pair : SocketAddress × SocketAddress)
    (s : σ) : Except SystemError Unit × ConnectAttempt × σ :=
  let s := a.dropSocket system s
  let a := { a with socket? := none }
  match system.answer (.create pair.1) s with
  | (.error e, s) => (.error e, a, s)
  | (.ok socket, s) =>
    let s := system.after (.minimumBuffers socket minimumBufferSize) s
    match if a.async then system.answer (.setNonblocking socket true) s else (.ok (), s) with
    | (.error e, s) => (.error e, a, system.after (.close socket) s)
    | (.ok (), s) =>
      let s := system.after (.setReuseAddress socket true) s
      let a := { a with socket? := some socket }
      match system.answer (.bind socket pair.2) s with
      | (.error e, s) => (.error e, a, s)
      | (.ok (), s) =>
        let (connected, s) := system.answer (.connect socket pair.1) s
        (connected, a, s)

/-- Goes through local addresses for a remote one. Answers whether some try has connected or is
suspended; then the addresses after it are left. -/
def tryLocals (system : SocketSystem σ) (address : SocketAddress) :
    List SocketAddress → ConnectAttempt → σ → Bool × ConnectAttempt × σ
  | [], a, s => (false, a, s)
  | origin :: rest, a, s =>
    let a := { a with localCursor := a.localCursor + 1 }
    if origin.isV4 != address.isV4 then tryLocals system address rest a s
    else
      let a := { a with tries := a.tries + 1, current? := some address }
      match tryPair system a (address, origin) s with
      | (.ok (), a, s) => (true, { a with phase := .connected }, s)
      | (.error e, a, s) =>
        if a.async && e.isInProgress then (true, { a with phase := .waitingWritable }, s)
        else tryLocals system address rest { a with lastError := e } s

/-- Goes through remote addresses. The first of them may have been gone through in part. -/
def tryRemotes (system : SocketSystem σ) :
    List SocketAddress → ConnectAttempt → σ → ConnectAttempt × σ
  | [], a, s => ({ a with phase := .failed }, s)
  | address :: rest, a, s =>
    match tryLocals system address (a.locals.drop a.localCursor) a s with
    | (true, a, s) => (a, s)
    | (false, a, s) =>
      tryRemotes system rest { a with remoteCursor := a.remoteCursor + 1, localCursor := 0 } s

/-- Goes on from the cursors. -/
def proceed (system : SocketSystem σ) (a : ConnectAttempt) (s : σ) : ConnectAttempt × σ :=
  tryRemotes system (a.remote.drop a.remoteCursor) a s

/-- Starts with the first pair. -/
def start (system : SocketSystem σ) (a : ConnectAttempt) (s : σ) : ConnectAttempt × σ :=
  proceed system { a with remoteCursor := 0, localCursor := 0 } s

/-- How a suspended try ended, as its socket tells. -/
def suspendedResult (system : SocketSystem σ) (a : ConnectAttempt) (s : σ) :
    Option SystemError × σ :=
  match a.socket? with
  | none => (some (.number Errno.notConnected), s)
  | some socket =>
    match system.answer (.takeError socket) s with
    | (.ok error?, s) => (error?, s)
    | (.error e, s) => (some e, s)

/-- Goes on after a suspended try. An attempt that is not waiting stays as it is. -/
def resume (system : SocketSystem σ) (a : ConnectAttempt) (s : σ) : ConnectAttempt × σ :=
  if a.phase = .waitingWritable then
    match suspendedResult system a s with
    | (none, s) => ({ a with phase := .connected }, s)
    | (some e, s) => proceed system { a with lastError := e } s
  else (a, s)

/-- An attempt that has come to an end stays as it is and makes no further call. -/
theorem resume_of_ended (system : SocketSystem σ) {a : ConnectAttempt} (s : σ)
    (h : a.phase ≠ .waitingWritable) : resume system a s = (a, s) := by
  simp [resume, h]

end ConnectAttempt

end EventChannel
