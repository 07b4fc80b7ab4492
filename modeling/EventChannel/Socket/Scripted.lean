import EventChannel.Socket.System

/-! A stand-in for the system that answers each kind of call from a list, in the order of the calls.
Sockets are numbered as they are opened. A call beyond the end of its list succeeds, except that
connecting then has an answer of its own. -/

namespace EventChannel

/-- The answers still to be given, by kind of call, and the sockets given out so far. -/
structure ScriptedSockets where
  creates : List (Option SystemError) := []
  nonblocking : List (Option SystemError) := []
  reuseAddress : List (Option SystemError) := []
  reusePort : List (Option SystemError) := []
  v6Only : List (Option SystemError) := []
  binds : List (Option SystemError) := []
  connects : List (Option SystemError) := []
  errors : List (Except SystemError (Option SystemError)) := []
  listens : List (Option SystemError) := []
  localAddresses : List (Option SystemError) := []
  /-- How connecting ends once its list is used up. -/
  connectAfter : Option SystemError := none
  /-- The port that the next socket bound to no port gets. -/
  nextPort : Port := 40000
  nextSocket : Socket := 1
  bound : List (Socket × SocketAddress) := []

namespace ScriptedSockets

/-- An answer without a value. -/
def verdict : Option SystemError → Except SystemError Unit
  | none => .ok ()
  | some e => .error e

/-- The next answer of a list, or the one that stands for its end. -/
def next {α : Type} (answers : List α) (after : α) : α × List α :=
  (answers.headD after, answers.tail)

/-- Binds a socket; one without a port gets the next free one. -/
def bindTo (s : ScriptedSockets) (socket : Socket) (address : SocketAddress) : ScriptedSockets :=
  if address.port == 0 then
    { s with
      bound := (socket, address.withPort s.nextPort) :: s.bound
      nextPort := s.nextPort + 1 }
  else { s with bound := (socket, address) :: s.bound }

def answer : (call : SocketCall) → ScriptedSockets → call.Answer × ScriptedSockets
  | .create _, s =>
    let (error?, creates) := next s.creates none
    match error? with
    | some e => (.error e, { s with creates })
    | none => (.ok s.nextSocket, { s with creates, nextSocket := s.nextSocket + 1 })
  | .minimumBuffers _ _, s => ((), s)
  | .setNonblocking _ _, s =>
    let (error?, nonblocking) := next s.nonblocking none
    (verdict error?, { s with nonblocking })
  | .setReuseAddress _ _, s =>
    let (error?, reuseAddress) := next s.reuseAddress none
    (verdict error?, { s with reuseAddress })
  | .setReusePort _ _, s =>
    let (error?, reusePort) := next s.reusePort none
    (verdict error?, { s with reusePort })
  | .setV6Only _ _, s =>
    let (error?, v6Only) := next s.v6Only none
    (verdict error?, { s with v6Only })
  | .bind socket address, s =>
    let (error?, binds) := next s.binds none
    let s := { s with binds }
    (verdict error?, if error?.isNone then s.bindTo socket address else s)
  | .connect _ _, s =>
    let (error?, connects) := next s.connects s.connectAfter
    (verdict error?, { s with connects })
  | .takeError _, s =>
    let (error, errors) := next s.errors (.ok none)
    (error, { s with errors })
  | .listen _ _, s =>
    let (error?, listens) := next s.listens none
    (verdict error?, { s with listens })
  | .localAddress socket, s =>
    let (error?, localAddresses) := next s.localAddresses none
    let found := match error?, s.bound.lookup socket with
      | some e, _ => .error e
      | none, some address => .ok address
      | none, none => .error (.number Errno.invalidArgument)
    (found, { s with localAddresses })
  | .close _, s => ((), s)

/-- The system that answers from the lists. -/
def system : SocketSystem ScriptedSockets := ⟨answer⟩

end ScriptedSockets

end EventChannel
