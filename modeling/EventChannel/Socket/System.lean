import EventChannel.Address.Written
import EventChannel.SystemError

/-! The calls by which sockets are opened, set up, connected and put to listening. A `SocketSystem`
answers them; what it does apart from that is its own affair. The traced system keeps the calls with
their answers. -/

namespace EventChannel

/-- A socket, as the system that opened it knows it. -/
abbrev Socket := Nat

/-- A call on sockets. -/
inductive SocketCall
  | create (address : SocketAddress)
  | minimumBuffers (socket : Socket) (size : Nat)
  | setNonblocking (socket : Socket) (on : Bool)
  | setReuseAddress (socket : Socket) (on : Bool)
  | setReusePort (socket : Socket) (on : Bool)
  | setV6Only (socket : Socket) (on : Bool)
  | bind (socket : Socket) (address : SocketAddress)
  | connect (socket : Socket) (address : SocketAddress)
  | takeError (socket : Socket)
  | listen (socket : Socket) (queue : Int)
  | localAddress (socket : Socket)
  | close (socket : Socket)
  deriving DecidableEq

/-- What a call is answered with. -/
abbrev SocketCall.Answer : SocketCall → Type
  | create _ => Except SystemError Socket
  | takeError _ => Except SystemError (Option SystemError)
  | localAddress _ => Except SystemError SocketAddress
  | minimumBuffers _ _ | close _ => Unit
  | setNonblocking _ _ | setReuseAddress _ _ | setReusePort _ _ | setV6Only _ _ | bind _ _
  | connect _ _ | listen _ _ => Except SystemError Unit

/-- A call with its answer. -/
structure SocketEvent where
  call : SocketCall
  answer : call.Answer

/-- Something that answers calls on sockets. -/
structure SocketSystem (σ : Type) where
  answer : (call : SocketCall) → σ → call.Answer × σ

namespace SocketSystem

variable {σ : Type}

/-- The state after a call whose answer does not matter. -/
def after (system : SocketSystem σ) (call : SocketCall) (s : σ) : σ := (system.answer call s).2

/-- The state after some sockets were closed one after the other. -/
def closeAll (system : SocketSystem σ) (sockets : List Socket) (s : σ) : σ :=
  sockets.foldl (fun s socket => system.after (.close socket) s) s

/-- The system with a record of the calls made to it, the latest last. -/
def traced (system : SocketSystem σ) : SocketSystem (σ × List SocketEvent) where
  answer call := fun (s, events) =>
    let (answer, s) := system.answer call s
    (answer, s, events ++ [⟨call, answer⟩])

@[simp] theorem closeAll_nil (system : SocketSystem σ) (s : σ) : system.closeAll [] s = s := rfl

@[simp] theorem closeAll_cons (system : SocketSystem σ) (socket : Socket) (rest : List Socket)
    (s : σ) : system.closeAll (socket :: rest) s =
      system.closeAll rest (system.after (.close socket) s) := rfl

end SocketSystem

namespace SocketEvent

/-- A call in words. Sockets are numbered; an opening that failed has no number. -/
def text : SocketEvent → String
  | ⟨.create address, .ok socket⟩ => "open#" ++ toString socket ++ " " ++ address.text
  | ⟨.create address, .error _⟩ => "open failed " ++ address.text
  | ⟨.minimumBuffers socket size, _⟩ => "buffers#" ++ toString socket ++ " " ++ toString size
  | ⟨.setNonblocking socket on, _⟩ => "nonblocking#" ++ toString socket ++ " " ++ toString on
  | ⟨.setReuseAddress socket on, _⟩ => "reuseaddr#" ++ toString socket ++ " " ++ toString on
  | ⟨.setReusePort socket on, _⟩ => "reuseport#" ++ toString socket ++ " " ++ toString on
  | ⟨.setV6Only socket on, _⟩ => "v6only#" ++ toString socket ++ " " ++ toString on
  | ⟨.bind socket address, _⟩ => "bind#" ++ toString socket ++ " " ++ address.text
  | ⟨.connect socket address, _⟩ => "connect#" ++ toString socket ++ " " ++ address.text
  | ⟨.takeError socket, _⟩ => "so_error#" ++ toString socket
  | ⟨.listen socket queue, _⟩ => "listen#" ++ toString socket ++ " " ++ toString queue
  | ⟨.localAddress socket, _⟩ => "localaddr#" ++ toString socket
  | ⟨.close socket, _⟩ => "close#" ++ toString socket

end SocketEvent

end EventChannel
