import EventChannel.Identifier
import EventChannel.Interest
import EventChannel.Mode
import EventChannel.Socket.System

/-! What is done with sockets once they listen or are connected. Together with the calls that open
and connect sockets this is all that a stream channel asks of the system. -/

namespace EventChannel

/-- A call on a socket that listens or is connected. -/
inductive StreamCall
  | accept (socket : Socket)
  | receive (socket : Socket) (room : Nat)
  | send (socket : Socket) (bytes : Bytes)
  /-- Looks for a byte without taking it; answers whether there is one. -/
  | peek (socket : Socket)
  | shutdown (socket : Socket) (d : Direction)
  | peerAddress (socket : Socket)
  | keepAlive (socket : Socket)
  | setKeepAlive (socket : Socket) (on : Bool)
  | noDelay (socket : Socket)
  | setNoDelay (socket : Socket) (on : Bool)
  /-- Which of some conditions hold now. -/
  | poll (socket : Socket) (mask : Interest)
  /-- Waits until one of some conditions holds. -/
  | await (socket : Socket) (mask : Interest)
  /-- The name of the host that an address belongs to. -/
  | hostName (address : SocketAddress)
  deriving DecidableEq

/-- What a call is answered with. Waiting ends with a condition, or with an error. -/
abbrev StreamCall.Answer : StreamCall → Type
  | accept _ => Except SystemError (Socket × SocketAddress)
  | receive _ room => Except SystemError { bytes : Bytes // bytes.length ≤ room }
  | send _ bytes => Except SystemError { n : Nat // n ≤ bytes.length }
  | peek _ | keepAlive _ | noDelay _ => Except SystemError Bool
  | shutdown _ _ | setKeepAlive _ _ | setNoDelay _ _ => Except SystemError Unit
  | peerAddress _ => Except SystemError SocketAddress
  | poll _ _ => Except SystemError Interest
  | await _ _ => Except SystemError { ready : Interest // ready ≠ .none }
  | hostName _ => Option String

/-- A system of sockets and streams. -/
structure StreamSystem (ν : Type) extends SocketSystem ν where
  stream : (call : StreamCall) → ν → call.Answer × ν

/-- The descriptor of a socket. -/
def Socket.descriptor (socket : Socket) : Descriptor := Int.ofNat socket

end EventChannel
