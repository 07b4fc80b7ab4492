import EventChannel.Channel.Control

/-! The operations during which a channel is held, as one type, and what each does to the channel
and its environment. When an operation lets go of the channel, the conditions put off meanwhile come
out with its answer. -/

namespace EventChannel

/-- An operation that holds a channel. -/
inductive ChannelOp
  /-- Read at most so many bytes, at least one. -/
  | read (n : Nat)
  /-- Take bytes to be written; with `force`, write what waits. -/
  | write (bytes : Bytes) (force : Bool)
  | seek (target : SeekTarget)
  | tell
  | setBlocking (on : Bool)
  | createHandler (mask : Interest) (callback : Callback)
  | deleteHandler (id : HandlerId)
  | getOption (reverseDns : Bool) (name : String)
  | getOptions (reverseDns : Bool)
  | setOption (name value : String)
  | cut
  | splice (loop : LoopId)
  | shut
  | closeHalf (d : Direction)
  deriving DecidableEq

/-- What an operation is answered with. -/
abbrev ChannelOp.Answer : ChannelOp → Type
  | read _ => Except TransferFailure Bytes
  | write _ _ => Except TransferFailure Unit
  | seek _ => Except Report Nat
  | tell => Option Nat
  | setBlocking _ | setOption _ _ => Except Report Unit
  | createHandler _ _ => HandlerId
  | getOption _ _ => Except Report OptionValue
  | getOptions _ => Except Report OptionListing
  | shut => Except SystemError Unit
  | closeHalf _ => Except Report HalfClosed
  | deleteHandler _ | cut | splice _ => Unit

namespace Held

variable {σ : Type}

/-- Carries out an operation on the channel held. -/
def perform (driver : Driver σ) : (op : ChannelOp) → Held σ → op.Answer × Held σ
  | .read n, h => h.read driver n
  | .write bytes force, h => h.write driver bytes force
  | .seek target, h => h.seek driver target
  | .tell, h => h.tell driver
  | .setBlocking on, h => h.setBlocking driver on
  | .createHandler mask callback, h => h.createHandler driver mask callback
  | .deleteHandler id, h => ((), h.deleteHandler driver id)
  | .getOption dns name, h => h.getOption driver dns name
  | .getOptions dns, h => h.getOptions driver dns
  | .setOption name value, h => h.setOption driver name value
  | .cut, h => ((), h.cut driver)
  | .splice loop, h => ((), h.splice driver loop)
  | .shut, h => h.shut driver
  | .closeHalf d, h => h.closeHalf driver d

/-- Lets go of the channel; the conditions put off come out. -/
def release (h : Held σ) : Interest × Held σ :=
  (h.channel.deferred, h.update ({ · with deferred := .none }))

end Held

end EventChannel
