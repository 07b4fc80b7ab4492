import EventChannel.EventLoop
import EventChannel.Mode
import EventChannel.Option

/-! A channel reaches whatever it stands for through a driver: calls with answers, made on an
environment that the drivers of all channels share. While it answers, a driver may raise conditions
of its channel, and it may register descriptors with event loops or take them out. -/

namespace EventChannel

/-- A position to go to. -/
inductive SeekTarget
  | start (offset : Nat)
  | current (offset : Int)
  | fromEnd (offset : Int)
  deriving DecidableEq

/-- A call of a channel to its driver. -/
inductive DriverCall
  /-- The channel has been made. -/
  | attach
  /-- Wants at most `room` bytes; no bytes at all mean the end of the file. -/
  | input (room : Nat)
  | output (bytes : Bytes)
  | seek (target : SeekTarget)
  | close
  | closeHalf (direction : Direction)
  | setBlocking (on : Bool)
  | setOption (name value : String)
  /-- Wants one option, or all. -/
  | getOption (reverseDns : Bool) (name? : Option String)
  /-- The conditions that the channel waits for from now on. -/
  | watch (mask : Interest)
  | handle (direction : Direction)
  /-- Leave the event loop. -/
  | cut
  /-- Join another event loop. -/
  | splice (loop : LoopId)
  deriving DecidableEq

/-- What a call is answered with. No driver gives more bytes than there is room for, nor takes more
than it was offered. -/
abbrev DriverCall.Answer : DriverCall → Type
  | input room => Except DriverFailure { bytes : Bytes // bytes.length ≤ room }
  | output bytes => Except DriverFailure { n : Nat // n ≤ bytes.length }
  | seek _ => Except DriverFailure Nat
  | close | closeHalf _ | setBlocking _ => Except SystemError Unit
  | setOption _ _ => Except Report Unit
  | getOption _ _ => Except Report OptionListing
  | handle _ => Option Descriptor
  | attach | watch _ | cut | splice _ => Unit

/-- What a driver call comes to: its answer, the environment after it, the conditions raised
meanwhile and what was done to event loops. -/
structure Driven (σ α : Type) where
  answer : α
  env : σ
  raised : Interest := .none
  commands : List LoopCommand := []

/-- A driver on an environment. -/
abbrev Driver (σ : Type) := (call : DriverCall) → σ → Driven σ call.Answer

namespace DriverCall

/-- The answer to a call that a driver has no use for. -/
def unsupported : (call : DriverCall) → call.Answer
  | input _ => .ok ⟨[], Nat.zero_le _⟩
  | output _ => .ok ⟨0, Nat.zero_le _⟩
  | seek _ => .error ⟨.number Errno.invalidArgument, none⟩
  | closeHalf _ => .error (.number Errno.invalidArgument)
  | close | setBlocking _ => .ok ()
  | setOption name _ => .error (.ofMisuse (.badOption name []))
  | getOption _ none => .ok []
  | getOption _ (some name) => .error (.ofMisuse (.badOption name []))
  | handle _ => none
  | attach | watch _ | cut | splice _ => ()

end DriverCall

/-- A driver call with its answer. -/
structure DriverEvent where
  call : DriverCall
  answer : call.Answer

/-- The driver with a record of the calls made to it, the latest last. -/
def Driver.traced {σ : Type} (driver : Driver σ) : Driver (σ × List DriverEvent) :=
  fun call (env, events) =>
    let driven := driver call env
    { answer := driven.answer, env := (driven.env, events ++ [⟨call, driven.answer⟩])
      raised := driven.raised, commands := driven.commands }

end EventChannel
