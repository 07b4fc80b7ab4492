import EventChannel.ByteQueue
import EventChannel.Driver
import EventChannel.Text.Quoted

/-! The record of a channel, and the channel as an operation holds it: together with the environment
of its driver. All that an operation does while it holds the channel is done by calls to the driver
and by changes to the record; conditions that the driver raises meanwhile are put off. -/

namespace EventChannel

/-- What is called when a condition that a handler waits for is raised. -/
inductive Callback
  | routine (id : RoutineId)
  | copy (id : CopyId)
  deriving DecidableEq

/-- What is done when a channel is closed. -/
inductive CloseAction
  | routine (id : RoutineId)
  | detach (record : RecordId)
  deriving DecidableEq

/-- A callback with the conditions it waits for. -/
structure Handler where
  id : HandlerId
  mask : Interest
  callback : Callback
  deriving DecidableEq

def defaultBufferSize : Nat := 4096

def maxBufferSize : Nat := 1024 * 1024

/-- The buffer size nearest to the one asked for. -/
def clampBufferSize (n : Int) : Nat := min (max n 1).toNat maxBufferSize

/-- A channel. -/
structure Channel where
  name : String
  type : String
  /-- The driver has not been closed yet. -/
  isOpen : Bool := true
  mode : Mode
  blocking : Bool := true
  /-- The latest read met the end of the file. -/
  eof : Bool := false
  /-- The latest read would have had to wait. -/
  blocked : Bool := false
  input : Bytes := []
  output : ByteQueue := .empty
  bufferSize : Nat := defaultBufferSize
  /-- The conditions that the driver was last told to wait for. -/
  watched : Interest := .none
  /-- The output is to be written as soon as the driver takes more. -/
  flushPending : Bool := false
  /-- How writing in the background failed, until some call can say so. -/
  unreported? : Option DriverFailure := none
  closeActions : List CloseAction := []
  handlers : List Handler := []
  lastHandler : HandlerId := 0
  /-- Conditions raised while the channel was held. -/
  deferred : Interest := .none
  references : Nat := 0
  copying : Bool := false
  deriving DecidableEq

namespace Channel

/-- What stands in the place of a channel that there is not. -/
def absent : Channel := { name := "", type := "", isOpen := false, mode := .none }

/-- The conditions that some handler waits for. -/
def handlerMask (c : Channel) : Interest := .unions (c.handlers.map (·.mask))

/-- The conditions that the driver has to wait for. -/
def wantedMask (c : Channel) : Interest :=
  if c.flushPending then c.handlerMask ∪ .writing else c.handlerMask

/-- The handlers that conditions concern, each with what of them it waits for. -/
def targets (c : Channel) (raised : Interest) : List (Interest × Callback) :=
  (c.handlers.filter fun h => h.mask.meets raised).map fun h => (h.mask ∩ raised, h.callback)

def closed (c : Channel) : Misuse := .closed c.name

/-- The text of a channel for those who look for mistakes. -/
def debugText (c : Channel) : String :=
  "Channel \x7b name: " ++ Text.quoted c.name ++ ", type: " ++ Text.quoted c.type ++ " \x7d"

end Channel

/-- A channel while an operation holds it, with what its driver works on. -/
structure Held (σ : Type) where
  channel : Channel
  loops : EventLoops
  env : σ

namespace Held

variable {σ : Type}

/-- Calls the driver. What it raises is put off. -/
def drive (driver : Driver σ) (call : DriverCall) (h : Held σ) : call.Answer × Held σ :=
  let driven := driver call h.env
  (driven.answer,
    { channel := { h.channel with deferred := h.channel.deferred ∪ driven.raised }
      loops := h.loops.applyAll driven.commands
      env := driven.env })

/-- Changes the record of the channel. -/
def update (h : Held σ) (f : Channel → Channel) : Held σ := { h with channel := f h.channel }

/-- Tells the driver which conditions to wait for, if they are not those it was told last. -/
def applyWatch (driver : Driver σ) (h : Held σ) : Held σ :=
  let mask := h.channel.wantedMask
  if mask = h.channel.watched then h
  else
    let h := h.update ({ · with watched := mask })
    if h.channel.isOpen then (h.drive driver (.watch mask)).2 else h

@[simp] theorem update_channel (h : Held σ) (f : Channel → Channel) :
    (h.update f).channel = f h.channel := rfl

@[simp] theorem update_env (h : Held σ) (f : Channel → Channel) : (h.update f).env = h.env := rfl

@[simp] theorem drive_channel (driver : Driver σ) (call : DriverCall) (h : Held σ) :
    (h.drive driver call).2.channel =
      { h.channel with deferred := h.channel.deferred ∪ (driver call h.env).raised } := rfl

@[simp] theorem drive_env (driver : Driver σ) (call : DriverCall) (h : Held σ) :
    (h.drive driver call).2.env = (driver call h.env).env := rfl

end Held

end EventChannel
