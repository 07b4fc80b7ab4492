import EventChannel.Program.Basic

/-! The operations on channels as programs. An operation that holds a channel is followed by the
delivery of the conditions that came up meanwhile; handlers are called when nothing is held. -/

namespace EventChannel.Program

variable {σ : Type}

/-- Calls callbacks in turn, each with the conditions it waits for. A copy is referred to until it
has been called. -/
def deliver (channel : ChannelId) : List (Interest × Callback) → Program σ Unit
  | [] => .done ()
  | (ready, .routine r) :: rest =>
    .call (.user (.event r channel ready)) fun _ => deliver channel rest
  | (_, .copy k) :: rest =>
    .call (.advance k) fun _ => .step (.letGo (.copy k)) fun _ => deliver channel rest

/-- Conditions come up on a channel that nobody holds. -/
def notify (channel : ChannelId) (raised : Interest) : Program σ Unit :=
  .step (.raise channel raised) (deliver channel)

/-- The same through the driver's own tie to the channel, which comes to nothing when the channel
is gone. -/
def notifyFromDriver (channel : ChannelId) (raised : Interest) : Program σ Unit :=
  .step (.isKept channel) fun kept =>
    if kept then referring (.channel channel) (notify channel raised) else .done ()

/-- Carries out an operation, then delivers what was put off. -/
def hold (channel : ChannelId) (op : ChannelOp) : Program σ op.Answer :=
  .step (.hold channel op) fun (answer, raised) =>
    if raised.isEmpty then .done answer
    else (notify channel raised).bind fun _ => .done answer

def look (channel : ChannelId) : Program σ Channel := act (.look channel)

/-- A transfer of at most so many bytes from a channel. Nothing happens where there is no room. -/
def readBytes (channel : ChannelId) (n : Nat) : Program σ (Except TransferFailure Bytes) :=
  if n = 0 then .done (.ok []) else hold channel (.read n)

def writeBytes (channel : ChannelId) (bytes : Bytes) (force : Bool) :
    Program σ (Except TransferFailure Unit) :=
  hold channel (.write bytes force)

/-- The answer of a transfer on a channel, with the words for a failure of its driver. -/
def reported {α : Type} (channel : ChannelId) (code doing : String)
    (p : Program σ (Except TransferFailure α)) : Program σ (Except Report α) := do
  let answer ← p
  let name := (← look channel).name
  return answer.mapError (·.report code (doing ++ " " ++ Held.quoted name))

def read (channel : ChannelId) (n : Nat) : Program σ (Except Report Bytes) :=
  reported channel "conduit.channel.io" "error reading" (readBytes channel n)

/-- Takes bytes to be written; answers how many. -/
def write (channel : ChannelId) (bytes : Bytes) : Program σ (Except Report Nat) := do
  let answer ←
    reported channel "conduit.channel.io" "error writing" (writeBytes channel bytes false)
  return answer.map fun _ => bytes.length

/-- Writes what waits. -/
def flush (channel : ChannelId) : Program σ (Except Report Unit) :=
  reported channel "conduit.channel.io" "error writing" (writeBytes channel [] true)

def seek (channel : ChannelId) (target : SeekTarget) : Program σ (Except Report Nat) :=
  hold channel (.seek target)

def tell (channel : ChannelId) : Program σ (Option Nat) := hold channel .tell

def setBlocking (channel : ChannelId) (on : Bool) : Program σ (Except Report Unit) :=
  hold channel (.setBlocking on)

def createHandler (channel : ChannelId) (mask : Interest) (callback : Callback) :
    Program σ HandlerId :=
  hold channel (.createHandler mask callback)

def deleteHandler (channel : ChannelId) (id : HandlerId) : Program σ Unit :=
  hold channel (.deleteHandler id)

def getOption (channel : ChannelId) (reverseDns : Bool) (name : String) :
    Program σ (Except Report OptionValue) :=
  hold channel (.getOption reverseDns name)

def getOptions (channel : ChannelId) (reverseDns : Bool) :
    Program σ (Except Report OptionListing) :=
  hold channel (.getOptions reverseDns)

def setOption (channel : ChannelId) (name value : String) : Program σ (Except Report Unit) :=
  hold channel (.setOption name value)

/-- Takes the driver out of its event loop. -/
def cut (channel : ChannelId) : Program σ Unit := hold channel .cut

/-- Puts the driver into an event loop. -/
def splice (channel : ChannelId) (loop : LoopId) : Program σ Unit := hold channel (.splice loop)

/-- Does what was asked for on closing, in the order in which it was asked for. -/
def runCloseActions : List CloseAction → Program σ Unit
  | [] => .done ()
  | .routine r :: rest => .call (.user (.closing r)) fun _ => runCloseActions rest
  | .detach record :: rest => .step (.detach record) fun _ => runCloseActions rest

/-- Closes a channel. Closing it again does nothing. -/
def close (channel : ChannelId) : Program σ (Except Report Unit) := do
  match ← act (.takeCloseActions channel) with
  | none => return .ok ()
  | some actions =>
    runCloseActions actions
    let closed ← hold channel .shut
    act (.clearHandlers channel)
    return closed.mapError (.ofSystem "conduit.channel.io" "error closing channel")

/-- Closes one direction; with the last one the whole channel. -/
def closeHalf (channel : ChannelId) (d : Direction) : Program σ (Except Report Unit) := do
  match ← hold channel (.closeHalf d) with
  | .error r => return .error r
  | .ok .done => return .ok ()
  | .ok .last => close channel

/-- Gives one reference to a channel back; without references it is closed. -/
def release (channel : ChannelId) : Program σ (Except Report Unit) := do
  if ← act (.dropReference channel) then close channel else return .ok ()

/-- The rest of a channel in chunks, up to the end of the file. -/
def readChunks (channel : ChannelId) (chunk : Nat) (sofar : ByteQueue) :
    Program σ (Except TransferFailure Bytes) := do
  match ← readBytes channel chunk with
  | .error f => return .error f
  | .ok [] => return .ok sofar.toBytes
  | .ok bytes => invoke (.readAll channel chunk (sofar.push bytes))

/-- All that a channel still gives, as the output of a command. -/
def captureOutput (channel : ChannelId) : Program σ (Except Report Bytes) := do
  let chunk := max (← look channel).bufferSize 1
  let captured ← readChunks channel chunk .empty
  return captured.mapError
    (·.report "conduit.exec.output" "error reading output from command")

end EventChannel.Program
