import EventChannel.Program.Channel

/-! A copy takes its two channels for itself, switches both to one blocking mode and, at the end,
back to their own. The caller waits for a copy in blocking mode. A copy in the background moves a
chunk whenever its source has input, or its target has taken the output left over. -/

namespace EventChannel.Program

variable {σ : Type}

def readReport (name : String) (f : TransferFailure) : Report :=
  f.report "conduit.copy.read" ("error reading " ++ Held.quoted name)

def writeReport (name : String) (f : TransferFailure) : Report :=
  f.report "conduit.copy.write" ("error writing " ++ Held.quoted name)

/-- Switches a channel to a mode that it is not in. -/
def switchMode (channel : ChannelId) (on : Bool) : Program σ (Except Report Unit) := do
  if (← look channel).blocking = on then return .ok () else setBlocking channel on

/-- Switches the source, then the target. One channel in both places goes by the source. -/
def switchModes (source target : ChannelId) (modes : Bool × Bool) :
    Program σ (Except Report Unit) := do
  match ← switchMode source modes.1 with
  | .error r => return .error r
  | .ok () => if source = target then return .ok () else switchMode target modes.2

/-- Writes what the target still holds and ends a copy that its caller waits for. -/
def finishMoving (target : ChannelId) : Program σ (Except Report Unit) := do
  match ← writeBytes target [] true with
  | .error f => return .error (writeReport (← look target).name f)
  | .ok () => return .ok ()

/-- Moves chunk after chunk. -/
def moveChunks (k : CopyId) : Program σ (Except Report Unit) := do
  let c ← act (.copy k)
  if c.want = 0 then finishMoving c.target
  else
    match ← readBytes c.source c.want with
    | .error f => return .error (readReport (← look c.source).name f)
    | .ok [] => finishMoving c.target
    | .ok bytes =>
      match ← writeBytes c.target bytes false with
      | .error f => return .error (writeReport (← look c.target).name f)
      | .ok () =>
        act (.countCopied k bytes.length)
        invoke (.moveAll k)

/-- Copies up to a limit, or all; answers how many bytes. -/
def copy (source target : ChannelId) (limit? : Option Nat) : Program σ (Except Report Nat) := do
  match ← act (.beginCopy source target limit? none) with
  | .error m => return .error (.ofMisuse m)
  | .ok k =>
    let saved := (← act (.copy k)).savedModes
    let moved ← match ← switchModes source target (true, true) with
      | .error r => pure (.error r)
      | .ok () => do
        act (.fixChunk k)
        moveChunks k
    let _ ← switchModes source target saved
    let total := (← act (.copy k)).total
    act (.finishCopy k)
    return moved.map fun _ => total

/-- What a copy in the background waits for next, or how it ended. -/
inductive CopyStep
  | waitReadable
  | waitWritable
  | ended (error? : Option Report)

/-- Moves one chunk, if the target has room for it. -/
def moveChunk (k : CopyId) (c : Copy) : Program σ CopyStep := do
  if c.want = 0 then return .ended none
  match ← readBytes c.source c.want with
  | .error f => return .ended (some (readReport (← look c.source).name f))
  | .ok [] => return if (← look c.source).eof then .ended none else .waitReadable
  | .ok bytes =>
    match ← writeBytes c.target bytes true with
    | .error f => return .ended (some (writeReport (← look c.target).name f))
    | .ok () =>
      act (.countCopied k bytes.length)
      if !(← look c.target).output.isEmpty then return .waitWritable
      else if (← act (.copy k)).want = 0 then return .ended none
      else return .waitReadable

/-- One step of a copy in the background: first the output left over, then a chunk. -/
def copyStep (k : CopyId) : Program σ CopyStep := do
  let c ← act (.copy k)
  if (← look c.target).output.isEmpty then moveChunk k c
  else
    match ← writeBytes c.target [] true with
    | .error f => return .ended (some (writeReport (← look c.target).name f))
    | .ok () =>
      if (← look c.target).output.isEmpty then moveChunk k c else return .waitWritable

/-- Deletes a handler if there is one. -/
def deleteHandler? (channel : ChannelId) (id? : Option HandlerId) : Program σ Unit :=
  match id? with
  | some id => deleteHandler channel id
  | none => .done ()

/-- Waits for the source to have input, and no longer for the target. -/
def waitForSource (k : CopyId) : Program σ Unit := do
  let c ← act (.copy k)
  act (.setCopyHandlers k c.sourceHandler? none)
  deleteHandler? c.target c.targetHandler?
  if c.sourceHandler?.isNone then
    let id ← createHandler c.source .reading (.copy k)
    act (.setCopyHandlers k (some id) none)

/-- Waits for the target to take output, and no longer for the source. -/
def waitForTarget (k : CopyId) : Program σ Unit := do
  let c ← act (.copy k)
  act (.setCopyHandlers k none c.targetHandler?)
  deleteHandler? c.source c.sourceHandler?
  if c.targetHandler?.isNone then
    let id ← createHandler c.target .writing (.copy k)
    act (.setCopyHandlers k none (some id))

/-- Puts handlers and modes back and gives the channels free; then the routine is called. -/
def endCopy (k : CopyId) (error? : Option Report) : Program σ Unit := do
  act (.endCopying k)
  let c ← act (.copy k)
  act (.setCopyHandlers k none none)
  deleteHandler? c.source c.sourceHandler?
  deleteHandler? c.target c.targetHandler?
  let _ ← switchModes c.source c.target c.savedModes
  act (.finishCopy k)
  match c.onDone? with
  | some r => invoke (.user (.completed r c.total error?))
  | none => return ()

/-- Makes the next step of a copy in the background. While one is being made, another event of the
same copy comes to nothing. -/
def advance (k : CopyId) : Program σ Unit := do
  if ← act (.enterCopy k) then
    match ← copyStep k with
    | .waitReadable =>
      waitForSource k
      act (.restCopy k)
    | .waitWritable =>
      waitForTarget k
      act (.restCopy k)
    | .ended error? => endCopy k error?

/-- Starts a copy in the background with its first step. The routine is called at the end, which
may be before this program ends. -/
def copyInBackground (source target : ChannelId) (limit? : Option Nat) (onDone : RoutineId) :
    Program σ (Except Report Unit) := do
  match ← act (.beginCopy source target limit? (some onDone)) with
  | .error m => return .error (.ofMisuse m)
  | .ok k =>
    match ← switchModes source target (false, false) with
    | .error r =>
      let saved := (← act (.copy k)).savedModes
      let _ ← switchModes source target saved
      act (.finishCopy k)
      return .error r
    | .ok () =>
      act (.fixChunk k)
      referring (.copy k) (advance k)
      return .ok ()

end EventChannel.Program
