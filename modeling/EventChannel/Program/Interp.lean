import EventChannel.Program.Channel

/-! Channels entered into and removed from the table of an interpreter, connections handed to its
scripts, and its deletion. -/

namespace EventChannel.Program

variable {σ : Type}

/-- Enters a channel, which counts as one more reference to it, unless its name is taken. -/
def register (interp : InterpId) (channel : ChannelId) : Program σ Unit :=
  act (.register interp channel)

/-- Removes a name and gives the reference back. The entry is gone even if closing fails, and the
channel lasts until it is closed. -/
def unregister (interp : InterpId) (name : String) : Program σ (Except Report Unit) := do
  match ← act (.unregister interp name) with
  | none => return .error (.ofMisuse (.unknownChannel name))
  | some channel => referring (.channel channel) (release channel)

def lookup (interp : InterpId) (name : String) : Program σ (Except Report ChannelId) := do
  match (← act (.interp interp)).lookup? name with
  | none => return .error (.ofMisuse (.unknownChannel name))
  | some channel => return .ok channel

/-- Removes the names one after the other; the first error is what comes of it. -/
def unregisterAll (interp : InterpId) : List String → Program σ (Except Report Unit)
  | [] => .done (.ok ())
  | name :: rest => do
    let first ← unregister interp name
    let others ← unregisterAll interp rest
    return match first with
      | .error r => .error r
      | .ok () => others

/-- Removes all channels of an interpreter. -/
def releaseAll (interp : InterpId) : Program σ (Except Report Unit) := do
  unregisterAll interp ((← act (.interp interp)).channels.map (·.1))

/-- Deletes an interpreter: its records lead nowhere any more and its channels are released.
Deleting it again does nothing. -/
def deleteInterp (interp : InterpId) : Program σ (Except Report Unit) := do
  if ← act (.markDeleted interp) then releaseAll interp else return .ok ()

/-- Runs the script of an interpreter for a new connection. If the script fails, the connection is
removed again. -/
def welcome (interp : InterpId) (script : RoutineId) (channel : ChannelId) (host : String)
    (port : Port) : Program σ Unit := do
  register interp channel
  match ← invoke (.user (.script script interp channel host port)) with
  | .ok () => return ()
  | .error r =>
    act (.addBackgroundError interp r)
    let name := (← look channel).name
    let _ ← unregister interp name

/-- Hands a new connection to the script of a record. If there is no interpreter any more, the
connection is closed at once; if there is, it lasts until the script has run. -/
def accept (record : RecordId) (channel : ChannelId) (host : String) (port : Port) :
    Program σ Unit :=
  referring (.channel channel) do
    match ← act (.recordTarget record) with
    | none =>
      let _ ← close channel
    | some (interp, script) =>
      referring (.interp interp) (welcome interp script channel host port)

end EventChannel.Program
