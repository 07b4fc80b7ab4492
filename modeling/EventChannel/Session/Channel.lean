import EventChannel.Program.Copy
import EventChannel.Session.Scene

/-! What the commands on channels, copies and scripted drivers come to. -/

namespace EventChannel.Session

/-- Opens a channel with a scripted driver. -/
def openChannel (name : String) (r : OpenRequest) : Program Scene Reply := do
  let channel : Channel :=
    { name := r.realName?.getD name
      type := if r.plain then "min" else "mem"
      mode := r.mode
      bufferSize := (r.bufferSize?.map clampBufferSize).getD defaultBufferSize
      blocking := r.blocking?.getD true }
  let id ← .act (.open channel)
  let d : ScriptedDriver := { label := name, plain := r.plain }
  alter fun s =>
    { s.setDriver id (d.change r.setup) with
      channels := s.channels.put name id, driven := s.driven.put name id }
  return .opened channel.name channel.type

/-- The value of an option as the session shows it. -/
def optionShown (id : ChannelId) (value : OptionValue) : Program Scene OptionValue :=
  ask fun s => if (s.tcp.state? id).isSome then s.portsShown value else value

/-- Carries out a command on a channel. -/
def ChannelAction.perform (id : ChannelId) : ChannelAction Command → Program Scene Reply
  | .debug => return .text (← Program.look id).debugText
  | .read n => return .ofResult .taken (← Program.read id n)
  | .write bytes => return .ofResult (fun n => .number n) (← Program.write id bytes)
  | .flush => return .ofResult (fun _ => .done) (← Program.flush id)
  | .close => return .ofResult (fun _ => .done) (← Program.close id)
  | .closeHalf d => return .ofResult (fun _ => .done) (← Program.closeHalf id d)
  | .seek target => return .ofResult .size (← Program.seek id target)
  | .tell => return .ofOption .size (← Program.tell id)
  | .setBlocking on => return .ofResult (fun _ => .done) (← Program.setBlocking id on)
  | .getOption dns name => do
    match ← Program.getOption id dns name with
    | .error r => return .report r
    | .ok value => return .option (← optionShown id value)
  | .getOptions dns => do
    match ← Program.getOptions id dns with
    | .error r => return .report r
    | .ok listing => do
      let shown ← listing.mapM fun (name, value) => return (name, ← optionShown id value)
      return .text (OptionListing.render shown)
  | .setOption name value =>
    return .ofResult (fun _ => .done) (← Program.setOption id name value)
  | .createHandler mask routine => do
    let r ← enrol routine none false
    let handler ← Program.createHandler id mask (.routine r)
    alter fun s => { s with handlers := s.handlers.put routine.label (id, handler) }
    return .done
  | .addCloseRoutine routine => do
    let r ← enrol routine none false
    Program.act (.addCloseAction id (.routine r))
    return .done
  | .notify raised => do
    Program.notify id raised
    return .done
  | .handle d => return .ofOption .number (← Program.act (.handle id d))
  | .cut => do
    Program.cut id
    return .done
  | .splice loop =>
    withFound (·.loops.meaning? loop) .loop fun loop => do
      Program.splice id loop
      return .done
  | .capture => return .ofResult .bytes (← Program.captureOutput id)

/-- Carries out a command on a scripted driver. -/
def DriverAction.perform (name : String) (action : DriverAction) : Program Scene Reply :=
  withFound (fun s => (s.driven.meaning? name).bind fun id => (s.drivers.lookup id).map (id, ·))
    .channel fun (id, d) =>
      match action with
      | .change c => do
        alter (·.setDriver id (d.change c))
        return .done
      | .written => return .bytes d.written.toBytes
      | .notify raised => do
        if !d.plain then Program.notifyFromDriver id raised
        return .done

/-- Deletes the latest handler with a label. Deleting it again does nothing. -/
def deleteLabelled (label : String) : Program Scene Reply :=
  withFound (·.handlers.meaning? label) .handler fun (id, handler) =>
    Program.referring (.channel id) do
      Program.deleteHandler id handler
      return .done

/-- Refers to a channel no longer. -/
def dropChannel (name : String) : Program Scene Reply := do
  let known ← ask fun s => (s.channels.meaning? name).isSome
  alter fun s => { s with channels := s.channels.forget name }
  return .truth known

def copyBetween (source target : String) (limit? : Option Nat) : Program Scene Reply :=
  withChannel source fun source => withChannel target fun target =>
    return .ofResult .size (← Program.copy source target limit?)

def startCopy (source target : String) (limit? : Option Nat) (onDone : Routine Command) :
    Program Scene Reply :=
  withChannel source fun source => withChannel target fun target => do
    let r ← enrol onDone none false
    return .ofResult (fun _ => .done) (← Program.copyInBackground source target limit? r)

end EventChannel.Session
