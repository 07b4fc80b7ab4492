import EventChannel.Session.Scene

/-! What the commands on event loops and on pairs of descriptors come to. -/

namespace EventChannel.Session

/-- Does something to an event loop and keeps it. -/
def runCommand (command : LoopCommand) : Program Scene Unit := do
  alter (·.note command)
  Program.act (.command command)

/-- Passes over an event loop, one after the other, with how many handlers each called. -/
def passes (loop : LoopId) : Nat → ExceptT Report (Program Scene) (List Nat)
  | 0 => return []
  | times + 1 => do
    let called ← ExceptT.mk (Program.pass loop)
    return called :: (← passes loop times)

/-- The descriptor of a channel: the one it has, or else the one that was last given its name. -/
def channelDescriptor? (name : String) : Program Scene (Option Descriptor) := do
  let own? ← match ← ask (·.channels.meaning? name) with
    | some id => Program.act (.handle id .read)
    | none => pure none
  match own? with
  | some fd => return some fd
  | none => ask (·.descriptors.meaning? name)

def findDescriptor? : DescriptorName → Program Scene (Option Descriptor)
  | .number fd => return some fd
  | .of name => ask (·.descriptors.meaning? name)
  | .channel name => channelDescriptor? name

def withDescriptor (name : DescriptorName) (f : Descriptor → Program Scene Reply) :
    Program Scene Reply := do
  match ← findDescriptor? name with
  | some fd => f fd
  | none => return .missing .descriptor

/-- Calls a handler directly, if there is one. -/
def fireHandler (loop : LoopId) (fd : Descriptor) (ready : Interest) (stale : Bool) :
    Program Scene Reply := do
  let handler? ← ask fun s =>
    let r := s.handlerRecord loop
    if stale then r.stale.lookup fd else r.live.lookup fd
  match handler? with
  | none => return .truth false
  | some handler => do
    Program.invoke (.fire handler ready)
    return .truth true

/-- Carries out a command on an event loop that is there. -/
def performIn (loop : LoopId) : LoopAction Command → Program Scene Reply
  | .create => return .done
  | .createHandler fd mask routine =>
    withDescriptor fd fun fd => do
      let r ← enrol routine none false
      runCommand (.create loop fd mask (.routine r))
      return .done
  | .deleteHandler fd =>
    withDescriptor fd fun fd => do
      runCommand (.delete loop fd)
      return .done
  | .pump times => do
    match ← (passes loop times).run with
    | .ok counts => return .counts counts
    | .error r => return .report r
  | .registered fd =>
    withDescriptor fd fun fd =>
      return .ofOption (fun mask => .text mask.text) ((← Program.act (.loop loop)).registered? fd)
  | .size => return .loop (← Program.act (.loop loop)).entries.length
  | .fire fd ready stale => withDescriptor fd fun fd => fireHandler loop fd ready stale

/-- Carries out a command on an event loop. -/
def LoopAction.perform (name : String) : LoopAction Command → Program Scene Reply
  | .create => do
    let loop ← Program.act .newLoop
    alter fun s => { s with loops := s.loops.add name loop }
    return .done
  | action => withFound (·.loops.meaning? name) .loop fun loop => performIn loop action

/-- Closes the end of a pair that has a name; answers whether there was one. -/
def closeEnd (name : String) : Program Scene Bool := do
  match ← ask (·.pairEnds.meaning? name) with
  | none => return false
  | some fd => do
    Scene.site.onNet fun host => ((), host.closePair fd)
    alter fun s => { s with pairEnds := s.pairEnds.forget name }
    return true

/-- Enters an end of a pair under a name. An earlier end of that name is closed. -/
def enterEnd (name : String) (fd : Descriptor) : Program Scene Unit := do
  let _ ← closeEnd name
  alter fun s =>
    { s with pairEnds := s.pairEnds.put name fd, descriptors := s.descriptors.add name fd }

/-- Makes a pair of connected descriptors. -/
def createPair (a b : String) : Program Scene Reply := do
  let (first, second) ← Scene.site.onNet OfflineHost.pair
  enterEnd a first
  enterEnd b second
  return .done

/-- Does something with an end of a pair that is not closed yet. -/
def withEnd (name : String) (f : Descriptor → Program Scene Reply) : Program Scene Reply :=
  withFound (·.pairEnds.meaning? name) .descriptor f

/-- Carries out a command on an end of a pair. Closing answers whether there was something to
close. -/
def PairAction.perform (name : String) : PairAction → Program Scene Reply
  | .write bytes =>
    withEnd name fun fd => do
      match ← Scene.site.onNet (·.writePair fd bytes) with
      | .ok n => return .number n
      | .error e => return .failure e
  | .read n =>
    withEnd name fun fd => do
      match ← Scene.site.onNet (·.readPair fd n) with
      | .ok bytes => return .bytes bytes
      | .error e => return if e.isWouldBlock then .text "WouldBlock" else .failure e
  | .close => return .truth (← closeEnd name)

/-- The conditions, of some, that a descriptor is in. -/
def pollDescriptor (name : DescriptorName) (mask : Interest) : Program Scene Reply :=
  withDescriptor name fun fd => return .text (← ask fun s => s.tcp.net.ready fd ∩ mask).text

end EventChannel.Session
