import EventChannel.Session.Channel
import EventChannel.Session.Interp
import EventChannel.Session.Loop
import EventChannel.Session.Stream

/-! Commands carried out one after the other, each with its answer, what was logged meanwhile and
what the channels are like afterwards. -/

namespace EventChannel.Session

/-- Carries out a command. -/
def Command.perform : Command → Program Scene Reply
  | .open name request => openChannel name request
  | .channel name action => withChannel name fun id => action.perform id
  | .driver name action => action.perform name
  | .drop name => dropChannel name
  | .sameChannel a b =>
    withChannel a fun a => withChannel b fun b => return .truth (a == b)
  | .deleteHandler label => deleteLabelled label
  | .copy source target limit? => copyBetween source target limit?
  | .copyInBackground source target limit? onDone => startCopy source target limit? onDone
  | .interp name action => action.perform name
  | .sameInterp a b =>
    withFound (·.interps.meaning? a) .interp fun a =>
      withFound (·.interps.meaning? b) .interp fun b => return .truth (a == b)
  | .record name action => action.perform name
  | .loop name action => action.perform name
  | .pair a b => createPair a b
  | .pairEnd name action => action.perform name
  | .poll fd mask => pollDescriptor fd mask
  | .transport name request => createTransport name request
  | .stream name via request =>
    withFound (·.transports.meaning? via) .transport fun t => request.perform name t
  | .await socket mask => awaitSocket socket mask
  | .raw name action => action.perform name

/-- Forgets the stream channels, of some, that nothing keeps any more. -/
def sweepAmong : List ChannelId → Program Scene Unit
  | [] => .done ()
  | id :: rest => do
    if !(← Program.act (.isKept id)) then
      alter fun s => { s with tcp := s.tcp.forget OfflineHost.system id }
    sweepAmong rest

/-- Forgets the stream channels that nothing keeps any more. -/
def sweep : Program Scene Unit := do
  sweepAmong (← ask (·.tcp.states.map (·.1)))

/-- Carries out the commands of a routine. What has gone meanwhile is gone before each. -/
def performActs : List (String × Command) → Program Scene Unit
  | [] => .done ()
  | (word, command) :: rest => do
    sweep
    let reply ← command.perform
    alter (·.write (.act word reply))
    performActs rest

/-- Counts a call of a routine; answers with the routine as it was before. -/
def countCall (id : RoutineId) : Program Scene (Option Enrolled) :=
  .act <| .env fun s =>
    (s.routines[id]?,
      { s with routines := s.routines.modify id fun e => { e with calls := e.calls + 1 } })

/-- Calls a routine: an entry is logged, then its commands are carried out. -/
def callRoutine (id : RoutineId) (entry : String → LogEntry) : Program Scene Unit := do
  match ← countCall id with
  | none => return ()
  | some e => do
    alter (·.write (entry e.routine.label))
    performActs e.acts

/-- The name of the channel that a routine is called for. If the routine names its channels, the
channel gets the next name. -/
def channelName (e : Enrolled) (id : ChannelId) : Program Scene String := do
  let own := (← Program.look id).name
  if e.namesChannels then
    let name := e.routine.label ++ "." ++ toString (e.calls + 1)
    alter fun s =>
      let fd? := (s.tcp.state? id).bind (·.sockets.head?)
      { s with
        channels := s.channels.put name id
        streams := s.streams.put own name
        descriptors := match fd? with
          | some socket => s.descriptors.add name (Socket.descriptor socket)
          | none => s.descriptors }
    return name
  else return own

/-- Runs the script of a listening channel. -/
def runScript (id : RoutineId) (interp : InterpId) (channel : ChannelId) (host : String)
    (port : Port) : Program Scene (Except Report Unit) := do
  match ← countCall id with
  | none => return .ok ()
  | some e => do
    let own := (← Program.look channel).name
    let name ← channelName e channel
    let registered := (← Program.act (.interp interp)).contains own
    let port ← ask (·.portText (toString port.toNat))
    alter (·.line (e.routine.label ++ " script " ++ name ++ " " ++ host ++ " " ++ port ++
      " registered=" ++ toString registered))
    performActs e.acts
    match e.failure? with
    | some message => return .error { code := "test.accept", message }
    | none => return .ok ()

/-- Welcomes a connection that no interpreter is told of. -/
def welcomeArrival (id : RoutineId) (channel : ChannelId) (host : String) (port : Port) :
    Program Scene Unit := do
  match ← countCall id with
  | none => return ()
  | some e => do
    let name ← channelName e channel
    let port ← ask (·.portText (toString port.toNat))
    alter (·.line (e.routine.label ++ " accepted " ++ name ++ " " ++ host ++ " " ++ port))
    performActs e.acts

/-- What the routines of a session do. -/
def routine : (u : UserCall) → Program Scene u.Answer
  | .event r _ ready => callRoutine r fun label => .line (label ++ " " ++ ready.text)
  | .closing r => callRoutine r fun label => .line (label ++ " closing")
  | .completed r total error? => callRoutine r fun label => .completed label total error?
  | .script r interp channel host port => runScript r interp channel host port
  | .arrival r channel host port => welcomeArrival r channel host port
  | .ready r raised => callRoutine r fun label => .line (label ++ " " ++ raised.text)

/-- The setting of a session. -/
def setting : Setting Scene :=
  { Scene.surroundings with routine, fire := Scene.site.fire }

/-- A command on its own, from an empty log on. -/
def play (command : Command) : Program Scene Reply := do
  alter ({ · with log := [] })
  let reply ← command.perform
  sweep
  return reply

/-- The state of a channel in one line. -/
def stateText (c : Channel) : String :=
  let flag := fun (on : Bool) => if on then "1" else "0"
  let mode :=
    if c.mode = .none then "none"
    else (if c.mode.readable then "r" else "") ++ (if c.mode.writable then "w" else "")
  mode ++ " blocking=" ++ flag c.blocking ++ " eof=" ++ flag c.eof ++ " blocked=" ++
    flag c.blocked ++ " in=" ++ toString c.input.length ++ " out=" ++ toString c.output.size ++
    " buf=" ++ toString c.bufferSize ++ " closed=" ++ flag (!c.isOpen) ++ " copying=" ++
    flag c.copying ++ " refs=" ++ toString c.references

/-- What a command came to. -/
structure Outcome where
  reply : Reply
  log : List LogEntry
  /-- The channels of the session, each with its state. -/
  states : List (String × String)
  /-- How texts are shown. -/
  shown : String → String

def outcome (reply : Reply) (w : World Scene) : Outcome where
  reply := reply
  log := w.env.log.reverse.map fun entry => match entry with
    | .registered loop fd mask => .line (w.env.registrationLine loop fd mask)
    | other => other
  states := w.env.channels.map fun (name, id) => (name, stateText (w.channel id))
  shown := w.env.shown

/-- How deep calls may nest in a session. -/
def depth : Nat := 1000000

/-- Carries out a command. Nothing comes of one whose calls nest too deep. -/
def step (command : Command) (w : World Scene) : Option (Outcome × World Scene) :=
  (setting.exec depth (play command) w).map fun (reply, w) => (outcome reply w, w)

/-- Carries out commands one after the other, up to the first that nothing comes of. -/
def run : List Command → World Scene → List Outcome
  | [], _ => []
  | command :: rest, w =>
    match step command w with
    | none => []
    | some (o, w) => o :: run rest w

/-- The outcomes of commands in a fresh world. -/
def outcomes (commands : List Command) : List Outcome := run commands { env := {} }

/-- Whether a command may call several parties in an order that is left open. -/
def Command.hasOpenOrder : Command → Reply → Bool
  | .interp _ .releaseAll, _ | .interp _ .delete, _ => true
  | .loop _ (.pump _), .counts called => called.any (1 < ·)
  | _, _ => false

end EventChannel.Session
