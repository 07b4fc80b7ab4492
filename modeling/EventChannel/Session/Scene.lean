import EventChannel.Program.Setting
import EventChannel.Session.Command
import EventChannel.Session.OfflineHost
import EventChannel.Session.Reply
import EventChannel.Tcp.Transport

/-! The environment of a session: the drivers and the host behind its channels, its routines, what
its names stand for, and the log of the command that is being carried out. -/

namespace EventChannel.Session

/-- Names with what they stand for. -/
abbrev Names (α : Type) := List (String × α)

namespace Names

variable {α : Type}

def meaning? (names : Names α) (name : String) : Option α := names.lookup name

def forget (names : Names α) (name : String) : Names α := names.filter (·.1 != name)

/-- Gives a name a meaning. An earlier one stays behind it. -/
def add (names : Names α) (name : String) (a : α) : Names α := (name, a) :: names

/-- Gives a name a meaning, in the place of an earlier one. -/
def put (names : Names α) (name : String) (a : α) : Names α :=
  if names.any (·.1 == name) then
    names.map fun (other, b) => (other, if other == name then a else b)
  else names ++ [(name, a)]

end Names

/-- A routine of the session with how often it has been called. -/
structure Enrolled where
  routine : Routine Command
  /-- What the routine fails with, if it is a script that fails. -/
  failure? : Option String := none
  /-- The channels it is called for get names, made from its label. -/
  namesChannels : Bool := false
  calls : Nat := 0

namespace Enrolled

/-- The commands that the next call carries out. -/
def acts (e : Enrolled) : List (String × Command) :=
  if e.calls < e.routine.times then e.routine.acts else []

end Enrolled

/-- The handlers that an event loop was given: those in place, and for each descriptor the last one
that was replaced or taken out. -/
structure HandlerRecord where
  live : List (Descriptor × FileHandler) := []
  stale : List (Descriptor × FileHandler) := []

namespace HandlerRecord

def without (handlers : List (Descriptor × FileHandler)) (fd : Descriptor) :
    List (Descriptor × FileHandler) := handlers.filter (·.1 != fd)

/-- The handler in place becomes a stale one. -/
def retire (r : HandlerRecord) (fd : Descriptor) : HandlerRecord :=
  match r.live.lookup fd with
  | none => r
  | some handler => { live := without r.live fd, stale := (fd, handler) :: without r.stale fd }

def note (r : HandlerRecord) : LoopCommand → HandlerRecord
  | .create _ fd _ handler =>
    let r := r.retire fd
    { r with live := (fd, handler) :: r.live }
  | .delete _ fd => r.retire fd

end HandlerRecord

/-- A raw socket: either it listens, or it is connected. -/
structure RawSocket where
  socket : Socket
  listens : Bool

/-- The environment of a session. -/
structure Scene where
  /-- The entries logged since the current command began, the latest first. -/
  log : List LogEntry := []
  drivers : List (ChannelId × ScriptedDriver) := []
  tcp : TcpEnv OfflineHost := { net := {} }
  routines : List Enrolled := []
  handlerRecords : List (LoopId × HandlerRecord) := []
  channels : Names ChannelId := []
  /-- The channels of scripted drivers. A driver can be reached when its channel is gone. -/
  driven : Names ChannelId := []
  /-- The latest handler with each label. It keeps its channel. -/
  handlers : Names (ChannelId × HandlerId) := []
  interps : Names InterpId := []
  records : Names RecordId := []
  /-- All loops that there have been, the latest first. -/
  loops : Names LoopId := []
  transports : Names Transport := []
  /-- The ends of pairs that are open. -/
  pairEnds : Names Descriptor := []
  /-- All names that descriptors have been given, the latest first. -/
  descriptors : Names Descriptor := []
  rawSockets : Names RawSocket := []
  /-- All ports that have been seen with the sockets they were seen at, the latest first. -/
  ports : Names Port := []
  /-- The names of stream channels in the session, by their own. -/
  streams : Names String := []

namespace Scene

def write (s : Scene) (entry : LogEntry) : Scene := { s with log := entry :: s.log }

def line (s : Scene) (text : String) : Scene := s.write (.line text)

/-- What the session refers to. A listening stream channel refers to its accept record. -/
def refersTo (s : Scene) : Entity → Bool
  | .channel id => s.channels.any (·.2 == id) || s.handlers.any (·.2.1 == id)
  | .copy _ => false
  | .interp id => s.interps.any (·.2 == id)
  | .record id =>
    s.records.any (·.2 == id) || s.tcp.states.any fun (_, t) => t.accept? == some (.record id)

def setDriver (s : Scene) (id : ChannelId) (d : ScriptedDriver) : Scene :=
  { s with drivers := (id, d) :: s.drivers.filter (·.1 != id) }

def handlerRecord (s : Scene) (loop : LoopId) : HandlerRecord :=
  (s.handlerRecords.lookup loop).getD {}

def nameOf {α : Type} [BEq α] (names : Names α) (a : α) : String :=
  ((names.find? (·.2 == a)).map (·.1)).getD "?"

/-- How the registration of a descriptor is shown. -/
def registrationLine (s : Scene) (loop : LoopId) (fd : Descriptor) (mask : Interest) : String :=
  nameOf s.loops loop ++ ".create(" ++ nameOf s.descriptors fd ++ "," ++ mask.text ++ ")"

/-- Logs what is done to an event loop. -/
def logCommand (s : Scene) : LoopCommand → Scene
  | .create loop fd mask _ => s.write (.registered loop fd mask)
  | .delete loop fd =>
    s.line (nameOf s.loops loop ++ ".delete(" ++ nameOf s.descriptors fd ++ ")")

/-- Keeps what is done to an event loop. -/
def note (s : Scene) (command : LoopCommand) : Scene :=
  let loop := match command with
    | .create loop .. | .delete loop _ => loop
  let s := s.logCommand command
  { s with handlerRecords :=
      (loop, (s.handlerRecord loop).note command) :: s.handlerRecords.filter (·.1 != loop) }

/-- A text with the names of stream channels as the session has them. -/
def shown (s : Scene) (text : String) : String :=
  s.streams.foldl (fun text (own, name) => text.replace own name) text

/-- A port as the session shows it: by the first socket that was seen to have it. -/
def portText (s : Scene) (port : String) : String :=
  match s.ports.reverse.find? fun (_, known) => toString known.toNat == port with
  | some (name, _) => "port(" ++ name ++ ")"
  | none => port

/-- An option of a stream channel as the session shows it: in lists of addresses, names for the
ports. -/
def portsShown (s : Scene) : OptionValue → OptionValue
  | .text value => .text value
  | .list items => .list (items.zipIdx.map fun (item, i) =>
      if i % 3 = 2 then s.portText item else item)

/-- The raw socket of a name, if it is one that listens, or else one that does not. -/
def rawSocket? (s : Scene) (listens : Bool) (name : String) : Option Socket :=
  match s.rawSockets.meaning? name with
  | none => none
  | some raw => if raw.listens = listens then some raw.socket else none

def portNumber (s : Scene) : PortName → Port
  | .number port => port
  | .of name => (s.ports.meaning? name).getD 0

def serviceText (s : Scene) : ServiceName → String
  | .text service => service
  | .of name => toString ((s.ports.meaning? name).getD 0).toNat

/-- The place of the stream channels in a scene. -/
def site : TcpSite Scene OfflineHost where
  system := OfflineHost.system
  get := (·.tcp)
  set tcp s := { s with tcp }
  note command s := s.note command

/-- The driver of a channel: the scripted one that it was opened with, else that of streams. -/
def driver (id : ChannelId) : Driver Scene := fun call s =>
  match s.drivers.lookup id with
  | none => site.driver id call s
  | some d =>
    let (served, line?, commands) := d.answer call
    let s := s.setDriver id served.driver
    let s := match line? with
      | some text => s.line (d.label ++ "." ++ text)
      | none => s
    { answer := served.answer, env := commands.foldl note s, raised := served.raised, commands }

/-- What a session stands in. -/
def surroundings : Surroundings Scene where
  driver := driver
  ready fd s := s.tcp.net.ready fd
  users := refersTo

end Scene

/-- Looks something up in the scene. -/
def ask {α : Type} (f : Scene → α) : Program Scene α := .act (.env fun s => (f s, s))

/-- Changes the scene. -/
def alter (f : Scene → Scene) : Program Scene Unit := .act (.env fun s => ((), f s))

/-- Does something with what a name stands for. -/
def withFound {α : Type} (find : Scene → Option α) (m : Missing) (f : α → Program Scene Reply) :
    Program Scene Reply := do
  match ← ask find with
  | some a => f a
  | none => return .missing m

/-- Does something with a channel, which lasts meanwhile. -/
def withChannel (name : String) (f : ChannelId → Program Scene Reply) : Program Scene Reply :=
  withFound (·.channels.meaning? name) .channel fun id => .referring (.channel id) (f id)

/-- Does something with an interpreter, which lasts meanwhile. -/
def withInterp (name : String) (f : InterpId → Program Scene Reply) : Program Scene Reply :=
  withFound (·.interps.meaning? name) .interp fun i => .referring (.interp i) (f i)

/-- Enters a routine. -/
def enrol (routine : Routine Command) (failure? : Option String) (namesChannels : Bool) :
    Program Scene RoutineId :=
  .act <| .env fun s =>
    (s.routines.length,
      { s with routines := s.routines ++ [{ routine, failure?, namesChannels }] })

end EventChannel.Session
