import EventChannel.Copy
import EventChannel.Resolver
import EventChannel.Session.ScriptedDriver

/-! What can be asked for in a session. Everything in a session goes by a name that the session gave
it; routines are given together with the commands they carry out when they are called. -/

namespace EventChannel.Session

/-- A routine: what its calls are logged under, and the commands carried out on the first `times`
calls, each with the word it was asked for by. -/
structure Routine (γ : Type) where
  label : String
  acts : List (String × γ) := []
  times : Nat := 1

/-- A port, or that of a socket of the session. -/
inductive PortName
  | number (port : Port)
  | of (socket : String)

/-- A service, or the port of a socket of the session. -/
inductive ServiceName
  | text (service : String)
  | of (socket : String)

/-- A descriptor: a number, that of something in the session, or that of a channel. -/
inductive DescriptorName
  | number (descriptor : Descriptor)
  | of (name : String)
  | channel (name : String)

/-- A channel with a scripted driver that is to be opened. -/
structure OpenRequest where
  mode : Mode
  plain : Bool := false
  /-- The name of the channel itself, if not that in the session. -/
  realName? : Option String := none
  bufferSize? : Option Int := none
  blocking? : Option Bool := none
  setup : ScriptedDriver.Change := {}

/-- What can be asked of a channel. -/
inductive ChannelAction (γ : Type)
  | debug
  | read (n : Nat)
  | write (bytes : Bytes)
  | flush
  | close
  | closeHalf (d : Direction)
  | seek (target : SeekTarget)
  | tell
  | setBlocking (on : Bool)
  | getOption (reverseDns : Bool) (name : String)
  | getOptions (reverseDns : Bool)
  | setOption (name value : String)
  | createHandler (mask : Interest) (routine : Routine γ)
  | addCloseRoutine (routine : Routine γ)
  | notify (raised : Interest)
  | handle (d : Direction)
  | cut
  | splice (loop : String)
  | capture

/-- What can be asked of a scripted driver. -/
inductive DriverAction
  | change (c : ScriptedDriver.Change)
  /-- What has been written so far. -/
  | written
  | notify (raised : Interest)

/-- What can be asked of an interpreter. -/
inductive InterpAction (γ : Type)
  | create
  | register (channel : String)
  | unregister (name : String)
  | lookup (name : String)
  | contains (name : String)
  | names (pattern? : Option String) (sorted : Bool)
  | releaseAll
  | delete
  | setVariable (name : String) (value? : Option String)
  | getVariable (name : String)
  | reverseDns
  | addBackgroundError (code message : String)
  | takeBackgroundErrors
  | describe
  /-- Makes an accept record, whose script fails with a text if there is one. -/
  | record (name : String) (script : Routine γ) (failure? : Option String)

/-- What can be asked of an accept record. -/
inductive RecordAction
  | accept (channel host : String) (port : Port)
  | detach
  | describe
  | drop

/-- What can be asked of an event loop. -/
inductive LoopAction (γ : Type)
  | create
  | createHandler (descriptor : DescriptorName) (mask : Interest) (routine : Routine γ)
  | deleteHandler (descriptor : DescriptorName)
  | pump (times : Nat)
  | registered (descriptor : DescriptorName)
  | size
  /-- Calls a handler: the one in place, or the last one that was replaced or taken out. -/
  | fire (descriptor : DescriptorName) (ready : Interest) (stale : Bool)

/-- What can be asked of one end of a pair of descriptors. -/
inductive PairAction
  | write (bytes : Bytes)
  | read (n : Nat)
  | close

/-- How stream channels of a transport are opened. -/
structure TransportRequest where
  loop : String
  names? : Option NameService.Table
  testMode : Bool := false

/-- What a server is to listen on. -/
structure ServerRequest where
  service : ServiceName
  host? : Option String := none
  options : ListenOptions := {}

/-- What a client is to connect to, and from where. -/
structure ClientRequest where
  host : String
  port : PortName
  localHost? : Option String := none
  localPort : PortName := .number 0
  async : Bool := false

/-- How a stream channel is opened. -/
inductive StreamRequest (γ : Type)
  | server (request : ServerRequest) (accepted : Routine γ)
  | client (request : ClientRequest)
  /-- As a script asks for it; the service and the local port may be those of sockets. -/
  | script (interp : String) (request : SocketRequest) (service? localPort? : Option String)
      (accepted? : Option (Routine γ × Option String))
  /-- For a raw socket that is connected already. -/
  | adopt (raw : String) (mode : Mode)

/-- What can be asked of a raw socket. -/
inductive RawAction
  | listen (host : String) (backlog : Int)
  | accept (listener : String)
  | connect (host : String) (port : PortName)
  | send (bytes : Bytes)
  | sendUrgent (bytes : Bytes)
  | receive (n : Nat)
  | close

/-- A command. -/
inductive Command
  | open (channel : String) (request : OpenRequest)
  | channel (name : String) (action : ChannelAction Command)
  | driver (channel : String) (action : DriverAction)
  /-- Refers to a channel no longer. -/
  | drop (channel : String)
  | sameChannel (a b : String)
  /-- Deletes the latest handler with a label. -/
  | deleteHandler (label : String)
  | copy (source target : String) (limit? : Option Nat)
  | copyInBackground (source target : String) (limit? : Option Nat) (onDone : Routine Command)
  | interp (name : String) (action : InterpAction Command)
  | sameInterp (a b : String)
  | record (name : String) (action : RecordAction)
  | loop (name : String) (action : LoopAction Command)
  | pair (a b : String)
  | pairEnd (name : String) (action : PairAction)
  /-- The conditions, of some, that a descriptor is in. -/
  | poll (descriptor : DescriptorName) (mask : Interest)
  | transport (name : String) (request : TransportRequest)
  | stream (name transport : String) (request : StreamRequest Command)
  | await (socket : String) (mask : Interest)
  | raw (name : String) (action : RawAction)

end EventChannel.Session
