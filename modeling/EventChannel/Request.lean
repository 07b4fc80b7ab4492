import EventChannel.Address.Basic
import EventChannel.Report
import EventChannel.Text.Blank
import EventChannel.Text.Decimal

/-! What a script may ask for when it opens a socket, what is wrong with some requests, and the plan
that a sound request leads to. -/

namespace EventChannel

/-- What is wrong with a request, as far as no call to the system is needed to see it. -/
inductive RequestFault
  | portTooHigh
  | invalidService (text : String)
  | asyncServer
  | localPortOnServer
  | serverOnlyOptions
  | missingHost
  | missingServerCommand
  deriving DecidableEq

namespace RequestFault

def message : RequestFault → String
  | portTooHigh => "couldn't open socket: port number too high"
  | invalidService text => "expected integer but got \"" ++ text ++ "\""
  | asyncServer => "cannot set -async option for server sockets"
  | localPortOnServer => "option -myport is not valid for servers"
  | serverOnlyOptions =>
    "options -backlog, -reuseaddr, and -reuseport are only valid for servers"
  | missingHost => "no host given for client socket"
  | missingServerCommand => "no argument given for -server option"

def code : RequestFault → String
  | portTooHigh | invalidService _ => "conduit.transport.tcp.invalid_port"
  | _ => "conduit.transport.tcp.invalid_request"

def report (fault : RequestFault) : Report where
  code := fault.code
  message := fault.message
  cause := some (.stated fault.message)
  category? := some .invalidInput

end RequestFault

/-- What is known of services by their names: the port of each. -/
abbrev ServiceNames := String → Option Port

/-- No service has a name of its own. -/
def ServiceNames.none : ServiceNames := fun _ => .none

/-- The port that a number stands for, if it is not too high. -/
def portOfNumber (n : UInt32) : Except RequestFault Port :=
  if n.toNat < UInt16.size then .ok n.toUInt16 else .error .portTooHigh

/-- The port that a text names. Decimal digits spell it, any other text is the name of a service.
Blanks around either do not matter. -/
def parseService (text : String) (services : ServiceNames := .none) : Except RequestFault Port :=
  let trimmed := Text.trim text.toList
  if Text.isDecimal trimmed then
    match Text.uint32? trimmed with
    | some n => portOfNumber n
    | none => .error .portTooHigh
  else
    match services (String.ofList trimmed) with
    | some port => .ok port
    | none => .error (.invalidService text)

/-- How listening sockets are set up. -/
structure ListenOptions where
  /-- The length of the queue of connections not yet accepted; if negative, the longest possible. -/
  backlog : Int := -1
  reuseAddress : Bool := true
  reusePort : Bool := false
  deriving DecidableEq

namespace ListenOptions

/-- The longest queue that the system allows. -/
def longestQueue : Int := 4096

def queueLength (options : ListenOptions) : Int :=
  if options.backlog < 0 then longestQueue else options.backlog

end ListenOptions

/-- What a client connects to and from where. -/
structure ClientPlan where
  host : String
  port : Port
  localHost? : Option String := none
  localPort : Port := 0
  async : Bool := false
  deriving DecidableEq

/-- What a server listens on. -/
structure ServerPlan where
  service : String
  host? : Option String := none
  options : ListenOptions := {}
  deriving DecidableEq

/-- The arguments of a request for a socket, as they were given. -/
structure SocketRequest where
  server : Bool := false
  host? : Option String := none
  service : String := ""
  localHost? : Option String := none
  localPort? : Option String := none
  async : Bool := false
  reuseAddress? : Option Bool := none
  reusePort? : Option Bool := none
  backlog? : Option Int := none
  deriving DecidableEq

/-- What a sound request leads to. -/
inductive SocketPlan
  | client (plan : ClientPlan)
  | server (plan : ServerPlan)
  deriving DecidableEq

namespace SocketRequest

def hasServerOptions (request : SocketRequest) : Bool :=
  request.reuseAddress?.isSome || request.reusePort?.isSome || request.backlog?.isSome

/-- The plan of a request for a server. -/
def serverPlan (request : SocketRequest) : ServerPlan where
  service := request.service
  host? := request.localHost?
  options :=
    { backlog := request.backlog?.getD (-1)
      reuseAddress := request.reuseAddress?.getD true
      reusePort := request.reusePort?.getD false }

/-- The plan of a request. The local port is read before anything but the conflict between a
server and a connection in the background. -/
def validate (request : SocketRequest) (services : ServiceNames := .none) :
    Except RequestFault SocketPlan := do
  if request.server && request.async then throw .asyncServer
  let localPort ← match request.localPort? with
    | some text => parseService text services
    | none => pure 0
  if request.server then
    if localPort != 0 then throw .localPortOnServer
    return .server request.serverPlan
  let host := request.host?.getD ""
  if host.isEmpty then throw .missingHost
  if request.hasServerOptions then throw .serverOnlyOptions
  let port ← parseService request.service services
  return .client
    { host, port, localHost? := request.localHost?, localPort, async := request.async }

end SocketRequest

end EventChannel
