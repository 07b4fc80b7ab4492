import EventChannel.Address.Reader
import EventChannel.Request

/-! From the host and the port asked for to the addresses to try, in the order in which to try them.
Only a host that is given by name is looked up, and it is looked up once. -/

namespace EventChannel

/-- What the addresses are wanted for. -/
inductive Purpose
  | connect | clientBind | listen
  deriving DecidableEq

/-- Whether sockets will be bound to the addresses. -/
def Purpose.binds : Purpose → Bool
  | connect => false
  | clientBind | listen => true

/-- A service that finds the addresses of a host by its name. -/
structure NameService (σ : Type) where
  lookup : String → Port → σ → Except SystemError (List SocketAddress) × σ

namespace NameService

/-- The service with a record of what it was asked, the latest question last. -/
def recorded {σ : Type} (names : NameService σ) : NameService (σ × List (String × Port)) where
  lookup host port := fun (s, asked) =>
    let (answer, s) := names.lookup host port s
    (answer, s, asked ++ [(host, port)])

/-- An address of a table of names; the port asked for goes with one that has none. -/
structure Entry where
  host : HostAddress
  port? : Option Port := none
  scope : Scope := 0

/-- The address that an entry gives to those who ask for a port. -/
def Entry.address (entry : Entry) (port : Port) : SocketAddress :=
  { host := entry.host, port := entry.port?.getD port, scope := entry.scope }

/-- What a table of names says about the hosts in it. -/
abbrev Table := List (String × Except SystemError (List Entry))

/-- The service that answers from a table and knows no other host. -/
def ofTable {σ : Type} (table : Table) : NameService σ where
  lookup host port s :=
    match table.lookup host with
    | some (.ok entries) => (.ok (entries.map (·.address port)), s)
    | some (.error e) => (.error e, s)
    | none => (.error (.stated .other "Name or service not known"), s)

end NameService

/-- The distinct elements of a list, each where it occurs first. -/
def firstOccurrences {α : Type} [BEq α] (xs : List α) : List α :=
  xs.foldl (fun seen x => if seen.contains x then seen else seen ++ [x]) []

/-- The addresses of the old family before those of the new, otherwise in the order given. -/
def v4First (addresses : List SocketAddress) : List SocketAddress :=
  addresses.filter (·.isV4) ++ addresses.filter (!·.isV4)

/-- The report of a host whose addresses were not found. -/
def resolveReport (host : String) (e : SystemError) : Report where
  code := "conduit.transport.tcp.resolve_failed"
  message := "couldn't open socket: cannot resolve \"" ++ host ++ "\": " ++ e.fullText
  cause := some (.system e)
  category? := some (if e.category = .retryable then .retryable else .nonRetryable)

/-- The addresses that a name service found, as candidates for a purpose. -/
def candidatesOf (host : String) (purpose : Purpose) :
    Except SystemError (List SocketAddress) → Except Report (List SocketAddress)
  | .error e => .error (resolveReport host e)
  | .ok found =>
    match firstOccurrences found with
    | [] => .error (resolveReport host (.stated .notFound "no address associated with name"))
    | addresses => .ok (if purpose.binds then v4First addresses else addresses)

/-- The candidates for a host and a port. -/
def resolvePort {σ : Type} (names : NameService σ) (host? : Option String) (port : Port)
    (purpose : Purpose) (s : σ) : Except Report (List SocketAddress) × σ :=
  let host := host?.getD ""
  if host.isEmpty then
    if purpose.binds then (.ok [{ host := .anyV4, port }, { host := .anyV6, port }], s)
    else (.error RequestFault.missingHost.report, s)
  else
    match HostAddress.ofText? host with
    | some address => (.ok [{ host := address, port }], s)
    | none =>
      let (found, s) := names.lookup host port s
      (candidatesOf host purpose found, s)

/-- The candidates for a host and a service. -/
def resolve {σ : Type} (names : NameService σ) (host? : Option String) (service : String)
    (purpose : Purpose) (s : σ) (services : ServiceNames := .none) :
    Except Report (List SocketAddress) × σ :=
  match parseService service services with
  | .error fault => (.error fault.report, s)
  | .ok port => resolvePort names host? port purpose s

end EventChannel
