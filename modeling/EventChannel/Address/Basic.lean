/-! Addresses of hosts in the two families, and addresses of sockets: a host and a port, and for a
host that only its own network knows the interface to that network. -/

namespace EventChannel

/-- A port number; zero leaves the choice to the system. -/
abbrev Port := UInt16

/-- The address of a host: four octets, or eight groups of sixteen bits. -/
inductive HostAddress
  | v4 (a b c d : UInt8)
  | v6 (groups : Vector UInt16 8)
  deriving DecidableEq

namespace HostAddress

def isV4 : HostAddress → Bool
  | v4 .. => true
  | v6 _ => false

/-- The address that stands for every address of its family. -/
def anyV4 : HostAddress := .v4 0 0 0 0

/-- The address that stands for every address of its family. -/
def anyV6 : HostAddress := .v6 (.replicate 8 0)

/-- The octets of an address of the old family that is embedded in one of the new. -/
def embeddedV4? : HostAddress → Option HostAddress
  | v6 groups =>
    if groups.toList.take 6 == [0, 0, 0, 0, 0, 0xffff] then
      some (.v4 (groups[6] >>> 8).toUInt8 groups[6].toUInt8 (groups[7] >>> 8).toUInt8
        groups[7].toUInt8)
    else none
  | v4 .. => none

/-- An address that stands for every address of a family, also in embedded form. -/
def isWildcard (address : HostAddress) : Bool :=
  address == anyV4 || address == anyV6 || address.embeddedV4? == some anyV4

/-- An address of the new family that stands for a group of hosts. -/
def isGroupV6 : HostAddress → Bool
  | v6 groups => groups[0] &&& 0xff00 == 0xff00
  | v4 .. => false

/-- An address of the new family that means a host only together with a network interface. -/
def isLinkLocalV6 : HostAddress → Bool
  | v6 groups => groups[0] &&& 0xffc0 == 0xfe80
  | v4 .. => false

end HostAddress

/-- The number of a network interface; zero names none. -/
abbrev Scope := UInt32

/-- The address of a socket. An address of the old family is of no scope and no flow. The flow is
not written, but addresses of different flows differ. -/
structure SocketAddress where
  host : HostAddress
  port : Port
  scope : Scope := 0
  flow : UInt32 := 0
  deriving DecidableEq

namespace SocketAddress

def isV4 (address : SocketAddress) : Bool := address.host.isV4

def withPort (address : SocketAddress) (port : Port) : SocketAddress := { address with port }

/-- The address without its scope and its flow. -/
def plain (address : SocketAddress) : SocketAddress := { address with scope := 0, flow := 0 }

@[simp] theorem isV4_withPort (address : SocketAddress) (port : Port) :
    (address.withPort port).isV4 = address.isV4 := rfl

end SocketAddress

end EventChannel
