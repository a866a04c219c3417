import InterfaceDump.Text.Utf8
import InterfaceDump.Ip.V6
import InterfaceDump.Address.Family

/-! Socket addresses.

An address of an interface is an IPv4 or IPv6 socket address, a link-layer
address that carries the interface's index, name and hardware address, or an
address of another family kept as its octets. -/
namespace InterfaceDump

structure SocketV4 where
  ip : Ip.V4
  port : UInt16
deriving DecidableEq

structure SocketV6 where
  ip : Ip.V6
  port : UInt16
  flowInfo : UInt32
  /-- The interface the address is scoped to, zero for none. -/
  scopeId : UInt32
deriving DecidableEq

structure LinkAddress where
  /-- The index of the interface the record describes. -/
  index : UInt16
  /-- The interface type code. -/
  linkType : UInt8
  name : String
  hardware : Bytes
deriving DecidableEq

/-- An address of any family: the octets after its length and family tag. -/
structure OpaqueAddress where
  family : UInt8
  data : Bytes
deriving DecidableEq

inductive SockAddr where
  | v4 (address : SocketV4)
  | v6 (address : SocketV6)
  | link (address : LinkAddress)
  | other (address : OpaqueAddress)
deriving DecidableEq

/-- The interface type code of Ethernet. -/
def LinkAddress.ethernetType : UInt8 := 6

def LinkAddress.isEthernet (a : LinkAddress) : Bool := a.linkType == ethernetType

namespace SockAddr

def family : SockAddr → Family
  | v4 _ => .inet
  | v6 _ => .inet6
  | link _ => .link
  | other a => .ofCode a.family

def v4? : SockAddr → Option SocketV4
  | v4 a => some a
  | _ => none

def v6? : SockAddr → Option SocketV6
  | v6 a => some a
  | _ => none

/-! ### Ranges

Only internet addresses fall into a range. -/

def isMulticast : SockAddr → Bool
  | v4 a => a.ip.isMulticast
  | v6 a => a.ip.isMulticast
  | _ => false

def isLoopback : SockAddr → Bool
  | v4 a => a.ip.isLoopback
  | v6 a => a.ip.isLoopback
  | _ => false

def isWildcard : SockAddr → Bool
  | v4 a => a.ip.isWildcard
  | v6 a => a.ip.isWildcard
  | _ => false

def isLinkLocal : SockAddr → Bool
  | v4 a => a.ip.isLinkLocal
  | v6 a => a.ip.isLinkLocal
  | _ => false

end SockAddr

end InterfaceDump
