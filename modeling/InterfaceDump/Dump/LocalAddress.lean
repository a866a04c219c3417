import InterfaceDump.Dump.Interface
import InterfaceDump.Error

/-! The address a socket on an interface is bound to.

It is the interface's first address of the wanted family, with the wanted port. A
link-local IPv6 address means nothing without a scope, so one that was stored
without it is scoped to the interface. -/
namespace InterfaceDump

/-- The name a family goes by in messages. -/
def Family.label : Family → String
  | inet => "IPv4"
  | inet6 => "IPv6"
  | _ => "IP"

/-- fe80::/10, told by the first group. -/
def Ip.V6.isUnicastLinkLocal (ip : Ip.V6) : Bool := Bytes.u16be ip.octets 0 &&& 0xffc0 == 0xfe80

namespace Interface

/-- The scope of an IPv6 address on this interface. -/
def scopeOf (i : Interface) (a : SocketV6) : UInt32 :=
  if a.scopeId = 0 ∧ a.ip.isUnicastLinkLocal then i.index else a.scopeId

/-- The first address of an internet family, with a port of its own. -/
def localAddress? (i : Interface) (family : Family) (port : UInt16) : Option SockAddr :=
  match family with
  | .inet => i.ipv4Addresses.head?.map fun a => .v4 ⟨a.ip, port⟩
  | .inet6 => i.ipv6Addresses.head?.map fun a => .v6 ⟨a.ip, port, 0, i.scopeOf a⟩
  | _ => none

def localAddress (i : Interface) (family : Family) (port : UInt16) : Except Failure SockAddr :=
  match i.localAddress? family port with
  | some a => .ok a
  | none => .error (.noAddress family.label i.index)

end Interface

end InterfaceDump
