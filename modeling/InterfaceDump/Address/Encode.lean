import InterfaceDump.Address.Decode

/-! Writing socket addresses.

An address is written length and family first. The length is one octet, so at
most 255 octets can be declared; what does not fit is dropped, the end of the
hardware address before the end of the name. -/
namespace InterfaceDump
open Bytes

/-- The longest length that the length octet can declare. -/
def longestAddress : Nat := 255

/-- The shortest length a link-layer address is written with. -/
def LinkAddress.shortestLength : Nat := 20

/-- The octets of the name that are written. -/
def LinkAddress.wireName (a : LinkAddress) : Bytes :=
  (Text.Utf8.encode a.name).take (longestAddress - headerLength)

/-- The octets of the hardware address that are written, in the room the name leaves. -/
def LinkAddress.wireHardware (a : LinkAddress) : Bytes :=
  a.hardware.take (longestAddress - headerLength - a.wireName.length)

/-- Everything after the length octet, zeros up to the shortest length included. -/
def LinkAddress.wireTail (a : LinkAddress) : Bytes :=
  let filled := Family.link.code :: littleEndian 2 a.index.toNat ++
    [a.linkType, UInt8.ofNat a.wireName.length, UInt8.ofNat a.wireHardware.length, 0] ++
    a.wireName ++ a.wireHardware
  filled ++ List.replicate (shortestLength - 1 - filled.length) 0

/-- The octets of an address after its length octet. -/
def SockAddr.tail : SockAddr → Bytes
  | v4 a => Family.inet.code :: bigEndian 2 a.port.toNat ++ a.ip.octets ++ List.replicate 8 0
  | v6 a => Family.inet6.code :: bigEndian 2 a.port.toNat ++ bigEndian 4 a.flowInfo.toNat ++
      a.ip.octets ++ littleEndian 4 a.scopeId.toNat
  | link a => a.wireTail
  | other a => a.family :: a.data.take (longestAddress - 2)

/-- An address as it stands in a record: the length octet counts itself. -/
def SockAddr.encode (a : SockAddr) : Bytes := UInt8.ofNat (1 + a.tail.length) :: a.tail

end InterfaceDump
