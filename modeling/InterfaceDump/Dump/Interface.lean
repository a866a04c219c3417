import InterfaceDump.Dump.Extract

/-! The interfaces of a dump.

An `Interface` is a view: the dump it comes from, its own message, and the range
from that message to the next interface. Nothing is decoded before it is asked
for, so every attribute is a function of the view. A link-layer address that is
missing, unreadable or meant for another interface costs the interface its name
and hardware address, and nothing else. -/
namespace InterfaceDump

structure Interface where
  /-- The octets of the whole dump. -/
  data : Bytes
  message : InterfaceMessage
  /-- Where the interface's own message starts. -/
  start : Nat
  /-- Where the next interface starts, or the end of the dump. -/
  stop : Nat
deriving DecidableEq

namespace Interface

def position (i : Interface) : Nat := i.start

def link? (i : Interface) : Option LinkAddress := i.message.linkAddress?

/-- The range of the interface's own message. -/
def record (i : Interface) : Span := ⟨i.start, i.start + i.message.recordLength⟩

/-- The addresses of a kind, in the order of the dump. -/
def extract (i : Interface) (kind : AddressKind) : List SockAddr :=
  extractAddresses i.data kind i.record i.stop

/-! ### Identity -/

/-- The index in the link-layer address, or else the one in the message. -/
def index (i : Interface) : UInt32 :=
  match i.link? with
  | some link => link.index.toUInt32
  | none => i.message.index.toUInt32

/-- The name in the link-layer address; empty where there is none. -/
def name (i : Interface) : String :=
  match i.link? with
  | some link => link.name
  | none => ""

/-- Interfaces are told apart by their index alone. -/
def same (i j : Interface) : Bool := i.index == j.index

/-- Equal interfaces have equal keys. -/
def key (i : Interface) : UInt32 := i.index

/-! ### Settings and counters -/

def interfaceType (i : Interface) : InterfaceType := i.message.linkData.interfaceType

def options (i : Interface) : Options := i.message.options

def mtu (i : Interface) : UInt32 := i.message.linkData.mtu

def metric (i : Interface) : UInt32 := i.message.linkData.metric

def baudRate (i : Interface) : UInt32 := i.message.linkData.baudRate

def physicalPort (i : Interface) : UInt8 := i.message.linkData.physical

def statistics (i : Interface) : LinkStatistics := i.message.linkData.statistics

/-! ### Hardware address -/

/-- The hardware address, if the link-layer address carries one. -/
def hardware? (i : Interface) : Option Bytes :=
  (i.link?.map (·.hardware)).filter (!·.isEmpty)

/-- Whether the link-layer address is of type Ethernet, whatever the interface's
own type is. -/
def isEthernetCompatible (i : Interface) : Bool := i.link?.any (·.isEthernet)

/-! ### Addresses -/

/-- The addresses of every family. -/
def addresses (i : Interface) : List SockAddr := i.extract .address

def ipv4Addresses (i : Interface) : List SocketV4 := i.addresses.filterMap (·.v4?)

def ipv6Addresses (i : Interface) : List SocketV6 := i.addresses.filterMap (·.v6?)

/-- The first IPv4 mask. -/
def ipv4Netmask? (i : Interface) : Option Ip.V4 :=
  ((i.extract .netmask).findSome? (·.v4?)).map (·.ip)

/-- The IPv6 masks, in the order of the dump. -/
def ipv6Netmasks (i : Interface) : List Ip.V6 :=
  ((i.extract .netmask).filterMap (·.v6?)).map (·.ip)

def ipv6PrefixLengths (i : Interface) : List UInt8 :=
  i.ipv6Netmasks.map fun mask => UInt8.ofNat (prefixLength mask.octets)

/-- The first readable broadcast or destination address. -/
def sharedSlot? (i : Interface) : Option SockAddr := (i.extract .broadcastOrDestination).head?

/-- Whether the shared slot is a broadcast address: a point-to-point link has none. -/
def hasBroadcast (i : Interface) : Bool :=
  i.options.contains Options.broadcast && !i.options.isPointToPoint

def broadcastAddress? (i : Interface) : Option SockAddr :=
  if i.hasBroadcast then i.sharedSlot? else none

/-- The address of the peer on a point-to-point link. -/
def destinationAddress? (i : Interface) : Option SockAddr :=
  if i.options.isPointToPoint then i.sharedSlot? else none

end Interface

end InterfaceDump
