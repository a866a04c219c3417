import InterfaceDump.Bytes
import InterfaceDump.Text.Inspect

/-! Link data: the type, settings and counters of an interface. -/
namespace InterfaceDump
open Bytes

/-! ### Interface types -/

inductive InterfaceType where
  | loopback
  | ethernet
  /-- A tunnel for IPv4 or IPv6. -/
  | genericTunnel
  /-- A tunnel for IPv6 over IPv4. -/
  | ipv6Tunnel
  | vlan
  | linkAggregate
  | firewire
  | bridge
  | other (code : UInt8)
deriving DecidableEq

namespace InterfaceType

def ofCode : UInt8 → InterfaceType
  | 0x18 => loopback
  | 0x06 => ethernet
  | 0x37 => genericTunnel
  | 0x39 => ipv6Tunnel
  | 0x87 => vlan
  | 0x88 => linkAggregate
  | 0x90 => firewire
  | 0xd1 => bridge
  | code => other code

def code : InterfaceType → UInt8
  | loopback => 0x18
  | ethernet => 0x06
  | genericTunnel => 0x37
  | ipv6Tunnel => 0x39
  | vlan => 0x87
  | linkAggregate => 0x88
  | firewire => 0x90
  | bridge => 0xd1
  | other code => code

theorem code_ofCode (c : UInt8) : (ofCode c).code = c := by
  unfold ofCode
  split <;> rfl

def text : InterfaceType → String
  | loopback => "Loopback"
  | ethernet => "Ethernet"
  | genericTunnel => "GenericTunnel"
  | ipv6Tunnel => "Ipv6Tunnel"
  | vlan => "Vlan"
  | linkAggregate => "LinkAggregate"
  | firewire => "Firewire"
  | bridge => "Bridge"
  | other code => Text.Inspect.applied "Other" (toString code.toNat)

end InterfaceType

/-! ### Counters and settings -/

structure LinkStatistics where
  packetsIn : UInt32
  errorsIn : UInt32
  packetsOut : UInt32
  errorsOut : UInt32
  collisions : UInt32
  bytesIn : UInt32
  bytesOut : UInt32
  multicastsIn : UInt32
  multicastsOut : UInt32
  /-- Packets dropped on input. -/
  dropsIn : UInt32
  /-- Packets for a protocol nobody handles. -/
  noProtocol : UInt32
deriving DecidableEq

structure LinkData where
  interfaceType : InterfaceType
  /-- The kind of physical connection. -/
  physical : UInt8
  addressLength : UInt8
  headerLength : UInt8
  mtu : UInt32
  metric : UInt32
  baudRate : UInt32
  statistics : LinkStatistics
  /-- Seconds of the last state change. -/
  lastChange : UInt32
deriving DecidableEq

/-- The counters follow one another, four octets each. -/
def LinkStatistics.ofBytes (b : Bytes) : LinkStatistics where
  packetsIn := u32le b 0
  errorsIn := u32le b 4
  packetsOut := u32le b 8
  errorsOut := u32le b 12
  collisions := u32le b 16
  bytesIn := u32le b 20
  bytesOut := u32le b 24
  multicastsIn := u32le b 28
  multicastsOut := u32le b 32
  dropsIn := u32le b 36
  noProtocol := u32le b 40

/-- The fields at their places in a block of link data. -/
def LinkData.ofBytes (b : Bytes) : LinkData where
  interfaceType := .ofCode (byteAt b 0)
  physical := byteAt b 2
  addressLength := byteAt b 3
  headerLength := byteAt b 4
  mtu := u32le b 8
  metric := u32le b 12
  baudRate := u32le b 16
  statistics := .ofBytes (b.drop 20)
  lastChange := u32le b 72

/-- The counters in the order they are stored. -/
def LinkStatistics.toList (s : LinkStatistics) : List UInt32 :=
  [s.packetsIn, s.errorsIn, s.packetsOut, s.errorsOut, s.collisions, s.bytesIn, s.bytesOut,
   s.multicastsIn, s.multicastsOut, s.dropsIn, s.noProtocol]

end InterfaceDump
