import InterfaceDump.Address.Family

/-! Address slots.

A message says in a bitmask which of eight address slots it carries; the
addresses of the set slots follow its fixed part in slot order, each padded to a
multiple of four octets. Three slots matter for an interface's addresses, and
one holds the link-layer address of the interface itself. -/
namespace InterfaceDump

/-- The octets that an address of `length` octets takes in a message. An empty
address still takes one unit of four. -/
def paddedLength (length : Nat) : Nat := if length = 0 then 4 else (length + 3) / 4 * 4

/-- The number of slots a message can carry. -/
abbrev slotCount : Nat := 8

/-- The bitmask of the slots that are present. -/
structure SlotSet where
  bits : UInt32
deriving DecidableEq

/-- The addresses that a message can carry for an interface. -/
inductive AddressKind where
  | address
  | netmask
  /-- The broadcast address, or the peer's on a point-to-point link. -/
  | broadcastOrDestination
deriving DecidableEq

namespace AddressKind

def slot : AddressKind → Fin slotCount
  | address => 5
  | netmask => 2
  | broadcastOrDestination => 7

def text : AddressKind → String
  | address => "Address"
  | netmask => "Netmask"
  | broadcastOrDestination => "BroadcastOrDestination"

end AddressKind

namespace SlotSet

/-- Bits from the eighth on stand for no slot. -/
def has (s : SlotSet) (slot : Nat) : Bool := slot < slotCount && s.bits.toNat.testBit slot

def contains (s : SlotSet) (kind : AddressKind) : Bool := s.has kind.slot

/-- The slot of the interface's own link-layer address. -/
def interfaceSlot : Nat := 4

def hasInterfaceLink (s : SlotSet) : Bool := s.has interfaceSlot

end SlotSet

end InterfaceDump
