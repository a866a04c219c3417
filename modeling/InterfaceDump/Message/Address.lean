import InterfaceDump.Address.Netmask
import InterfaceDump.Address.Slot
import InterfaceDump.Message.Header

/-! Address messages.

There is one for every address of an interface: a fixed part with its slots, and
the addresses of the slots that are present. An address is found by stepping
over the present slots before its own, each as long as its length octet says,
padded to a multiple of four. -/
namespace InterfaceDump
open Bytes

structure AddressMessage where
  /-- The declared octets, header included. -/
  bytes : Bytes
deriving DecidableEq

namespace AddressMessage

/-- The length of the fixed part; the addresses start behind it. -/
def fixedLength : Nat := 20

/-- The address message at the start of `raw`, if its type says so and its
declared octets hold the fixed part and are all there. -/
def parse? (raw : Bytes) : Option AddressMessage := do
  let header ← Header.parse? raw
  let length := header.recordLength
  if header.messageType = .newAddress ∧ fixedLength ≤ length ∧ length ≤ raw.length then
    some ⟨raw.take length⟩
  else none

/-! ### Fields -/

def slots (m : AddressMessage) : SlotSet := ⟨u32le m.bytes 4⟩

def flags (m : AddressMessage) : Int32 := (u32le m.bytes 8).toInt32

def index (m : AddressMessage) : UInt16 := u16le m.bytes 12

def metric (m : AddressMessage) : Int32 := (u32le m.bytes 16).toInt32

/-! ### Addresses -/

/-- The offset behind slot `slot` when its address, if present, starts at `offset`. -/
def skipSlot? (m : AddressMessage) (offset slot : Nat) : Option Nat :=
  if m.slots.has slot then m.bytes[offset]?.map fun length => offset + paddedLength length.toNat
  else some offset

/-- The offset of the address of a kind, if it is present and starts inside the message. -/
def slotOffset? (m : AddressMessage) (kind : AddressKind) : Option Nat := do
  if m.slots.contains kind then
    let offset ← (List.range kind.slot).foldlM m.skipSlot? fixedLength
    if offset < m.bytes.length then some offset else none
  else none

/-- How the address of a kind is read. -/
def decodeKind? : AddressKind → Bytes → Option SockAddr
  | .netmask => SockAddr.decodeNetmask?
  | _ => SockAddr.decode?

/-- The address of a kind, if it is present and well formed. -/
def address? (m : AddressMessage) (kind : AddressKind) : Option SockAddr := do
  decodeKind? kind (m.bytes.drop (← m.slotOffset? kind))

end AddressMessage

end InterfaceDump
