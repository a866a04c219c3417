import InterfaceDump.Address.Encode
import InterfaceDump.Address.Slot
import InterfaceDump.Message.Address
import InterfaceDump.Message.Interface

/-! Writing messages.

A synthetic dump is written record by record. A template holds the fields of a
message, most of them with the value they have on an ordinary interface; `encode`
lays them out, fills the gaps with zeros and writes the length. -/
namespace InterfaceDump
open Bytes

/-! ### Interface messages -/

structure InterfaceTemplate where
  index : UInt16
  name : String
  version : UInt8 := Header.currentVersion
  options : Options := Options.up.union Options.running
  interfaceType : UInt8 := 1
  physical : UInt8 := 0
  /-- The type in the link-layer address, if it is not the interface's. -/
  linkType : Option UInt8 := none
  /-- The index in the link-layer address, if it is not the interface's. -/
  linkIndex : Option UInt16 := none
  mtu : UInt32 := 1500
  metric : UInt32 := 0
  baudRate : UInt32 := 0
  packetsIn : UInt32 := 0
  hardware : Bytes := []
  /-- Without it the message has neither the link-layer address nor its slot. -/
  withLink : Bool := true

namespace InterfaceTemplate

def linkAddress (t : InterfaceTemplate) : LinkAddress where
  index := t.linkIndex.getD t.index
  linkType := t.linkType.getD t.interfaceType
  name := t.name
  hardware := t.hardware

/-- The padded link-layer address, if there is one. -/
def linkBytes (t : InterfaceTemplate) : Bytes :=
  if t.withLink then
    let link := (SockAddr.link t.linkAddress).encode
    resize (paddedLength link.length) link
  else []

def slotBits (t : InterfaceTemplate) : Nat := if t.withLink then 1 <<< SlotSet.interfaceSlot else 0

/-- The fixed part after the length field, up to the last field that a template sets. -/
def fields (t : InterfaceTemplate) : Bytes :=
  [t.version, MessageType.interfaceInfo.code] ++ littleEndian 4 t.slotBits ++
    littleEndian 4 t.options.bits.toNat ++ littleEndian 2 t.index.toNat ++ [0, 0] ++
    [t.interfaceType, 0, t.physical, UInt8.ofNat t.hardware.length] ++ [0, 0, 0, 0] ++
    littleEndian 4 t.mtu.toNat ++ littleEndian 4 t.metric.toNat ++
    littleEndian 4 t.baudRate.toNat ++ littleEndian 4 t.packetsIn.toNat

def encode (t : InterfaceTemplate) : Bytes :=
  let length := InterfaceMessage.fixedLength + t.linkBytes.length
  resize InterfaceMessage.fixedLength (littleEndian 2 length ++ t.fields) ++ t.linkBytes

end InterfaceTemplate

/-! ### Address messages -/

structure AddressTemplate where
  index : UInt16
  version : UInt8 := Header.currentVersion
  messageType : UInt8 := MessageType.newAddress.code
  flags : Int32 := 0
  metric : Int32 := 0
  /-- The octets put into each slot that is present. -/
  slots : Fin slotCount → Option Bytes := fun _ => none

namespace AddressTemplate

/-- Puts octets into a slot, in place of any that are there. -/
def set (t : AddressTemplate) (slot : Fin slotCount) (raw : Bytes) : AddressTemplate :=
  { t with slots := fun i => if i = slot then some raw else t.slots i }

/-- Puts an address into the slot of its kind. -/
def setAddress (t : AddressTemplate) (kind : AddressKind) (a : SockAddr) : AddressTemplate :=
  t.set kind.slot a.encode

/-- The octets of a slot, cut or zero-extended to the padded length they declare. -/
def packSlot (raw : Bytes) : Bytes := resize (paddedLength (declaredLength raw)) raw

def body (t : AddressTemplate) : Bytes :=
  (List.finRange slotCount).flatMap fun i => ((t.slots i).map packSlot).getD []

def slotBits (t : AddressTemplate) : Nat :=
  (List.finRange slotCount).foldl
    (fun bits i => if (t.slots i).isSome then bits ||| 1 <<< i.val else bits) 0

def encode (t : AddressTemplate) : Bytes :=
  littleEndian 2 (AddressMessage.fixedLength + t.body.length) ++ [t.version, t.messageType] ++
    littleEndian 4 t.slotBits ++ littleEndian 4 t.flags.toUInt32.toNat ++
    littleEndian 2 t.index.toNat ++ [0, 0] ++ littleEndian 4 t.metric.toUInt32.toNat ++ t.body

end AddressTemplate

/-! ### Other records -/

/-- A message of any type with a body of zeros; never shorter than its header. -/
def encodeEmpty (messageType version : UInt8) (length : UInt16) : Bytes :=
  littleEndian 2 length.toNat ++ [version, messageType] ++
    List.replicate (length.toNat - Header.size) 0

/-- The socket address of an IPv4 mask without its trailing zero octets. -/
def encodeShortMask (mask : Ip.V4) : Bytes :=
  let significant := (mask.octets.reverse.dropWhile (· == 0)).reverse
  [UInt8.ofNat (4 + significant.length), Family.inet.code, 0, 0] ++ significant

end InterfaceDump
