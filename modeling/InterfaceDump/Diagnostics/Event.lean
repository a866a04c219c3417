import InterfaceDump.Address.Slot
import InterfaceDump.Diagnostics.Level

/-! Diagnostic messages.

Whatever is passed over while a dump is read is worth a message. An event says
what was passed over and why; its level and its wording follow from that. -/
namespace InterfaceDump.Diagnostics

inductive Event where
  /-- A record declares a length that it cannot have with `left` octets left. -/
  | brokenRecord (offset length left : Nat)
  /-- A message of a version that is not understood. -/
  | foreignVersion (version : UInt8) (offset : Nat)
  /-- An interface message that cannot stand for an interface. -/
  | unusableInterface (offset : Nat)
  /-- An interface message without room for its fixed part, or not all there. -/
  | shortInterfaceMessage (length available : Nat)
  /-- An address message without room for its fixed part, or not all there. -/
  | shortAddressMessage (length available : Nat)
  /-- An address message of another interface. -/
  | foreignAddress (index owner : UInt16)
  | absentSlot (kind : AddressKind) (index : UInt16)
  /-- An address that declares a length its form has no room for. -/
  | rejectedLength (family : Family) (declared : Nat)
  /-- An address that declares more octets than are left. -/
  | missingOctets (declared left : Nat)
  /-- A link-layer address that announces more than it holds. -/
  | linkOverflow (length nameLength hardwareLength : Nat)
  /-- A link-layer address that describes another interface. -/
  | linkMismatch (link owner : UInt16)
  | noLinkAddress (index : UInt16)
  | fetched (length : Nat)
deriving DecidableEq

namespace Event

def level : Event → Level
  | brokenRecord .. => .warn
  | linkMismatch .. => .warn
  | fetched .. => .debug
  | _ => .trace

def text : Event → String
  | brokenRecord offset length left =>
    s!"truncated routing message at offset {offset}: length {length} with {left} bytes left"
  | foreignVersion version offset =>
    s!"skipping version {version.toNat} message at offset {offset}"
  | unusableInterface offset => s!"skipping unusable interface message at offset {offset}"
  | shortInterfaceMessage length available =>
    s!"skipping interface message, struct size 112 data size {length} buffer size {available}"
  | shortAddressMessage length available =>
    s!"skipping address message of {length} bytes ({available} available)"
  | foreignAddress index owner =>
    s!"address message for index {index.toNat} inside interface {owner.toNat}"
  | absentSlot kind index => s!"no {kind.text} slot in address message for index {index.toNat}"
  | rejectedLength family declared =>
    s!"rejecting {family.text} sockaddr with declared length {declared}"
  | missingOctets declared left => s!"sockaddr declares {declared} bytes but only {left} remain"
  | linkOverflow length nameLength hardwareLength =>
    s!"sockaddr_dl of {length} bytes cannot hold a {nameLength} byte name " ++
      s!"and {hardwareLength} byte address"
  | linkMismatch link owner =>
    s!"link address index {link.toNat} does not match interface index {owner.toNat}"
  | noLinkAddress index => s!"interface {index.toNat} has no usable link address"
  | fetched length => s!"fetched {length} byte interface list"

end Event

end InterfaceDump.Diagnostics
