import InterfaceDump.Diagnostics.Address
import InterfaceDump.Message.Address
import InterfaceDump.Message.Interface
import InterfaceDump.Message.Record

/-! What reading messages reports. -/
namespace InterfaceDump.Diagnostics

/-! ### Interface messages -/

/-- A message of another type is passed over silently. -/
def interfaceMessageEvents (raw : Bytes) : List Event :=
  match Header.parse? raw with
  | none => []
  | some h =>
    if h.messageType = .interfaceInfo ∧
        (h.recordLength < InterfaceMessage.fixedLength ∨ raw.length < h.recordLength) then
      [.shortInterfaceMessage h.recordLength raw.length]
    else []

/-- What looking for a message's link-layer address reports. -/
def linkAddressEvents (m : InterfaceMessage) : List Event :=
  if m.slots.hasInterfaceLink then
    linkEvents (m.bytes.drop InterfaceMessage.fixedLength) ++
      match m.storedLink? with
      | some link => if link.index = m.index then [] else [.linkMismatch link.index m.index]
      | none => []
  else []

/-! ### Address messages -/

/-- A message of another type is passed over silently. -/
def addressMessageEvents (raw : Bytes) : List Event :=
  match Header.parse? raw with
  | none => []
  | some h =>
    if h.messageType = .newAddress ∧
        (h.recordLength < AddressMessage.fixedLength ∨ raw.length < h.recordLength) then
      [.shortAddressMessage h.recordLength raw.length]
    else []

/-- What reading the address of a kind reports. -/
def slotEvents (m : AddressMessage) (kind : AddressKind) : List Event :=
  match m.slotOffset? kind with
  | none => [.absentSlot kind m.index]
  | some offset =>
    let raw := m.bytes.drop offset
    match kind with
    | .netmask => netmaskEvents raw
    | _ => addressEvents raw

/-! ### Runs of records -/

/-- What taking the next record reports: only a broken one is worth a message. -/
def nextEvents (r : Reader) : List Event :=
  match Frame.of r.rest with
  | .broken h => [.brokenRecord r.offset h.recordLength r.rest.length]
  | _ => []

/-- What reading a run of records to its end reports. -/
def drainEvents (r : Reader) : List Event := nextEvents r.drained

end InterfaceDump.Diagnostics
