import InterfaceDump.Message.Address
import InterfaceDump.Message.Interface
import InterfaceDump.Proofs.Record.Run

/-! Messages in records.

A message is read from octets that declare their own number: what it keeps of them
is all of them, and what its type asks of them is their length. So a message reads
the same from its record as from the dump the record stands in
(`Record.IsIn.interfaceMessage?_drop`). -/
namespace InterfaceDump
open Bytes

theorem InterfaceMessage.parse?_eq {raw : Bytes} {h : Header} (hp : Header.parse? raw = some h)
    (hall : h.recordLength ≤ raw.length) :
    parse? raw = if h.messageType = .interfaceInfo ∧ fixedLength ≤ h.recordLength then
      some ⟨raw.take h.recordLength⟩ else none := by
  simp only [parse?, hp, Option.bind_eq_bind, Option.bind_some, hall, and_true]

theorem AddressMessage.parse?_eq {raw : Bytes} {h : Header} (hp : Header.parse? raw = some h)
    (hall : h.recordLength ≤ raw.length) :
    parse? raw = if h.messageType = .newAddress ∧ fixedLength ≤ h.recordLength then
      some ⟨raw.take h.recordLength⟩ else none := by
  simp only [parse?, hp, Option.bind_eq_bind, Option.bind_some, hall, and_true]

/-- A message holds its declared octets, and nothing of what stands behind them. -/
theorem AddressMessage.parse?_eq_some_iff {raw : Bytes} {m : AddressMessage} :
    parse? raw = some m ↔
      Header.size ≤ raw.length ∧ (Header.leading raw).messageType = .newAddress ∧
        fixedLength ≤ (u16le raw 0).toNat ∧ (u16le raw 0).toNat ≤ raw.length ∧
        m = ⟨raw.take (u16le raw 0).toNat⟩ := by
  rcases Nat.lt_or_ge raw.length Header.size with hshort | hsize
  · rw [parse?, Header.parse?_eq_none hshort]
    exact iff_of_false nofun fun h => Nat.not_le_of_lt hshort h.1
  · have hlength : (Header.leading raw).recordLength = (u16le raw 0).toNat := rfl
    simp only [parse?, Header.parse?_eq_leading hsize, Option.bind_eq_bind, Option.bind_some,
      Option.ite_none_right_eq_some, Option.some.injEq, hlength, hsize, true_and, and_assoc,
      eq_comm (b := m)]

namespace Delimited
variable {b : Bytes}

theorem interfaceMessage? (h : Delimited b) :
    InterfaceMessage.parse? b =
      if (Header.leading b).messageType = .interfaceInfo ∧
        InterfaceMessage.fixedLength ≤ b.length then some ⟨b⟩ else none := by
  rw [InterfaceMessage.parse?_eq (Header.parse?_eq_leading h.size_le)
    (Nat.le_of_eq h.recordLength), h.recordLength, List.take_length]

theorem addressMessage? (h : Delimited b) :
    AddressMessage.parse? b =
      if (Header.leading b).messageType = .newAddress ∧
        AddressMessage.fixedLength ≤ b.length then some ⟨b⟩ else none := by
  rw [AddressMessage.parse?_eq (Header.parse?_eq_leading h.size_le)
    (Nat.le_of_eq h.recordLength), h.recordLength, List.take_length]

/-- A message is read from its own octets, whatever follows them. -/
theorem addressMessage?_append (h : Delimited b) (tail : Bytes) :
    AddressMessage.parse? (b ++ tail) = AddressMessage.parse? b := by
  have hframe := h.frame tail
  rw [AddressMessage.parse?_eq (Frame.of_eq_whole_iff.mp hframe).1 (Frame.fits_of_whole hframe).2,
    h.recordLength, List.take_left, h.addressMessage?]

end Delimited

namespace Record
variable {r : Record} {data : Bytes}

theorem IsIn.header_eq (h : r.IsIn data) : r.header = .leading r.bytes :=
  Option.some.inj (h.parse?_bytes.symm.trans (Header.parse?_eq_leading h.size_le))

theorem IsIn.delimited (h : r.IsIn data) : Delimited r.bytes where
  size_le := h.size_le
  length_eq := by
    rw [h.length_eq, h.header_eq]
    rfl

theorem IsIn.addressMessage? (h : r.IsIn data) :
    AddressMessage.parse? r.bytes =
      if r.header.messageType = .newAddress ∧
        AddressMessage.fixedLength ≤ r.bytes.length then some ⟨r.bytes⟩ else none := by
  rw [h.header_eq, h.delimited.addressMessage?]

theorem IsIn.interfaceMessage? (h : r.IsIn data) :
    InterfaceMessage.parse? r.bytes =
      if r.header.messageType = .interfaceInfo ∧
        InterfaceMessage.fixedLength ≤ r.bytes.length then some ⟨r.bytes⟩ else none := by
  rw [h.header_eq, h.delimited.interfaceMessage?]

/-- The message of a record has all of its octets. -/
theorem IsIn.eq_of_interfaceMessage? (h : r.IsIn data) {m : InterfaceMessage}
    (hm : InterfaceMessage.parse? r.bytes = some m) : m = ⟨r.bytes⟩ := by
  rw [h.interfaceMessage?, Option.ite_none_right_eq_some] at hm
  exact (Option.some.inj hm.2).symm

/-- A message is read from its own octets, whatever follows them. -/
theorem IsIn.interfaceMessage?_drop (h : r.IsIn data) :
    InterfaceMessage.parse? (data.drop r.offset) = InterfaceMessage.parse? r.bytes := by
  rw [InterfaceMessage.parse?_eq h.parse? (Frame.fits_of_whole h.frame).2, ← h.bytes,
    ← h.length_eq, h.interfaceMessage?]

theorem IsIn.addressMessage?_drop (h : r.IsIn data) :
    AddressMessage.parse? (data.drop r.offset) = AddressMessage.parse? r.bytes := by
  rw [AddressMessage.parse?_eq h.parse? (Frame.fits_of_whole h.frame).2, ← h.bytes,
    ← h.length_eq, h.addressMessage?]

end Record

end InterfaceDump
