import InterfaceDump.Message.Build
import InterfaceDump.Proofs.Address.Link
import InterfaceDump.Proofs.Message.Records
import Mathlib.Algebra.Order.BigOperators.Group.List
import Mathlib.Algebra.Order.Group.Nat

/-! Messages, written and read back.

A template lays its fields out one behind the other, the gaps and the end of the
fixed part filled with zeros (`InterfaceTemplate.encode_eq`,
`AddressTemplate.encode_eq`). Each field is then read by stepping over the ones in
front of it. What a template writes declares its own length (`Delimited`), however
much goes into it: a link-layer address takes at most 256 octets, and so does each
slot of an address message. -/
namespace InterfaceDump
open Bytes

theorem le_paddedLength (n : Nat) : n ≤ paddedLength n := by
  unfold paddedLength
  split <;> omega

/-- Even an empty address takes its place. -/
theorem paddedLength_pos (n : Nat) : 0 < paddedLength n := by
  unfold paddedLength
  split <;> omega

theorem paddedLength_le {n : Nat} (h : n ≤ 255) : paddedLength n ≤ 256 := by
  unfold paddedLength
  split <;> omega

/-- A type other than `other` is read from its own code alone. -/
theorem MessageType.ofCode_eq_iff {type : MessageType} (h : ofCode type.code = type)
    {code : UInt8} : ofCode code = type ↔ code = type.code := by
  constructor
  · rintro rfl
    exact (code_ofCode code).symm
  · rintro rfl
    exact h

theorem MessageType.ofCode_eq_interfaceInfo {code : UInt8} :
    ofCode code = .interfaceInfo ↔ code = interfaceInfo.code := ofCode_eq_iff rfl

theorem MessageType.ofCode_eq_newAddress {code : UInt8} :
    ofCode code = .newAddress ↔ code = newAddress.code := ofCode_eq_iff rfl

/-! ### Interface messages -/

namespace InterfaceTemplate
variable (t : InterfaceTemplate)

theorem length_linkBytes_le : t.linkBytes.length ≤ 256 := by
  rw [linkBytes]
  split
  · have hlength := t.linkAddress.length_encode
    have hwire := t.linkAddress.length_wire
    rw [length_resize]
    refine paddedLength_le ?_
    simp only [LinkAddress.headerLength] at hlength
    omega
  · exact Nat.zero_le _

theorem length_encode : t.encode.length = InterfaceMessage.fixedLength + t.linkBytes.length := by
  rw [encode, List.length_append, length_resize]

/-- A message in its parts. -/
theorem encode_eq :
    t.encode = littleEndian 2 (InterfaceMessage.fixedLength + t.linkBytes.length) ++
      (t.version :: MessageType.interfaceInfo.code :: (littleEndian 4 t.slotBits ++
        (littleEndian 4 t.options.bits.toNat ++ (littleEndian 2 t.index.toNat ++
          (0 :: 0 :: t.interfaceType :: 0 :: t.physical :: UInt8.ofNat t.hardware.length ::
            0 :: 0 :: 0 :: 0 :: (littleEndian 4 t.mtu.toNat ++ (littleEndian 4 t.metric.toNat ++
              (littleEndian 4 t.baudRate.toNat ++ (littleEndian 4 t.packetsIn.toNat ++
                (List.replicate 72 0 ++ t.linkBytes)))))))))) := by
  have hfields : (littleEndian 2 (InterfaceMessage.fixedLength + t.linkBytes.length) ++
      t.fields).length = 40 := by
    simp [fields]
  rw [encode, resize_of_ge (by rw [hfields]; decide), hfields]
  simp only [fields, InterfaceMessage.fixedLength, List.cons_append, List.append_assoc,
    List.nil_append]

theorem u16le_encode :
    (u16le t.encode 0).toNat = InterfaceMessage.fixedLength + t.linkBytes.length := by
  have hlink := t.length_linkBytes_le
  rw [encode_eq]
  exact toNat_u16le_append (by simp only [InterfaceMessage.fixedLength]; omega) _

theorem delimited_encode : Delimited t.encode where
  size_le := by
    rw [length_encode]
    exact Nat.le_trans (by decide) (Nat.le_add_right InterfaceMessage.fixedLength _)
  length_eq := by rw [u16le_encode, length_encode]

theorem leading_encode :
    Header.leading t.encode = ⟨u16le t.encode 0, t.version, .interfaceInfo⟩ := by
  have hversion : byteAt t.encode 2 = t.version := by simp [encode_eq, byteAt_append_right]
  have htype : byteAt t.encode 3 = MessageType.interfaceInfo.code := by
    simp [encode_eq, byteAt_append_right]
  rw [Header.leading, hversion, htype]
  rfl

/-- What is read of a template's message. -/
def message : InterfaceMessage := ⟨t.encode⟩

theorem parse?_encode : InterfaceMessage.parse? t.encode = some t.message := by
  rw [t.delimited_encode.interfaceMessage?, t.leading_encode, if_pos]
  · rfl
  · refine ⟨rfl, ?_⟩
    rw [length_encode]
    exact Nat.le_add_right _ _

theorem index_message : t.message.index = t.index := by
  simp [message, InterfaceMessage.index, encode_eq, u16le_skip]

theorem options_message : t.message.options = t.options := by
  simp [message, InterfaceMessage.options, encode_eq, u32le_skip]

theorem slotBits_lt : t.slotBits < 2 ^ 32 := by
  unfold slotBits
  split <;> decide

theorem hasInterfaceLink_message : t.message.slots.hasInterfaceLink = t.withLink := by
  have hbits : t.message.slots.bits.toNat = t.slotBits := by
    simp [message, InterfaceMessage.slots, encode_eq, u32le_skip, toNat_u32le_append t.slotBits_lt]
  rw [SlotSet.hasInterfaceLink, SlotSet.has, hbits, slotBits]
  cases t.withLink <;> rfl

theorem isUsable_message : t.message.isUsable = (t.withLink && t.index != 0) := by
  rw [InterfaceMessage.isUsable, hasInterfaceLink_message, index_message]

/-- The settings of a template; all counters but one are zero. -/
def linkData : LinkData where
  interfaceType := .ofCode t.interfaceType
  physical := t.physical
  addressLength := UInt8.ofNat t.hardware.length
  headerLength := 0
  mtu := t.mtu
  metric := t.metric
  baudRate := t.baudRate
  statistics := ⟨t.packetsIn, 0, 0, 0, 0, 0, 0, 0, 0, 0, 0⟩
  lastChange := 0

theorem linkData_message : t.message.linkData = t.linkData := by
  simp [message, InterfaceMessage.linkData, InterfaceMessage.linkDataOffset,
    InterfaceMessage.fixedLength, linkData, LinkData.ofBytes, LinkStatistics.ofBytes, byteAt_field,
    u32le_field, u32le_drop, encode_eq, byteAt_append_right, u32le_skip, u32le_replicate_append,
    -List.reduceReplicate]

theorem drop_encode : t.encode.drop InterfaceMessage.fixedLength = t.linkBytes := by
  rw [encode, List.drop_append_of_le_length (by simp), List.drop_eq_nil_of_le (by simp)]
  rfl

/-- The link-layer address is the interface's and can be read. -/
def KeepsLink : Prop := t.linkAddress.index = t.index ∧ t.linkAddress.IsShort

instance decidableKeepsLink : Decidable t.KeepsLink := by
  unfold KeepsLink; infer_instance

theorem storedLink?_message (h : t.withLink = true) :
    t.message.storedLink? = if t.linkAddress.IsShort then some t.linkAddress else none := by
  have hbytes : t.linkBytes = (SockAddr.link t.linkAddress).encode ++
      List.replicate (paddedLength (SockAddr.link t.linkAddress).encode.length -
        (SockAddr.link t.linkAddress).encode.length) 0 := by
    rw [linkBytes, if_pos h, resize_of_ge (le_paddedLength _)]
  rw [InterfaceMessage.storedLink?, hasInterfaceLink_message, if_pos h, message, drop_encode,
    hbytes]
  split
  · next hshort => exact LinkAddress.decode?_encode_of_isShort hshort _
  · next hlong => exact LinkAddress.decode?_encode_of_not_isShort hlong _

theorem linkAddress?_message (h : t.withLink = true) :
    t.message.linkAddress? = if t.KeepsLink then some t.linkAddress else none := by
  rw [InterfaceMessage.linkAddress?, storedLink?_message t h, index_message]
  by_cases hshort : t.linkAddress.IsShort
  · simp [hshort, KeepsLink, Option.filter]
  · simp [hshort, KeepsLink]

end InterfaceTemplate

/-! ### Address messages -/

namespace AddressTemplate
variable (t : AddressTemplate)

theorem length_packSlot_le (raw : Bytes) : (packSlot raw).length ≤ 256 := by
  rw [packSlot, length_resize]
  exact paddedLength_le (Nat.le_of_lt_succ (byteAt raw 0).toNat_lt)

theorem length_body_le : t.body.length ≤ 2048 := by
  have hslot : ∀ n ∈ (List.finRange slotCount).map
      fun i => (((t.slots i).map packSlot).getD []).length, n ≤ 256 := by
    intro n hn
    obtain ⟨i, -, rfl⟩ := List.mem_map.mp hn
    cases t.slots i with
    | none => exact Nat.zero_le _
    | some raw => exact length_packSlot_le raw
  have hsum := List.sum_le_card_nsmul _ 256 hslot
  rwa [List.length_map, List.length_finRange, ← List.length_flatMap] at hsum

theorem length_encode : t.encode.length = AddressMessage.fixedLength + t.body.length := by
  simp only [encode, List.length_append, length_littleEndian, List.length_cons, List.length_nil,
    AddressMessage.fixedLength]

/-- A message in its parts. -/
theorem encode_eq :
    t.encode = littleEndian 2 (AddressMessage.fixedLength + t.body.length) ++
      (t.version :: t.messageType :: (littleEndian 4 t.slotBits ++
        (littleEndian 4 t.flags.toUInt32.toNat ++ (littleEndian 2 t.index.toNat ++
          (0 :: 0 :: (littleEndian 4 t.metric.toUInt32.toNat ++ t.body)))))) := by
  simp only [encode, List.cons_append, List.append_assoc, List.nil_append]

theorem delimited_encode : Delimited t.encode where
  size_le := by
    rw [length_encode]
    exact Nat.le_trans (by decide) (Nat.le_add_right AddressMessage.fixedLength _)
  length_eq := by
    have hbody := t.length_body_le
    rw [length_encode, encode_eq]
    exact toNat_u16le_append (by simp only [AddressMessage.fixedLength]; omega) _

theorem leading_encode :
    Header.leading t.encode = ⟨u16le t.encode 0, t.version, .ofCode t.messageType⟩ := rfl

/-- What is read of a template's message. -/
def message : AddressMessage := ⟨t.encode⟩

/-- Only a message of the right type is read. -/
theorem parse?_encode :
    AddressMessage.parse? t.encode =
      if t.messageType = MessageType.newAddress.code then some t.message else none := by
  have hfixed : AddressMessage.fixedLength ≤ t.encode.length := by
    rw [length_encode]
    exact Nat.le_add_right _ _
  simp only [t.delimited_encode.addressMessage?, t.leading_encode, hfixed, and_true,
    MessageType.ofCode_eq_newAddress, message]

theorem index_message : t.message.index = t.index := by
  simp [message, AddressMessage.index, encode_eq, u16le_skip]

end AddressTemplate

/-! ### Other records -/

section Empty
variable {messageType version : UInt8} {length : UInt16}

theorem length_encodeEmpty (h : Header.size ≤ length.toNat) :
    (encodeEmpty messageType version length).length = length.toNat := by
  simp only [encodeEmpty, List.length_append, length_littleEndian, List.length_cons,
    List.length_nil, List.length_replicate, Header.size] at h ⊢
  omega

theorem encodeEmpty_eq :
    encodeEmpty messageType version length = littleEndian 2 length.toNat ++
      (version :: messageType :: List.replicate (length.toNat - Header.size) 0) := by
  simp only [encodeEmpty, List.cons_append, List.append_assoc, List.nil_append]

theorem delimited_encodeEmpty (h : Header.size ≤ length.toNat) :
    Delimited (encodeEmpty messageType version length) where
  size_le := by rwa [length_encodeEmpty h]
  length_eq := by rw [length_encodeEmpty h, encodeEmpty_eq, u16le_append]

theorem leading_encodeEmpty :
    Header.leading (encodeEmpty messageType version length) =
      ⟨u16le (encodeEmpty messageType version length) 0, version, .ofCode messageType⟩ := rfl

/-- Zeros are no interface. -/
theorem isUsable_encodeEmpty :
    (InterfaceMessage.mk (encodeEmpty messageType version length)).isUsable = false := by
  have hslots : u32le (encodeEmpty messageType version length) 4 = 0 := by
    simp [encodeEmpty_eq, u32le_skip]
  rw [InterfaceMessage.isUsable, InterfaceMessage.slots, hslots]
  rfl

theorem index_encodeEmpty :
    (AddressMessage.mk (encodeEmpty messageType version length)).index = 0 := by
  simp [AddressMessage.index, encodeEmpty_eq, u16le_skip]

end Empty

end InterfaceDump
