import InterfaceDump.Address.Encode
import InterfaceDump.Proofs.Bytes

/-! Link-layer addresses, written and read back.

The writer keeps as many octets of name and hardware address as a length octet can
declare; the reader takes no address longer than the room it has. Between the two
lies `IsShort`: what is short is read back as it was (`decode?_encode_of_isShort`),
and what is not is not read at all (`decode?_encode_of_not_isShort`), so no address is
ever read back in part. -/
namespace InterfaceDump.LinkAddress
open Bytes

variable (a : LinkAddress)

/-! ### What is written -/

/-- Name and hardware address fit the room a reader has for them. -/
def IsShort : Prop := (Text.Utf8.encode a.name).length + a.hardware.length ≤ 120

instance decidableIsShort : Decidable a.IsShort := by
  unfold IsShort; infer_instance

theorem length_wire :
    a.wireName.length + a.wireHardware.length =
      min 247 ((Text.Utf8.encode a.name).length + a.hardware.length) := by
  simp only [wireHardware, wireName, List.length_take, longestAddress, headerLength]
  omega

/-- The octets in front of the name. -/
def wireHeader : Bytes :=
  [UInt8.ofNat (1 + a.wireTail.length), Family.link.code] ++ littleEndian 2 a.index.toNat ++
    [a.linkType, UInt8.ofNat a.wireName.length, UInt8.ofNat a.wireHardware.length, 0]

theorem length_wireHeader : a.wireHeader.length = headerLength := by
  simp [wireHeader, headerLength]

theorem length_encode :
    (SockAddr.link a).encode.length =
      max 20 (headerLength + a.wireName.length + a.wireHardware.length) := by
  simp only [SockAddr.encode, SockAddr.tail, wireTail, List.length_cons, List.length_append,
    List.length_replicate, length_littleEndian, List.length_nil, headerLength, shortestLength]
  omega

/-- The octets between the length octet and the padding. -/
def filled : Bytes :=
  Family.link.code :: littleEndian 2 a.index.toNat ++
    [a.linkType, UInt8.ofNat a.wireName.length, UInt8.ofNat a.wireHardware.length, 0] ++
    a.wireName ++ a.wireHardware

theorem length_filled :
    1 + a.filled.length = headerLength + a.wireName.length + a.wireHardware.length := by
  simp only [filled, List.length_cons, List.length_append, length_littleEndian, List.length_nil,
    headerLength]
  omega

/-- The zeros behind an address that would be too short without them. -/
def padding : Bytes :=
  List.replicate (shortestLength - (headerLength + a.wireName.length + a.wireHardware.length)) 0

theorem wireTail_eq : a.wireTail = a.filled ++ a.padding := by
  rw [padding, ← length_filled, ← Nat.sub_sub]
  rfl

/-- An address in its parts: the fixed ones, name and hardware address, and the padding. -/
theorem encode_eq :
    (SockAddr.link a).encode = a.wireHeader ++ (a.wireName ++ (a.wireHardware ++ a.padding)) := by
  simp only [SockAddr.encode, SockAddr.tail, wireHeader, wireTail_eq, filled, List.cons_append,
    List.append_assoc, List.nil_append]

theorem declaredLength_encode (tail : Bytes) :
    declaredLength ((SockAddr.link a).encode ++ tail) = (SockAddr.link a).encode.length := by
  have hlength := a.length_encode
  have hwire := a.length_wire
  simp only [headerLength] at hlength
  simp only [declaredLength, SockAddr.encode, List.cons_append, byteAt_cons_zero, List.length_cons,
    UInt8.toNat_ofNat'] at hlength ⊢
  omega

/-! ### What is read -/

theorem ofWire_encode :
    ofWire (SockAddr.link a).encode =
      ⟨a.index, a.linkType, Text.Utf8.decode a.wireName, a.wireHardware⟩ := by
  have hlength := a.length_encode
  have hwire := a.length_wire
  have hencode := a.encode_eq
  have hheader := a.length_wireHeader
  have hname : (byteAt (SockAddr.link a).encode 5).toNat = a.wireName.length :=
    UInt8.toNat_ofNat_of_lt' (show _ < 256 by omega)
  have hhardware : (byteAt (SockAddr.link a).encode 6).toNat = a.wireHardware.length :=
    UInt8.toNat_ofNat_of_lt' (show _ < 256 by omega)
  have hfits : Fits (SockAddr.link a).encode := by
    rw [Fits, hname, hhardware, hlength]
    exact Nat.le_max_right _ _
  have hindex : u16le (SockAddr.link a).encode 2 = a.index := by
    simp only [SockAddr.encode, SockAddr.tail, wireTail, List.cons_append, List.append_assoc,
      u16le_cons_succ, u16le_append]
  have htype : byteAt (SockAddr.link a).encode 4 = a.linkType := rfl
  have hnameField : field (SockAddr.link a).encode headerLength a.wireName.length = a.wireName := by
    rw [hencode, field_append_right (Nat.le_of_eq hheader), hheader, Nat.sub_self,
      field_append_self]
  have hhardwareField : field (SockAddr.link a).encode (headerLength + a.wireName.length)
      a.wireHardware.length = a.wireHardware := by
    rw [hencode, field_append_right (by omega), hheader, Nat.add_sub_cancel_left,
      field_append_right (Nat.le_refl _), Nat.sub_self, field_append_self]
  simp only [ofWire, if_pos hfits, hname, hhardware, hindex, htype, hnameField, hhardwareField]

theorem length_encode_le_iff : (SockAddr.link a).encode.length ≤ storageLength ↔ a.IsShort := by
  have hlength := a.length_encode
  have hwire := a.length_wire
  simp only [IsShort, storageLength, headerLength] at *
  omega

theorem decode?_encode (tail : Bytes) :
    form.decode? ((SockAddr.link a).encode ++ tail) =
      if a.IsShort then
        some ⟨a.index, a.linkType, Text.Utf8.decode a.wireName, a.wireHardware⟩
      else none := by
  have hfamily : Family.ofBytes? ((SockAddr.link a).encode ++ tail) = some .link := rfl
  have hlength := a.length_encode
  have hlow : 2 ≤ (SockAddr.link a).encode.length := by omega
  simp only [Form.decode?, hfamily, Option.bind_eq_bind, Option.bind_some, declaredLength_encode,
    form, List.length_append, Nat.le_add_right, and_true, hlow, length_encode_le_iff,
    List.take_left, ofWire_encode, beq_self_eq_true, true_and]

/-- **A short address is read back as it was written**, whatever follows it. -/
theorem decode?_encode_of_isShort {a : LinkAddress} (h : a.IsShort) (tail : Bytes) :
    form.decode? ((SockAddr.link a).encode ++ tail) = some a := by
  have hname : a.wireName = Text.Utf8.encode a.name := by
    refine List.take_of_length_le ?_
    simp only [IsShort, longestAddress, headerLength] at *
    omega
  have hhardware : a.wireHardware = a.hardware := by
    refine List.take_of_length_le ?_
    simp only [IsShort, longestAddress, headerLength, hname] at *
    omega
  rw [decode?_encode, if_pos h, hname, hhardware, Text.Utf8.decode_encode]

theorem decode?_encode_of_not_isShort {a : LinkAddress} (h : ¬ a.IsShort) (tail : Bytes) :
    form.decode? ((SockAddr.link a).encode ++ tail) = none := by
  rw [decode?_encode, if_neg h]

end InterfaceDump.LinkAddress
