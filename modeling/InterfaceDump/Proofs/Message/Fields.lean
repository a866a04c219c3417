import InterfaceDump.Message.Address
import InterfaceDump.Proofs.Message.Records

/-! The fields of a message's fixed part.

Reading is total, and an octet that is missing reads as zero. In a message that was
accepted none is missing: every field of the fixed part is the little-endian number
in its own octets (`InterfaceMessage.fields_standIn`, `AddressMessage.fields_standIn`).
The lists `fields` say which octets these are. -/
namespace InterfaceDump
open Bytes

/-! ### Fields -/

/-- A number in a record: where it stands, in how many octets, and what it is. -/
structure Field where
  offset : Nat
  width : Nat
  value : Nat

namespace Field

/-- The octets of the field are all there, and they write its value. -/
def StandsIn (f : Field) (b : Bytes) : Prop :=
  ∃ octets, slice? b f.offset (f.offset + f.width) = some octets ∧ ofLittleEndian octets = f.value

def shift (n : Nat) (f : Field) : Field := { f with offset := n + f.offset }

variable {b : Bytes} {i n : Nat}

theorem standsIn_of_le {value : Nat} (h : i + n ≤ b.length)
    (hvalue : ofLittleEndian (field b i n) = value) : (⟨i, n, value⟩ : Field).StandsIn b :=
  ⟨field b i n, slice?_eq_field h, hvalue⟩

theorem standsIn_octet (h : i + 1 ≤ b.length) :
    (⟨i, 1, (byteAt b i).toNat⟩ : Field).StandsIn b := by
  apply standsIn_of_le h
  rw [field_succ, field_zero]
  rfl

theorem standsIn_u16 (h : i + 2 ≤ b.length) : (⟨i, 2, (u16le b i).toNat⟩ : Field).StandsIn b := by
  apply standsIn_of_le h
  have hlt := ofLittleEndian_lt (field b i 2)
  rw [length_field] at hlt
  rw [u16le, UInt16.toNat_ofNat_of_lt' hlt]

theorem standsIn_u32 (h : i + 4 ≤ b.length) : (⟨i, 4, (u32le b i).toNat⟩ : Field).StandsIn b := by
  apply standsIn_of_le h
  have hlt := ofLittleEndian_lt (field b i 4)
  rw [length_field] at hlt
  rw [u32le, UInt32.toNat_ofNat_of_lt' hlt]

end Field

/-! ### Interface messages -/

/-- The fields in a block of link data. -/
def LinkData.fields (d : LinkData) : List Field :=
  [⟨0, 1, d.interfaceType.code.toNat⟩,
   ⟨2, 1, d.physical.toNat⟩,
   ⟨3, 1, d.addressLength.toNat⟩,
   ⟨4, 1, d.headerLength.toNat⟩,
   ⟨8, 4, d.mtu.toNat⟩,
   ⟨12, 4, d.metric.toNat⟩,
   ⟨16, 4, d.baudRate.toNat⟩,
   ⟨20, 4, d.statistics.packetsIn.toNat⟩,
   ⟨24, 4, d.statistics.errorsIn.toNat⟩,
   ⟨28, 4, d.statistics.packetsOut.toNat⟩,
   ⟨32, 4, d.statistics.errorsOut.toNat⟩,
   ⟨36, 4, d.statistics.collisions.toNat⟩,
   ⟨40, 4, d.statistics.bytesIn.toNat⟩,
   ⟨44, 4, d.statistics.bytesOut.toNat⟩,
   ⟨48, 4, d.statistics.multicastsIn.toNat⟩,
   ⟨52, 4, d.statistics.multicastsOut.toNat⟩,
   ⟨56, 4, d.statistics.dropsIn.toNat⟩,
   ⟨60, 4, d.statistics.noProtocol.toNat⟩,
   ⟨72, 4, d.lastChange.toNat⟩]

theorem LinkData.fields_ofBytes {b : Bytes} (h : 76 ≤ b.length) :
    ∀ f ∈ (LinkData.ofBytes b).fields, f.StandsIn b := by
  have hoctet : ∀ i, i + 1 ≤ 76 → (⟨i, 1, (byteAt b i).toNat⟩ : Field).StandsIn b :=
    fun i hi => Field.standsIn_octet (Nat.le_trans hi h)
  have hnumber : ∀ i, i + 4 ≤ 76 → (⟨i, 4, (u32le b i).toNat⟩ : Field).StandsIn b :=
    fun i hi => Field.standsIn_u32 (Nat.le_trans hi h)
  simp only [fields, LinkData.ofBytes, LinkStatistics.ofBytes, InterfaceType.code_ofCode,
    u32le_drop, List.forall_mem_cons, List.not_mem_nil, false_implies, implies_true, and_true]
  simp (disch := decide) only [hoctet, hnumber, and_true]

/-- A field in a part of a record is a field of the record. -/
theorem Field.StandsIn.shift {f : Field} {b : Bytes} {i n : Nat} (h : f.StandsIn (field b i n))
    (hroom : i + n ≤ b.length) : (f.shift i).StandsIn b := by
  obtain ⟨octets, hslice, hvalue⟩ := h
  rw [slice?] at hslice
  split at hslice
  · next hin =>
    rw [length_field] at hin
    have hpart : field (field b i n) f.offset f.width = octets := by
      rw [field_eq_take (by rw [length_field]; exact hin.2)]
      rw [Nat.add_sub_cancel_left] at hslice
      exact Option.some.inj hslice
    apply standsIn_of_le (by omega)
    rw [← hvalue, ← hpart, field_field hin.2]
  · contradiction

namespace InterfaceMessage

def fields (m : InterfaceMessage) : List Field :=
  [⟨0, 2, m.recordLength⟩,
   ⟨2, 1, m.version.toNat⟩,
   ⟨4, 4, m.slots.bits.toNat⟩,
   ⟨8, 4, m.options.bits.toNat⟩,
   ⟨12, 2, m.index.toNat⟩] ++ m.linkData.fields.map (·.shift linkDataOffset)

/-- What is accepted declares its own length. -/
theorem u16le_of_parse? {raw : Bytes} {m : InterfaceMessage} (h : parse? raw = some m) :
    (u16le m.bytes 0).toNat = m.recordLength := by
  obtain ⟨header, hheader, -, hlow, hhigh, rfl⟩ := parse?_eq_some_iff.mp h
  have hsize : Header.size ≤ raw.length := by
    rw [fixedLength] at hlow
    rw [Header.size]
    omega
  obtain rfl : .leading raw = header :=
    Option.some.inj ((Header.parse?_eq_leading hsize).symm.trans hheader)
  rw [fixedLength] at hlow
  rw [recordLength, List.length_take, Nat.min_eq_left hhigh, u16le, field_take (by omega)]
  rfl

/-- **Every field of an accepted interface message stands in its own octets.** -/
theorem fields_standIn {raw : Bytes} {m : InterfaceMessage} (h : parse? raw = some m) :
    ∀ f ∈ m.fields, f.StandsIn m.bytes := by
  have hlength := (length_of_parse? h).1
  rw [fixedLength] at hlength
  have hlink : ∀ f ∈ m.linkData.fields.map (·.shift linkDataOffset), f.StandsIn m.bytes := by
    intro f hf
    obtain ⟨g, hg, rfl⟩ := List.mem_map.mp hf
    have hblock := LinkData.fields_ofBytes (b := field m.bytes linkDataOffset
      (fixedLength - linkDataOffset)) (by rw [length_field]; decide) g hg
    exact hblock.shift hlength
  have hstart : (⟨0, 2, m.recordLength⟩ : Field).StandsIn m.bytes := by
    rw [← u16le_of_parse? h]
    exact Field.standsIn_u16 (by omega)
  simp only [fields, List.cons_append, List.nil_append, List.forall_mem_cons]
  exact ⟨hstart, Field.standsIn_octet (by omega), Field.standsIn_u32 (by omega),
    Field.standsIn_u32 (by omega), Field.standsIn_u16 (by omega), hlink⟩

end InterfaceMessage

/-! ### Address messages -/

namespace AddressMessage

def fields (m : AddressMessage) : List Field :=
  [⟨4, 4, m.slots.bits.toNat⟩,
   ⟨8, 4, m.flags.toUInt32.toNat⟩,
   ⟨12, 2, m.index.toNat⟩,
   ⟨16, 4, m.metric.toUInt32.toNat⟩]

theorem length_of_parse? {raw : Bytes} {m : AddressMessage} (h : parse? raw = some m) :
    fixedLength ≤ m.bytes.length := by
  obtain ⟨-, -, hlow, hhigh, rfl⟩ := parse?_eq_some_iff.mp h
  rwa [List.length_take, Nat.min_eq_left hhigh]

/-- **Every field of an accepted address message stands in its own octets.** -/
theorem fields_standIn {raw : Bytes} {m : AddressMessage} (h : parse? raw = some m) :
    ∀ f ∈ m.fields, f.StandsIn m.bytes := by
  have hlength := length_of_parse? h
  rw [fixedLength] at hlength
  simp only [fields, flags, metric, UInt32.toUInt32_toInt32, List.forall_mem_cons,
    List.not_mem_nil, false_implies, implies_true, and_true]
  exact ⟨Field.standsIn_u32 (by omega), Field.standsIn_u32 (by omega),
    Field.standsIn_u16 (by omega), Field.standsIn_u32 (by omega)⟩

end AddressMessage

end InterfaceDump
