import InterfaceDump.Proofs.Checked.Address
import InterfaceDump.Proofs.Message.Fields
import InterfaceDump.Proofs.Message.Slots
import InterfaceDump.Proofs.Message.Templates

/-! Messages, read with operations that can fail.

A message keeps its declared octets, so its fields are read without a check of their
own: that they are there was settled when the message was accepted. `Accepted` is what
is left of that check, and every accessor has no fault because of it. The addresses of
a message are found by steps over the slots before them, which stay below a bound
(`skipSlots_eq`). -/
namespace InterfaceDump
open Bytes

namespace Checked

/-! ### Headers -/

def header? (M : Machine) (raw : Bytes) : Option Header := do
  let length ← M.u16At? raw 0
  let version ← raw[2]?
  let code ← raw[3]?
  some ⟨length, version, .ofCode code⟩

theorem header?_eq (M : Machine) (raw : Bytes) : header? M raw = Header.parse? raw := by
  by_cases hsize : Header.size ≤ raw.length
  · have hroom := hsize
    rw [Header.size] at hroom
    rw [header?, M.u16At?_eq (by decide) (by omega), getElem?_eq_byteAt (by omega),
      getElem?_eq_byteAt (by omega), Header.parse?_eq_leading hsize]
    rfl
  · have hshort := Nat.lt_of_not_le hsize
    rw [Header.parse?_eq_none hshort, header?]
    rw [Header.size] at hshort
    rw [List.getElem?_eq_none (show raw.length ≤ 3 by omega)]
    cases M.u16At? raw 0 <;> cases raw[2]? <;> rfl

/-! ### Messages -/

/-- The declared octets of a message of a type with a fixed part. -/
def accept (M : Machine) (type : MessageType) (fixed : Nat) (raw : Bytes) :
    Checked (Option Bytes) := do
  match header? M raw with
  | none => pure none
  | some header =>
    if header.messageType ≠ type then pure none
    else if fixed > header.recordLength ∨ header.recordLength > raw.length then pure none
    else pure (some (← sliceTo raw header.recordLength))

theorem accept_eq (M : Machine) (type : MessageType) (fixed : Nat) (raw : Bytes) :
    accept M type fixed raw = .ok ((Header.parse? raw).bind fun h =>
      if h.messageType = type ∧ fixed ≤ h.recordLength ∧ h.recordLength ≤ raw.length then
        some (raw.take h.recordLength)
      else none) := by
  rw [accept, header?_eq]
  cases Header.parse? raw with
  | none => rfl
  | some h =>
    simp only [Option.bind_some]
    by_cases htype : h.messageType = type
    · by_cases hroom : fixed ≤ h.recordLength ∧ h.recordLength ≤ raw.length
      · have hno : ¬ (fixed > h.recordLength ∨ h.recordLength > raw.length) := by omega
        rw [if_neg (not_not_intro htype), if_neg hno, if_pos ⟨htype, hroom⟩,
          sliceTo_eq hroom.2]
        rfl
      · have hyes : fixed > h.recordLength ∨ h.recordLength > raw.length := by omega
        rw [if_neg (not_not_intro htype), if_pos hyes, if_neg fun hc => hroom hc.2]
        rfl
    · rw [if_pos htype, if_neg fun hc => htype hc.1]
      rfl

def interfaceMessage (M : Machine) (raw : Bytes) : Checked (Option InterfaceMessage) := do
  pure ((← accept M .interfaceInfo InterfaceMessage.fixedLength raw).map .mk)

def addressMessage (M : Machine) (raw : Bytes) : Checked (Option AddressMessage) := do
  pure ((← accept M .newAddress AddressMessage.fixedLength raw).map .mk)

theorem interfaceMessage_eq (M : Machine) (raw : Bytes) :
    interfaceMessage M raw = .ok (InterfaceMessage.parse? raw) := by
  rw [interfaceMessage, accept_eq, ok_bind, InterfaceMessage.parse?]
  cases Header.parse? raw with
  | none => rfl
  | some h =>
    simp only [Option.bind_some, Option.bind_eq_bind, pure_eq]
    split <;> rfl

theorem addressMessage_eq (M : Machine) (raw : Bytes) :
    addressMessage M raw = .ok (AddressMessage.parse? raw) := by
  rw [addressMessage, accept_eq, ok_bind, AddressMessage.parse?]
  cases Header.parse? raw with
  | none => rfl
  | some h =>
    simp only [Option.bind_some, Option.bind_eq_bind, pure_eq]
    split <;> rfl

/-! ### Fields of both kinds of message -/

def slots (M : Machine) (b : Bytes) : Checked SlotSet := do
  pure ⟨← present (M.u32At? b 4)⟩

def index (M : Machine) (b : Bytes) : Checked UInt16 := present (M.u16At? b 12)

section
variable (M : Machine) {b : Bytes}

theorem slots_eq (h : 8 ≤ b.length) : slots M b = .ok ⟨u32le b 4⟩ := by
  rw [slots, M.u32At?_eq (by decide) h]
  rfl

theorem index_eq (h : 14 ≤ b.length) : index M b = .ok (u16le b 12) := by
  rw [index, M.u16At?_eq (by decide) h, present_some]

example : index .smallest [4, 0, 5, 12] = .error .defaulted := rfl

end

/-! ### Interface messages -/

def version (m : InterfaceMessage) : Checked UInt8 := octet m.bytes 2

def options (M : Machine) (m : InterfaceMessage) : Checked Options := do
  pure ⟨← present (M.u32At? m.bytes 8)⟩

/-- The block of link data, if each of its fields is there. -/
def linkBlock? (M : Machine) (b : Bytes) : Option LinkData := do
  let statistics : LinkStatistics :=
    { packetsIn := ← M.u32At? b 20
      errorsIn := ← M.u32At? b 24
      packetsOut := ← M.u32At? b 28
      errorsOut := ← M.u32At? b 32
      collisions := ← M.u32At? b 36
      bytesIn := ← M.u32At? b 40
      bytesOut := ← M.u32At? b 44
      multicastsIn := ← M.u32At? b 48
      multicastsOut := ← M.u32At? b 52
      dropsIn := ← M.u32At? b 56
      noProtocol := ← M.u32At? b 60 }
  some
    { interfaceType := .ofCode (← b[0]?)
      physical := ← b[2]?
      addressLength := ← b[3]?
      headerLength := ← b[4]?
      mtu := ← M.u32At? b 8
      metric := ← M.u32At? b 12
      baudRate := ← M.u32At? b 16
      statistics := statistics
      lastChange := ← M.u32At? b 72 }

def linkData (M : Machine) (m : InterfaceMessage) : Checked LinkData := do
  present (linkBlock? M (← slice m.bytes 16 112))

/-- The link-layer address of the interface; an index that differs is read again for
the message that reports it. -/
def linkAddress (M : Machine) (m : InterfaceMessage) : Checked (Option LinkAddress) := do
  if !(← slots M m.bytes).hasInterfaceLink then pure none
  else
    match ← decodeLink M (← sliceFrom m.bytes 112) with
    | none => pure none
    | some link =>
      if link.index ≠ (← index M m.bytes) then
        let _ ← index M m.bytes
        pure none
      else pure (some link)

/-- All that was settled when the message was accepted. -/
def Accepted (m : InterfaceMessage) : Prop := InterfaceMessage.fixedLength ≤ m.bytes.length

section
variable (M : Machine) {m : InterfaceMessage}

theorem Accepted.le (h : Accepted m) : 112 ≤ m.bytes.length := h

theorem version_eq (h : Accepted m) : version m = .ok m.version :=
  octet_eq (by have := h.le; omega)

theorem options_eq (h : Accepted m) : options M m = .ok m.options := by
  rw [options, M.u32At?_eq (by decide) (by have := h.le; omega)]
  rfl

theorem slots_message_eq (h : Accepted m) : slots M m.bytes = .ok m.slots :=
  slots_eq M (by have := h.le; omega)

theorem index_message_eq (h : Accepted m) : index M m.bytes = .ok m.index :=
  index_eq M (by have := h.le; omega)

theorem linkBlock?_eq {b : Bytes} (h : 96 ≤ b.length) :
    linkBlock? M b = some (.ofBytes b) := by
  have hnumber : ∀ i, i + 4 ≤ 96 → M.u32At? b i = some (u32le b i) := fun i hi =>
    M.u32At?_eq (by omega) (by omega)
  have hoctet : ∀ i, i < 96 → b[i]? = some (byteAt b i) := fun i hi =>
    getElem?_eq_byteAt (by omega)
  simp (disch := decide) only [linkBlock?, hnumber, hoctet, Option.bind_eq_bind, Option.bind_some]
  simp only [LinkData.ofBytes, LinkStatistics.ofBytes, u32le_drop]

theorem linkData_eq (h : Accepted m) : linkData M m = .ok m.linkData := by
  rw [linkData, slice_eq (by decide) h.le, ok_bind,
    linkBlock?_eq M (Nat.le_of_eq (length_field _ _ _).symm), present_some]
  rfl

theorem linkAddress_eq (h : Accepted m) : linkAddress M m = .ok m.linkAddress? := by
  rw [linkAddress, slots_message_eq M h, ok_bind, InterfaceMessage.linkAddress?,
    InterfaceMessage.storedLink?]
  by_cases hlink : m.slots.hasInterfaceLink = true
  · rw [sliceFrom_eq h.le]
    simp only [hlink, Bool.not_true, Bool.false_eq_true, if_false, if_true, ok_bind, decodeLink_eq,
      index_message_eq M h, InterfaceMessage.fixedLength]
    cases LinkAddress.form.decode? (m.bytes.drop 112) with
    | none => rfl
    | some link =>
      by_cases hindex : link.index = m.index
      · simp [hindex, Option.filter_some]
      · simp [hindex, Option.filter_some]
  · simp [hlink]

end

/-! ### Slots -/

def hasSlot (s : SlotSet) (slot : Nat) : Checked Bool :=
  if slot < slotCount then
    -- The bit of a slot is made by a shift of 32 bits.
    if slot < 32 then pure (s.bits.toNat.testBit slot) else .error .overflow
  else pure false

theorem hasSlot_eq (s : SlotSet) (slot : Nat) : hasSlot s slot = .ok (s.has slot) := by
  unfold hasSlot SlotSet.has
  by_cases hslot : slot < slotCount
  · rw [if_pos hslot, if_pos (Nat.lt_trans hslot (by decide))]
    simp [hslot]
  · simp [hslot]

def padded (M : Machine) (length : Nat) : Checked Nat := do
  if 0 < length then M.add 1 ((← sub length 1) ||| 3) else pure 4

/-- Setting the two lowest bits rounds up to the next multiple of four, less one. -/
theorem or_three (n : Nat) : n ||| 3 = n / 4 * 4 + 3 := by
  have hhigh : (n ||| 3) / 2 ^ 2 = n / 2 ^ 2 := by rw [Nat.or_div_two_pow]; simp
  have hlow : (n ||| 3) % 2 ^ 2 = 3 := by
    rw [Nat.or_mod_two_pow]
    have hcases : ∀ r < 4, r ||| 3 % 2 ^ 2 = 3 := by decide
    exact hcases _ (Nat.mod_lt _ (by decide))
  omega

theorem padded_eq (M : Machine) {length : Nat} (h : length ≤ 255) :
    padded M length = .ok (paddedLength length) := by
  rw [padded, paddedLength]
  by_cases hzero : length = 0
  · rw [if_neg (by omega), if_pos hzero]
    rfl
  · rw [if_pos (by omega), if_neg hzero, sub_eq (by omega), ok_bind, or_three,
      M.add_eq_of_le (by omega)]
    congr 1
    omega

/-! ### Address messages -/

def signed (M : Machine) (b : Bytes) (offset : Nat) : Checked Int32 := do
  pure (← present (M.u32At? b offset)).toInt32

def flags (M : Machine) (m : AddressMessage) : Checked Int32 := signed M m.bytes 8

def metric (M : Machine) (m : AddressMessage) : Checked Int32 := signed M m.bytes 16

/-- The offset behind one slot. -/
def skipSlot (M : Machine) (m : AddressMessage) (s : SlotSet) (offset slot : Nat) :
    Checked (Option Nat) := do
  if ← hasSlot s slot then
    match m.bytes[offset]? with
    | none => pure none
    | some length => pure (some (← M.add offset (← padded M length.toNat)))
  else pure (some offset)

def skipSlots (M : Machine) (m : AddressMessage) (s : SlotSet) : List Nat → Nat → Checked (Option Nat)
  | [], offset => pure (some offset)
  | slot :: rest, offset => do
    match ← skipSlot M m s offset slot with
    | none => pure none
    | some offset => skipSlots M m s rest offset

def slotOffset (M : Machine) (m : AddressMessage) (kind : AddressKind) : Checked (Option Nat) := do
  let s ← slots M m.bytes
  if ← hasSlot s kind.slot then
    match ← skipSlots M m s (List.range kind.slot) 20 with
    | none => pure none
    | some offset => pure (if offset < m.bytes.length then some offset else none)
  else pure none

/-- Where there is no address, the index is read for the message that says so. -/
def address (M : Machine) (m : AddressMessage) (kind : AddressKind) :
    Checked (Option SockAddr) := do
  match ← slotOffset M m kind with
  | none =>
    let _ ← index M m.bytes
    pure none
  | some offset =>
    let raw ← sliceFrom m.bytes offset
    match kind with
    | .netmask => decodeNetmask M raw
    | _ => decode M raw

section
variable (M : Machine) {m : AddressMessage}

theorem flags_eq (h : 20 ≤ m.bytes.length) : flags M m = .ok m.flags := by
  rw [flags, signed, M.u32At?_eq (by decide) (by omega)]
  rfl

theorem metric_eq (h : 20 ≤ m.bytes.length) : metric M m = .ok m.metric := by
  rw [metric, signed, M.u32At?_eq (by decide) (by omega)]
  rfl

theorem skipSlot?_le {offset slot next : Nat} (h : m.skipSlot? offset slot = some next) :
    next ≤ offset + 256 := by
  rw [AddressMessage.skipSlot?] at h
  split at h
  · obtain ⟨length, -, rfl⟩ := Option.map_eq_some_iff.mp h
    have hlength := length.toNat_lt
    have hpadded := paddedLength_le (show length.toNat ≤ 255 by omega)
    omega
  · obtain rfl := Option.some.inj h
    omega

theorem skipSlot_eq {offset slot : Nat} (h : offset + 256 ≤ 65535) :
    skipSlot M m m.slots offset slot = .ok (m.skipSlot? offset slot) := by
  rw [skipSlot, hasSlot_eq, ok_bind, AddressMessage.skipSlot?]
  by_cases hslot : m.slots.has slot = true
  · rw [if_pos hslot, if_pos hslot]
    cases m.bytes[offset]? with
    | none => rfl
    | some length =>
      have hlength := length.toNat_lt
      have hpadded := paddedLength_le (show length.toNat ≤ 255 by omega)
      simp only [padded_eq M (show length.toNat ≤ 255 by omega), ok_bind]
      rw [M.add_eq_of_le (by omega)]
      rfl
  · rw [if_neg hslot, if_neg hslot]
    rfl

/-- Each slot takes 256 octets at most, so the offset stays small. -/
theorem skipSlots_eq {slots : List Nat} {offset : Nat}
    (h : offset + 256 * slots.length ≤ 65535) :
    skipSlots M m m.slots slots offset = .ok (slots.foldlM m.skipSlot? offset) := by
  induction slots generalizing offset with
  | nil => rfl
  | cons slot rest ih =>
    rw [List.length_cons, Nat.mul_succ, ← Nat.add_assoc] at h
    have hroom : offset + 256 ≤ 65535 := by omega
    rw [skipSlots, skipSlot_eq M hroom, ok_bind, List.foldlM_cons]
    cases hnext : m.skipSlot? offset slot with
    | none => rfl
    | some next =>
      have hle := skipSlot?_le hnext
      exact ih (by omega)

theorem slotOffset_eq (h : 20 ≤ m.bytes.length) (kind : AddressKind) :
    slotOffset M m kind = .ok (m.slotOffset? kind) := by
  have hslots : slots M m.bytes = .ok m.slots := slots_eq M (by omega)
  have hfew : 20 + 256 * (List.range kind.slot).length ≤ 65535 := by
    rw [List.length_range]
    have hslot : (kind.slot : Nat) < 8 := kind.slot.isLt
    omega
  rw [slotOffset, hslots, ok_bind, hasSlot_eq, ok_bind, AddressMessage.slotOffset?]
  by_cases hkind : m.slots.has kind.slot = true
  · have hcontains : m.slots.contains kind = true := hkind
    rw [if_pos hkind, if_pos hcontains, skipSlots_eq M hfew, ok_bind, AddressMessage.fixedLength]
    cases (List.range kind.slot).foldlM m.skipSlot? 20 <;> rfl
  · have hcontains : ¬ m.slots.contains kind = true := hkind
    rw [if_neg hkind, if_neg hcontains]
    rfl

theorem address_eq (h : 20 ≤ m.bytes.length) (kind : AddressKind) :
    address M m kind = .ok (m.address? kind) := by
  rw [address, slotOffset_eq M h, ok_bind, AddressMessage.address?]
  cases hoffset : m.slotOffset? kind with
  | none =>
    simp only [index_eq M (show 14 ≤ m.bytes.length by omega), ok_bind]
    rfl
  | some offset =>
    simp only [sliceFrom_eq (Nat.le_of_lt (AddressMessage.slotOffset?_lt hoffset)), ok_bind]
    cases kind with
    | address => exact decode_eq M _
    | netmask => exact decodeNetmask_eq M _
    | broadcastOrDestination => exact decode_eq M _

end

end Checked

end InterfaceDump
