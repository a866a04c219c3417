import InterfaceDump.Proofs.Message.Slots
import InterfaceDump.Proofs.Message.Templates

/-! Addresses, packed into a message and taken out again.

A template packs the octets of each present slot at the length they declare, padded to a
multiple of four, however many of them there are. The reader steps over the same slots by
the same lengths, so every slot starts where it was packed
(`AddressTemplate.slotStart_message`), and what stands there is its own octets, cut or
filled with zeros to what they declare (`AddressTemplate.slotOctets_message`). -/
namespace InterfaceDump
open Bytes

namespace AddressTemplate
variable (t : AddressTemplate)

/-! ### The bits of the slots -/

theorem testBit_foldl {slots : Fin slotCount → Option Bytes} (l : List (Fin slotCount))
    (bits n : Nat) :
    (l.foldl (fun bits i => if (slots i).isSome then bits ||| 1 <<< i.val else bits)
        bits).testBit n = true ↔
      bits.testBit n = true ∨ ∃ i ∈ l, (slots i).isSome = true ∧ i.val = n := by
  induction l generalizing bits with
  | nil => simp
  | cons i l ih =>
    rw [List.foldl_cons, ih]
    by_cases hset : (slots i).isSome = true
    · simp [hset, Nat.testBit_or, Nat.one_shiftLeft, Nat.testBit_two_pow, or_assoc]
    · simp [hset]

/-- A bit is set for every slot that is present, and for nothing else. -/
theorem testBit_slotBits {n : Nat} :
    t.slotBits.testBit n = true ↔ ∃ h : n < slotCount, (t.slots ⟨n, h⟩).isSome = true := by
  rw [slotBits, testBit_foldl]
  simp only [Nat.zero_testBit, Bool.false_eq_true, false_or, List.mem_finRange, true_and]
  constructor
  · rintro ⟨i, hset, rfl⟩
    exact ⟨i.isLt, hset⟩
  · rintro ⟨h, hset⟩
    exact ⟨⟨n, h⟩, hset, rfl⟩

theorem slotBits_lt : t.slotBits < 2 ^ 32 := by
  refine Nat.lt_pow_two_of_testBit _ fun n hn => ?_
  rw [← Bool.not_eq_true, testBit_slotBits]
  rintro ⟨h, -⟩
  exact Nat.not_lt_of_le hn (Nat.lt_trans h (by decide))

theorem bits_message : t.message.slots.bits.toNat = t.slotBits := by
  simp [message, AddressMessage.slots, encode_eq, u32le_skip, toNat_u32le_append t.slotBits_lt]

theorem has_message (slot : Fin slotCount) :
    t.message.slots.has slot = (t.slots slot).isSome := by
  rw [SlotSet.has, bits_message, Bool.eq_iff_iff, Bool.and_eq_true, testBit_slotBits]
  exact ⟨fun hpresent => hpresent.2.2, fun hset => ⟨by simp, slot.isLt, hset⟩⟩

theorem flags_message : t.message.flags = t.flags := by
  simp [message, AddressMessage.flags, encode_eq, u32le_skip]

theorem metric_message : t.message.metric = t.metric := by
  simp [message, AddressMessage.metric, encode_eq, u32le_skip]

/-! ### Where the slots are packed -/

/-- What a slot adds to the message. -/
def part (slot : Fin slotCount) : Bytes := ((t.slots slot).map packSlot).getD []

/-- What the slots before one add. -/
def packedBefore (slot : Nat) : Bytes := ((List.finRange slotCount).take slot).flatMap t.part

/-- What a slot and the ones behind it add. -/
def packedFrom (slot : Nat) : Bytes := ((List.finRange slotCount).drop slot).flatMap t.part

theorem body_eq (slot : Nat) : t.body = t.packedBefore slot ++ t.packedFrom slot := by
  rw [packedBefore, packedFrom, ← List.flatMap_append, List.take_append_drop]
  rfl

theorem packedBefore_succ (slot : Fin slotCount) :
    t.packedBefore (slot + 1) = t.packedBefore slot ++ t.part slot := by
  rw [packedBefore, List.take_succ_eq_append_getElem (by simp), List.flatMap_append,
    List.getElem_finRange, List.flatMap_singleton, packedBefore]
  rfl

theorem packedFrom_eq (slot : Fin slotCount) :
    t.packedFrom slot = t.part slot ++ t.packedFrom (slot + 1) := by
  rw [packedFrom, List.drop_eq_getElem_cons (by simp), List.flatMap_cons, List.getElem_finRange,
    packedFrom]
  rfl

theorem drop_encode (slot : Nat) :
    t.encode.drop (AddressMessage.fixedLength + (t.packedBefore slot).length) =
      t.packedFrom slot := by
  rw [← List.drop_drop, encode, List.drop_left' (by simp [AddressMessage.fixedLength]),
    t.body_eq slot, List.drop_left]

/-! ### What the reader finds -/

section
variable {raw : Bytes}

theorem declaredLength_packSlot (rest : Bytes) :
    declaredLength (packSlot raw ++ rest) = declaredLength raw := by
  have hpos := paddedLength_pos (declaredLength raw)
  rw [declaredLength, packSlot, byteAt_append_left (by rwa [length_resize]), byteAt_resize hpos,
    declaredLength]

/-- The declared octets of a slot are in the message, and no others are read. -/
theorem declaredOctets_packSlot (rest : Bytes) :
    declaredOctets (packSlot raw ++ rest) = resize (declaredLength raw) raw := by
  rw [declaredOctets, declaredLength_packSlot, packSlot,
    List.take_append_of_le_length (by rw [length_resize]; exact le_paddedLength _),
    take_resize (le_paddedLength _)]

end

/-- **Every slot starts where it was packed.** -/
theorem slotStart_message {slot : Nat} (h : slot ≤ slotCount) :
    t.message.slotStart slot = AddressMessage.fixedLength + (t.packedBefore slot).length := by
  induction slot with
  | zero => rfl
  | succ slot ih =>
    have hstart := ih (Nat.le_of_succ_le h)
    have hhas : t.message.slots.has slot = (t.slots ⟨slot, h⟩).isSome := t.has_message ⟨slot, h⟩
    have hbefore : t.packedBefore (slot + 1) = t.packedBefore slot ++ t.part ⟨slot, h⟩ :=
      t.packedBefore_succ ⟨slot, h⟩
    have hfrom : t.packedFrom slot = t.part ⟨slot, h⟩ ++ t.packedFrom (slot + 1) :=
      t.packedFrom_eq ⟨slot, h⟩
    rw [AddressMessage.slotStart, hhas, hbefore, List.length_append, hstart, ← Nat.add_assoc]
    -- The reader steps over the slot by the length that it was packed at.
    congr 1
    cases hraw : t.slots ⟨slot, h⟩ with
    | none =>
      rw [part, hraw]
      rfl
    | some raw =>
      have hthere : t.message.bytes.drop
          (AddressMessage.fixedLength + (t.packedBefore slot).length) =
            packSlot raw ++ t.packedFrom (slot + 1) := by
        rw [message, drop_encode, hfrom, part, hraw]
        rfl
      have hlength : (byteAt t.message.bytes
          (AddressMessage.fixedLength + (t.packedBefore slot).length)).toNat =
            declaredLength raw := by
        rw [← Nat.add_zero (_ + _), ← byteAt_drop, hthere]
        exact declaredLength_packSlot _
      rw [Option.isSome_some, if_pos rfl, hlength, part, hraw]
      exact (length_resize _ _).symm

/-- The octets of a slot are its own, cut or filled with zeros to what they declare. -/
theorem slotOctets_message {slot : Fin slotCount} {raw : Bytes} (h : t.slots slot = some raw) :
    t.message.slotOctets slot = resize (declaredLength raw) raw := by
  rw [AddressMessage.slotOctets, t.slotStart_message (Nat.le_of_lt slot.isLt), message,
    drop_encode, packedFrom_eq, part, h]
  exact declaredOctets_packSlot _

theorem address?_message (kind : AddressKind) :
    t.message.address? kind = (t.slots kind.slot).bind fun raw =>
      AddressMessage.decodeKind? kind (resize (declaredLength raw) raw) := by
  rw [AddressMessage.address?_eq, SlotSet.contains, has_message]
  cases h : t.slots kind.slot with
  | none => rfl
  | some raw =>
    rw [t.slotOctets_message h]
    rfl

end AddressTemplate

/-- **Addresses come back as they were packed.** A message is read whatever follows it, with
its index, flags and metric and a bit for every slot that is present. An address of it is
none if its slot is not present, and what its octets are read as otherwise, cut or filled
with zeros to the length they declare. Whatever is put into other slots changes nothing. -/
theorem addresses_come_back {t : AddressTemplate}
    (h : t.messageType = MessageType.newAddress.code) (rest : Bytes) :
    ∃ m, AddressMessage.parse? (t.encode ++ rest) = some m ∧
      (∀ n, m.slots.bits.toNat.testBit n = true ↔
        ∃ hn : n < slotCount, (t.slots ⟨n, hn⟩).isSome = true) ∧
      m.index = t.index ∧ m.flags = t.flags ∧ m.metric = t.metric ∧
      ∀ kind, m.address? kind = (t.slots kind.slot).bind fun raw =>
        AddressMessage.decodeKind? kind (resize (declaredLength raw) raw) := by
  refine ⟨t.message, ?_, fun n => ?_, t.index_message, t.flags_message, t.metric_message,
    t.address?_message⟩
  · rw [t.delimited_encode.addressMessage?_append, t.parse?_encode, if_pos h]
  · rw [t.bits_message, t.testBit_slotBits]

/-- Slots that hold nothing at all, more octets than the zero or five that they declare, and
fewer than the seven. -/
def Sample.crowdedSlots : List Bytes :=
  [[], [0, 18, 9, 9, 9], [7, 0, 0, 0, 255, 255], [5, 18, 9, 9, 9, 9, 9, 9, 9, 9]]

/-- A message with these in its first slots, in front of an address. -/
def Sample.crowded : AddressTemplate :=
  ({ index := 19, flags := -1, metric := 1, slots := fun slot => Sample.crowdedSlots[slot.val]? } :
      AddressTemplate)
    |>.setAddress .address (.v4 ⟨.ofBytes [10, 0, 0, 2], 0⟩)

/-- The mask of 16 bits and the address are found among them, and there is no broadcast
address. -/
theorem addresses_come_back_crowded :
    Sample.crowded.messageType = MessageType.newAddress.code ∧
      ∃ m, AddressMessage.parse? (Sample.crowded.encode ++ [80, 0]) = some m ∧
        m.index = 19 ∧ m.flags = -1 ∧ m.metric = 1 ∧
        m.address? .netmask = some (.v4 ⟨.ofBytes [255, 255], 0⟩) ∧
        m.address? .address = some (.v4 ⟨.ofBytes [10, 0, 0, 2], 0⟩) ∧
        m.address? .broadcastOrDestination = none := by
  obtain ⟨m, hparse, -, hindex, hflags, hmetric, haddress⟩ :=
    addresses_come_back (t := Sample.crowded) rfl [80, 0]
  refine ⟨rfl, m, hparse, hindex, hflags, hmetric, ?_, ?_, ?_⟩
  · rw [haddress]
    decide
  · rw [haddress]
    decide
  · rw [haddress]
    rfl

end InterfaceDump
