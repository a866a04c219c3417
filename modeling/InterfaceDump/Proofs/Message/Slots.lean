import InterfaceDump.Proofs.Address.Declared
import InterfaceDump.Proofs.Message.Records

/-! Where an address message has its addresses.

An address starts behind the present slots before its own (`AddressMessage.slotStart`),
and the walk over these slots either gets there or has left the message
(`AddressMessage.slotOffset?_eq`). So an address is what its own declared octets are read
as, if its bit is set (`AddressMessage.address?_eq`): where they stand depends on the bits
and the length octets of the slots before it (`SameSlot`), and on nothing else. -/
namespace InterfaceDump
open Bytes

namespace AddressMessage
variable {m a b : AddressMessage} {kind : AddressKind}

/-! ### Where a slot starts -/

/-- Where the address of a slot starts, if it is present: behind the fixed part and the
padded addresses of the present slots before it. -/
def slotStart (m : AddressMessage) : Nat → Nat
  | 0 => fixedLength
  | slot + 1 =>
    m.slotStart slot +
      if m.slots.has slot then paddedLength (byteAt m.bytes (m.slotStart slot)).toNat else 0

/-- The octets that the address of a slot declares as its own. -/
def slotOctets (m : AddressMessage) (slot : Nat) : Bytes :=
  declaredOctets (m.bytes.drop (m.slotStart slot))

theorem slotStart_le_succ (m : AddressMessage) (slot : Nat) :
    m.slotStart slot ≤ m.slotStart (slot + 1) := Nat.le_add_right _ _

theorem slotStart_mono (m : AddressMessage) {slot later : Nat} (h : slot ≤ later) :
    m.slotStart slot ≤ m.slotStart later := by
  induction h with
  | refl => exact Nat.le_refl _
  | step _ ih => exact Nat.le_trans ih (m.slotStart_le_succ _)

/-- A step over a slot gets to the start of the next one, or the slot starts behind the end. -/
theorem skipSlot?_slotStart (m : AddressMessage) (slot : Nat) :
    m.skipSlot? (m.slotStart slot) slot = some (m.slotStart (slot + 1)) ∨
      m.skipSlot? (m.slotStart slot) slot = none ∧ m.bytes.length ≤ m.slotStart slot := by
  rw [skipSlot?, slotStart]
  split
  · rcases Nat.lt_or_ge (m.slotStart slot) m.bytes.length with hin | hbehind
    · left
      rw [getElem?_eq_byteAt hin, Option.map_some]
    · right
      rw [List.getElem?_eq_none hbehind, Option.map_none]
      exact ⟨rfl, hbehind⟩
  · exact .inl rfl

/-- The walk over the slots before one gets to its start, or has left the message before. -/
theorem foldlM_skipSlot? (m : AddressMessage) (slot : Nat) :
    (List.range slot).foldlM m.skipSlot? fixedLength = some (m.slotStart slot) ∨
      (List.range slot).foldlM m.skipSlot? fixedLength = none ∧
        m.bytes.length ≤ m.slotStart slot := by
  induction slot with
  | zero => exact .inl rfl
  | succ slot ih =>
    rw [List.range_succ, List.foldlM_append]
    rcases ih with hthere | ⟨hleft, hbehind⟩
    · simp only [hthere, List.foldlM_cons, List.foldlM_nil, Option.bind_eq_bind, Option.bind_some,
        Option.pure_def, Option.bind_fun_some]
      exact (m.skipSlot?_slotStart slot).imp_right fun h =>
        ⟨h.1, Nat.le_trans h.2 (m.slotStart_le_succ slot)⟩
    · rw [hleft]
      exact .inr ⟨rfl, Nat.le_trans hbehind (m.slotStart_le_succ slot)⟩

theorem slotOffset?_eq (m : AddressMessage) (kind : AddressKind) :
    m.slotOffset? kind =
      if m.slots.contains kind ∧ m.slotStart kind.slot < m.bytes.length then
        some (m.slotStart kind.slot)
      else none := by
  rw [slotOffset?]
  by_cases hpresent : m.slots.contains kind = true
  · simp only [hpresent, if_true, true_and]
    rcases m.foldlM_skipSlot? kind.slot with hthere | ⟨hleft, hbehind⟩
    · rw [hthere]
      rfl
    · rw [hleft, if_neg (Nat.not_lt_of_le hbehind)]
      rfl
  · simp only [hpresent, Bool.false_eq_true, if_false, false_and]

theorem slotOffset?_lt {offset : Nat} (h : m.slotOffset? kind = some offset) :
    offset < m.bytes.length := by
  rw [slotOffset?_eq] at h
  split at h
  · next hthere =>
    obtain rfl := Option.some.inj h
    exact hthere.2
  · exact nomatch h

/-! ### What an address is read from -/

theorem decodeKind?_declaredOctets (kind : AddressKind) (raw : Bytes) :
    decodeKind? kind (declaredOctets raw) = decodeKind? kind raw := by
  cases kind with
  | address => exact SockAddr.decode?_declaredOctets raw
  | netmask => exact SockAddr.decodeNetmask?_declaredOctets raw
  | broadcastOrDestination => exact SockAddr.decode?_declaredOctets raw

/-- An address of which octets are missing is not read. -/
theorem decodeKind?_of_length_lt {raw : Bytes} (h : raw.length < declaredLength raw) :
    decodeKind? kind raw = none := by
  cases kind with
  | address => exact SockAddr.decode?_of_length_lt h
  | netmask => exact SockAddr.decodeNetmask?_of_length_lt h
  | broadcastOrDestination => exact SockAddr.decode?_of_length_lt h

/-- **An address is what its own declared octets are read as, if it is present.** -/
theorem address?_eq (m : AddressMessage) (kind : AddressKind) :
    m.address? kind =
      if m.slots.contains kind then decodeKind? kind (m.slotOctets kind.slot) else none := by
  rw [address?, slotOffset?_eq, slotOctets, decodeKind?_declaredOctets]
  by_cases hpresent : m.slots.contains kind = true
  · rcases Nat.lt_or_ge (m.slotStart kind.slot) m.bytes.length with hin | hbehind
    · rw [if_pos ⟨hpresent, hin⟩, if_pos hpresent]
      rfl
    · rw [if_neg fun h => Nat.not_lt_of_le hbehind h.2, if_pos hpresent,
        List.drop_eq_nil_of_le hbehind]
      cases kind <;> rfl
  · rw [if_neg fun h => hpresent h.1, if_neg hpresent]
    rfl

/-- An address that would start behind the end is not read. -/
theorem address?_of_length_le (h : m.bytes.length ≤ m.slotStart kind.slot) :
    m.address? kind = none := by
  rw [address?, slotOffset?_eq, if_neg fun hthere => Nat.not_lt_of_le h hthere.2]
  rfl

/-- An address whose slot or one before it would start behind the end, or that octets are
missing of, is not read. -/
theorem address?_eq_none
    (h : (∃ slot ≤ (kind.slot : Nat), m.bytes.length ≤ m.slotStart slot) ∨
      m.bytes.length <
        m.slotStart kind.slot + declaredLength (m.bytes.drop (m.slotStart kind.slot))) :
    m.address? kind = none := by
  rcases h with ⟨slot, hslot, hbehind⟩ | hmissing
  · exact address?_of_length_le (Nat.le_trans hbehind (m.slotStart_mono hslot))
  · rcases Nat.lt_or_ge (m.slotStart kind.slot) m.bytes.length with hin | hbehind
    · have hshort : (m.bytes.drop (m.slotStart kind.slot)).length <
          declaredLength (m.bytes.drop (m.slotStart kind.slot)) := by
        rw [List.length_drop]
        omega
      rw [address?_eq, slotOctets, decodeKind?_declaredOctets, decodeKind?_of_length_lt hshort,
        ite_self]
    · exact address?_of_length_le hbehind

/-! ### What an address does not depend on -/

/-- The messages agree in what leads to the address of a kind, and in its own octets. They
may differ in everything else: later bits, what the slots before it hold, what follows it. -/
structure SameSlot (kind : AddressKind) (a b : AddressMessage) : Prop where
  bits : ∀ slot ≤ (kind.slot : Nat), a.slots.has slot = b.slots.has slot
  /-- The length octets of the present slots before it, in the same places. -/
  lengths : ∀ slot < (kind.slot : Nat), a.slots.has slot = true →
    byteAt a.bytes (a.slotStart slot) = byteAt b.bytes (a.slotStart slot)
  octets : declaredOctets (a.bytes.drop (a.slotStart kind.slot)) =
    declaredOctets (b.bytes.drop (a.slotStart kind.slot))

/-- Slot by slot, the addresses start in the same places. -/
theorem SameSlot.slotStart_eq (h : SameSlot kind a b) {slot : Nat} (hslot : slot ≤ kind.slot) :
    a.slotStart slot = b.slotStart slot := by
  induction slot with
  | zero => rfl
  | succ slot ih =>
    have hstart := ih (Nat.le_of_succ_le hslot)
    have hbit := h.bits slot (Nat.le_of_succ_le hslot)
    rw [slotStart, slotStart, ← hstart, ← hbit]
    by_cases hpresent : a.slots.has slot = true
    · rw [h.lengths slot hslot hpresent]
    · rw [if_neg hpresent, if_neg hpresent]

theorem SameSlot.address?_eq (h : SameSlot kind a b) : a.address? kind = b.address? kind := by
  have hbit : a.slots.contains kind = b.slots.contains kind := h.bits _ (Nat.le_refl _)
  have hoctets : a.slotOctets kind.slot = b.slotOctets kind.slot := by
    rw [slotOctets, slotOctets, h.octets, h.slotStart_eq (Nat.le_refl _)]
  rw [AddressMessage.address?_eq, AddressMessage.address?_eq, hbit, hoctets]

end AddressMessage

/-- **An address depends on its own octets and on the way to them.** A message holds its
declared octets and no others; two messages that agree in the bits and lengths up to the
address and in its own octets give the same; and an address that starts behind the end or
declares more than is left is none. -/
theorem address_from_own_octets (kind : AddressKind) :
    (∀ raw m, AddressMessage.parse? raw = some m → m.bytes = raw.take (u16le raw 0).toNat) ∧
      (∀ a b, AddressMessage.SameSlot kind a b → a.address? kind = b.address? kind) ∧
      ∀ m : AddressMessage,
        ((∃ slot ≤ (kind.slot : Nat), m.bytes.length ≤ m.slotStart slot) ∨
          m.bytes.length <
            m.slotStart kind.slot + declaredLength (m.bytes.drop (m.slotStart kind.slot))) →
          m.address? kind = none := by
  refine ⟨fun raw m h => ?_, fun a b h => h.address?_eq,
    fun m h => AddressMessage.address?_eq_none h⟩
  obtain ⟨-, -, -, -, rfl⟩ := AddressMessage.parse?_eq_some_iff.mp h
  rfl

/-- An address message for 10.0.0.2 with a mask of 24 bits and an empty broadcast slot. -/
def Sample.masked : Bytes :=
  [40, 0, 5, 12, 164, 0, 0, 0, 0, 0, 0, 0, 19, 0, 0, 0, 0, 0, 0, 0,
   7, 2, 0, 0, 255, 255, 255, 0, 8, 2, 0, 0, 10, 0, 0, 2, 0, 0, 0, 0]

/-- Another message with the same address: its mask is as long, but is none, its broadcast
slot is not present, and a bit is set that stands for no slot. -/
def Sample.maskedOtherwise : Bytes :=
  [40, 0, 5, 12, 36, 2, 0, 0, 9, 9, 9, 9, 4, 0, 0, 0, 1, 0, 0, 0,
   7, 99, 1, 2, 3, 4, 5, 6, 8, 2, 0, 0, 10, 0, 0, 2, 16, 2, 0, 0]

/-- The two messages give the same address, and the first one, cut in the middle of it, gives
none. -/
theorem address_from_own_octets_masked :
    (AddressMessage.parse? (Sample.masked ++ [80, 0]) = some ⟨Sample.masked⟩ ∧
      Sample.masked =
        (Sample.masked ++ [80, 0]).take (u16le (Sample.masked ++ [80, 0]) 0).toNat) ∧
      (AddressMessage.SameSlot .address ⟨Sample.masked⟩ ⟨Sample.maskedOtherwise⟩ ∧
        AddressMessage.address? ⟨Sample.masked⟩ .address = some (.v4 ⟨.ofBytes [10, 0, 0, 2], 0⟩) ∧
        AddressMessage.address? ⟨Sample.masked⟩ .address =
          AddressMessage.address? ⟨Sample.maskedOtherwise⟩ .address) ∧
      (Sample.masked.take 34).length <
        AddressMessage.slotStart ⟨Sample.masked.take 34⟩ 5 + declaredLength
          ((Sample.masked.take 34).drop (AddressMessage.slotStart ⟨Sample.masked.take 34⟩ 5)) ∧
      AddressMessage.address? ⟨Sample.masked.take 34⟩ .address = none := by
  obtain ⟨hdeclared, hagree, hnone⟩ := address_from_own_octets .address
  have hparse : AddressMessage.parse? (Sample.masked ++ [80, 0]) = some ⟨Sample.masked⟩ := by decide
  have hsame : AddressMessage.SameSlot .address ⟨Sample.masked⟩ ⟨Sample.maskedOtherwise⟩ :=
    ⟨by decide, by decide, by decide⟩
  have hread : AddressMessage.address? ⟨Sample.masked⟩ .address =
      some (.v4 ⟨.ofBytes [10, 0, 0, 2], 0⟩) := by decide
  have hmissing : (Sample.masked.take 34).length <
      AddressMessage.slotStart ⟨Sample.masked.take 34⟩ 5 + declaredLength
        ((Sample.masked.take 34).drop (AddressMessage.slotStart ⟨Sample.masked.take 34⟩ 5)) := by
    decide
  exact ⟨⟨hparse, hdeclared _ _ hparse⟩, ⟨hsame, hread, hagree _ _ hsame⟩, hmissing,
    hnone _ (.inr hmissing)⟩

end InterfaceDump
