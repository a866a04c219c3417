import InterfaceDump.Message.Sample
import InterfaceDump.Proofs.Dump.Cursor
import InterfaceDump.Proofs.Message.Templates
import InterfaceDump.Proofs.Record.Framing

/-! The cursor at any offset.

A cursor may be set to an offset where no record starts: inside a payload, behind a
broken record, past the end. What it finds there is settled by the octets at that offset
alone (`OpensAt`). From there it moves forward, and lands on an interface or at the end
(`SoundAt`). The search that it moves by finds the same interface from every place on
the way to it (`nextBoundary_after`), so where a search is taken up again does not matter. -/
namespace InterfaceDump
open Bytes

/-! ### What opens an interface -/

/-- A whole interface message (type 14) of the current version, 5, starts at `offset`. It
announces a link-layer address, by slot 4, and has an index. -/
structure OpensAt (data : Bytes) (offset : Nat) : Prop where
  fixed_le : 112 ≤ (u16le data offset).toNat
  stop_le : offset + (u16le data offset).toNat ≤ data.length
  version : byteAt data (offset + 2) = 5
  type : byteAt data (offset + 3) = 14
  link : (u32le data (offset + 4)).toNat.testBit 4 = true
  index : u16le data (offset + 12) ≠ 0

namespace Record
variable {r : Record} {data : Bytes}

theorem IsIn.header_eq_octets (h : r.IsIn data) :
    r.header = ⟨u16le data r.offset, byteAt data (r.offset + 2),
      .ofCode (byteAt data (r.offset + 3))⟩ := by
  have hparse := h.parse?
  rw [Header.parse?, Option.ite_none_right_eq_some] at hparse
  rw [← Header.leading_drop]
  exact (Option.some.inj hparse.2).symm

/-- A current interface message, by the octets of its header. -/
theorem IsIn.isInterfaceInfo_iff (h : r.IsIn data) : r.isInterfaceInfo = true ↔
    byteAt data (r.offset + 2) = 5 ∧ byteAt data (r.offset + 3) = 14 := by
  simp only [isInterfaceInfo, Header.isCurrent, Bool.and_eq_true, beq_iff_eq, h.header_eq_octets,
    MessageType.ofCode_eq_interfaceInfo, Header.currentVersion, MessageType.code]

/-- A message can stand for an interface, by the octets of its fixed part. -/
theorem IsIn.isUsable_iff (h : r.IsIn data) (hfixed : 112 ≤ r.bytes.length) :
    (⟨r.bytes⟩ : InterfaceMessage).isUsable = true ↔
      (u32le data (r.offset + 4)).toNat.testBit 4 = true ∧ u16le data (r.offset + 12) ≠ 0 := by
  have hslots : u32le r.bytes 4 = u32le data (r.offset + 4) := by
    rw [u32le, h.field_bytes (by omega), u32le]
  have hindex : u16le r.bytes 12 = u16le data (r.offset + 12) := by
    rw [u16le, h.field_bytes (by omega), u16le]
  simp only [InterfaceMessage.isUsable, InterfaceMessage.slots, InterfaceMessage.index,
    SlotSet.hasInterfaceLink, SlotSet.has, SlotSet.interfaceSlot, hslots, hindex,
    Bool.and_eq_true, bne_iff_ne]
  exact and_congr_left' (and_iff_right (by decide))

/-- A record opens an interface by the octets that stand in its place. -/
theorem IsIn.opensInterface_iff (h : r.IsIn data) :
    r.opensInterface = true ↔ OpensAt data r.offset := by
  have hlength : r.bytes.length = (u16le data r.offset).toNat := by
    rw [h.length_eq, h.header_eq_octets]
    rfl
  have hstop := h.stop_le
  rw [Record.stop, hlength] at hstop
  constructor
  · intro ho
    obtain ⟨hm, husable⟩ := h.interfaceMessage?_of_opens ho
    have hfixed : 112 ≤ r.bytes.length := (InterfaceMessage.length_of_parse? hm).1
    obtain ⟨hversion, htype⟩ := h.isInterfaceInfo_iff.mp (isInterfaceInfo_of_opens ho)
    obtain ⟨hlink, hindex⟩ := (h.isUsable_iff hfixed).mp husable
    exact ⟨hlength ▸ hfixed, hstop, hversion, htype, hlink, hindex⟩
  · rintro ⟨hfixed, -, hversion, htype, hlink, hindex⟩
    rw [← hlength] at hfixed
    have hinfo := h.isInterfaceInfo_iff.mpr ⟨hversion, htype⟩
    have hm : InterfaceMessage.parse? r.bytes = some ⟨r.bytes⟩ := by
      rw [h.interfaceMessage?]
      exact if_pos ⟨eq_of_beq (Bool.and_eq_true_iff.mp hinfo).2, hfixed⟩
    rw [opensInterface, hinfo, Bool.true_and, hm, Option.any_some]
    exact (h.isUsable_iff hfixed).mpr ⟨hlink, hindex⟩

end Record

/-- Where an interface opens, a record stands. -/
theorem OpensAt.exists_records {data : Bytes} {offset : Nat} (h : OpensAt data offset) :
    ∃ r later, records data offset = r :: later := by
  have hfixed := h.fixed_le
  have hstop := h.stop_le
  have hsize : Header.size ≤ (data.drop offset).length := by
    rw [List.length_drop, Header.size]
    omega
  have hfits : (Header.leading (data.drop offset)).Fits (data.drop offset) := by
    simp only [Header.Fits, Header.recordLength, Header.leading_drop, List.length_drop, Header.size]
    omega
  have hwhole := Frame.of_eq_whole_iff.mpr ⟨Header.parse?_eq_leading hsize, hfits⟩
  exact ⟨_, _, recordsFrom_of_whole hwhole⟩

namespace Dump
variable {d : Dump} {offset : Nat}

/-- **There is an interface at an offset if the octets there are those of a usable interface
message.** -/
theorem isSome_interfaceAt?_iff :
    (d.interfaceAt? offset).isSome = true ↔ OpensAt d.bytes offset := by
  constructor
  · intro h
    obtain ⟨i, hi⟩ := Option.isSome_iff_exists.mp h
    obtain ⟨r, later, hrun, ho, -⟩ := interfaceAt?_eq_some_iff.mp hi
    obtain ⟨rfl, hin, -⟩ := records_eq_cons_iff.mp hrun
    exact hin.opensInterface_iff.mp ho
  · intro h
    obtain ⟨r, later, hrun⟩ := h.exists_records
    obtain ⟨rfl, hin, -⟩ := records_eq_cons_iff.mp hrun
    rw [interfaceAt?_of_opens hrun (hin.opensInterface_iff.mpr h)]
    rfl

end Dump

/-! ### Searching again -/

/-- A search ends at a record that opens an interface, or at the end of the dump. -/
theorem nextBoundary_cases (data : Bytes) (start : Nat) :
    nextBoundary data start = data.length ∨
      ∃ r later, records data (nextBoundary data start) = r :: later ∧
        r.opensInterface = true := by
  cases hfound : (records data start).find? (·.opensInterface) with
  | none => exact .inl (by rw [nextBoundary, hfound])
  | some r =>
    obtain ⟨before, later, hrun⟩ := List.append_of_mem (List.mem_of_find?_eq_some hfound)
    refine .inr ⟨r, later, ?_, List.find?_some hfound⟩
    rw [nextBoundary, hfound]
    exact records_of_append hrun

theorem nextBoundary_of_nil {data : Bytes} {start : Nat} (h : records data start = []) :
    nextBoundary data start = data.length := by
  rw [nextBoundary_eq, h]
  rfl

/-- A search from where a search ended ends there at once. -/
theorem nextBoundary_nextBoundary (data : Bytes) (start : Nat) :
    nextBoundary data (nextBoundary data start) = nextBoundary data start := by
  rcases nextBoundary_cases data start with hend | ⟨r, later, hrun, ho⟩
  · rw [hend, nextBoundary_of_nil (records_eq_nil_of_le (Nat.le_refl _))]
  · obtain ⟨hoffset, -, -⟩ := records_eq_cons_iff.mp hrun
    rw [nextBoundary_eq, hrun, firstOpening_of_opens ho, hoffset]

namespace Reader

theorem data_next (r : Reader) : r.next.2.data = r.data := by
  unfold next
  split <;> rfl

/-- A reader does not move back, not even where it is stuck. -/
theorem offset_le_next (r : Reader) : r.offset ≤ r.next.2.offset := by
  unfold next
  split
  · exact Nat.le_add_right _ _
  · next header hbroken =>
    -- There is a header to be broken, so the reader is in front of the end.
    rcases Nat.lt_or_ge r.offset r.data.length with hlt | hge
    · exact Nat.le_of_lt hlt
    · rw [rest, List.drop_eq_nil_of_le hge, Frame.of_nil] at hbroken
      contradiction
  · exact Nat.le_refl _

theorem offset_le_after (r : Reader) (n : Nat) : r.offset ≤ (r.after n).offset := by
  induction n generalizing r with
  | zero => exact Nat.le_refl _
  | succ n ih => exact Nat.le_trans r.offset_le_next (ih r.next.2)

/-- The records still to come after `n` calls. -/
theorem records_after (r : Reader) (n : Nat) :
    records r.data (r.after n).offset = (records r.data r.offset).drop n := by
  induction n generalizing r with
  | zero => rfl
  | succ n ih =>
    have hlater := ih r.next.2
    rw [data_next] at hlater
    rw [after, hlater, ← data_next r, records_next, data_next, List.drop_tail]

/-- **From every place on the way to the next interface, the search finds that interface.** -/
theorem nextBoundary_after (r : Reader) (n : Nat)
    (h : (r.after n).offset ≤ nextBoundary r.data r.offset) :
    nextBoundary r.data (r.after n).offset = nextBoundary r.data r.offset := by
  induction n generalizing r with
  | zero => rfl
  | succ n ih =>
    cases hrun : records r.data r.offset with
    | nil =>
      have hstuck : records r.data (r.after (n + 1)).offset = [] := by
        rw [records_after, hrun, List.drop_nil]
      rw [nextBoundary_of_nil hrun, nextBoundary_of_nil hstuck]
    | cons x later =>
      obtain ⟨hoffset, hin, hlater⟩ := records_eq_cons_iff.mp hrun
      have hnext : r.next.2 = ⟨r.data, x.stop⟩ := congrArg Prod.snd (next_of_cons hrun).1
      have hafter : r.after (n + 1) = (Reader.mk r.data x.stop).after n := by
        rw [after, hnext]
      rw [hafter] at h ⊢
      by_cases ho : x.opensInterface = true
      · -- The interface is this record, and the reader has passed it.
        rw [nextBoundary_eq, hrun, firstOpening_of_opens ho] at h
        have hpassed : x.stop ≤ x.offset := Nat.le_trans (offset_le_after ⟨r.data, x.stop⟩ n) h
        exact absurd hin.offset_lt_stop (Nat.not_lt_of_le hpassed)
      · have hsame : nextBoundary r.data r.offset = nextBoundary r.data x.stop := by
          rw [nextBoundary_eq, hrun, firstOpening_of_passed ho, nextBoundary_eq, hlater]
        rw [hsame] at h ⊢
        exact ih ⟨r.data, x.stop⟩ h

end Reader

/-! ### The cursor -/

namespace Dump
variable (d : Dump) (offset : Nat)

theorem positionAfter_le : d.positionAfter offset ≤ d.endPosition := by
  unfold positionAfter
  split
  · exact nextBoundary_le _ _
  · exact Nat.le_refl _

/-- The cursor moves on, past the message that it stands at or to the end. -/
theorem lt_positionAfter (h : offset < d.endPosition) : offset < d.positionAfter offset := by
  unfold positionAfter
  split
  · next record hrecord =>
    obtain ⟨-, hstop, hend⟩ := interfaceRecord?_bounds hrecord
    have hfound := le_nextBoundary hend
    rw [InterfaceMessage.fixedLength] at hstop
    omega
  · exact h

theorem positionAfter_cases : d.positionAfter offset = d.endPosition ∨
    (d.interfaceAt? (d.positionAfter offset)).isSome = true := by
  unfold positionAfter
  split
  · next record _ =>
    refine (nextBoundary_cases d.bytes record.stop).imp_right fun ⟨r, later, hrun, ho⟩ => ?_
    rw [interfaceAt?_of_opens hrun ho]
    rfl
  · exact .inl rfl

/-- What the cursor can rely on at an offset, wherever the offset comes from. -/
structure SoundAt (d : Dump) (offset : Nat) : Prop where
  found : (d.interfaceAt? offset).isSome = true ↔ OpensAt d.bytes offset
  placed : ∀ i, d.interfaceAt? offset = some i → i.position = offset
  after_le : d.positionAfter offset ≤ d.endPosition
  progress : offset < d.endPosition → offset < d.positionAfter offset
  lands : d.positionAfter offset = d.endPosition ∨
    (d.interfaceAt? (d.positionAfter offset)).isSome = true
  settled : nextBoundary d.bytes (nextBoundary d.bytes offset) = nextBoundary d.bytes offset
  /-- Wherever a reader that starts at the offset stands on the way to the next boundary, in
  front of a record or at the end of the run, the same boundary is found. -/
  resumed : ∀ n, ((Reader.mk d.bytes offset).after n).offset ≤ nextBoundary d.bytes offset →
    nextBoundary d.bytes ((Reader.mk d.bytes offset).after n).offset = nextBoundary d.bytes offset

/-- **At any offset the cursor sees what the octets there say, and moves forward** to an
interface or to the end, and a search may be broken off and taken up again. -/
theorem sound_from_anywhere : d.SoundAt offset where
  found := isSome_interfaceAt?_iff
  placed _ hi := (interfaceAt?_bounds hi).2.1
  after_le := d.positionAfter_le offset
  progress := d.lt_positionAfter offset
  lands := d.positionAfter_cases offset
  settled := nextBoundary_nextBoundary d.bytes offset
  resumed n := (Reader.mk d.bytes offset).nextBoundary_after n

/-- An interface message inside another record is found at its offset, though no walk from
the start comes by it. -/
example : Dump.interfaces ⟨[136, 0, 5, 1] ++ Sample.tunnelInterface⟩ = [] ∧
    (Dump.interfaceAt? ⟨[136, 0, 5, 1] ++ Sample.tunnelInterface⟩ 4).isSome = true := by
  decide +kernel

end Dump

end InterfaceDump
