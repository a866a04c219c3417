import InterfaceDump.Message.Header

/-! Records.

A dump is a run of messages that each declare their own length, so it is read
from left to right. The run ends where fewer octets are left than a header
takes, or where a header declares a length that no record here can have: less
than the header itself, or more than is left.

`records` is the list of records from an offset on; `le_offset_of_mem_records` and
`offset_add_le_of_mem_records` say that every record lies between the offset and
the end of the dump. A `Reader` hands out the same records one at a time, as
`Reader.records_of_next_some` and `Reader.records_of_next_none` say. -/
namespace InterfaceDump
open Bytes

structure Record where
  offset : Nat
  header : Header
  /-- The declared octets, header included. -/
  bytes : Bytes
deriving DecidableEq

/-! ### What stands at an offset -/

/-- What the octets left over start with. -/
inductive Frame where
  /-- A record whose declared octets are all there. -/
  | whole (header : Header)
  /-- A header with a length that no record here can have. -/
  | broken (header : Header)
  /-- Less than a header. -/
  | absent
deriving DecidableEq

/-- Whether a record with this header can stand at the start of `rest`. -/
def Header.Fits (h : Header) (rest : Bytes) : Prop :=
  Header.size ≤ h.recordLength ∧ h.recordLength ≤ rest.length

instance Header.decidableFits (h : Header) (rest : Bytes) : Decidable (h.Fits rest) := by
  unfold Header.Fits; infer_instance

def Frame.of (rest : Bytes) : Frame :=
  match Header.parse? rest with
  | none => .absent
  | some h => if h.Fits rest then .whole h else .broken h

theorem Frame.of_eq_whole_iff {rest : Bytes} {h : Header} :
    Frame.of rest = .whole h ↔ Header.parse? rest = some h ∧ h.Fits rest := by
  unfold Frame.of
  split
  · simp_all
  · split <;> simp_all <;> grind

theorem Frame.fits_of_whole {rest : Bytes} {h : Header} (hw : Frame.of rest = .whole h) :
    Header.size ≤ h.recordLength ∧ h.recordLength ≤ rest.length :=
  (of_eq_whole_iff.mp hw).2

/-! ### The records of a run -/

/-- The records at the start of `rest`, whose first octet has the given offset. -/
def recordsFrom (offset : Nat) (rest : Bytes) : List Record :=
  match _ : Frame.of rest with
  | .whole h =>
    ⟨offset, h, rest.take h.recordLength⟩ ::
      recordsFrom (offset + h.recordLength) (rest.drop h.recordLength)
  | _ => []
termination_by rest.length
decreasing_by
  rename_i hw
  have := Frame.fits_of_whole hw
  simp only [Header.size, List.length_drop] at *
  omega

/-- The records of `data` from offset `start` on. -/
def records (data : Bytes) (start : Nat) : List Record := recordsFrom start (data.drop start)

theorem recordsFrom_of_whole {offset : Nat} {rest : Bytes} {h : Header}
    (hw : Frame.of rest = .whole h) :
    recordsFrom offset rest = ⟨offset, h, rest.take h.recordLength⟩ ::
      recordsFrom (offset + h.recordLength) (rest.drop h.recordLength) := by
  rw [recordsFrom]
  split <;> simp_all

theorem recordsFrom_eq_nil_iff {offset : Nat} {rest : Bytes} :
    recordsFrom offset rest = [] ↔ ∀ h, Frame.of rest ≠ .whole h := by
  rw [recordsFrom]
  split <;> simp_all

theorem mem_recordsFrom_bounds {offset : Nat} {rest : Bytes} {r : Record}
    (hr : r ∈ recordsFrom offset rest) :
    offset ≤ r.offset ∧ Header.size ≤ r.bytes.length ∧
      r.bytes.length = r.header.recordLength ∧
      r.offset + r.bytes.length ≤ offset + rest.length := by
  fun_induction recordsFrom offset rest with
  | case1 offset rest h hw ih =>
    have hfit := Frame.fits_of_whole hw
    rcases List.mem_cons.mp hr with rfl | hr
    · simp only [List.length_take]
      omega
    · have hlater := ih hr
      simp only [List.length_drop] at hlater
      omega
  | case2 => simp at hr

theorem le_offset_of_mem_records {data : Bytes} {start : Nat} {r : Record}
    (hr : r ∈ records data start) : start ≤ r.offset :=
  (mem_recordsFrom_bounds hr).1

theorem offset_add_le_of_mem_records {data : Bytes} {start : Nat} {r : Record}
    (hr : r ∈ records data start) : r.offset + r.bytes.length ≤ data.length := by
  have hb := mem_recordsFrom_bounds hr
  simp only [List.length_drop, Header.size] at hb
  omega

/-! ### Reading one record at a time -/

structure Reader where
  data : Bytes
  offset : Nat
deriving DecidableEq

namespace Reader

/-- The octets still to be read. -/
def rest (r : Reader) : Bytes := r.data.drop r.offset

/-- A broken record ends the run for good: the reader moves to the end. Where less
than a header is left it stays where it is. -/
def next (r : Reader) : Option Record × Reader :=
  match Frame.of r.rest with
  | .whole h =>
    (some ⟨r.offset, h, r.rest.take h.recordLength⟩, { r with offset := r.offset + h.recordLength })
  | .broken _ => (none, { r with offset := r.data.length })
  | .absent => (none, r)

theorem records_of_next_some {r s : Reader} {x : Record} (h : r.next = (some x, s)) :
    records r.data r.offset = x :: records s.data s.offset := by
  unfold next at h
  split at h
  · next hw =>
    cases h
    rw [records, ← rest, recordsFrom_of_whole hw, rest, List.drop_drop]
    rfl
  · simp at h
  · simp at h

theorem records_of_next_none {r s : Reader} (h : r.next = (none, s)) :
    records r.data r.offset = [] := by
  unfold next at h
  split at h
  · simp at h
  all_goals exact recordsFrom_eq_nil_iff.mpr (by simp_all [rest])

/-- The reader after the last record of its run. -/
def drained (r : Reader) : Reader :=
  { r with offset := (records r.data r.offset).foldl (· + ·.bytes.length) r.offset }

end Reader

end InterfaceDump
