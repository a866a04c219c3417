import InterfaceDump.Message.Record
import InterfaceDump.Proofs.Bytes

/-! Runs of records, taken apart.

`records_eq_cons_iff` says everything there is to say about the first record of a
run: it stands where the run starts (`Record.IsIn`), and the rest of the run is
the run that starts behind it. From it follow the order of the records
(`pairwise_records`), that every record of a run starts a run of its own
(`records_of_append`), and what a cut does to a run: it keeps the records that
end before the cut (`records_take`). In the other direction, octets that declare
their own length (`Delimited`), put end to end, are read back as they were laid
out (`recordsFrom_flatten`). -/
namespace InterfaceDump
open Bytes

/-! ### Headers -/

/-- A header is read from the first four octets alone. -/
theorem Header.parse?_take {raw : Bytes} {n : Nat} (hn : size ≤ n) :
    parse? (raw.take n) = parse? raw := by
  have hsize : size ≤ min n raw.length ↔ size ≤ raw.length := by omega
  simp only [size] at hn
  simp only [parse?, List.length_take, hsize, u16le, field_take (show 0 + 2 ≤ n by omega),
    byteAt_take (show 2 < n by omega), byteAt_take (show 3 < n by omega)]

/-- The first four octets as a header. -/
def Header.leading (raw : Bytes) : Header := ⟨u16le raw 0, byteAt raw 2, .ofCode (byteAt raw 3)⟩

theorem Header.leading_drop (data : Bytes) (i : Nat) : leading (data.drop i) =
    ⟨u16le data i, byteAt data (i + 2), .ofCode (byteAt data (i + 3))⟩ := by
  rw [leading, u16le_drop, byteAt_drop, byteAt_drop, Nat.add_zero]

theorem Header.parse?_eq_leading {raw : Bytes} (h : size ≤ raw.length) :
    parse? raw = some (leading raw) := if_pos h

theorem Header.parse?_eq_none {raw : Bytes} (h : raw.length < size) : parse? raw = none :=
  if_neg (by omega)

theorem Frame.of_nil : Frame.of [] = .absent := rfl

/-- A record is whole in front of a cut if it is whole and ends before the cut. -/
theorem Frame.of_take_eq_whole_iff {rest : Bytes} {n : Nat} {h : Header} :
    Frame.of (rest.take n) = .whole h ↔ Frame.of rest = .whole h ∧ h.recordLength ≤ n := by
  simp only [of_eq_whole_iff, Header.Fits, List.length_take]
  constructor
  · rintro ⟨hp, hlow, hhigh⟩
    rw [Header.parse?_take (by omega)] at hp
    exact ⟨⟨hp, hlow, by omega⟩, by omega⟩
  · rintro ⟨⟨hp, hlow, hhigh⟩, hn⟩
    rw [Header.parse?_take (by omega)]
    exact ⟨hp, hlow, by omega⟩

/-! ### Where a record stands -/

namespace Record

/-- The offset behind a record. -/
def stop (r : Record) : Nat := r.offset + r.bytes.length

/-- The record stands in `data` at its offset. -/
structure IsIn (r : Record) (data : Bytes) : Prop where
  frame : Frame.of (data.drop r.offset) = .whole r.header
  bytes : r.bytes = (data.drop r.offset).take r.header.recordLength

variable {r : Record} {data : Bytes}

theorem IsIn.parse? (h : r.IsIn data) : Header.parse? (data.drop r.offset) = some r.header :=
  (Frame.of_eq_whole_iff.mp h.frame).1

theorem IsIn.length_eq (h : r.IsIn data) : r.bytes.length = r.header.recordLength := by
  rw [h.bytes, List.length_take]
  exact Nat.min_eq_left (Frame.fits_of_whole h.frame).2

theorem IsIn.size_le (h : r.IsIn data) : Header.size ≤ r.bytes.length := by
  rw [h.length_eq]
  exact (Frame.fits_of_whole h.frame).1

theorem IsIn.stop_le (h : r.IsIn data) : r.stop ≤ data.length := by
  have hfits := (Frame.fits_of_whole h.frame).2
  have hsize := h.size_le
  rw [List.length_drop, ← h.length_eq] at hfits
  simp only [stop, Header.size] at *
  omega

theorem IsIn.offset_lt_stop (h : r.IsIn data) : r.offset < r.stop := by
  have hsize := h.size_le
  rw [Header.size] at hsize
  rw [stop]
  omega

/-- What is read of a record stands in the dump. -/
theorem IsIn.field_bytes (h : r.IsIn data) {i n : Nat} (hin : i + n ≤ r.bytes.length) :
    field r.bytes i n = field data (r.offset + i) n := by
  rw [h.length_eq] at hin
  rw [h.bytes, field_take hin, field_drop]

/-- The header can be read from the record alone. -/
theorem IsIn.parse?_bytes (h : r.IsIn data) : Header.parse? r.bytes = some r.header := by
  have hsize := h.size_le
  rw [h.length_eq] at hsize
  rw [h.bytes, Header.parse?_take hsize, h.parse?]

end Record

/-! ### The first record of a run -/

theorem records_eq_cons_iff {data : Bytes} {start : Nat} {r : Record} {later : List Record} :
    records data start = r :: later ↔
      r.offset = start ∧ r.IsIn data ∧ later = records data r.stop := by
  constructor
  · intro h
    cases hf : Frame.of (data.drop start) with
    | whole header =>
      rw [records, recordsFrom_of_whole hf] at h
      obtain ⟨rfl, rfl⟩ := List.cons.inj h
      have hin : Record.IsIn ⟨start, header, (data.drop start).take header.recordLength⟩ data :=
        ⟨hf, rfl⟩
      refine ⟨rfl, hin, ?_⟩
      rw [records, Record.stop, hin.length_eq, List.drop_drop]
    | broken header =>
      rw [records, recordsFrom_eq_nil_iff.mpr (by simp [hf])] at h
      simp at h
    | absent =>
      rw [records, recordsFrom_eq_nil_iff.mpr (by simp [hf])] at h
      simp at h
  · rintro ⟨rfl, hin, rfl⟩
    rw [records, recordsFrom_of_whole hin.frame, ← hin.bytes, ← hin.length_eq, List.drop_drop]
    rfl

theorem records_eq_nil_iff {data : Bytes} {start : Nat} :
    records data start = [] ↔ ∀ h, Frame.of (data.drop start) ≠ .whole h :=
  recordsFrom_eq_nil_iff

theorem records_eq_nil_of_le {data : Bytes} {start : Nat} (h : data.length ≤ start) :
    records data start = [] := by
  rw [records_eq_nil_iff, List.drop_eq_nil_of_le h, Frame.of_nil]
  exact fun _ hw => nomatch hw

/-- Every record of a run starts a run of its own. -/
theorem records_of_append {data : Bytes} {start : Nat} {before later : List Record} {r : Record}
    (h : records data start = before ++ r :: later) : records data r.offset = r :: later := by
  induction before generalizing start with
  | nil =>
    obtain ⟨rfl, -, -⟩ := records_eq_cons_iff.mp h
    exact h
  | cons q before ih =>
    obtain ⟨-, -, hlater⟩ := records_eq_cons_iff.mp h
    exact ih hlater.symm

theorem isIn_of_mem_records {data : Bytes} {start : Nat} {r : Record}
    (h : r ∈ records data start) : r.IsIn data := by
  obtain ⟨before, later, h⟩ := List.append_of_mem h
  exact (records_eq_cons_iff.mp (records_of_append h)).2.1

/-- The records of a run follow one another. -/
theorem pairwise_records (data : Bytes) (start : Nat) :
    (records data start).Pairwise fun q r => q.stop ≤ r.offset := by
  induction h : records data start generalizing start with
  | nil => exact .nil
  | cons q later ih =>
    obtain ⟨-, -, hlater⟩ := records_eq_cons_iff.mp h
    refine .cons (fun r hr => ?_) (ih q.stop hlater.symm)
    rw [hlater] at hr
    exact le_offset_of_mem_records hr

/-! ### Cut runs -/

theorem Record.IsIn.take {r : Record} {data : Bytes} {limit : Nat} (h : r.IsIn data)
    (hstop : r.stop ≤ limit) : r.IsIn (data.take limit) := by
  have hroom : r.header.recordLength ≤ limit - r.offset := by
    rw [Record.stop, h.length_eq] at hstop
    omega
  constructor
  · rw [List.drop_take, Frame.of_take_eq_whole_iff]
    exact ⟨h.frame, hroom⟩
  · rw [List.drop_take, List.take_take, Nat.min_eq_left hroom]
    exact h.bytes

/-- **A cut keeps the records that end before it**, up to the first one that does not. -/
theorem records_take (data : Bytes) (start limit : Nat) :
    records (data.take limit) start =
      (records data start).takeWhile fun r => decide (r.stop ≤ limit) := by
  induction h : records data start generalizing start with
  | nil =>
    rw [List.takeWhile_nil, records_eq_nil_iff]
    intro header hw
    rw [List.drop_take, Frame.of_take_eq_whole_iff] at hw
    exact records_eq_nil_iff.mp h header hw.1
  | cons r later ih =>
    obtain ⟨rfl, hin, hlater⟩ := records_eq_cons_iff.mp h
    by_cases hstop : r.stop ≤ limit
    · rw [List.takeWhile_cons_of_pos (by simpa using hstop), records_eq_cons_iff]
      exact ⟨rfl, hin.take hstop, (ih r.stop hlater.symm).symm⟩
    · rw [List.takeWhile_cons_of_neg (by simpa using hstop), records_eq_nil_iff]
      intro header hw
      rw [List.drop_take, Frame.of_take_eq_whole_iff] at hw
      obtain ⟨hframe, hroom⟩ := hw
      obtain rfl : r.header = header := Frame.whole.inj (hin.frame.symm.trans hframe)
      rw [Record.stop, hin.length_eq] at hstop
      have hsize := (Frame.fits_of_whole hframe).1
      simp only [Header.size] at hsize
      omega

/-! ### Runs put together -/

/-- Octets that hold a header and declare their own number. -/
structure Delimited (b : Bytes) : Prop where
  size_le : Header.size ≤ b.length
  length_eq : (u16le b 0).toNat = b.length

theorem Delimited.recordLength {b : Bytes} (h : Delimited b) :
    (Header.leading b).recordLength = b.length := h.length_eq

theorem Delimited.frame {b : Bytes} (h : Delimited b) (tail : Bytes) :
    Frame.of (b ++ tail) = .whole (Header.leading b) := by
  have hwhole : Frame.of b = .whole (Header.leading b) := by
    rw [Frame.of_eq_whole_iff, Header.Fits, h.recordLength]
    exact ⟨Header.parse?_eq_leading h.size_le, h.size_le, Nat.le_refl _⟩
  have hcut : Frame.of ((b ++ tail).take b.length) = .whole (Header.leading b) := by
    rwa [List.take_left]
  exact (Frame.of_take_eq_whole_iff.mp hcut).1

/-- Records made of the given octets, laid end to end from an offset on. -/
def layOut (offset : Nat) : List Bytes → List Record
  | [] => []
  | b :: rest => ⟨offset, .leading b, b⟩ :: layOut (offset + b.length) rest

theorem recordsFrom_append {b tail : Bytes} (h : Delimited b) (offset : Nat) :
    recordsFrom offset (b ++ tail) =
      ⟨offset, .leading b, b⟩ :: recordsFrom (offset + b.length) tail := by
  rw [recordsFrom_of_whole (h.frame tail), h.recordLength, List.take_left, List.drop_left]

theorem recordsFrom_flatten {parts : List Bytes} (h : ∀ b ∈ parts, Delimited b) (offset : Nat)
    (tail : Bytes) :
    recordsFrom offset (parts.flatten ++ tail) =
      layOut offset parts ++ recordsFrom (offset + parts.flatten.length) tail := by
  induction parts generalizing offset with
  | nil => rfl
  | cons b rest ih =>
    have hrest : ∀ c ∈ rest, Delimited c := fun c hc => h c (List.mem_cons_of_mem b hc)
    rw [List.flatten_cons, List.append_assoc, recordsFrom_append (h b List.mem_cons_self), ih hrest,
      layOut, List.length_append, Nat.add_assoc, List.cons_append]

/-- **What is put together from delimited parts is read back part by part.** -/
theorem records_flatten {parts : List Bytes} (h : ∀ b ∈ parts, Delimited b) :
    records parts.flatten 0 = layOut 0 parts := by
  have hrun := recordsFrom_flatten h 0 []
  have hend : ∀ offset, recordsFrom offset [] = [] := fun offset =>
    recordsFrom_eq_nil_iff.mpr fun _ hw => nomatch hw
  rwa [List.append_nil, hend, List.append_nil] at hrun

end InterfaceDump
