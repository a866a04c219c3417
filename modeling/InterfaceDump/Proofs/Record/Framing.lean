import InterfaceDump.Diagnostics.Message
import InterfaceDump.Proofs.Record.Run

/-! What a reader hands out.

A reader is asked again and again for the next record. Its answers are the records
of the run in order and then nothing, however often it is asked
(`Reader.answer?_eq`), and at most one message comes with them, on the first call
after the last record (`Reader.log_eq`). The records tile the dump from where the
reader starts to where it ends (`Tiles`), and it ends only where no record can
stand (`StuckAt`). `readers_tile` puts this together, and adds the other
direction: parts that declare their own length are handed out as they were put
together. -/
namespace InterfaceDump
open Bytes Diagnostics

/-! ### Calls -/

namespace Reader

/-- The reader after `n` calls. -/
def after (r : Reader) : Nat → Reader
  | 0 => r
  | n + 1 => r.next.2.after n

/-- The answer to call `n`, counted from zero. -/
def answer? (r : Reader) (n : Nat) : Option Record := (r.after n).next.1

/-- What the first `n` calls report. -/
def log (r : Reader) : Nat → List Event
  | 0 => []
  | n + 1 => nextEvents r ++ r.next.2.log n

/-- A call that finds a record hands it out, moves behind it and reports nothing. -/
theorem next_of_cons {r : Reader} {x : Record} {later : List Record}
    (h : records r.data r.offset = x :: later) :
    r.next = (some x, ⟨r.data, x.stop⟩) ∧ nextEvents r = [] := by
  obtain ⟨hoffset, hin, -⟩ := records_eq_cons_iff.mp h
  have hframe : Frame.of r.rest = .whole x.header := by
    rw [rest, ← hoffset]
    exact hin.frame
  constructor
  · simp only [next, hframe, Record.stop, hin.length_eq, ← hoffset]
    rw [rest, ← hoffset, ← hin.bytes]
  · simp only [nextEvents, hframe]

/-- A call that finds none leaves the reader where less than a header is left. -/
theorem next_of_nil {r : Reader} (h : records r.data r.offset = []) :
    r.next.1 = none ∧ Frame.of r.next.2.rest = .absent := by
  unfold next
  split
  · next header hw => exact absurd hw (records_eq_nil_iff.mp h header)
  · refine ⟨rfl, ?_⟩
    rw [rest, List.drop_eq_nil_of_le (Nat.le_refl _)]
    exact Frame.of_nil
  · next ha => exact ⟨rfl, ha⟩

theorem records_eq_nil_of_absent {r : Reader} (h : Frame.of r.rest = .absent) :
    records r.data r.offset = [] := by
  rw [records_eq_nil_iff]
  intro header hw
  rw [← rest, h] at hw
  cases hw

theorem next_fst (r : Reader) : r.next.1 = (records r.data r.offset).head? := by
  cases h : records r.data r.offset with
  | nil => rw [(next_of_nil h).1, List.head?_nil]
  | cons x later => rw [(next_of_cons h).1, List.head?_cons]

theorem records_next (r : Reader) :
    records r.next.2.data r.next.2.offset = (records r.data r.offset).tail := by
  cases h : records r.data r.offset with
  | nil => rw [records_eq_nil_of_absent (next_of_nil h).2, List.tail_nil]
  | cons x later => rw [(next_of_cons h).1, List.tail_cons, ← (records_eq_cons_iff.mp h).2.2]

/-- **The answers are the records of the run, and then nothing for ever.** -/
theorem answer?_eq (r : Reader) (n : Nat) : r.answer? n = (records r.data r.offset)[n]? := by
  induction n generalizing r with
  | zero => rw [answer?, after, next_fst, List.head?_eq_getElem?]
  | succ n ih =>
    have htail := ih r.next.2
    rw [records_next, List.getElem?_tail] at htail
    exact htail

/-! ### The end of a run -/

theorem drained_of_nil {r : Reader} (h : records r.data r.offset = []) : r.drained = r := by
  rw [drained, h]
  rfl

theorem drained_of_cons {r : Reader} {x : Record} {later : List Record}
    (h : records r.data r.offset = x :: later) : r.drained = drained ⟨r.data, x.stop⟩ := by
  obtain ⟨hoffset, -, rfl⟩ := records_eq_cons_iff.mp h
  simp only [drained, h, List.foldl_cons, Record.stop, hoffset]

/-- Everything is reported by the first call that finds no record. -/
theorem log_eq (r : Reader) (n : Nat) :
    r.log n = if (records r.data r.offset).length < n then drainEvents r else [] := by
  induction n generalizing r with
  | zero => simp [log]
  | succ n ih =>
    rw [log, ih, records_next]
    cases h : records r.data r.offset with
    | nil =>
      -- The reader is stuck from here on, and has nothing more to report.
      have hend := (next_of_nil h).2
      have hquiet : drainEvents r.next.2 = [] := by
        rw [drainEvents, drained_of_nil (records_eq_nil_of_absent hend), nextEvents, hend]
      rw [List.tail_nil, hquiet, ite_self, List.append_nil, List.length_nil, if_pos n.succ_pos,
        drainEvents, drained_of_nil h]
    | cons x later =>
      obtain ⟨hnext, hquiet⟩ := next_of_cons h
      have hdrain : drainEvents r.next.2 = drainEvents r := by
        rw [drainEvents, drainEvents, drained_of_cons h, hnext]
      simp only [hquiet, hdrain, List.tail_cons, List.length_cons, List.nil_append,
        Nat.add_lt_add_iff_right]

end Reader

/-! ### Tilings -/

/-- The records follow one another without a gap from the given offset to `stop`. Each
declares at least its header, ends inside `data` and has the header that stands there. -/
inductive Tiles (data : Bytes) : Nat → List Record → Nat → Prop where
  | nil (offset : Nat) : Tiles data offset [] offset
  | cons {r : Record} {run : List Record} {stop : Nat}
      (header : Header.parse? (data.drop r.offset) = some r.header)
      (bytes : r.bytes = (data.drop r.offset).take r.header.recordLength)
      (size_le : Header.size ≤ r.header.recordLength)
      (stop_le : r.offset + r.header.recordLength ≤ data.length)
      (rest : Tiles data (r.offset + r.header.recordLength) run stop) :
      Tiles data r.offset (r :: run) stop

/-- No record can stand at `offset`: less than a header is left, or the length declared
there is less than a header or more than what is left. -/
def StuckAt (data : Bytes) (offset : Nat) : Prop :=
  data.length < offset + Header.size ∨ (u16le data offset).toNat < Header.size ∨
    data.length < offset + (u16le data offset).toNat

namespace Reader

theorem tiles (r : Reader) : Tiles r.data r.offset (records r.data r.offset) r.drained.offset := by
  induction h : records r.data r.offset generalizing r with
  | nil =>
    rw [drained_of_nil h]
    exact .nil _
  | cons x later ih =>
    obtain ⟨hoffset, hin, hlater⟩ := records_eq_cons_iff.mp h
    have hfits := hin.length_eq ▸ hin.size_le
    have hstop := hin.stop_le
    have hrest := ih ⟨r.data, x.stop⟩ hlater.symm
    rw [Record.stop, hin.length_eq] at hstop hrest
    rw [drained_of_cons h, Record.stop, hin.length_eq, ← hoffset]
    exact .cons hin.parse? hin.bytes hfits hstop hrest

/-- Every record takes at least a header, so there are not many. -/
theorem length_records_le (r : Reader) :
    (records r.data r.offset).length ≤ r.data.length / Header.size := by
  have hbound : ∀ offset run stop, Tiles r.data offset run stop → offset ≤ r.data.length →
      offset + Header.size * run.length ≤ r.data.length := by
    intro offset run stop h
    induction h with
    | nil offset => simp
    | cons _ _ hsize hstop _ ih =>
      intro _
      have := ih hstop
      simp only [List.length_cons, Header.size] at *
      omega
  by_cases hstart : r.offset ≤ r.data.length
  · have := hbound _ _ _ r.tiles hstart
    rw [Nat.le_div_iff_mul_le (by decide), Nat.mul_comm]
    omega
  · rw [records_eq_nil_of_le (by omega)]
    exact Nat.zero_le _

theorem records_drained (r : Reader) : records r.data r.drained.offset = [] := by
  induction h : records r.data r.offset generalizing r with
  | nil => rw [drained_of_nil h, h]
  | cons x later ih =>
    rw [drained_of_cons h]
    exact ih ⟨r.data, x.stop⟩ (records_eq_cons_iff.mp h).2.2.symm

end Reader

/-- Where a run of records ends, none can stand. -/
theorem stuckAt_of_records_eq_nil {data : Bytes} {offset : Nat} (h : records data offset = []) :
    StuckAt data offset := by
  by_cases hsize : Header.size ≤ (data.drop offset).length
  · have hbroken : ¬ (Header.leading (data.drop offset)).Fits (data.drop offset) := fun hfits =>
      records_eq_nil_iff.mp h _ (Frame.of_eq_whole_iff.mpr ⟨Header.parse?_eq_leading hsize, hfits⟩)
    simp only [Header.Fits, Header.recordLength, Header.leading, u16le_drop, Nat.add_zero,
      List.length_drop] at hbroken hsize
    unfold StuckAt
    omega
  · rw [List.length_drop] at hsize
    unfold StuckAt
    omega

/-- What a reader reports where it is stuck: nothing if less than a header is left. -/
theorem nextEvents_of_records_eq_nil {data : Bytes} {offset : Nat} (h : records data offset = []) :
    nextEvents ⟨data, offset⟩ =
      if offset + Header.size ≤ data.length then
        [.brokenRecord offset (u16le data offset).toNat (data.length - offset)]
      else [] := by
  have hwhole := records_eq_nil_iff.mp h
  simp only [nextEvents, Reader.rest]
  by_cases hsize : offset + Header.size ≤ data.length
  · have hp : Header.parse? (data.drop offset) = some (Header.leading (data.drop offset)) :=
      Header.parse?_eq_leading (by rw [List.length_drop]; omega)
    have hframe : Frame.of (data.drop offset) = .broken (Header.leading (data.drop offset)) := by
      simp only [Frame.of, hp] at hwhole ⊢
      split
      · next hfits => simp [hfits] at hwhole
      · rfl
    rw [if_pos hsize, hframe, List.length_drop]
    simp only [Header.recordLength, Header.leading, u16le_drop, Nat.add_zero]
  · have hshort : (data.drop offset).length < Header.size := by
      simp only [List.length_drop, Header.size] at hsize ⊢
      omega
    rw [if_neg hsize, Frame.of, Header.parse?_eq_none hshort]

/-! ### Draining -/

/-- What comes of calling a reader for ever: the records of `run`, which tile the dump up
to `stop`, and then nothing. -/
structure Reader.Drains (r : Reader) (run : List Record) (stop : Nat) : Prop where
  answers : ∀ n, r.answer? n = run[n]?
  tiles : Tiles r.data r.offset run stop
  length_le : run.length ≤ r.data.length / Header.size
  stuck : StuckAt r.data stop
  /-- One message, with the call after the last record, if a header is left at the end. -/
  log : ∀ n, r.log n =
    if run.length < n ∧ stop + Header.size ≤ r.data.length then
      [.brokenRecord stop (u16le r.data stop).toNat (r.data.length - stop)]
    else []
  warns : ∀ n, (r.log n).all (·.level = .warn)

theorem Reader.drains (r : Reader) : r.Drains (records r.data r.offset) r.drained.offset := by
  have hlog : ∀ n, r.log n =
      if (records r.data r.offset).length < n ∧ r.drained.offset + Header.size ≤ r.data.length then
        [.brokenRecord r.drained.offset (u16le r.data r.drained.offset).toNat
          (r.data.length - r.drained.offset)]
      else [] := by
    intro n
    rw [r.log_eq, drainEvents, show r.drained = ⟨r.data, r.drained.offset⟩ from rfl,
      nextEvents_of_records_eq_nil r.records_drained]
    by_cases hended : (records r.data r.offset).length < n
    · simp only [hended, true_and, if_true]
    · simp only [hended, false_and, if_false]
  refine ⟨r.answer?_eq, r.tiles, r.length_records_le,
    stuckAt_of_records_eq_nil r.records_drained, hlog, fun n => ?_⟩
  rw [hlog]
  split <;> rfl

theorem drained_flatten {parts : List Bytes} (h : ∀ b ∈ parts, Delimited b) :
    (Reader.mk parts.flatten 0).drained.offset = parts.flatten.length := by
  have hoffset : ∀ offset, (layOut offset parts).foldl (· + ·.bytes.length) offset =
      offset + parts.flatten.length := by
    induction parts with
    | nil => exact fun _ => rfl
    | cons b rest ih =>
      intro offset
      rw [layOut, List.foldl_cons, ih fun c hc => h c (List.mem_cons_of_mem b hc), Nat.add_assoc,
        List.flatten_cons, List.length_append]
  rw [Reader.drained, records_flatten h]
  simp only [hoffset, Nat.zero_add]

/-- **Framing is a tiling, in both directions.** Any reader hands out records that tile
its dump, warns at most once and then stays silent; and a reader of parts that declare
their own length hands out the parts, up to the very end and without a warning. -/
theorem readers_tile :
    (∀ r : Reader, r.Drains (records r.data r.offset) r.drained.offset) ∧
      ∀ parts : List Bytes, (∀ b ∈ parts, Delimited b) →
        (Reader.mk parts.flatten 0).Drains (layOut 0 parts) parts.flatten.length ∧
          ∀ n, (Reader.mk parts.flatten 0).log n = [] := by
  refine ⟨Reader.drains, fun parts h => ?_⟩
  have hdrains := (Reader.mk parts.flatten 0).drains
  rw [drained_flatten h, records_flatten h] at hdrains
  refine ⟨hdrains, fun n => ?_⟩
  rw [hdrains.log, if_neg]
  simp only [Header.size]
  omega

/-- A header alone, and a record of two more octets. -/
theorem readers_tile_two_parts :
    (∀ b ∈ [[4, 0, 5, 14], [6, 0, 5, 12, 1, 2]], Delimited b) ∧
      (Reader.mk [4, 0, 5, 14, 6, 0, 5, 12, 1, 2] 0).Drains
        [⟨0, ⟨4, 5, .interfaceInfo⟩, [4, 0, 5, 14]⟩, ⟨4, ⟨6, 5, .newAddress⟩, [6, 0, 5, 12, 1, 2]⟩]
        10 := by
  have hparts : ∀ b ∈ [[4, 0, 5, 14], [6, 0, 5, 12, 1, 2]], Delimited b := by
    simp only [List.forall_mem_cons, List.not_mem_nil, false_implies, implies_true, and_true]
    exact ⟨⟨by decide, by decide⟩, ⟨by decide, by decide⟩⟩
  exact ⟨hparts, (readers_tile.2 _ hparts).1⟩

end InterfaceDump
