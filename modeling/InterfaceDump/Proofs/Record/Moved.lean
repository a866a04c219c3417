import InterfaceDump.Proofs.Record.Framing

/-! Runs that stand somewhere else.

A run is read from its octets alone, so the same octets at another offset give the
same records there (`recordsFrom_add`). The run behind any offset is the run of the
octets behind it (`records_drop`). And where records fill the first octets of a
dump to the last (`Filled`), the run goes on behind them as it would alone
(`records_append`). -/
namespace InterfaceDump
open Bytes

namespace Record

/-- The record, moved by a map of offsets. -/
def relocate (f : Nat → Nat) (r : Record) : Record := { r with offset := f r.offset }

theorem map_relocate_congr {f g : Nat → Nat} {run : List Record}
    (h : ∀ r ∈ run, f r.offset = g r.offset) : run.map (·.relocate f) = run.map (·.relocate g) := by
  apply List.map_congr_left
  intro r hr
  rw [relocate, relocate, h r hr]

theorem map_relocate_of_eq {f : Nat → Nat} {run : List Record}
    (h : ∀ r ∈ run, f r.offset = r.offset) : run.map (·.relocate f) = run := by
  rw [map_relocate_congr (g := id) h]
  exact List.map_id run

end Record

theorem recordsFrom_add (n offset : Nat) (rest : Bytes) :
    recordsFrom (n + offset) rest = (recordsFrom offset rest).map (·.relocate (n + ·)) := by
  fun_induction recordsFrom offset rest with
  | case1 offset rest h hw ih =>
    rw [recordsFrom_of_whole hw, List.map_cons, Nat.add_assoc, ih]
    rfl
  | case2 offset rest hnone =>
    rw [List.map_nil, recordsFrom_eq_nil_iff]
    exact hnone

/-- The run behind an offset, with offsets counted from there. -/
theorem records_drop (data : Bytes) (n : Nat) :
    records (data.drop n) 0 = (records data n).map (·.relocate (· - n)) := by
  have hmoved : records data n = (records (data.drop n) 0).map (·.relocate (n + ·)) :=
    recordsFrom_add n 0 (data.drop n)
  rw [hmoved, List.map_map]
  refine (Record.map_relocate_of_eq (f := fun offset => n + offset - n) ?_).symm
  intro r _
  exact Nat.add_sub_cancel_left _ _

/-! ### Filled octets -/

/-- Records fill the octets: the run that starts with the first ends behind the last. -/
def Filled (b : Bytes) : Prop := (Reader.mk b 0).drained.offset = b.length

/-- Parts that declare their own length fill what they are put together to. -/
theorem filled_flatten {parts : List Bytes} (h : ∀ b ∈ parts, Delimited b) :
    Filled parts.flatten := drained_flatten h

theorem Record.IsIn.append {r : Record} {data : Bytes} (h : r.IsIn data) (tail : Bytes) :
    r.IsIn (data ++ tail) := by
  have hstop := h.stop_le
  have hfits := (Frame.fits_of_whole h.frame).2
  have hdrop : (data ++ tail).drop r.offset = data.drop r.offset ++ tail :=
    List.drop_append_of_le_length (Nat.le_trans (Nat.le_add_right _ _) hstop)
  constructor
  · have hcut : Frame.of ((data.drop r.offset ++ tail).take (data.drop r.offset).length) =
        .whole r.header := by
      rw [List.take_left]
      exact h.frame
    rw [hdrop]
    exact (Frame.of_take_eq_whole_iff.mp hcut).1
  · rw [hdrop, List.take_append_of_le_length hfits]
    exact h.bytes

theorem records_append_of_drained {data : Bytes} {start : Nat}
    (h : (Reader.mk data start).drained.offset = data.length) (tail : Bytes) :
    records (data ++ tail) start = records data start ++ recordsFrom data.length tail := by
  induction hrun : records data start generalizing start with
  | nil =>
    rw [Reader.drained_of_nil hrun] at h
    obtain rfl : start = data.length := h
    rw [records, List.drop_left, List.nil_append]
  | cons r later ih =>
    obtain ⟨rfl, hin, hlater⟩ := records_eq_cons_iff.mp hrun
    rw [Reader.drained_of_cons hrun] at h
    rw [List.cons_append, records_eq_cons_iff]
    exact ⟨rfl, hin.append tail, (ih h hlater.symm).symm⟩

/-- **Behind octets that records fill, the run goes on as it would alone.** -/
theorem records_append {data : Bytes} (h : Filled data) (tail : Bytes) :
    records (data ++ tail) 0 = records data 0 ++ recordsFrom data.length tail :=
  records_append_of_drained h tail

end InterfaceDump
