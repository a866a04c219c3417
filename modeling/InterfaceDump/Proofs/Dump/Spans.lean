import InterfaceDump.Proofs.Dump.Attributes
import InterfaceDump.Proofs.Dump.Cursor

/-! What belongs to an interface.

Every interface owns the octets from its position to the position of the next one,
its span. The spans follow one another and cover the dump from the first interface
on (`flatten_octets`). Views hold the whole dump and walk it again for every
question, but a walk never leaves the span: a dump that is nothing but the span
lists the one interface, and it is the same (`shown_octets`). So what an
interface shows is a function of the octets of its span, which `spans_partition`
states for all the interfaces of a dump at once. -/
namespace InterfaceDump
open Bytes

/-- The octets in a range. -/
def Span.octets (s : Span) (data : Bytes) : Bytes := (data.drop s.start).take (s.stop - s.start)

namespace Dump

/-- The ranges from one interface to the next one, or to the end of the dump. -/
def spans (d : Dump) : List Span :=
  let bounds := d.interfaces.map (·.position) ++ [d.endPosition]
  List.zipWith Span.mk bounds bounds.tail

/-- The spans are a partition of the dump from its first interface on, and each of them
is a dump of one interface, its own. -/
structure SpansPartition (d : Dump) : Prop where
  starts : d.spans.map (·.start) = d.interfaces.map (·.position)
  /-- Each span ends where the next one starts. -/
  chain : d.startPosition :: d.spans.map (·.stop) = d.spans.map (·.start) ++ [d.endPosition]
  increasing : (d.spans.map (·.start) ++ [d.endPosition]).Pairwise (· < ·)
  cover : (d.spans.map (·.octets d.bytes)).flatten = d.bytes.drop d.startPosition
  alone : d.spans.map (fun s => (Dump.mk (s.octets d.bytes)).shown) =
    d.interfaces.map fun i => [(0, i.attributes)]

variable (d : Dump)

/-! ### Cover -/

theorem spans_eq : d.spans = d.interfaces.map fun i => ⟨i.start, i.stop⟩ := by
  have hbounds := d.startPosition_cons_map_stop
  have hlength : (d.interfaces.map (·.position)).length = (d.interfaces.map (·.stop)).length := by
    rw [List.length_map, List.length_map]
  rw [spans, ← hbounds, List.tail_cons, hbounds, ← List.append_nil (d.interfaces.map (·.stop)),
    List.zipWith_append hlength, List.zipWith_map, List.zipWith_self, List.zipWith_nil_right,
    List.append_nil]
  rfl

/-- Ranges between increasing bounds, the last of which is the end, leave nothing out. -/
theorem flatten_octets {data : Bytes} {start : Nat} {bounds : List Nat}
    (h : (start :: bounds ++ [data.length]).Pairwise (· < ·)) :
    ((List.zipWith Span.mk (start :: bounds ++ [data.length])
      (bounds ++ [data.length])).map (·.octets data)).flatten = data.drop start := by
  induction bounds generalizing start with
  | nil =>
    show (data.drop start).take (data.length - start) ++ [] = data.drop start
    rw [List.append_nil, List.take_of_length_le (Nat.le_of_eq List.length_drop)]
  | cons next bounds ih =>
    have hnext : start < next := List.rel_of_pairwise_cons h List.mem_cons_self
    have hdrop : data.drop next = (data.drop start).drop (next - start) := by
      rw [List.drop_drop, Nat.add_sub_of_le (Nat.le_of_lt hnext)]
    calc (data.drop start).take (next - start) ++ _
        = (data.drop start).take (next - start) ++ data.drop next := congrArg _ (ih h.of_cons)
      _ = data.drop start := by rw [hdrop, List.take_append_drop]

theorem flatten_octets_spans :
    (d.spans.map (·.octets d.bytes)).flatten = d.bytes.drop d.startPosition := by
  have hbounds := d.startPosition_cons_map_stop
  have hincreasing := d.positions_increasing
  unfold spans
  cases hpositions : d.interfaces.map (·.position) with
  | nil =>
    rw [hpositions, List.nil_append] at hbounds
    obtain ⟨hstart, -⟩ := List.cons.inj hbounds
    rw [hstart, endPosition, List.drop_length]
    rfl
  | cons first later =>
    rw [hpositions, List.cons_append] at hbounds
    obtain ⟨hstart, -⟩ := List.cons.inj hbounds
    rw [hpositions] at hincreasing
    rw [hstart]
    exact flatten_octets hincreasing

/-! ### One span alone -/

theorem firstOpening_le_of_opens {data : Bytes} {start : Nat} {q : Record}
    (hq : q ∈ records data start) (ho : q.opensInterface = true) :
    firstOpening data (records data start) ≤ q.offset := by
  induction hrun : records data start generalizing start with
  | nil =>
    rw [hrun] at hq
    exact nomatch hq
  | cons r later ih =>
    obtain ⟨rfl, -, hlater⟩ := records_eq_cons_iff.mp hrun
    by_cases hr : r.opensInterface = true
    · rw [firstOpening_of_opens hr]
      exact le_offset_of_mem_records hq
    · rw [firstOpening_of_passed hr]
      rw [hrun] at hq
      rcases List.mem_cons.mp hq with rfl | hq
      · exact absurd ho hr
      · exact ih (hlater ▸ hq) hlater.symm

/-- In front of the next interface no record opens one. -/
theorem not_opens_of_mem_take {data : Bytes} {start : Nat} {q : Record}
    (hq : q ∈ records (data.take (nextBoundary data start)) start) :
    ¬ q.opensInterface = true := by
  intro ho
  have hsize := (isIn_of_mem_records hq).size_le
  have hend := offset_add_le_of_mem_records hq
  rw [records_take] at hq
  have hfirst := firstOpening_le_of_opens ((List.takeWhile_prefix _).subset hq) ho
  rw [nextBoundary_eq, List.length_take] at hend
  simp only [Header.size] at hsize
  omega

/-- The addresses of an interface stand in front of the next one. -/
theorem ownAddresses_take (owner : UInt16) (kind : AddressKind) (data : Bytes) (start : Nat) :
    ownAddresses owner kind (records (data.take (nextBoundary data start)) start) =
      ownAddresses owner kind (records data start) := by
  have hown := ownRecords_firstOpening data start
  rw [ownRecords] at hown
  rw [nextBoundary_eq, ownAddresses, hown, ownAddresses]

/-- The records of a span are that of the interface and those in front of the next one. -/
theorem records_octets {data : Bytes} {r : Record}
    (h : records data r.offset = r :: records data r.stop) :
    records (Span.octets ⟨r.offset, nextBoundary data r.stop⟩ data) 0 =
      (r :: records (data.take (nextBoundary data r.stop)) r.stop).map
        (·.relocate (· - r.offset)) := by
  have hstop : r.stop ≤ nextBoundary data r.stop := stop_le_firstOpening h
  rw [Span.octets, ← List.drop_take, records_drop, records_take, records_take, h,
    List.takeWhile_cons_of_pos (by simpa using hstop)]

/-- **A walk for an interface stays in its span**: the span alone shows the same interface. -/
theorem shown_octets {d : Dump} {i : Interface} (h : i ∈ d.interfaces) :
    (Dump.mk (Span.octets ⟨i.start, i.stop⟩ d.bytes)).shown = [(0, i.attributes)] := by
  obtain ⟨r, later, hrun, ho, rfl⟩ :=
    interfaceAt?_eq_some_iff.mp (interfaceAt?_of_mem_interfacesFrom h)
  obtain ⟨-, -, rfl⟩ := records_eq_cons_iff.mp hrun
  have hnone : Listed.ofRun (records (d.bytes.take (nextBoundary d.bytes r.stop)) r.stop) = [] :=
    Listed.ofRun_eq_nil fun q hq => not_opens_of_mem_take hq
  -- Cut down to the span, the run still lists the interface with all its addresses.
  have hown : [r.interface d.bytes (records d.bytes r.stop)].map Listed.ofInterface =
      Listed.ofRun (r :: records (d.bytes.take (nextBoundary d.bytes r.stop)) r.stop) := by
    rw [List.map_cons, ofInterface_interface hrun ho, Listed.ofRun_of_opens ho, hnone]
    simp only [ownAddresses_take, List.map_nil]
  have hlisted : (Dump.mk (Span.octets ⟨r.offset, nextBoundary d.bytes r.stop⟩
      d.bytes)).interfaces.map Listed.ofInterface =
      ([r.interface d.bytes (records d.bytes r.stop)].map Listed.ofInterface).map
        (·.relocate (· - r.offset)) := by
    rw [Dump.map_ofInterface, records_octets hrun, Listed.ofRun_relocate, hown]
  have hposition : (r.interface d.bytes (records d.bytes r.stop)).position - r.offset = 0 :=
    Nat.sub_self _
  have hshown := map_attributes hlisted
  rw [List.map_singleton, hposition] at hshown
  exact hshown

theorem spans_partition : d.SpansPartition where
  starts := by rw [spans_eq, List.map_map]; rfl
  chain := by
    rw [spans_eq, List.map_map, List.map_map]
    exact d.startPosition_cons_map_stop
  increasing := by
    rw [spans_eq, List.map_map]
    exact d.positions_increasing
  cover := d.flatten_octets_spans
  alone := by
    rw [spans_eq, List.map_map]
    exact List.map_congr_left fun i hi => shown_octets hi

end Dump
end InterfaceDump
