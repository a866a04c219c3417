import InterfaceDump.Dump.Basic
import InterfaceDump.Proofs.Message.Records

/-! Interfaces as records.

A dump never makes a list of its interfaces: each one is found by a search of its
own, and its addresses by another. All of these searches walk the one run of
records that the dump starts with. `openings` reads the interfaces off that run,
and `interfaces_eq_openings` says that they are the interfaces of the dump;
`extract_interface` does the same for their addresses. What is asked of any
offset is settled by the first record there (`interfaceAt?_eq_some_iff`). -/
namespace InterfaceDump

/-! ### Records that open interfaces -/

namespace Record
variable {r : Record} {data : Bytes}

/-- A record that opens an interface holds its message. -/
theorem IsIn.interfaceMessage?_of_opens (h : r.IsIn data) (ho : r.opensInterface = true) :
    InterfaceMessage.parse? r.bytes = some ⟨r.bytes⟩ ∧
      (⟨r.bytes⟩ : InterfaceMessage).isUsable = true := by
  simp only [opensInterface, Bool.and_eq_true, Option.any_eq_true] at ho
  obtain ⟨-, m, hm, husable⟩ := ho
  obtain rfl := h.eq_of_interfaceMessage? hm
  exact ⟨hm, husable⟩

theorem isInterfaceInfo_of_opens (ho : r.opensInterface = true) : r.isInterfaceInfo = true := by
  simp only [opensInterface, Bool.and_eq_true] at ho
  exact ho.1

end Record

/-! ### Boundaries -/

/-- Where the first interface of a run starts, or the end of the dump. -/
def firstOpening (data : Bytes) (run : List Record) : Nat :=
  match run.find? (·.opensInterface) with
  | some r => r.offset
  | none => data.length

theorem nextBoundary_eq (data : Bytes) (start : Nat) :
    nextBoundary data start = firstOpening data (records data start) := rfl

theorem firstOpening_of_opens {data : Bytes} {r : Record} {later : List Record}
    (ho : r.opensInterface = true) : firstOpening data (r :: later) = r.offset := by
  rw [firstOpening, List.find?_cons_of_pos ho]

theorem firstOpening_of_passed {data : Bytes} {r : Record} {later : List Record}
    (ho : ¬ r.opensInterface = true) : firstOpening data (r :: later) = firstOpening data later := by
  rw [firstOpening, firstOpening, List.find?_cons_of_neg ho]

/-- The next interface starts behind a record that opens none. -/
theorem stop_le_firstOpening {data : Bytes} {start : Nat} {r : Record} {later : List Record}
    (h : records data start = r :: later) : r.stop ≤ firstOpening data later := by
  obtain ⟨-, hin, rfl⟩ := records_eq_cons_iff.mp h
  exact le_nextBoundary hin.stop_le

/-! ### Interfaces -/

/-- The interface that a record opens in front of the records `later`. -/
def Record.interface (data : Bytes) (r : Record) (later : List Record) : Interface where
  data := data
  message := ⟨r.bytes⟩
  start := r.offset
  stop := firstOpening data later

/-- A link-layer address with another index is ignored, so the index is never its own. -/
theorem Interface.index_eq (i : Interface) : i.index = i.message.index.toUInt32 := by
  unfold Interface.index
  cases hlink : i.link? with
  | none => rfl
  | some link =>
    have hsame : link.index = i.message.index := by
      have hkept := (Option.filter_eq_some_iff.mp hlink).2
      simpa using hkept
    simp only [hsame]

/-- The interfaces that the records of a run open. -/
def openings (data : Bytes) : List Record → List Interface
  | [] => []
  | r :: later =>
    if r.opensInterface then r.interface data later :: openings data later
    else openings data later

namespace Dump
variable {d : Dump}

/-- **There is an interface at an offset if the first record there opens one.** -/
theorem interfaceAt?_eq_some_iff {position : Nat} {i : Interface} :
    d.interfaceAt? position = some i ↔
      ∃ r later, records d.bytes position = r :: later ∧ r.opensInterface = true ∧
        i = r.interface d.bytes later := by
  unfold interfaceAt?
  rw [nextBoundary_eq]
  cases h : records d.bytes position with
  | nil =>
    simp only [reduceCtorEq, false_and, exists_false, iff_false]
    rw [show firstOpening d.bytes [] = d.bytes.length from rfl]
    split
    · next hend =>
      rw [List.drop_eq_nil_of_le (Nat.le_of_eq hend)]
      exact nofun
    · exact nofun
  | cons r later =>
    obtain ⟨rfl, hin, hlater⟩ := records_eq_cons_iff.mp h
    by_cases ho : r.opensInterface = true
    · have hm := (hin.interfaceMessage?_of_opens ho).1
      have hstop : r.offset + (⟨r.bytes⟩ : InterfaceMessage).recordLength = r.stop := rfl
      rw [firstOpening_of_opens ho, if_pos rfl, hin.interfaceMessage?_drop, hm, Option.map_some,
        hstop, nextBoundary_eq, ← hlater]
      simp only [Option.some.injEq, List.cons.injEq]
      constructor
      · rintro rfl
        exact ⟨r, later, ⟨rfl, rfl⟩, ho, rfl⟩
      · rintro ⟨q, rest, ⟨rfl, rfl⟩, -, rfl⟩
        rfl
    · have hbehind := stop_le_firstOpening h
      have hstart := hin.offset_lt_stop
      rw [firstOpening_of_passed ho, if_neg (by omega)]
      simp only [reduceCtorEq, List.cons.injEq, false_iff, not_exists, not_and]
      rintro q rest ⟨rfl, rfl⟩ hopens
      exact absurd hopens ho

theorem interfaceAt?_of_opens {position : Nat} {r : Record} {later : List Record}
    (h : records d.bytes position = r :: later) (ho : r.opensInterface = true) :
    d.interfaceAt? position = some (r.interface d.bytes later) :=
  interfaceAt?_eq_some_iff.mpr ⟨r, later, h, ho, rfl⟩

theorem interfaceAt?_endPosition (d : Dump) : d.interfaceAt? d.endPosition = none := by
  rw [Option.eq_none_iff_forall_not_mem]
  intro i hi
  obtain ⟨r, later, h, -, -⟩ := interfaceAt?_eq_some_iff.mp hi
  rw [records_eq_nil_of_le (show d.bytes.length ≤ d.endPosition from Nat.le_refl _)] at h
  exact nomatch h

theorem interfacesFrom_nextBoundary (d : Dump) (start : Nat) :
    d.interfacesFrom (nextBoundary d.bytes start) = openings d.bytes (records d.bytes start) := by
  rw [nextBoundary_eq]
  induction h : records d.bytes start generalizing start with
  | nil => exact interfacesFrom_of_none d.interfaceAt?_endPosition
  | cons r later ih =>
    obtain ⟨rfl, -, hlater⟩ := records_eq_cons_iff.mp h
    have hrest := ih r.stop hlater.symm
    by_cases ho : r.opensInterface = true
    · rw [firstOpening_of_opens ho, interfacesFrom_of_some (interfaceAt?_of_opens h ho), openings,
        if_pos ho]
      exact congrArg _ hrest
    · rw [firstOpening_of_passed ho, openings, if_neg ho, hrest]

/-- **The interfaces of a dump are those that its records open.** -/
theorem interfaces_eq_openings (d : Dump) : d.interfaces = openings d.bytes (records d.bytes 0) :=
  interfacesFrom_nextBoundary d 0

theorem interfaceAt?_of_mem_interfacesFrom {position : Nat} {i : Interface}
    (h : i ∈ d.interfacesFrom position) : d.interfaceAt? i.start = some i := by
  fun_induction Dump.interfacesFrom d position with
  | case1 position first hfirst ih =>
    rcases List.mem_cons.mp h with rfl | hlater
    · rw [(interfaceAt?_bounds hfirst).2.1, hfirst]
    · exact ih hlater
  | case2 => simp at h

/-- The walk to the next interface leads to where this one ends. -/
theorem positionAfter_of_interfaceAt? {position : Nat} {i : Interface}
    (h : d.interfaceAt? position = some i) : d.positionAfter position = i.stop := by
  obtain ⟨r, later, hrun, ho, rfl⟩ := interfaceAt?_eq_some_iff.mp h
  obtain ⟨rfl, hin, hlater⟩ := records_eq_cons_iff.mp hrun
  have hrecord : interfaceRecord? d.bytes r.offset = some ⟨r.offset, r.stop⟩ := by
    rw [interfaceRecord?, hin.interfaceMessage?_drop, (hin.interfaceMessage?_of_opens ho).1]
    rfl
  simp only [positionAfter, hrecord, nextBoundary_eq, ← hlater]
  rfl

/-! ### Positions -/

theorem map_start_openings (data : Bytes) (run : List Record) :
    (openings data run).map (·.start) = (run.filter (·.opensInterface)).map (·.offset) := by
  induction run with
  | nil => rfl
  | cons r later ih =>
    by_cases ho : r.opensInterface = true
    · rw [openings, if_pos ho, List.map_cons, ih, List.filter_cons_of_pos ho, List.map_cons]
      rfl
    · rw [openings, if_neg ho, ih, List.filter_cons_of_neg ho]

/-- **The interfaces follow one another without a gap**: each ends where the next one
starts, and the last one at the end of the dump. -/
theorem cons_map_stop_openings (data : Bytes) (run : List Record) :
    firstOpening data run :: (openings data run).map (·.stop) =
      (openings data run).map (·.start) ++ [data.length] := by
  induction run with
  | nil => rfl
  | cons r later ih =>
    by_cases ho : r.opensInterface = true
    · rw [firstOpening_of_opens ho, openings, if_pos ho, List.map_cons, List.map_cons,
        List.cons_append, ← ih]
      rfl
    · rw [firstOpening_of_passed ho, openings, if_neg ho, ih]

theorem startPosition_cons_map_stop (d : Dump) :
    d.startPosition :: d.interfaces.map (·.stop) =
      d.interfaces.map (·.position) ++ [d.endPosition] := by
  rw [interfaces_eq_openings]
  exact cons_map_stop_openings d.bytes (records d.bytes 0)

/-- Every interface takes at least the fixed part of its message. -/
theorem length_openings_le {data : Bytes} {start : Nat} (h : start ≤ data.length) :
    start + InterfaceMessage.fixedLength * (openings data (records data start)).length ≤
      data.length := by
  induction hrun : records data start generalizing start with
  | nil => simpa [openings] using h
  | cons r later ih =>
    obtain ⟨rfl, hin, hlater⟩ := records_eq_cons_iff.mp hrun
    have hrest := ih hin.stop_le hlater.symm
    have hsize := hin.size_le
    by_cases ho : r.opensInterface = true
    · have hfixed := (InterfaceMessage.length_of_parse? (hin.interfaceMessage?_of_opens ho).1).1
      simp only [openings, ho, if_true, List.length_cons, Record.stop, InterfaceMessage.fixedLength,
        Nat.mul_add] at hrest hfixed ⊢
      omega
    · simp only [openings, ho, if_false, Record.stop, Header.size, Bool.false_eq_true]
        at hrest hsize ⊢
      omega

/-- The interfaces start where the usable interface messages stand, in the order of the dump. -/
theorem positions_eq (d : Dump) :
    d.interfaces.map (·.position) =
      ((records d.bytes 0).filter (·.opensInterface)).map (·.offset) := by
  rw [interfaces_eq_openings]
  exact map_start_openings _ _

theorem pairwise_positions (d : Dump) : (d.interfaces.map (·.position)).Pairwise (· < ·) := by
  rw [positions_eq, List.pairwise_map]
  have hrun : (records d.bytes 0).Pairwise fun q r => q.offset < r.offset := by
    refine (pairwise_records d.bytes 0).imp_of_mem fun hq _ hstop => ?_
    exact Nat.lt_of_lt_of_le (isIn_of_mem_records hq).offset_lt_stop hstop
  exact hrun.sublist List.filter_sublist

end Dump

/-! ### Addresses -/

/-- The addresses of a kind that a run of records holds for interface `owner`, up to the
next interface message. -/
def ownAddresses (owner : UInt16) (kind : AddressKind) (run : List Record) : List SockAddr :=
  ((run.takeWhile (!·.isInterfaceInfo)).filterMap (·.addressMessage? owner)).filterMap
    (·.address? kind)

theorem ownAddresses_of_info {owner : UInt16} {kind : AddressKind} {r : Record}
    {later : List Record} (h : r.isInterfaceInfo = true) :
    ownAddresses owner kind (r :: later) = [] := by
  rw [ownAddresses, List.takeWhile_cons_of_neg (by simpa using h)]
  rfl

theorem ownAddresses_of_other {owner : UInt16} {kind : AddressKind} {r : Record}
    {later : List Record} (h : ¬ r.isInterfaceInfo = true) :
    ownAddresses owner kind (r :: later) =
      ((r.addressMessage? owner).bind (·.address? kind)).toList ++ ownAddresses owner kind later := by
  rw [ownAddresses, List.takeWhile_cons_of_pos (by simpa using h), List.filterMap_filterMap,
    List.filterMap_cons, ownAddresses, List.filterMap_filterMap]
  cases (r.addressMessage? owner).bind (·.address? kind) <;> rfl

theorem takeWhile_takeWhile_of_forall {α : Type} {p q : α → Bool} {l : List α}
    (h : ∀ x ∈ l.takeWhile p, q x = true) : (l.takeWhile q).takeWhile p = l.takeWhile p := by
  induction l with
  | nil => rfl
  | cons x later ih =>
    by_cases hp : p x = true
    · rw [List.takeWhile_cons_of_pos hp] at h
      have hq : q x = true := h x List.mem_cons_self
      rw [List.takeWhile_cons_of_pos hq, List.takeWhile_cons_of_pos hp,
        List.takeWhile_cons_of_pos hp, ih fun y hy => h y (List.mem_cons_of_mem x hy)]
    · rw [List.takeWhile_cons_of_neg hp, List.takeWhile_cons]
      split
      · exact List.takeWhile_cons_of_neg hp
      · rfl

/-- A cut does no harm to the records in front of the next interface message if they end
in front of the cut. -/
theorem takeWhile_records_take {data : Bytes} {start limit : Nat}
    (h : ∀ q ∈ (records data start).takeWhile (!·.isInterfaceInfo), q.stop ≤ limit) :
    (records (data.take limit) start).takeWhile (!·.isInterfaceInfo) =
      (records data start).takeWhile (!·.isInterfaceInfo) := by
  rw [records_take]
  exact takeWhile_takeWhile_of_forall fun q hq => decide_eq_true (h q hq)

/-- The records in front of the next interface message end in front of the next interface. -/
theorem stop_le_firstOpening_of_mem_takeWhile {data : Bytes} {start : Nat} :
    ∀ q ∈ (records data start).takeWhile (!·.isInterfaceInfo),
      q.stop ≤ firstOpening data (records data start) := by
  induction h : records data start generalizing start with
  | nil => exact nofun
  | cons r later ih =>
    obtain ⟨-, -, hlater⟩ := records_eq_cons_iff.mp h
    intro q hq
    by_cases hinfo : r.isInterfaceInfo = true
    · rw [List.takeWhile_cons_of_neg (by simp [hinfo])] at hq
      contradiction
    · rw [List.takeWhile_cons_of_pos (by simp [hinfo])] at hq
      rw [firstOpening_of_passed fun ho => hinfo (Record.isInterfaceInfo_of_opens ho)]
      rcases List.mem_cons.mp hq with rfl | hq
      · exact stop_le_firstOpening h
      · exact ih hlater.symm q hq

/-- Nothing in front of the next interface message is lost to the cut at the next interface. -/
theorem ownRecords_firstOpening (data : Bytes) (start : Nat) :
    ownRecords data start (firstOpening data (records data start)) =
      (records data start).takeWhile (!·.isInterfaceInfo) :=
  takeWhile_records_take stop_le_firstOpening_of_mem_takeWhile

/-- **The addresses of an interface stand in the records behind its own.** -/
theorem extract_interface {data : Bytes} {start : Nat} {r : Record} {later : List Record}
    (h : records data start = r :: later) (ho : r.opensInterface = true) (kind : AddressKind) :
    (r.interface data later).extract kind =
      ownAddresses (⟨r.bytes⟩ : InterfaceMessage).index kind later := by
  obtain ⟨-, hin, hlater⟩ := records_eq_cons_iff.mp h
  have hslice : Bytes.slice? data r.offset r.stop = some r.bytes := by
    rw [Bytes.slice?, if_pos ⟨Nat.le_add_right _ _, hin.stop_le⟩, Record.stop,
      Nat.add_sub_cancel_left, hin.length_eq, ← hin.bytes]
  have howner : owner? data ⟨r.offset, r.stop⟩ = some ⟨r.bytes⟩ := by
    rw [owner?, hslice, Option.bind_some, (hin.interfaceMessage?_of_opens ho).1]
  have hrun : ownRecords data r.stop (firstOpening data later) =
      later.takeWhile (!·.isInterfaceInfo) := by
    rw [hlater]
    exact ownRecords_firstOpening data r.stop
  show extractAddresses data kind ⟨r.offset, r.stop⟩ (firstOpening data later) = _
  simp only [extractAddresses, howner, ownMessages, hrun, ownAddresses]

end InterfaceDump
