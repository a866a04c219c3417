import InterfaceDump.Dump.Arrival
import InterfaceDump.Message.Sample
import InterfaceDump.Proofs.Dump.Openings

/-! What tells interfaces apart.

An interface is told apart by its index. There may be two of them in a dump: one in the
interface's message and one in the link-layer address behind it. Only the first one
counts (`Dump.Yields.index_eq`), so whatever becomes of the link-layer address, the
interface keeps its identity. A search for an index is therefore a search of the
records alone: it finds the first one that announces the index (`Record.Announces`,
`Dump.findByIndex?_eq_some_iff`). -/
namespace InterfaceDump
open Bytes

/-! ### Records that announce an index -/

namespace Record

/-- A current interface message with this index that announces a link-layer address. -/
structure Announces (r : Record) (index : UInt32) : Prop where
  isCurrent : r.header.isCurrent = true
  isInfo : r.header.messageType = .interfaceInfo
  message : ∃ m, InterfaceMessage.parse? r.bytes = some m ∧
    m.slots.hasInterfaceLink = true ∧ m.index.toUInt32 = index

/-- The record opens the interface with this index. -/
def opensIndex (index : UInt32) (r : Record) : Bool :=
  r.opensInterface && (⟨r.bytes⟩ : InterfaceMessage).index.toUInt32 == index

theorem Announces.le {r : Record} {index : UInt32} (h : r.Announces index) :
    index.toNat ≤ 65535 := by
  obtain ⟨m, -, -, rfl⟩ := h.message
  have hm := m.index.toNat_lt
  rw [UInt16.toNat_toUInt32]
  omega

/-- A record that announces an index opens an interface, unless the index is zero. -/
theorem IsIn.opensIndex_iff {r : Record} {data : Bytes} (h : r.IsIn data) {index : UInt32} :
    r.opensIndex index = true ↔ index ≠ 0 ∧ r.Announces index := by
  constructor
  · intro ho
    obtain ⟨ho, hindex⟩ := Bool.and_eq_true_iff.mp ho
    obtain ⟨hm, husable⟩ := h.interfaceMessage?_of_opens ho
    obtain ⟨hcurrent, htype⟩ := Bool.and_eq_true_iff.mp (isInterfaceInfo_of_opens ho)
    obtain ⟨hlink, hzero⟩ := Bool.and_eq_true_iff.mp husable
    obtain rfl := eq_of_beq hindex
    refine ⟨fun hnone => ?_, hcurrent, eq_of_beq htype, _, hm, hlink, rfl⟩
    exact bne_iff_ne.mp hzero (UInt16.toUInt32_inj.mp hnone)
  · rintro ⟨hzero, hcurrent, htype, m, hm, hlink, rfl⟩
    obtain rfl := h.eq_of_interfaceMessage? hm
    have husable : (⟨r.bytes⟩ : InterfaceMessage).isUsable = true :=
      Bool.and_eq_true_iff.mpr ⟨hlink, bne_iff_ne.mpr fun hnone => hzero (by rw [hnone]; rfl)⟩
    simp only [opensIndex, opensInterface, isInterfaceInfo, hcurrent, htype, hm, Option.any_some,
      husable, beq_self_eq_true, Bool.and_self]

end Record

namespace Dump
variable {d : Dump}

/-! ### The index of an interface -/

/-- The interface is one of the dump, from its list or from any offset. -/
def Yields (d : Dump) (i : Interface) : Prop :=
  i ∈ d.interfaces ∨ ∃ position, d.interfaceAt? position = some i

/-- The index in the header of the interface message at an offset. -/
def headerIndex (d : Dump) (position : Nat) : UInt16 := u16le d.bytes (position + 12)

theorem Yields.interfaceAt? {i : Interface} (h : d.Yields i) :
    d.interfaceAt? i.position = some i := by
  rcases h with hlist | ⟨position, hat⟩
  · exact interfaceAt?_of_mem_interfacesFrom hlist
  · rw [Interface.position, (interfaceAt?_bounds hat).2.1, hat]

/-- A message in a dump has the index that the dump has there. -/
theorem index_of_isIn {r : Record} (h : r.IsIn d.bytes)
    (hm : InterfaceMessage.parse? r.bytes = some ⟨r.bytes⟩) :
    (⟨r.bytes⟩ : InterfaceMessage).index = d.headerIndex r.offset := by
  have hfixed : 112 ≤ r.bytes.length := (InterfaceMessage.length_of_parse? hm).1
  rw [InterfaceMessage.index, headerIndex, u16le, h.field_bytes (by omega), ← u16le]

/-- **The index of an interface is the one in its header**, and is never zero. -/
theorem Yields.index_eq {i : Interface} (h : d.Yields i) :
    i.index = (d.headerIndex i.position).toUInt32 ∧ d.headerIndex i.position ≠ 0 := by
  obtain ⟨r, later, hrun, ho, hi⟩ := interfaceAt?_eq_some_iff.mp h.interfaceAt?
  obtain ⟨hoffset, hin, -⟩ := records_eq_cons_iff.mp hrun
  obtain ⟨hm, husable⟩ := hin.interfaceMessage?_of_opens ho
  have hmessage : i.message = ⟨r.bytes⟩ := by rw [hi]; rfl
  have hindex : i.message.index = d.headerIndex i.position := by
    rw [hmessage, index_of_isIn hin hm, hoffset]
  have hzero := (Bool.and_eq_true_iff.mp husable).2
  rw [← hmessage] at hzero
  rw [i.index_eq, ← hindex]
  exact ⟨rfl, bne_iff_ne.mp hzero⟩

theorem Yields.index_bounds {i : Interface} (h : d.Yields i) :
    1 ≤ i.index.toNat ∧ i.index.toNat ≤ 65535 := by
  obtain ⟨hindex, hzero⟩ := h.index_eq
  have hlt := (d.headerIndex i.position).toNat_lt
  have hpos : (d.headerIndex i.position).toNat ≠ 0 := fun hnone =>
    hzero (UInt16.toNat_inj.mp hnone)
  rw [hindex, UInt16.toNat_toUInt32]
  omega

/-- Interfaces are the same if their headers carry the same index, also across dumps. -/
theorem Yields.same_iff {e : Dump} {i j : Interface} (hi : d.Yields i) (hj : e.Yields j) :
    i.same j = true ↔ d.headerIndex i.position = e.headerIndex j.position := by
  rw [Interface.same, beq_iff_eq, hi.index_eq.1, hj.index_eq.1, UInt16.toUInt32_inj]

/-! ### Searching for an index -/

/-- The interfaces are searched as the records are that open them. -/
theorem find?_openings (d : Dump) (index : UInt32) (start : Nat) :
    (openings d.bytes (records d.bytes start)).find? (·.index == index) =
      ((records d.bytes start).find? (·.opensIndex index)).bind fun r =>
        d.interfaceAt? r.offset := by
  induction h : records d.bytes start generalizing start with
  | nil => rfl
  | cons r later ih =>
    obtain ⟨rfl, -, hlater⟩ := records_eq_cons_iff.mp h
    have hrest := ih r.stop hlater.symm
    by_cases ho : r.opensInterface = true
    · have hindex : (r.interface d.bytes later).index =
          (⟨r.bytes⟩ : InterfaceMessage).index.toUInt32 := Interface.index_eq _
      have hopens : r.opensIndex index = ((r.interface d.bytes later).index == index) := by
        rw [Record.opensIndex, ho, Bool.true_and, hindex]
      rw [openings, if_pos ho, List.find?_cons, List.find?_cons, hopens]
      cases (r.interface d.bytes later).index == index with
      | true => exact (interfaceAt?_of_opens h ho).symm
      | false => exact hrest
    · have hpassed : ¬ r.opensIndex index = true := fun hopens =>
        ho (Bool.and_eq_true_iff.mp hopens).1
      rw [openings, if_neg ho, List.find?_cons_of_neg hpassed, hrest]

theorem findByIndex?_eq (d : Dump) (index : UInt32) :
    d.findByIndex? index = ((records d.bytes 0).find? (·.opensIndex index)).bind fun r =>
      d.interfaceAt? r.offset := by
  rw [findByIndex?, interfaces_eq_openings, find?_openings]

/-- **The interface with an index is the one at the first record that announces it.** -/
theorem findByIndex?_eq_some_iff {index : UInt32} {i : Interface} :
    d.findByIndex? index = some i ↔ index ≠ 0 ∧ ∃ before r later,
      records d.bytes 0 = before ++ r :: later ∧ (∀ q ∈ before, ¬ q.Announces index) ∧
        r.Announces index ∧ d.interfaceAt? r.offset = some i := by
  rw [findByIndex?_eq, Option.bind_eq_some_iff]
  constructor
  · rintro ⟨r, hr, hi⟩
    obtain ⟨hopens, before, later, hrun, hbefore⟩ := List.find?_eq_some_iff_append.mp hr
    have hin : ∀ q ∈ before ++ r :: later, q.IsIn d.bytes := fun q hq =>
      isIn_of_mem_records (hrun ▸ hq)
    obtain ⟨hzero, hannounces⟩ := (hin r (by simp)).opensIndex_iff.mp hopens
    refine ⟨hzero, before, r, later, hrun, fun q hq hearlier => ?_, hannounces, hi⟩
    have hopens' := (hin q (List.mem_append_left _ hq)).opensIndex_iff.mpr ⟨hzero, hearlier⟩
    simpa [hopens'] using hbefore q hq
  · rintro ⟨hzero, before, r, later, hrun, hbefore, hannounces, hi⟩
    have hin : ∀ q ∈ before ++ r :: later, q.IsIn d.bytes := fun q hq =>
      isIn_of_mem_records (hrun ▸ hq)
    refine ⟨r, List.find?_eq_some_iff_append.mpr ⟨?_, before, later, hrun, fun q hq => ?_⟩, hi⟩
    · exact (hin r (by simp)).opensIndex_iff.mpr ⟨hzero, hannounces⟩
    · rw [Bool.not_eq_true']
      exact Bool.eq_false_iff.mpr fun hopens =>
        hbefore q hq ((hin q (List.mem_append_left _ hq)).opensIndex_iff.mp hopens).2

theorem isSome_findByIndex?_iff {index : UInt32} :
    (d.findByIndex? index).isSome = true ↔
      index ≠ 0 ∧ ∃ r ∈ records d.bytes 0, r.Announces index := by
  constructor
  · intro h
    obtain ⟨i, hi⟩ := Option.isSome_iff_exists.mp h
    obtain ⟨hzero, before, r, later, hrun, -, hannounces, -⟩ := findByIndex?_eq_some_iff.mp hi
    exact ⟨hzero, r, by rw [hrun]; simp, hannounces⟩
  · rintro ⟨hzero, r, hr, hannounces⟩
    have hopens := (isIn_of_mem_records hr).opensIndex_iff.mpr ⟨hzero, hannounces⟩
    obtain ⟨q, hq⟩ := Option.isSome_iff_exists.mp (List.find?_isSome.mpr ⟨r, hr, hopens⟩)
    have hfirst : q.opensIndex index = true := List.find?_some hq
    obtain ⟨before, later, hrun⟩ := List.append_of_mem (List.mem_of_find?_eq_some hq)
    -- There is an interface wherever a record opens one.
    rw [findByIndex?_eq, hq, Option.bind_some,
      interfaceAt?_of_opens (records_of_append hrun) (Bool.and_eq_true_iff.mp hfirst).1]
    rfl

/-- Nothing has an index that no header can carry. -/
theorem findByIndex?_eq_none {index : UInt32} (h : index = 0 ∨ 65535 < index.toNat) :
    d.findByIndex? index = none := by
  rw [← Option.not_isSome_iff_eq_none, isSome_findByIndex?_iff]
  rintro ⟨hzero, r, -, hannounces⟩
  rcases h with rfl | hlarge
  · exact hzero rfl
  · exact Nat.not_le_of_lt hlarge hannounces.le

theorem arrivalName_eq (d : Dump) (index : UInt32) :
    arrivalName (.ok d) index =
      ((d.findByIndex? index).map (·.name)).elim (.error (.unknownIndex index)) .ok := by
  cases h : d.findByIndex? index with
  | none => simp [arrivalName, h, bind, Except.bind]
  | some i => simp [arrivalName, h, bind, Except.bind]

/-- What searches for an index answer. -/
structure Finds (d : Dump) (index : UInt32) : Prop where
  found : (d.findByIndex? index).isSome = true ↔
    index ≠ 0 ∧ ∃ r ∈ records d.bytes 0, r.Announces index
  /-- Of several records with the index, the first one counts. -/
  first : ∀ i, d.findByIndex? index = some i ↔ index ≠ 0 ∧ ∃ before r later,
    records d.bytes 0 = before ++ r :: later ∧ (∀ q ∈ before, ¬ q.Announces index) ∧
      r.Announces index ∧ d.interfaceAt? r.offset = some i
  outside : index = 0 ∨ 65535 < index.toNat → d.findByIndex? index = none
  named : ∀ name, arrivalName (.ok d) index = .ok name ↔
    ∃ i, d.findByIndex? index = some i ∧ i.name = name
  unnamed : ∀ failure, arrivalName (.ok d) index = .error failure ↔
    d.findByIndex? index = none ∧ failure = .unknownIndex index

theorem finds (d : Dump) (index : UInt32) : d.Finds index where
  found := isSome_findByIndex?_iff
  first _ := findByIndex?_eq_some_iff
  outside := findByIndex?_eq_none
  named name := by
    rw [arrivalName_eq]
    cases d.findByIndex? index <;> simp
  unnamed failure := by
    rw [arrivalName_eq]
    cases d.findByIndex? index <;> simp [eq_comm]

end Dump

/-- **An interface is told apart by the index in its header**, whatever its link-layer
address says, and is found by it. -/
theorem identity_is_header_index (d : Dump) :
    (∀ i, d.Yields i →
      i.index = (d.headerIndex i.position).toUInt32 ∧ i.key = (d.headerIndex i.position).toUInt32 ∧
        1 ≤ i.index.toNat ∧ i.index.toNat ≤ 65535 ∧
        ∀ e j, Dump.Yields e j →
          (i.same j = true ↔ d.headerIndex i.position = e.headerIndex j.position)) ∧
      ∀ index, d.Finds index := by
  constructor
  · intro i hi
    obtain ⟨hlow, hhigh⟩ := hi.index_bounds
    exact ⟨hi.index_eq.1, hi.index_eq.1, hlow, hhigh, fun e j hj => hi.same_iff hj⟩
  · exact d.finds

/-- The captured tunnel in its dump. -/
def Sample.tunnelView : Interface :=
  ⟨Sample.tunnel, ⟨Sample.tunnelInterface⟩, 0, Sample.tunnel.length⟩

/-- The message of the tunnel, with a link-layer address that names interface 20. -/
def Sample.mislabelled : Bytes := Sample.tunnelInterface.set 114 20

def Sample.mislabelledView : Interface :=
  ⟨Sample.mislabelled, ⟨Sample.mislabelled⟩, 0, Sample.mislabelled.length⟩

/-- A tunnel that is mislabelled loses its name, and not its index. -/
theorem identity_is_header_index_mislabelled :
    (Dump.Yields ⟨Sample.mislabelled⟩ Sample.mislabelledView ∧
        Dump.Yields ⟨Sample.tunnel⟩ Sample.tunnelView) ∧
      Sample.mislabelledView.index = 19 ∧ Sample.mislabelledView.key = 19 ∧
      Sample.mislabelledView.same Sample.tunnelView = true ∧
      arrivalName (.ok ⟨Sample.mislabelled⟩) 19 = .ok "" ∧
      arrivalName (.ok ⟨Sample.mislabelled⟩) 20 = .error (.unknownIndex 20) ∧
      (Dump.findByIndex? ⟨Sample.mislabelled⟩ 0 = none ∧
        Dump.findByIndex? ⟨Sample.mislabelled⟩ 65555 = none) := by
  have hmislabelled : Dump.Yields ⟨Sample.mislabelled⟩ Sample.mislabelledView :=
    .inr ⟨0, by decide +kernel⟩
  have htunnel : Dump.Yields ⟨Sample.tunnel⟩ Sample.tunnelView := .inr ⟨0, by decide +kernel⟩
  have hheader : Dump.headerIndex ⟨Sample.mislabelled⟩ 0 = 19 := by decide +kernel
  have hsame : Dump.headerIndex ⟨Sample.mislabelled⟩ 0 = Dump.headerIndex ⟨Sample.tunnel⟩ 0 := by
    decide +kernel
  have hfound : Dump.findByIndex? ⟨Sample.mislabelled⟩ 19 = some Sample.mislabelledView := by
    decide +kernel
  have hmissing : Dump.findByIndex? ⟨Sample.mislabelled⟩ 20 = none := by decide +kernel
  obtain ⟨hidentity, hfinds⟩ := identity_is_header_index ⟨Sample.mislabelled⟩
  obtain ⟨hindex, hkey, -, -, hacross⟩ := hidentity _ hmislabelled
  refine ⟨⟨hmislabelled, htunnel⟩, hindex.trans ?_, hkey.trans ?_, (hacross _ _ htunnel).mpr hsame,
    ((hfinds 19).named "").mpr ⟨_, hfound, by decide +kernel⟩,
    ((hfinds 20).unnamed _).mpr ⟨hmissing, rfl⟩,
    (hfinds 0).outside (.inl rfl), (hfinds 65555).outside (.inr (by decide))⟩
  all_goals exact congrArg UInt16.toUInt32 hheader

end InterfaceDump
