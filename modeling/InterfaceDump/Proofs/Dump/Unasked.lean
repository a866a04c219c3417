import InterfaceDump.Message.Sample
import InterfaceDump.Proofs.Dump.Attributes

/-! Records that nobody asked for.

A dump may hold records that say nothing about any interface (`Unasked`). They may
stand anywhere: in front of the first interface, among the addresses of one, behind
a record that is no usable interface, or in front of a broken end. None of the
walks over a dump stops at such a record or reads an address from it, so a run of
records lists the same interfaces without it (`Listed.ofRun_insert`).
`interfaces_insert` says so of the octets: a record more or less moves what stands
behind it, and is not seen otherwise. -/
namespace InterfaceDump
open Bytes

/-- A record that says nothing about an interface: of another version, of a type that is
not asked for, or an address message that is too short or of no interface. -/
inductive Unasked (b : Bytes) : Prop where
  | foreign (version : (Header.leading b).version ≠ Header.currentVersion)
  | otherType (interface : (Header.leading b).messageType ≠ .interfaceInfo)
      (address : (Header.leading b).messageType ≠ .newAddress)
  | tooShort (type : (Header.leading b).messageType = .newAddress)
      (length : b.length < AddressMessage.fixedLength)
  | ownerless (type : (Header.leading b).messageType = .newAddress)
      (index : (AddressMessage.mk b).index = 0)

/-- The octets of a record, as the record that they are at an offset. -/
def Record.ofBytes (offset : Nat) (b : Bytes) : Record := ⟨offset, .leading b, b⟩

namespace Unasked
variable {b : Bytes}

/-- It does not end the addresses of an interface. -/
theorem not_isInterfaceInfo (h : Unasked b) (offset : Nat) :
    ¬ (Record.ofBytes offset b).isInterfaceInfo = true := by
  intro hinfo
  simp only [Record.isInterfaceInfo, Record.ofBytes, Header.isCurrent, Bool.and_eq_true,
    beq_iff_eq] at hinfo
  obtain ⟨hversion, htype⟩ := hinfo
  cases h with
  | foreign version => exact version hversion
  | otherType interface _ => exact interface htype
  | tooShort type _ => cases htype.symm.trans type
  | ownerless type _ => cases htype.symm.trans type

/-- It is no address message of an interface. -/
theorem addressMessage?_eq_none (h : Unasked b) (hb : Delimited b) (offset : Nat) {owner : UInt16}
    (howner : owner ≠ 0) : (Record.ofBytes offset b).addressMessage? owner = none := by
  have hparse := hb.addressMessage?
  show (if (Header.leading b).isCurrent then
    (AddressMessage.parse? b).filter (·.index == owner) else none) = none
  cases h with
  | foreign version =>
    apply if_neg
    simpa [Header.isCurrent] using version
  | otherType _ address =>
    have hnone : AddressMessage.parse? b = none := by
      rw [hparse]
      exact if_neg fun hread => address hread.1
    rw [hnone, Option.filter_none, ite_self]
  | tooShort _ length =>
    have hnone : AddressMessage.parse? b = none := by
      rw [hparse]
      exact if_neg fun hread => Nat.not_le_of_lt length hread.2
    rw [hnone, Option.filter_none, ite_self]
  | ownerless _ index =>
    have hforeign : ((AddressMessage.mk b).index == owner) = false := by
      rw [index]
      exact beq_eq_false_iff_ne.mpr howner.symm
    rw [hparse]
    split
    · split
      · exact Option.filter_some_neg hforeign
      · rfl
    · rfl

end Unasked

/-! ### Runs with one record more -/

/-- A record that the walks over a run pass by. -/
structure Record.IsPassed (r : Record) : Prop where
  not_info : ¬ r.isInterfaceInfo = true
  no_message : ∀ owner ≠ 0, r.addressMessage? owner = none

theorem Unasked.isPassed {b : Bytes} (h : Unasked b) (hb : Delimited b) (offset : Nat) :
    (Record.ofBytes offset b).IsPassed :=
  ⟨h.not_isInterfaceInfo offset, fun _ howner => h.addressMessage?_eq_none hb offset howner⟩

theorem ownAddresses_insert {r : Record} (hr : r.IsPassed) {owner : UInt16} (howner : owner ≠ 0)
    (kind : AddressKind) (before later : List Record) :
    ownAddresses owner kind (before ++ r :: later) = ownAddresses owner kind (before ++ later) := by
  induction before with
  | nil =>
    rw [List.nil_append, List.nil_append, ownAddresses_of_other hr.not_info,
      hr.no_message owner howner]
    rfl
  | cons q rest ih =>
    rw [List.cons_append, List.cons_append]
    by_cases hinfo : q.isInterfaceInfo = true
    · rw [ownAddresses_of_info hinfo, ownAddresses_of_info hinfo]
    · rw [ownAddresses_of_other hinfo, ownAddresses_of_other hinfo, ih]

/-- The interface that a record opens has an index. -/
theorem Record.IsIn.index_ne_zero {r : Record} {data : Bytes} (h : r.IsIn data)
    (ho : r.opensInterface = true) : (⟨r.bytes⟩ : InterfaceMessage).index ≠ 0 := by
  have husable := (h.interfaceMessage?_of_opens ho).2
  simp only [InterfaceMessage.isUsable, Bool.and_eq_true, bne_iff_ne] at husable
  exact husable.2

theorem Listed.ofRun_insert {data : Bytes} {r : Record} (hr : r.IsPassed)
    {before : List Record} (hbefore : ∀ q ∈ before, q.IsIn data) (later : List Record) :
    ofRun (before ++ r :: later) = ofRun (before ++ later) := by
  induction before with
  | nil =>
    exact ofRun_of_passed fun ho => hr.not_info (Record.isInterfaceInfo_of_opens ho)
  | cons q rest ih =>
    have hrest := ih fun p hp => hbefore p (List.mem_cons_of_mem q hp)
    rw [List.cons_append, List.cons_append]
    by_cases ho : q.opensInterface = true
    · have howner := (hbefore q List.mem_cons_self).index_ne_zero ho
      simp only [ofRun_of_opens ho, hrest, ownAddresses_insert hr howner]
    · rw [ofRun_of_passed ho, ofRun_of_passed ho, hrest]

/-! ### Dumps with one record more -/

/-- **A record that nobody asked for is not seen**: what follows it stands further behind,
and nothing else differs. -/
theorem interfaces_insert {before b : Bytes} (after : Bytes) (hbefore : Filled before)
    (hb : Delimited b) (hunasked : Unasked b) :
    (Dump.mk (before ++ b ++ after)).shown =
      (Dump.mk (before ++ after)).interfaces.map fun i =>
        (if i.position < before.length then i.position else i.position + b.length,
          i.attributes) := by
  let f := fun p => if p < before.length then p else p + b.length
  have hfront : (records before 0).map (·.relocate f) = records before 0 := by
    apply Record.map_relocate_of_eq
    intro r hr
    have hsize := (isIn_of_mem_records hr).size_le
    have hend := offset_add_le_of_mem_records hr
    simp only [Header.size] at hsize
    exact if_pos (by omega)
  -- The run behind the record is the one that stands there without it, moved.
  have hback : (recordsFrom before.length after).map (·.relocate f) =
      recordsFrom (before.length + b.length) after := by
    rw [Nat.add_comm, recordsFrom_add]
    apply Record.map_relocate_congr
    intro r hr
    have hstart := (mem_recordsFrom_bounds hr).1
    exact (if_neg (by omega)).trans (Nat.add_comm _ _)
  have hwith : records (before ++ b ++ after) 0 = records before 0 ++
      Record.ofBytes before.length b :: recordsFrom (before.length + b.length) after := by
    rw [List.append_assoc, records_append hbefore, recordsFrom_append hb]
    rfl
  have hwithout : (records (before ++ after) 0).map (·.relocate f) =
      records before 0 ++ recordsFrom (before.length + b.length) after := by
    rw [records_append hbefore, List.map_append, hfront, hback]
  apply map_attributes (f := f)
  rw [Dump.map_ofInterface, Dump.map_ofInterface, hwith, ← Listed.ofRun_relocate, hwithout]
  exact Listed.ofRun_insert (hunasked.isPassed hb before.length)
    (fun q hq => isIn_of_mem_records hq) _

/-- A message of another type among the addresses of an interface, in front of a broken end. -/
theorem interfaces_insert_among_addresses :
    (Filled [Sample.tunnelInterface, Sample.tunnelLinkLocal].flatten ∧
      Delimited [8, 0, 5, 13, 1, 2, 3, 4] ∧ Unasked [8, 0, 5, 13, 1, 2, 3, 4]) ∧
      (Dump.mk ([Sample.tunnelInterface, Sample.tunnelLinkLocal].flatten ++
          [8, 0, 5, 13, 1, 2, 3, 4] ++ (Sample.tunnelGlobal ++ [2, 0, 5, 14]))).shown =
        (Dump.mk ([Sample.tunnelInterface, Sample.tunnelLinkLocal].flatten ++
          (Sample.tunnelGlobal ++ [2, 0, 5, 14]))).interfaces.map fun i =>
          (if i.position < [Sample.tunnelInterface, Sample.tunnelLinkLocal].flatten.length then
            i.position else i.position + 8, i.attributes) := by
  have hparts : ∀ b ∈ [Sample.tunnelInterface, Sample.tunnelLinkLocal], Delimited b := by
    simp only [List.forall_mem_cons, List.not_mem_nil, false_implies, implies_true, and_true]
    exact ⟨⟨by decide +kernel, by decide +kernel⟩, ⟨by decide +kernel, by decide +kernel⟩⟩
  have hfilled := filled_flatten hparts
  have hrecord : Delimited [8, 0, 5, 13, 1, 2, 3, 4] := ⟨by decide, by decide⟩
  have hunasked : Unasked [8, 0, 5, 13, 1, 2, 3, 4] := .otherType (by decide) (by decide)
  exact ⟨⟨hfilled, hrecord, hunasked⟩, interfaces_insert _ hfilled hrecord hunasked⟩

end InterfaceDump
