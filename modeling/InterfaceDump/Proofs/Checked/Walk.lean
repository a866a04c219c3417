import InterfaceDump.Dump.Extract
import InterfaceDump.Proofs.Checked.Message
import InterfaceDump.Proofs.Record.Framing

/-! Walks over records, with operations that can fail.

A walk over the records of a dump is a loop over a reader. The reader moves by the
declared length of each record, which it has compared with what is left, so its offset
never passes the end (`nextRecord_eq`). The body of a loop takes the octets from the
offset of the record on, which are there for the same reason. -/
namespace InterfaceDump
open Bytes

namespace Checked
variable (M : Machine)

/-! ### Records -/

/-- The header of the next record with its offset, and the reader behind it. -/
def nextRecord (r : Reader) : Checked (Option (Nat × Header) × Reader) := do
  match slice? r.data r.offset r.data.length with
  | none => pure (none, r)
  | some remaining =>
    match header? M remaining with
    | none => pure (none, r)
    | some header =>
      if header.recordLength < Header.size ∨ header.recordLength > remaining.length then
        pure (none, { r with offset := r.data.length })
      else
        let offset ← M.add r.offset header.recordLength
        pure (some (r.offset, header), { r with offset := offset })

/-- What a walk knows of a record. -/
def seen (r : Record) : Nat × Header := (r.offset, r.header)

theorem nextRecord_eq {r : Reader} (h : r.data.length ≤ M.largest) :
    nextRecord M r = .ok (r.next.1.map seen, r.next.2) := by
  rw [nextRecord, slice?_from_eq, Reader.next]
  by_cases hstart : r.offset ≤ r.data.length
  · simp only [hstart, if_true, header?_eq, Frame.of, Reader.rest]
    cases Header.parse? (r.data.drop r.offset) with
    | none => rfl
    | some header =>
      by_cases hfits : header.Fits (r.data.drop r.offset)
      · obtain ⟨hlow, hhigh⟩ := hfits
        have hno : ¬ (header.recordLength < Header.size ∨
            header.recordLength > (r.data.drop r.offset).length) := by omega
        -- The record ends inside the dump, and the dump fits the machine.
        have hstop : r.offset + header.recordLength ≤ M.largest := by
          rw [List.length_drop] at hhigh
          omega
        simp only [hno, if_false, M.add_eq hstop, ok_bind, Header.Fits, hlow, hhigh, and_self,
          if_true]
        rfl
      · have hyes : header.recordLength < Header.size ∨
            header.recordLength > (r.data.drop r.offset).length := by
          rw [Header.Fits] at hfits
          omega
        simp only [hyes, if_true, hfits, if_false]
        rfl
  · rw [if_neg hstart, Reader.rest, List.drop_eq_nil_of_le (by omega), Frame.of_nil]
    rfl

/-- The reader as an iterator that ends with its last record. -/
def nextSeen (r : Reader) : Checked (Option ((Nat × Header) × Reader)) := do
  match ← nextRecord M r with
  | (some x, s) => pure (some (x, s))
  | (none, _) => pure none

/-- The octets that the reader has not passed. -/
def unread (r : Reader) : Nat := r.data.length - r.offset

theorem gives_records {r : Reader} (h : r.data.length ≤ M.largest) :
    Gives (nextSeen M) unread r ((records r.data r.offset).map seen) := by
  induction hrun : records r.data r.offset generalizing r with
  | nil =>
    apply Gives.nil
    rw [nextSeen, nextRecord_eq M h, (Reader.next_of_nil hrun).1]
    rfl
  | cons x later ih =>
    obtain ⟨hoffset, hin, hlater⟩ := records_eq_cons_iff.mp hrun
    have hsize := hin.size_le
    have hstop := hin.stop_le
    rw [Header.size] at hsize
    refine Gives.cons (t := ⟨r.data, x.stop⟩) ?_ ?_ (ih h hlater.symm)
    · rw [nextSeen, nextRecord_eq M h, (Reader.next_of_cons hrun).1]
      rfl
    · simp only [unread, Record.stop] at hstop ⊢
      omega

/-! ### Boundaries -/

def boundaryStep (data : Bytes) (x : Nat × Header) (found : Option Nat) :
    Checked (ForInStep (Option Nat)) := do
  if !x.2.isCurrent then pure (.yield found)
  else if x.2.messageType ≠ .interfaceInfo then pure (.yield found)
  else
    match ← interfaceMessage M (← sliceFrom data x.1) with
    | some m =>
      if (← slots M m.bytes).hasInterfaceLink && (← index M m.bytes) != 0 then
        pure (.done (some x.1))
      else pure (.yield found)
    | none => pure (.yield found)

def nextBoundary (data : Bytes) (start : Nat) : Checked Nat := do
  let found ← loop (nextSeen M) unread (boundaryStep M data) ⟨data, start⟩ none
  pure (found.getD data.length)

theorem accepted_of_parse? {raw : Bytes} {m : InterfaceMessage}
    (h : InterfaceMessage.parse? raw = some m) : Accepted m := (InterfaceMessage.length_of_parse? h).1

theorem sliceFrom_record {r : Record} {data : Bytes} (h : r.IsIn data) :
    sliceFrom data r.offset = .ok (data.drop r.offset) :=
  sliceFrom_eq (Nat.le_trans (Nat.le_add_right _ _) h.stop_le)

theorem boundaryStep_eq {r : Record} {data : Bytes} (h : r.IsIn data) (found : Option Nat) :
    boundaryStep M data (seen r) found =
      .ok (if r.opensInterface then .done (some r.offset) else .yield found) := by
  rw [boundaryStep, seen, sliceFrom_record h, ok_bind, interfaceMessage_eq,
    h.interfaceMessage?_drop, ok_bind, Record.opensInterface, Record.isInterfaceInfo]
  by_cases hcurrent : r.header.isCurrent = true
  · by_cases htype : r.header.messageType = .interfaceInfo
    · cases hm : InterfaceMessage.parse? r.bytes with
      | none => simp [hcurrent, htype]
      | some m =>
        have haccepted := accepted_of_parse? hm
        simp only [hcurrent, htype, slots_message_eq M haccepted, index_message_eq M haccepted,
          ok_bind, Option.any_some, InterfaceMessage.isUsable]
        by_cases husable : (m.slots.hasInterfaceLink && m.index != 0) = true
        · simp [husable]
        · simp [husable]
    · simp [hcurrent, htype]
  · simp [hcurrent]

theorem nextBoundary_eq {data : Bytes} (h : data.length ≤ M.largest) (start : Nat) :
    nextBoundary M data start = .ok (InterfaceDump.nextBoundary data start) := by
  have hloop : loop (nextSeen M) unread (boundaryStep M data) ⟨data, start⟩ none =
      .ok (((records data start).find? (·.opensInterface)).map (·.offset)) := by
    rw [← runUntil_find]
    exact loop_eq (gives_records M (r := ⟨data, start⟩) h)
      fun r hr found => boundaryStep_eq M (isIn_of_mem_records hr) found
  rw [nextBoundary, hloop, ok_bind, InterfaceDump.nextBoundary]
  cases (records data start).find? (·.opensInterface) <;> rfl

def interfaceRecord (data : Bytes) (boundary : Nat) : Checked (Option Span) := do
  match slice? data boundary data.length with
  | none => pure none
  | some rest =>
    match ← interfaceMessage M rest with
    | none => pure none
    | some m => pure (some ⟨boundary, ← M.add boundary m.bytes.length⟩)

theorem interfaceRecord_eq {data : Bytes} (h : data.length ≤ M.largest) (boundary : Nat) :
    interfaceRecord M data boundary = .ok (interfaceRecord? data boundary) := by
  rw [interfaceRecord, slice?_from_eq, interfaceRecord?]
  by_cases hstart : boundary ≤ data.length
  · simp only [hstart, if_true, interfaceMessage_eq, ok_bind]
    cases hm : InterfaceMessage.parse? (data.drop boundary) with
    | none => rfl
    | some m =>
      have hlength := (InterfaceMessage.length_of_parse? hm).2
      rw [List.length_drop] at hlength
      simp only [M.add_eq (show boundary + m.bytes.length ≤ M.largest by omega), ok_bind]
      rfl
  · rw [if_neg hstart, List.drop_eq_nil_of_le (by omega)]
    rfl

/-! ### Addresses of an interface -/

/-- An index of another interface is read again for the message that reports it. -/
def extractStep (scope : Bytes) (owner : UInt16) (kind : AddressKind) (x : Nat × Header)
    (found : List SockAddr) : Checked (ForInStep (List SockAddr)) := do
  if !x.2.isCurrent then pure (.yield found)
  else
    match x.2.messageType with
    | .interfaceInfo => pure (.done found)
    | .newAddress =>
      match ← addressMessage M (← sliceFrom scope x.1) with
      | none => pure (.yield found)
      | some m =>
        if (← index M m.bytes) ≠ owner then
          let _ ← index M m.bytes
          pure (.yield found)
        else
          match ← address M m kind with
          | none => pure (.yield found)
          | some a => pure (.yield (found ++ [a]))
    | _ => pure (.yield found)

def extract (data : Bytes) (kind : AddressKind) (record : Span) (limit : Nat) :
    Checked (List SockAddr) := do
  match slice? data record.start record.stop with
  | none => pure []
  | some own =>
    match ← interfaceMessage M own with
    | none => pure []
    | some m =>
      let owner ← index M m.bytes
      match slice? data 0 (min limit data.length) with
      | none => pure []
      | some scope =>
        loop (nextSeen M) unread (extractStep M scope owner kind) ⟨scope, record.stop⟩ []

theorem extractStep_eq {r : Record} {scope : Bytes} (h : r.IsIn scope) (owner : UInt16)
    (kind : AddressKind) (found : List SockAddr) :
    extractStep M scope owner kind (seen r) found =
      .ok (if r.isInterfaceInfo then .done found
        else .yield (found ++ ((r.addressMessage? owner).bind (·.address? kind)).toList)) := by
  rw [extractStep, seen, sliceFrom_record h, ok_bind, addressMessage_eq, h.addressMessage?_drop,
    ok_bind, Record.isInterfaceInfo, Record.addressMessage?]
  by_cases hcurrent : r.header.isCurrent = true
  · simp only [hcurrent, Bool.not_true, Bool.false_eq_true, if_false, if_true, Bool.true_and]
    split
    · next htype => simp [htype]
    · next htype =>
      cases hm : AddressMessage.parse? r.bytes with
      | none => simp [htype]
      | some m =>
        have hlength := AddressMessage.length_of_parse? hm
        rw [AddressMessage.fixedLength] at hlength
        have hindex : index M m.bytes = .ok m.index := index_eq M (by omega)
        simp only [htype, hindex, ok_bind, address_eq M hlength]
        by_cases howner : m.index = owner
        · cases haddress : m.address? kind with
          | none => simp [howner, haddress, Option.filter_some]
          | some a => simp [howner, haddress, Option.filter_some]
        · simp [howner, Option.filter_some]
    · next hinfo haddress =>
      have hnone : AddressMessage.parse? r.bytes = none := by
        rw [h.addressMessage?, if_neg fun hc => haddress hc.1]
      have hother : ¬ r.header.messageType = .interfaceInfo := hinfo
      simp [hnone, hother]
  · simp [hcurrent]

theorem extract_eq {data : Bytes} (h : data.length ≤ M.largest) (kind : AddressKind)
    (record : Span) (limit : Nat) :
    extract M data kind record limit = .ok (extractAddresses data kind record limit) := by
  rw [extract, extractAddresses, owner?]
  cases slice? data record.start record.stop with
  | none => rfl
  | some own =>
    simp only [interfaceMessage_eq, ok_bind, Option.bind_some]
    cases hm : InterfaceMessage.parse? own with
    | none => rfl
    | some m =>
      have hscope : slice? data 0 (min limit data.length) = some (data.take limit) := by
        rw [slice?_to_eq, if_pos (Nat.min_le_right _ _), ← List.take_take, List.take_length]
      have hfits : (data.take limit).length ≤ M.largest := by
        rw [List.length_take]
        omega
      have hcollect : (ownMessages data m.index record.stop limit).filterMap (·.address? kind) =
          runUntil (fun r found => if r.isInterfaceInfo then .done found
            else .yield (found ++ ((r.addressMessage? m.index).bind (·.address? kind)).toList))
            (records (data.take limit) record.stop) [] := by
        rw [runUntil_collect, List.nil_append, ownMessages, ownRecords, List.filterMap_filterMap]
      simp only [index_message_eq M (accepted_of_parse? hm), ok_bind, hscope, hcollect]
      exact loop_eq (gives_records M (r := ⟨data.take limit, record.stop⟩) hfits)
        fun r hr found => extractStep_eq M (isIn_of_mem_records hr) m.index kind found

end Checked

end InterfaceDump
