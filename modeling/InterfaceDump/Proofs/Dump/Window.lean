import InterfaceDump.Proofs.Dump.Identity
import InterfaceDump.Proofs.Dump.Truncated
import InterfaceDump.Proofs.Message.Templates

/-! How far a search for addresses looks.

Addresses are extracted from a window: from the end of a range that holds an interface
message, the owner's, up to a limit. Both come from the caller and may lie anywhere. The
owner is read from the whole dump, so the limit decides only how many records are looked
at, and a wider window lists what a narrower one does and perhaps more
(`extractAddresses_prefix`). It stops to matter at the next interface message
(`extractAddresses_of_info`), which is why an interface that looks no further than its own
end misses nothing. `WindowLaws` says this for all ranges. -/
namespace InterfaceDump
open Bytes

variable {data : Bytes} {kind : AddressKind} {record : Span}

/-! ### The owner -/

/-- The range exists, and a whole interface message, of any version, starts it. -/
structure HoldsMessage (data : Bytes) (record : Span) : Prop where
  start_le : record.start ≤ record.stop
  stop_le : record.stop ≤ data.length
  type : byteAt data (record.start + 3) = 14
  fixed_le : 112 ≤ (u16le data record.start).toNat
  whole : record.start + (u16le data record.start).toNat ≤ record.stop

theorem parse?_take_drop {start n : Nat} (hsize : Header.size ≤ n) (hn : start + n ≤ data.length) :
    Header.parse? ((data.drop start).take n) =
      some ⟨u16le data start, byteAt data (start + 2), .ofCode (byteAt data (start + 3))⟩ := by
  have hrest : Header.size ≤ (data.drop start).length := by
    rw [List.length_drop]
    omega
  rw [Header.parse?_take hsize, Header.parse?_eq_leading hrest, Header.leading_drop]

/-- There is an owner if the range holds its message. -/
theorem isSome_owner?_iff : (owner? data record).isSome = true ↔ HoldsMessage data record := by
  have hlength : record.start ≤ record.stop → record.stop ≤ data.length →
      ((data.drop record.start).take (record.stop - record.start)).length =
        record.stop - record.start := by
    intro hstart hstop
    rw [List.length_take, List.length_drop]
    omega
  constructor
  · intro h
    obtain ⟨m, hm⟩ := Option.isSome_iff_exists.mp h
    obtain ⟨raw, hraw, hparse⟩ := Option.bind_eq_some_iff.mp hm
    rw [slice?, Option.ite_none_right_eq_some] at hraw
    obtain ⟨⟨hstart, hstop⟩, hraw⟩ := hraw
    obtain rfl := Option.some.inj hraw
    obtain ⟨header, hheader, htype, hfixed, hall, -⟩ :=
      InterfaceMessage.parse?_eq_some_iff.mp hparse
    rw [hlength hstart hstop] at hall
    have hsize : Header.size ≤ record.stop - record.start :=
      Nat.le_trans (show Header.size ≤ InterfaceMessage.fixedLength by decide)
        (Nat.le_trans hfixed hall)
    have hend : record.start + (record.stop - record.start) ≤ data.length := by omega
    rw [parse?_take_drop hsize hend] at hheader
    obtain rfl := Option.some.inj hheader
    have hdeclared : (u16le data record.start).toNat ≤ record.stop - record.start := hall
    exact ⟨hstart, hstop, MessageType.ofCode_eq_interfaceInfo.mp htype, hfixed, by omega⟩
  · rintro ⟨hstart, hstop, htype, hfixed, hwhole⟩
    have hsize : Header.size ≤ record.stop - record.start := by
      rw [Header.size]
      omega
    have hend : record.start + (record.stop - record.start) ≤ data.length := by omega
    have hheader := parse?_take_drop hsize hend
    have hall : (u16le data record.start).toNat ≤
        ((data.drop record.start).take (record.stop - record.start)).length := by
      rw [hlength hstart hstop]
      omega
    rw [owner?, slice?, if_pos ⟨hstart, hstop⟩, Option.bind_some,
      InterfaceMessage.parse?_eq hheader hall,
      if_pos ⟨MessageType.ofCode_eq_interfaceInfo.mpr htype, hfixed⟩]
    rfl

/-! ### The window -/

theorem extractAddresses_of_owner {m : InterfaceMessage} (h : owner? data record = some m)
    (kind : AddressKind) (limit : Nat) : extractAddresses data kind record limit =
      ownAddresses m.index kind (records (data.take limit) record.stop) := by
  rw [extractAddresses, h]
  rfl

theorem extractAddresses_of_not_holds (h : ¬ HoldsMessage data record) (limit : Nat) :
    extractAddresses data kind record limit = [] := by
  rw [← isSome_owner?_iff, Option.not_isSome_iff_eq_none] at h
  rw [extractAddresses, h]

theorem records_take_prefix (data : Bytes) (start : Nat) {near far : Nat} (h : near ≤ far) :
    records (data.take near) start <+: records (data.take far) start := by
  have hcut : data.take near = (data.take far).take near := by
    rw [List.take_take, Nat.min_eq_left h]
  rw [hcut, records_take]
  exact List.takeWhile_prefix _

/-- **A narrower window only loses addresses from the end.** -/
theorem extractAddresses_prefix {near far : Nat} (h : near ≤ far) :
    extractAddresses data kind record near <+: extractAddresses data kind record far := by
  cases howner : owner? data record with
  | none =>
    rw [extractAddresses, howner]
    exact List.nil_prefix
  | some m =>
    obtain ⟨more, hmore⟩ := records_take_prefix data record.stop h
    rw [extractAddresses_of_owner howner, extractAddresses_of_owner howner, ← hmore]
    exact ownAddresses_prefix m.index kind _ more

/-- The records in front of the next interface message end in front of any such message. -/
theorem stop_le_offset_of_info {start : Nat} {x : Record} (hx : x ∈ records data start)
    (hinfo : x.isInterfaceInfo = true) :
    ∀ q ∈ (records data start).takeWhile (!·.isInterfaceInfo), q.stop ≤ x.offset := by
  intro q hq
  have hsplit : (records data start).takeWhile (!·.isInterfaceInfo) ++
      (records data start).dropWhile (!·.isInterfaceInfo) = records data start :=
    List.takeWhile_append_dropWhile
  have hordered := pairwise_records data start
  rw [← hsplit] at hx hordered
  have hbehind := (List.mem_append.mp hx).resolve_left fun hfront => by
    have hpassed := List.all_eq_true.mp List.all_takeWhile x hfront
    rw [hinfo] at hpassed
    contradiction
  exact (List.pairwise_append.mp hordered).2.2 q hq x hbehind

theorem extractAddresses_eq_of_takeWhile {near far : Nat}
    (h : (records (data.take near) record.stop).takeWhile (!·.isInterfaceInfo) =
      (records (data.take far) record.stop).takeWhile (!·.isInterfaceInfo)) :
    extractAddresses data kind record near = extractAddresses data kind record far := by
  simp only [extractAddresses, ownMessages, ownRecords, h]

/-- **Behind the next interface message the limit does not matter.** -/
theorem extractAddresses_of_info {q : Record} (hq : q ∈ records data record.stop)
    (hinfo : q.isInterfaceInfo = true) {limit : Nat} (hlimit : q.offset ≤ limit) :
    extractAddresses data kind record limit = extractAddresses data kind record q.offset := by
  have hcut : ∀ limit, q.offset ≤ limit →
      (records (data.take limit) record.stop).takeWhile (!·.isInterfaceInfo) =
        (records data record.stop).takeWhile (!·.isInterfaceInfo) := fun limit hlimit =>
    takeWhile_records_take fun r hr => Nat.le_trans (stop_le_offset_of_info hq hinfo r hr) hlimit
  apply extractAddresses_eq_of_takeWhile
  rw [hcut limit hlimit, hcut q.offset (Nat.le_refl _)]

theorem extractAddresses_of_length_le {limit : Nat} (h : data.length ≤ limit) :
    extractAddresses data kind record limit = extractAddresses data kind record data.length := by
  apply extractAddresses_eq_of_takeWhile
  rw [List.take_of_length_le h, List.take_length]

/-- An interface misses nothing by looking no further than where the next one starts. -/
theorem Dump.Yields.extract_eq {d : Dump} {i : Interface} (h : d.Yields i) (kind : AddressKind) :
    i.extract kind = extractAddresses d.bytes kind i.record d.endPosition := by
  obtain ⟨r, later, hrun, -, rfl⟩ := Dump.interfaceAt?_eq_some_iff.mp h.interfaceAt?
  obtain ⟨-, -, rfl⟩ := records_eq_cons_iff.mp hrun
  apply extractAddresses_eq_of_takeWhile
  refine (ownRecords_firstOpening d.bytes r.stop).trans ?_
  show _ = (records (d.bytes.take d.bytes.length) r.stop).takeWhile _
  rw [List.take_length]

/-! ### All windows -/

/-- How the addresses extracted for a range depend on the limit. -/
structure WindowLaws (data : Bytes) (kind : AddressKind) (record : Span) : Prop where
  grows : ∀ near far, near ≤ far →
    extractAddresses data kind record near <+: extractAddresses data kind record far
  ownerless : ¬ HoldsMessage data record → ∀ limit, extractAddresses data kind record limit = []
  /-- The records behind the range come to an interface message of the current version. -/
  bounded : ∀ q ∈ records data record.stop, q.isInterfaceInfo = true → ∀ limit, q.offset ≤ limit →
    extractAddresses data kind record limit = extractAddresses data kind record q.offset
  whole : ∀ limit, data.length ≤ limit →
    extractAddresses data kind record limit = extractAddresses data kind record data.length

/-- **A limit takes addresses from the end of the list and does nothing else**, and behind
the next interface message it does nothing at all. So an interface lists the same up to its
own end as up to the end of the dump. -/
theorem windows_lose_from_the_end :
    (∀ data kind record, WindowLaws data kind record) ∧
      ∀ d i, Dump.Yields d i → ∀ kind,
        i.extract kind = extractAddresses d.bytes kind i.record d.endPosition := by
  refine ⟨fun data kind record => ?_, fun d i h kind => h.extract_eq kind⟩
  exact ⟨fun near far h => extractAddresses_prefix h, extractAddresses_of_not_holds,
    fun q hq hinfo limit hlimit => extractAddresses_of_info hq hinfo hlimit,
    fun limit h => extractAddresses_of_length_le h⟩

/-- The captured tunnel with another interface message behind it, at offset 292. -/
def Sample.tunnelAgain : Bytes := Sample.tunnel ++ Sample.tunnelInterface

/-- A limit behind the first of two addresses loses the second one, an address message is no
owner, and behind the next interface message no limit is too far. -/
theorem windows_lose_from_the_end_tunnel :
    (212 ≤ 292 ∧
      extractAddresses Sample.tunnelAgain .address ⟨0, 132⟩ 212 <+:
        extractAddresses Sample.tunnelAgain .address ⟨0, 132⟩ 292 ∧
      (extractAddresses Sample.tunnelAgain .address ⟨0, 132⟩ 212).length = 1 ∧
      (extractAddresses Sample.tunnelAgain .address ⟨0, 132⟩ 292).length = 2) ∧
    (¬ HoldsMessage Sample.tunnelAgain ⟨132, 212⟩ ∧
      extractAddresses Sample.tunnelAgain .address ⟨132, 212⟩ 424 = []) ∧
    (∃ q ∈ records Sample.tunnelAgain 132, q.isInterfaceInfo = true ∧ q.offset = 292 ∧
      extractAddresses Sample.tunnelAgain .address ⟨0, 132⟩ 300 =
        extractAddresses Sample.tunnelAgain .address ⟨0, 132⟩ q.offset) ∧
    (Dump.Yields ⟨Sample.tunnel⟩ Sample.tunnelView ∧
      Sample.tunnelView.extract .address =
        extractAddresses Sample.tunnel .address ⟨0, 132⟩ 292) := by
  obtain ⟨hlaws, hviews⟩ := windows_lose_from_the_end
  have htype : ¬ HoldsMessage Sample.tunnelAgain ⟨132, 212⟩ := fun h =>
    absurd h.type (by decide)
  have hnext : ∃ q ∈ records Sample.tunnelAgain 132, q.isInterfaceInfo = true ∧ q.offset = 292 := by
    decide +kernel
  obtain ⟨q, hq, hinfo, hoffset⟩ := hnext
  have hyields : Dump.Yields ⟨Sample.tunnel⟩ Sample.tunnelView := .inr ⟨0, by decide +kernel⟩
  have hrecord : Sample.tunnelView.record = ⟨0, 132⟩ := by decide +kernel
  have hend : Dump.endPosition ⟨Sample.tunnel⟩ = 292 := by decide +kernel
  have hview := hviews _ _ hyields .address
  rw [hrecord, hend] at hview
  refine ⟨⟨by decide, (hlaws _ _ _).grows _ _ (by decide), by decide +kernel, by decide +kernel⟩,
    ⟨htype, (hlaws _ _ _).ownerless htype _⟩, ⟨q, hq, hinfo, hoffset, ?_⟩, hyields, hview⟩
  exact (hlaws Sample.tunnelAgain .address ⟨0, 132⟩).bounded q hq hinfo 300 (by omega)

end InterfaceDump
