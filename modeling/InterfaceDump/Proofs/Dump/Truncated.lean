import InterfaceDump.Proofs.Dump.Attributes

/-! Dumps that are cut short.

A cut takes the last records of a dump away, and nothing from the ones before it
(`records_split`). What the remaining records list is therefore what they listed
before, with one exception: the last interface has lost the addresses that stood
behind the cut (`Listed.ofRun_append`). `interfaces_take` says so of the interfaces;
none appears, moves or gains an address because the end of the dump moved. -/
namespace InterfaceDump
open Bytes

/-! ### Cut runs -/

theorem lt_stop_of_mem_dropWhile {data : Bytes} {start limit : Nat} {r : Record}
    (h : r ∈ (records data start).dropWhile fun r => decide (r.stop ≤ limit)) :
    limit < r.stop := by
  induction hrun : records data start generalizing start with
  | nil =>
    rw [hrun] at h
    exact nomatch h
  | cons q later ih =>
    obtain ⟨-, -, hlater⟩ := records_eq_cons_iff.mp hrun
    rw [hrun] at h
    by_cases hstop : q.stop ≤ limit
    · rw [List.dropWhile_cons_of_pos (by simpa using hstop), hlater] at h
      exact ih h hlater.symm
    · rw [List.dropWhile_cons_of_neg (by simpa using hstop)] at h
      rcases List.mem_cons.mp h with rfl | hr
      · exact Nat.lt_of_not_le hstop
      · rw [hlater] at hr
        have hbehind := le_offset_of_mem_records hr
        have hend : r.offset ≤ r.stop := Nat.le_add_right _ _
        omega

/-- A run is what a cut leaves of it, and records that do not end before the cut. -/
theorem records_split (data : Bytes) (start limit : Nat) :
    ∃ lost, records data start = records (data.take limit) start ++ lost ∧
      (∀ r ∈ records (data.take limit) start, r.stop ≤ limit) ∧ ∀ r ∈ lost, limit < r.stop := by
  refine ⟨(records data start).dropWhile fun r => decide (r.stop ≤ limit), ?_, ?_, ?_⟩
  · rw [records_take, List.takeWhile_append_dropWhile]
  · intro r hr
    have hend := offset_add_le_of_mem_records hr
    rw [List.length_take] at hend
    exact Nat.le_trans hend (Nat.min_le_left _ _)
  · intro r hr
    exact lt_stop_of_mem_dropWhile hr

/-! ### Addresses behind a cut -/

theorem ownAddresses_prefix (owner : UInt16) (kind : AddressKind) (run more : List Record) :
    ownAddresses owner kind run <+: ownAddresses owner kind (run ++ more) := by
  induction run with
  | nil => exact List.nil_prefix
  | cons r later ih =>
    rw [List.cons_append]
    by_cases hinfo : r.isInterfaceInfo = true
    · rw [ownAddresses_of_info hinfo]
      exact List.nil_prefix
    · rw [ownAddresses_of_other hinfo, ownAddresses_of_other hinfo]
      exact (List.prefix_append_right_inj _).mpr ih

/-- Behind the next interface message there are no addresses to be lost. -/
theorem ownAddresses_append_of_info (owner : UInt16) (kind : AddressKind) {run : List Record}
    (h : ∃ r ∈ run, r.isInterfaceInfo = true) (more : List Record) :
    ownAddresses owner kind (run ++ more) = ownAddresses owner kind run := by
  induction run with
  | nil =>
    obtain ⟨r, hr, -⟩ := h
    exact nomatch hr
  | cons r later ih =>
    rw [List.cons_append]
    by_cases hinfo : r.isInterfaceInfo = true
    · rw [ownAddresses_of_info hinfo, ownAddresses_of_info hinfo]
    · have hlater : ∃ q ∈ later, q.isInterfaceInfo = true := by
        obtain ⟨q, hq, hqinfo⟩ := h
        rcases List.mem_cons.mp hq with rfl | hq
        · exact absurd hqinfo hinfo
        · exact ⟨q, hq, hqinfo⟩
      rw [ownAddresses_of_other hinfo, ownAddresses_of_other hinfo, ih hlater]

/-! ### Lists behind a cut -/

namespace Listed

/-- The offset behind the interface's own message. -/
def stop (e : Listed) : Nat := e.position + e.message.recordLength

/-- The same interface, with more addresses behind those it has. -/
structure Grows (e grown : Listed) : Prop where
  position : e.position = grown.position
  message : e.message = grown.message
  addresses : ∀ kind, e.addresses kind <+: grown.addresses kind

theorem Grows.stop {e grown : Listed} (h : e.Grows grown) : e.stop = grown.stop := by
  rw [Listed.stop, h.position, h.message, Listed.stop]

theorem exists_stop_eq_of_mem_ofRun {e : Listed} {run : List Record} (h : e ∈ ofRun run) :
    ∃ r ∈ run, e.stop = r.stop := by
  induction run with
  | nil => exact nomatch h
  | cons r later ih =>
    by_cases ho : r.opensInterface = true
    · rw [ofRun_of_opens ho] at h
      rcases List.mem_cons.mp h with rfl | h
      · exact ⟨r, List.mem_cons_self, rfl⟩
      · obtain ⟨q, hq, hstop⟩ := ih h
        exact ⟨q, List.mem_cons_of_mem r hq, hstop⟩
    · rw [ofRun_of_passed ho] at h
      obtain ⟨q, hq, hstop⟩ := ih h
      exact ⟨q, List.mem_cons_of_mem r hq, hstop⟩

/-- Behind the limit no interface ends in front of it. -/
theorem filter_ofRun_eq_nil {run : List Record} {limit : Nat} (h : ∀ r ∈ run, limit < r.stop) :
    (ofRun run).filter (fun e => decide (e.stop ≤ limit)) = [] := by
  apply List.filter_eq_nil_iff.mpr
  intro e he hle
  obtain ⟨r, hr, hstop⟩ := exists_stop_eq_of_mem_ofRun he
  have hbehind := h r hr
  have hbefore := of_decide_eq_true hle
  omega

/-- More addresses do not move an interface over the limit. -/
theorem filter_eq_self_of_grows {run : List Record} {grown : List Listed} {limit : Nat}
    (hgrows : List.Forall₂ Grows (ofRun run) grown) (h : ∀ r ∈ run, r.stop ≤ limit) :
    grown.filter (fun e => decide (e.stop ≤ limit)) = grown := by
  have hstops : (ofRun run).map stop = grown.map stop :=
    map_eq_map_iff_forall₂.mpr (hgrows.imp fun _ _ hgrow => hgrow.stop)
  apply List.filter_eq_self.mpr
  intro e he
  apply decide_eq_true
  obtain ⟨cut, hcut, hsame⟩ := List.mem_map.mp (hstops ▸ List.mem_map_of_mem he)
  obtain ⟨r, hr, hstop⟩ := exists_stop_eq_of_mem_ofRun hcut
  have hbefore := h r hr
  omega

theorem exists_info_of_ofRun_ne_nil {run : List Record} (h : ofRun run ≠ []) :
    ∃ r ∈ run, r.isInterfaceInfo = true := by
  by_contra hnone
  refine h (ofRun_eq_nil fun r hr ho => hnone ⟨r, hr, ?_⟩)
  exact Record.isInterfaceInfo_of_opens ho

/-- **Further records give addresses to the last interface of a run**, and interfaces of
their own. -/
theorem ofRun_append (run more : List Record) :
    ∃ grown, ofRun (run ++ more) = grown ++ ofRun more ∧
      List.Forall₂ Grows (ofRun run) grown ∧ (ofRun run).dropLast = grown.dropLast := by
  induction run with
  | nil => exact ⟨[], rfl, .nil, rfl⟩
  | cons r later ih =>
    obtain ⟨grown, happend, hgrows, hlast⟩ := ih
    rw [List.cons_append]
    by_cases ho : r.opensInterface = true
    · rw [ofRun_of_opens ho, ofRun_of_opens ho, happend]
      refine ⟨_ :: grown, rfl, .cons ⟨rfl, rfl, ?_⟩ hgrows, ?_⟩
      · exact fun kind => ownAddresses_prefix _ kind later more
      · cases hlater : ofRun later with
        | nil =>
          -- The interface is the last one, and is dropped on both sides.
          rw [hlater] at hgrows
          cases hgrows
          rfl
        | cons e rest =>
          have hsome : ofRun later ≠ [] := by
            rw [hlater]
            exact nofun
          have hinfo := exists_info_of_ofRun_ne_nil hsome
          have hne : grown ≠ [] := by
            rintro rfl
            rw [hlater] at hgrows
            exact nomatch hgrows
          rw [← hlater, List.dropLast_cons_of_ne_nil hne, ← hlast,
            List.dropLast_cons_of_ne_nil hsome]
          simp only [ownAddresses_append_of_info _ _ hinfo]
    · rw [ofRun_of_passed ho, ofRun_of_passed ho]
      exact ⟨grown, happend, hgrows, hlast⟩

end Listed

/-! ### Dumps -/

/-- A list of interfaces with the last one cut short: it may have lost addresses, from the
end of each of its lists. -/
structure CutShort (cut full : List Interface) : Prop where
  positions : cut.map (·.position) = full.map (·.position)
  profiles : cut.map (·.profile) = full.map (·.profile)
  unchanged : cut.dropLast.map (·.attributes) = full.dropLast.map (·.attributes)
  addresses : ∀ kind, List.Forall₂ (· <+: ·) (cut.map (·.extract kind)) (full.map (·.extract kind))

theorem cutShort_of_grows {cut full : List Interface}
    (hgrows : List.Forall₂ Listed.Grows (cut.map Listed.ofInterface) (full.map Listed.ofInterface))
    (hlast : (cut.map Listed.ofInterface).dropLast = (full.map Listed.ofInterface).dropLast) :
    CutShort cut full := by
  rw [List.forall₂_map_left_iff, List.forall₂_map_right_iff] at hgrows
  rw [← List.map_dropLast, ← List.map_dropLast, map_eq_map_iff_forall₂] at hlast
  constructor
  · exact map_eq_map_iff_forall₂.mpr (hgrows.imp fun _ _ h => h.position)
  · exact map_eq_map_iff_forall₂.mpr (hgrows.imp fun _ _ h => Interface.profile_congr h.message)
  · refine map_eq_map_iff_forall₂.mpr (hlast.imp fun i j h => ?_)
    obtain ⟨-, hmessage, hextract⟩ := Listed.mk.inj h
    exact Interface.attributes_congr hmessage hextract
  · intro kind
    rw [List.forall₂_map_left_iff, List.forall₂_map_right_iff]
    exact hgrows.imp fun _ _ h => h.addresses kind

/-- **A cut costs a dump the interfaces whose messages it reaches**, and the last interface
before it the addresses that it reaches. -/
theorem interfaces_take (d : Dump) (n : Nat) :
    CutShort (Dump.mk (d.bytes.take n)).interfaces
      (d.interfaces.filter fun i => decide (i.record.stop ≤ n)) := by
  obtain ⟨lost, hsplit, hkept, hlost⟩ := records_split d.bytes 0 n
  obtain ⟨grown, happend, hgrows, hlast⟩ :=
    Listed.ofRun_append (records (d.bytes.take n) 0) lost
  have hcut : (Dump.mk (d.bytes.take n)).interfaces.map Listed.ofInterface =
      Listed.ofRun (records (d.bytes.take n) 0) := Dump.map_ofInterface _
  have hfull : (d.interfaces.filter fun i => decide (i.record.stop ≤ n)).map Listed.ofInterface =
      grown := by
    calc (d.interfaces.filter fun i => decide (i.record.stop ≤ n)).map Listed.ofInterface
        = (d.interfaces.map Listed.ofInterface).filter fun e => decide (e.stop ≤ n) := by
          rw [List.filter_map]
          rfl
      _ = (grown ++ Listed.ofRun lost).filter fun e => decide (e.stop ≤ n) := by
          rw [d.map_ofInterface, hsplit, happend]
      _ = grown := by
          rw [List.filter_append, Listed.filter_eq_self_of_grows hgrows hkept,
            Listed.filter_ofRun_eq_nil hlost, List.append_nil]
  apply cutShort_of_grows
  · rw [hcut, hfull]
    exact hgrows
  · rw [hcut, hfull]
    exact hlast

end InterfaceDump
