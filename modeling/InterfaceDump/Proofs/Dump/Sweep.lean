import InterfaceDump.Proofs.Dump.Openings

/-! One pass over a dump.

The interfaces of a dump and all their addresses can be listed in one pass over
its records, which keeps the interfaces met so far and the index of the one that
further address messages belong to. `Sweep` is that pass, written without any of
the searches that the views of a dump make. `interfaces_eq_sweep` says that both
give the same list. -/
namespace InterfaceDump

/-! ### The pass -/

/-- An interface with all its addresses. -/
structure Listed where
  position : Nat
  message : InterfaceMessage
  addresses : AddressKind → List SockAddr

namespace Listed

/-- What a view shows when its addresses are read. -/
def ofInterface (i : Interface) : Listed := ⟨i.position, i.message, i.extract⟩

def extend (e : Listed) (more : AddressKind → List SockAddr) : Listed :=
  { e with addresses := fun kind => e.addresses kind ++ more kind }

theorem extend_nil (e : Listed) : (e.extend fun _ => []) = e := by
  simp only [extend, List.append_nil]

theorem extend_extend (e : Listed) (more further : AddressKind → List SockAddr) :
    (e.extend more).extend further = e.extend fun kind => more kind ++ further kind := by
  simp only [extend, List.append_assoc]

end Listed

structure Sweep where
  /-- The interfaces met so far, the newest first. -/
  listed : List Listed
  /-- The index of the newest interface, while address messages may belong to it. -/
  owner : Option UInt16

namespace Sweep

def start : Sweep := ⟨[], none⟩

def meetInterface (s : Sweep) (offset : Nat) (m : InterfaceMessage) : Sweep :=
  if m.slots.hasInterfaceLink ∧ m.index ≠ 0 then
    ⟨⟨offset, m, fun _ => []⟩ :: s.listed, some m.index⟩
  else { s with owner := none }

def meetAddress (s : Sweep) (m : AddressMessage) : Sweep :=
  if s.owner = some m.index then
    { s with listed := s.listed.modifyHead (·.extend fun kind => (m.address? kind).toList) }
  else s

def step (s : Sweep) (r : Record) : Sweep :=
  if r.header.isCurrent then
    match r.header.messageType with
    | .interfaceInfo =>
      match InterfaceMessage.parse? r.bytes with
      | some m => s.meetInterface r.offset m
      | none => { s with owner := none }
    | .newAddress =>
      match AddressMessage.parse? r.bytes with
      | some m => s.meetAddress m
      | none => s
    | _ => s
  else s

/-! ### One step -/

variable {s : Sweep} {r : Record} {data : Bytes}

theorem step_of_opens (hin : r.IsIn data) (ho : r.opensInterface = true) :
    s.step r = ⟨⟨r.offset, ⟨r.bytes⟩, fun _ => []⟩ :: s.listed,
      some (⟨r.bytes⟩ : InterfaceMessage).index⟩ := by
  obtain ⟨hm, husable⟩ := hin.interfaceMessage?_of_opens ho
  have hinfo := Record.isInterfaceInfo_of_opens ho
  simp only [Record.isInterfaceInfo, Bool.and_eq_true, beq_iff_eq] at hinfo
  simp only [InterfaceMessage.isUsable, Bool.and_eq_true, bne_iff_ne] at husable
  simp only [step, hinfo.1, hinfo.2, hm, if_true, meetInterface, husable, and_self, if_true,
    ne_eq, not_false_eq_true]

theorem step_of_unusable (hinfo : r.isInterfaceInfo = true) (ho : ¬ r.opensInterface = true) :
    s.step r = { s with owner := none } := by
  simp only [Record.opensInterface, hinfo, Bool.true_and, Option.any_eq_true] at ho
  simp only [Record.isInterfaceInfo, Bool.and_eq_true, beq_iff_eq] at hinfo
  simp only [step, hinfo.1, hinfo.2, if_true]
  cases hm : InterfaceMessage.parse? r.bytes with
  | none => rfl
  | some m =>
    refine if_neg fun husable => ho ⟨m, hm, ?_⟩
    simpa [InterfaceMessage.isUsable] using husable

/-- The interfaces met so far, when the newest one gets more addresses. -/
def settled (s : Sweep) (more : UInt16 → AddressKind → List SockAddr) : List Listed :=
  match s.owner with
  | some owner => s.listed.modifyHead (·.extend (more owner))
  | none => s.listed

theorem settled_nil (s : Sweep) : (s.settled fun _ _ => []) = s.listed := by
  unfold settled
  split
  · cases s.listed with
    | nil => rfl
    | cons e rest => rw [List.modifyHead_cons, Listed.extend_nil]
  · rfl

theorem settled_settled (s : Sweep) (more further : UInt16 → AddressKind → List SockAddr) :
    settled { s with listed := s.settled more } further =
      s.settled fun owner kind => more owner kind ++ further owner kind := by
  unfold settled
  cases s.owner with
  | none => rfl
  | some owner =>
    cases s.listed with
    | nil => rfl
    | cons e rest => simp only [List.modifyHead_cons, Listed.extend_extend]

/-- An address message adds its addresses if it belongs to the owner. -/
theorem meetAddress_eq (s : Sweep) (m : AddressMessage) :
    s.meetAddress m = { s with listed := s.settled fun owner kind =>
      (((some m).filter (·.index == owner)).bind (·.address? kind)).toList } := by
  obtain ⟨listed, _ | owner⟩ := s
  · exact if_neg (by simp)
  · by_cases hindex : owner = m.index
    · subst hindex
      simp only [meetAddress, settled, if_true, Option.filter_some, beq_self_eq_true,
        Option.bind_some]
    · have hforeign : (m.index == owner) = false :=
        beq_eq_false_iff_ne.mpr fun h => hindex h.symm
      have hsettled := settled_nil ⟨listed, some owner⟩
      simp only [settled] at hsettled
      simp only [meetAddress, settled, Option.some.injEq, hindex, if_false, Option.filter_some,
        hforeign, Bool.false_eq_true, Option.bind_none, Option.toList_none, hsettled]

/-- A record that is no interface message adds the addresses that it holds for the owner. -/
theorem step_of_other (hin : r.IsIn data) (hinfo : ¬ r.isInterfaceInfo = true) :
    s.step r = { s with listed := s.settled fun owner kind =>
      ((r.addressMessage? owner).bind (·.address? kind)).toList } := by
  by_cases hcurrent : r.header.isCurrent = true
  · simp only [Record.isInterfaceInfo, hcurrent, Bool.true_and, beq_iff_eq] at hinfo
    simp only [step, Record.addressMessage?, hcurrent, if_true]
    split
    · next htype => exact absurd htype hinfo
    · cases AddressMessage.parse? r.bytes with
      | none => exact congrArg (Sweep.mk · s.owner) s.settled_nil.symm
      | some m => exact s.meetAddress_eq m
    · next htype =>
      have hnone : AddressMessage.parse? r.bytes = none := by
        rw [hin.addressMessage?, if_neg fun h => htype h.1]
      rw [hnone]
      exact congrArg (Sweep.mk · s.owner) s.settled_nil.symm
  · simp only [step, Record.addressMessage?, hcurrent, Bool.false_eq_true, if_false,
      Option.bind_none, Option.toList_none, settled_nil]

/-! ### The whole pass -/

/-- Behind any point of the pass, the newest interface gets the addresses that are still
to come, and the interfaces that are still to open follow. -/
theorem foldl_step {start : Nat} {run : List Record} (h : records data start = run) (s : Sweep) :
    (run.foldl step s).listed.reverse =
      (s.settled fun owner kind => ownAddresses owner kind run).reverse ++
        (openings data run).map Listed.ofInterface := by
  induction run generalizing start s with
  | nil =>
    rw [List.foldl_nil, openings, List.map_nil, List.append_nil]
    exact congrArg _ s.settled_nil.symm
  | cons r later ih =>
    obtain ⟨-, hin, hlater⟩ := records_eq_cons_iff.mp h
    rw [List.foldl_cons, ih hlater.symm]
    by_cases hinfo : r.isInterfaceInfo = true
    · simp only [ownAddresses_of_info hinfo, settled_nil]
      by_cases ho : r.opensInterface = true
      · have hlisted : Listed.ofInterface (r.interface data later) =
            Listed.extend ⟨r.offset, ⟨r.bytes⟩, fun _ => []⟩ fun kind =>
              ownAddresses (⟨r.bytes⟩ : InterfaceMessage).index kind later := by
          simp only [Listed.ofInterface, Listed.extend, List.nil_append]
          congr 1
          funext kind
          exact extract_interface h ho kind
        rw [step_of_opens hin ho, openings, if_pos ho, List.map_cons, hlisted]
        simp only [settled, List.modifyHead_cons, List.reverse_cons, List.append_assoc,
          List.singleton_append]
      · rw [step_of_unusable hinfo ho, openings, if_neg ho]
        rfl
    · have ho : ¬ r.opensInterface = true := fun ho => hinfo (Record.isInterfaceInfo_of_opens ho)
      rw [step_of_other hin hinfo, settled_settled, openings, if_neg ho]
      simp only [ownAddresses_of_other hinfo]

end Sweep

/-- **The views of a dump show what one pass over its records lists**: each usable
interface message once and in order, with the addresses of every kind that belong to it. -/
theorem interfaces_eq_sweep (d : Dump) :
    d.interfaces.map Listed.ofInterface =
        ((records d.bytes 0).foldl Sweep.step .start).listed.reverse ∧
      d.interfaces.map (·.position) =
        ((records d.bytes 0).filter (·.opensInterface)).map (·.offset) ∧
      (d.interfaces.map (·.position)).Pairwise (· < ·) := by
  refine ⟨?_, d.positions_eq, d.pairwise_positions⟩
  rw [Sweep.foldl_step rfl, d.interfaces_eq_openings]
  rfl

end InterfaceDump
