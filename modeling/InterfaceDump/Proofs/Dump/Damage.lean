import InterfaceDump.Message.Sample
import InterfaceDump.Proofs.Dump.Attributes

/-! Damaged link-layer addresses.

The link-layer address of an interface stands behind the fixed part of its message,
and nothing in it is trusted: whatever its octets are, they cannot move a record, hide
an interface or change what the fixed part says (`InterfaceMessage.fixedPart`). Even
the index, which is read from the link-layer address first, is always the one in the
fixed part (`Interface.index_eq`).

Two dumps that differ in such octets alone (`Dump.DamagesLinks`) have records of the
same extent (`forall₂_records`) and list the same interfaces with the same addresses
(`Listed.map_fixedPart_ofRun`). `links_damaged` says what is left to differ: the name,
the hardware address and whether it is an Ethernet one. -/
namespace InterfaceDump
open Bytes

/-! ### The fixed part of a message -/

namespace InterfaceMessage

/-- The message cut in front of its link-layer address. -/
def fixedPart (m : InterfaceMessage) : InterfaceMessage := ⟨m.bytes.take fixedLength⟩

variable (m : InterfaceMessage)

theorem slots_fixedPart : m.fixedPart.slots = m.slots := by
  rw [slots, slots, fixedPart, u32le, u32le, field_take (by decide)]

theorem options_fixedPart : m.fixedPart.options = m.options := by
  rw [options, options, fixedPart, u32le, u32le, field_take (by decide)]

theorem index_fixedPart : m.fixedPart.index = m.index := by
  rw [index, index, fixedPart, u16le, u16le, field_take (by decide)]

theorem linkData_fixedPart : m.fixedPart.linkData = m.linkData := by
  rw [linkData, linkData, fixedPart, field_take (by decide)]

theorem isUsable_fixedPart : m.fixedPart.isUsable = m.isUsable := by
  rw [isUsable, isUsable, slots_fixedPart, index_fixedPart]

end InterfaceMessage

/-! ### Attributes without the link-layer address -/

def Profile.withoutLink (p : Profile) : Profile :=
  { p with name := "", hardware := none, isEthernetCompatible := false }

def Attributes.withoutLink (a : Attributes) : Attributes :=
  { a with toProfile := a.toProfile.withoutLink }

namespace Interface

variable {i j : Interface}

theorem profile_withoutLink_congr (h : i.message.fixedPart = j.message.fixedPart) :
    i.profile.withoutLink = j.profile.withoutLink := by
  have hindex : i.index = j.index := by
    rw [index_eq, index_eq, ← i.message.index_fixedPart, h, j.message.index_fixedPart]
  have hoptions : i.options = j.options := by
    rw [options, options, ← i.message.options_fixedPart, h, j.message.options_fixedPart]
  have hlink : i.message.linkData = j.message.linkData := by
    rw [← i.message.linkData_fixedPart, h, j.message.linkData_fixedPart]
  simp only [profile, Profile.withoutLink, interfaceType, mtu, metric, baudRate, physicalPort,
    statistics, hindex, hoptions, hlink]

theorem attributes_withoutLink_congr (h : i.message.fixedPart = j.message.fixedPart)
    (hextract : i.extract = j.extract) :
    i.attributes.withoutLink = j.attributes.withoutLink := by
  have hoptions : i.options = j.options := by
    rw [options, options, ← i.message.options_fixedPart, h, j.message.options_fixedPart]
  rw [attributes_eq_of_extract hoptions hextract, Attributes.withoutLink, Attributes.withoutLink,
    profile_withoutLink_congr h]
  rfl

end Interface

namespace Dump

/-- What a dump tells of its interfaces, but for their link-layer addresses. -/
def shownWithoutLinks (d : Dump) : List (Nat × Attributes) :=
  d.shown.map fun s => (s.1, s.2.withoutLink)

/-- Looking for an index makes no use of link-layer addresses. -/
theorem position_findByIndex? (d : Dump) (index : UInt32) :
    (d.findByIndex? index).map (·.position) =
      (d.shownWithoutLinks.find? fun s => s.2.index == index).map (·.1) := by
  rw [shownWithoutLinks, shown, List.map_map, List.find?_map, Option.map_map]
  rfl

end Dump

/-! ### Damaged records -/

namespace Record
variable {q r : Record} {a b : Bytes}

/-- A record opens an interface by its header, its length and its fixed part. -/
theorem IsIn.opensInterface_eq (h : r.IsIn a) :
    r.opensInterface = (r.isInterfaceInfo &&
      (decide (InterfaceMessage.fixedLength ≤ r.bytes.length) &&
        (⟨r.bytes⟩ : InterfaceMessage).fixedPart.isUsable)) := by
  rw [opensInterface, h.interfaceMessage?, InterfaceMessage.isUsable_fixedPart]
  by_cases hinfo : r.isInterfaceInfo = true
  · have htype : r.header.messageType = .interfaceInfo := by
      simp only [isInterfaceInfo, Bool.and_eq_true, beq_iff_eq] at hinfo
      exact hinfo.2
    by_cases hsize : InterfaceMessage.fixedLength ≤ r.bytes.length
    · simp [htype, hsize]
    · simp [hsize]
  · simp [hinfo]

/-- The record with the octets that `b` has in its place. -/
def reread (b : Bytes) (q : Record) : Record :=
  { q with bytes := (b.drop q.offset).take q.header.recordLength }

/-- `r` is `q` with damage at most behind the fixed part of an interface's message. -/
structure Damages (q r : Record) : Prop where
  offset : r.offset = q.offset
  header : r.header = q.header
  fixed : r.bytes.take InterfaceMessage.fixedLength = q.bytes.take InterfaceMessage.fixedLength
  opens : r.opensInterface = q.opensInterface
  passed : ¬ q.opensInterface = true → r = q

/-- The first octets of a record are reread unchanged where the two byte strings agree. -/
theorem IsIn.take_reread (hq : q.IsIn a) (hlength : a.length = b.length) {n : Nat}
    (h : ∀ k, q.offset ≤ k → k < q.offset + n → k < q.stop → byteAt a k = byteAt b k) :
    (q.reread b).bytes.take n = q.bytes.take n := by
  have hstop : q.stop = q.offset + q.header.recordLength := by rw [stop, hq.length_eq]
  rw [reread, hq.bytes, List.take_take, List.take_take]
  exact (take_drop_congr hlength fun k hlow hhigh => h k hlow (by omega) (by omega)).symm

/-- A header that is reread unchanged still frames the record. -/
theorem IsIn.reread (hq : q.IsIn a) (hlength : a.length = b.length)
    (h : (q.reread b).bytes.take Header.size = q.bytes.take Header.size) :
    (q.reread b).IsIn b := by
  have hsize := hq.size_le
  rw [hq.length_eq] at hsize
  rw [Record.reread, hq.bytes, List.take_take, List.take_take, Nat.min_eq_left hsize] at h
  have hparse : Header.parse? (b.drop q.offset) = some q.header := by
    rw [← hq.parse?, ← Header.parse?_take (Nat.le_refl Header.size), h,
      Header.parse?_take (Nat.le_refl Header.size)]
  have hfits := Frame.fits_of_whole hq.frame
  rw [List.length_drop, hlength, ← List.length_drop] at hfits
  exact ⟨Frame.of_eq_whole_iff.mpr ⟨hparse, hfits⟩, rfl⟩

/-- **Damage behind the fixed part costs an interface's message neither its extent nor
its standing.** -/
theorem IsIn.damages (hq : q.IsIn a) (hlength : a.length = b.length)
    (h : ∀ k, q.offset ≤ k → k < q.stop → byteAt a k ≠ byteAt b k →
      q.opensInterface = true ∧ q.offset + InterfaceMessage.fixedLength ≤ k) :
    (q.reread b).IsIn b ∧ (q.reread b).stop = q.stop ∧ q.Damages (q.reread b) := by
  have hfixed : (q.reread b).bytes.take InterfaceMessage.fixedLength =
      q.bytes.take InterfaceMessage.fixedLength := by
    apply hq.take_reread hlength
    intro k hlow hhigh hstop
    by_contra hdiffers
    have hbehind := (h k hlow hstop hdiffers).2
    omega
  have hheader : (q.reread b).bytes.take Header.size = q.bytes.take Header.size := by
    have hcut := congrArg (List.take Header.size) hfixed
    rwa [List.take_take, List.take_take] at hcut
  have hin := hq.reread hlength hheader
  have hsame : (q.reread b).bytes.length = q.bytes.length := hin.length_eq.trans hq.length_eq.symm
  refine ⟨hin, congrArg (q.offset + ·) hsame, rfl, rfl, hfixed, ?_, ?_⟩
  · have hpart : (⟨(q.reread b).bytes⟩ : InterfaceMessage).fixedPart =
        (⟨q.bytes⟩ : InterfaceMessage).fixedPart := congrArg InterfaceMessage.mk hfixed
    rw [hin.opensInterface_eq, hq.opensInterface_eq, hpart, hsame]
    rfl
  · intro hpassed
    have hbytes : (q.reread b).bytes.take q.bytes.length = q.bytes.take q.bytes.length := by
      apply hq.take_reread hlength
      intro k hlow _ hstop
      by_contra hdiffers
      exact hpassed (h k hlow hstop hdiffers).1
    rw [← hsame, List.take_length, hsame, List.take_length] at hbytes
    show { q with bytes := (q.reread b).bytes } = q
    rw [hbytes]

end Record

/-! ### Damaged runs -/

/-- Octet `k` stands behind the fixed part of a message that opens an interface of the run. -/
def InLink (run : List Record) (k : Nat) : Prop :=
  ∃ q ∈ run, q.opensInterface = true ∧ q.offset + InterfaceMessage.fixedLength ≤ k ∧ k < q.stop

/-- The induction is on the first run; what lies before its start may differ freely. -/
theorem forall₂_records {a b : Bytes} (hlength : a.length = b.length) {start : Nat}
    (h : ∀ k, start ≤ k → byteAt a k ≠ byteAt b k → InLink (records a start) k) :
    List.Forall₂ Record.Damages (records a start) (records b start) := by
  induction hrun : records a start generalizing start with
  | nil =>
    have hdrop : a.drop start = b.drop start := by
      refine eq_of_byteAt (by simp [hlength]) fun k _ => ?_
      by_contra hdiffers
      rw [byteAt_drop, byteAt_drop] at hdiffers
      obtain ⟨q, hq, -⟩ := h (start + k) (Nat.le_add_right _ _) hdiffers
      exact absurd (hrun ▸ hq) List.not_mem_nil
    rw [show records b start = [] by rw [← hrun, records, records, hdrop]]
    exact .nil
  | cons q later ih =>
    obtain ⟨rfl, hin, hlater⟩ := records_eq_cons_iff.mp hrun
    have hfirst : ∀ k, q.offset ≤ k → k < q.stop → byteAt a k ≠ byteAt b k →
        q.opensInterface = true ∧ q.offset + InterfaceMessage.fixedLength ≤ k := by
      intro k hlow hhigh hdiffers
      obtain ⟨p, hp, hopens, hbehind, -⟩ := h k hlow hdiffers
      rcases List.mem_cons.mp (hrun ▸ hp) with rfl | hp
      · exact ⟨hopens, hbehind⟩
      · rw [hlater] at hp
        have := le_offset_of_mem_records hp
        omega
    have hrest : ∀ k, q.stop ≤ k → byteAt a k ≠ byteAt b k → InLink (records a q.stop) k := by
      intro k hlow hdiffers
      obtain ⟨p, hp, hlink⟩ := h k (Nat.le_trans (Nat.le_add_right _ _) hlow) hdiffers
      rcases List.mem_cons.mp (hrun ▸ hp) with rfl | hp
      · omega
      · exact ⟨p, hlater ▸ hp, hlink⟩
    obtain ⟨hreread, hstop, hdamages⟩ := hin.damages hlength hfirst
    have hother : records b q.offset = q.reread b :: records b q.stop :=
      records_eq_cons_iff.mpr ⟨rfl, hreread, by rw [hstop]⟩
    rw [hother]
    exact .cons hdamages (ih hrest hlater.symm)

theorem ownAddresses_damaged {owner : UInt16} {kind : AddressKind} {run other : List Record}
    (h : List.Forall₂ Record.Damages run other) :
    ownAddresses owner kind run = ownAddresses owner kind other := by
  induction h with
  | nil => rfl
  | @cons q r later rest hdamages _ ih =>
    have hsame : r.isInterfaceInfo = q.isInterfaceInfo := by
      rw [Record.isInterfaceInfo, Record.isInterfaceInfo, hdamages.header]
    by_cases hinfo : q.isInterfaceInfo = true
    · rw [ownAddresses_of_info hinfo, ownAddresses_of_info (hsame.trans hinfo)]
    · -- A record that is no interface message is not damaged.
      obtain rfl := hdamages.passed fun ho => hinfo (Record.isInterfaceInfo_of_opens ho)
      rw [ownAddresses_of_other hinfo, ownAddresses_of_other hinfo, ih]

/-- What is listed, with each message cut in front of its link-layer address. -/
def Listed.fixedPart (e : Listed) : Listed := { e with message := e.message.fixedPart }

/-- **Damaged runs list the same interfaces with the same addresses.** -/
theorem Listed.map_fixedPart_ofRun {run other : List Record}
    (h : List.Forall₂ Record.Damages run other) :
    (ofRun run).map (·.fixedPart) = (ofRun other).map (·.fixedPart) := by
  induction h with
  | nil => rfl
  | @cons q r later rest hdamages hlater ih =>
    by_cases ho : q.opensInterface = true
    · have hpart : (⟨r.bytes⟩ : InterfaceMessage).fixedPart =
          (⟨q.bytes⟩ : InterfaceMessage).fixedPart := congrArg InterfaceMessage.mk hdamages.fixed
      have hindex : (⟨r.bytes⟩ : InterfaceMessage).index = (⟨q.bytes⟩ : InterfaceMessage).index := by
        rw [← InterfaceMessage.index_fixedPart, hpart, InterfaceMessage.index_fixedPart]
      rw [ofRun_of_opens ho, ofRun_of_opens (hdamages.opens.trans ho), List.map_cons,
        List.map_cons, ih]
      simp only [fixedPart, hdamages.offset, hpart, hindex, ownAddresses_damaged hlater]
    · rw [ofRun_of_passed ho, ofRun_of_passed (hdamages.opens ▸ ho), ih]

/-! ### Damaged dumps -/

namespace Dump

/-- Octet `k` lies in the message of an interface, behind its fixed part. -/
def IsLinkOctet (d : Dump) (k : Nat) : Prop :=
  ∃ i ∈ d.interfaces, i.record.start + InterfaceMessage.fixedLength ≤ k ∧ k < i.record.stop

/-- `e` is as long as `d`, and differs from it in link octets of `d` at most. -/
structure DamagesLinks (d e : Dump) : Prop where
  length_eq : d.bytes.length = e.bytes.length
  isLinkOctet : ∀ k, byteAt d.bytes k ≠ byteAt e.bytes k → d.IsLinkOctet k

theorem exists_opens_of_mem_openings {data : Bytes} {run : List Record} {i : Interface}
    (h : i ∈ openings data run) :
    ∃ q ∈ run, q.opensInterface = true ∧ i.record = ⟨q.offset, q.stop⟩ := by
  induction run with
  | nil => exact absurd h List.not_mem_nil
  | cons q later ih =>
    have hbehind : i ∈ openings data later →
        ∃ p ∈ q :: later, p.opensInterface = true ∧ i.record = ⟨p.offset, p.stop⟩ := by
      intro hi
      obtain ⟨p, hp, hopens⟩ := ih hi
      exact ⟨p, List.mem_cons_of_mem q hp, hopens⟩
    by_cases ho : q.opensInterface = true
    · rw [openings, if_pos ho] at h
      rcases List.mem_cons.mp h with rfl | hi
      · exact ⟨q, List.mem_cons_self, ho, rfl⟩
      · exact hbehind hi
    · rw [openings, if_neg ho] at h
      exact hbehind h

theorem inLink_of_isLinkOctet {d : Dump} {k : Nat} (h : d.IsLinkOctet k) :
    InLink (records d.bytes 0) k := by
  obtain ⟨i, hi, hlow, hhigh⟩ := h
  rw [interfaces_eq_openings] at hi
  obtain ⟨q, hq, ho, hrecord⟩ := exists_opens_of_mem_openings hi
  rw [hrecord] at hlow hhigh
  exact ⟨q, hq, ho, hlow, hhigh⟩

end Dump

/-- **A corrupt link-layer address costs an interface its name and its hardware address,
and nothing else**: the interfaces stand where they stood, everything else that they tell
is the same, and each index leads to the same interface. -/
theorem links_damaged {d e : Dump} (h : d.DamagesLinks e) :
    d.shownWithoutLinks = e.shownWithoutLinks ∧
      ∀ index, (d.findByIndex? index).map (·.position) =
        (e.findByIndex? index).map (·.position) := by
  have hrecords := forall₂_records h.length_eq fun k _ hdiffers =>
    Dump.inLink_of_isLinkOctet (h.isLinkOctet k hdiffers)
  have hlisted := Listed.map_fixedPart_ofRun hrecords
  rw [← d.map_ofInterface, ← e.map_ofInterface, List.map_map, List.map_map,
    map_eq_map_iff_forall₂] at hlisted
  have hshown : d.shownWithoutLinks = e.shownWithoutLinks := by
    rw [Dump.shownWithoutLinks, Dump.shownWithoutLinks, Dump.shown, Dump.shown, List.map_map,
      List.map_map, map_eq_map_iff_forall₂]
    refine hlisted.imp fun i j hij => ?_
    obtain ⟨hposition, hmessage, hextract⟩ := Listed.mk.inj hij
    exact Prod.ext hposition (Interface.attributes_withoutLink_congr hmessage hextract)
  refine ⟨hshown, fun index => ?_⟩
  rw [d.position_findByIndex?, e.position_findByIndex?, hshown]

/-! ### Overwritten octets -/

/-- The octets from `i` on replaced by `patch`. -/
def overwrite (b : Bytes) (i : Nat) (patch : Bytes) : Bytes :=
  b.take i ++ (patch ++ b.drop (i + patch.length))

theorem length_overwrite {b patch : Bytes} {i : Nat} (h : i + patch.length ≤ b.length) :
    (overwrite b i patch).length = b.length := by
  simp only [overwrite, List.length_append, List.length_take, List.length_drop]
  omega

theorem byteAt_overwrite {b patch : Bytes} {i k : Nat} (h : i + patch.length ≤ b.length)
    (hout : k < i ∨ i + patch.length ≤ k) : byteAt (overwrite b i patch) k = byteAt b k := by
  have hi : (b.take i).length = i := by rw [List.length_take]; omega
  rw [overwrite]
  rcases hout with hbefore | hbehind
  · rw [byteAt_append_left (by omega), byteAt_take hbefore]
  · rw [byteAt_append_right (by omega), byteAt_append_right (by omega), byteAt_drop, hi]
    congr 1
    omega

instance (d : Dump) (k : Nat) : Decidable (d.IsLinkOctet k) := by
  unfold Dump.IsLinkOctet; infer_instance

/-- The tunnel, with a link-layer address that names another index and is too short for
the name it announces. -/
theorem links_damaged_tunnel :
    Dump.DamagesLinks ⟨Sample.tunnel⟩ ⟨overwrite Sample.tunnel 114 [20, 0, 1, 200]⟩ ∧
      Dump.shownWithoutLinks ⟨Sample.tunnel⟩ =
        Dump.shownWithoutLinks ⟨overwrite Sample.tunnel 114 [20, 0, 1, 200]⟩ ∧
      Dump.shown ⟨Sample.tunnel⟩ ≠ Dump.shown ⟨overwrite Sample.tunnel 114 [20, 0, 1, 200]⟩ := by
  have hroom : 114 + [20, 0, 1, 200].length ≤ Sample.tunnel.length := by decide +kernel
  have hlink : ∀ k < 118, 114 ≤ k → Dump.IsLinkOctet ⟨Sample.tunnel⟩ k := by decide +kernel
  have hdamages : Dump.DamagesLinks ⟨Sample.tunnel⟩
      ⟨overwrite Sample.tunnel 114 [20, 0, 1, 200]⟩ := by
    refine ⟨(length_overwrite hroom).symm, fun k hdiffers => ?_⟩
    by_contra hno
    apply hdiffers
    refine (byteAt_overwrite hroom ?_).symm
    by_contra hinside
    exact hno (hlink k (by simp at hinside; omega) (by omega))
  exact ⟨hdamages, (links_damaged hdamages).1, by decide +kernel⟩

end InterfaceDump
