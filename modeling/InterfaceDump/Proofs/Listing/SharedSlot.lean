import InterfaceDump.Proofs.Dump.Identity
import InterfaceDump.Proofs.Listing.Filters
import InterfaceDump.Proofs.Listing.InetLines
import InterfaceDump.Proofs.Message.Options
import InterfaceDump.Proofs.Message.Slots
import InterfaceDump.Proofs.Message.Templates

/-! What stands in the slot that broadcast and peer share.

An address message has one slot for both. Which of them it holds is settled by the options
of the interface, so an interface has a broadcast address or a peer, and never both. The
address comes from the first message behind the interface's own that has it in a readable
form (`Dump.FirstShared`): a slot that is a placeholder, or that cannot be read, is passed
over, and the search goes on. `shared_slot_one_meaning` says so for the interfaces of any
dump, and for the lines of their descriptions. -/
namespace InterfaceDump
open Bytes

/-! ### The first readable slot -/

/-- A current address message (type 12) of interface `index`, whose shared slot, slot 7, is
present and reads as `a`. -/
structure Record.HoldsShared (r : Record) (index : UInt32) (a : SockAddr) : Prop where
  version : byteAt r.bytes 2 = 5
  type : byteAt r.bytes 3 = 12
  fixed_le : 20 ≤ r.bytes.length
  index : (u16le r.bytes 12).toUInt32 = index
  present : (u32le r.bytes 4).toNat.testBit 7 = true
  reads : SockAddr.decode? (r.bytes.drop ((⟨r.bytes⟩ : AddressMessage).slotStart 7)) = some a

/-- The first shared slot that can be read, in the records between the message of the
interface and the next current interface message. -/
def Dump.FirstShared (d : Dump) (i : Interface) (a : SockAddr) : Prop :=
  ∃ before r later, records d.bytes i.record.stop = before ++ r :: later ∧
    (∀ q ∈ before, ¬ q.isInterfaceInfo = true ∧ ∀ b, ¬ q.HoldsShared i.index b) ∧
    r.HoldsShared i.index a

/-- The length octet of a slot that can be read is no placeholder's. -/
theorem Record.HoldsShared.two_le {r : Record} {index : UInt32} {a : SockAddr}
    (h : r.HoldsShared index a) :
    2 ≤ declaredLength (r.bytes.drop ((⟨r.bytes⟩ : AddressMessage).slotStart 7)) := by
  by_contra hshort
  have hread := h.reads
  rw [SockAddr.decode?_of_declaredLength_lt (Nat.lt_of_not_le hshort)] at hread
  contradiction

/-- What a record gives in a search for the shared slot. -/
def Record.shared? (r : Record) (owner : UInt16) : Option SockAddr :=
  (r.addressMessage? owner).bind (·.address? .broadcastOrDestination)

theorem AddressMessage.shared?_eq_some_iff {m : AddressMessage} {a : SockAddr} :
    m.address? .broadcastOrDestination = some a ↔
      m.slots.bits.toNat.testBit 7 = true ∧
        SockAddr.decode? (m.bytes.drop (m.slotStart 7)) = some a := by
  have hslot : m.slots.contains .broadcastOrDestination = m.slots.bits.toNat.testBit 7 :=
    Bool.true_and _
  rw [address?_eq, slotOctets, decodeKind?_declaredOctets, hslot, Option.ite_none_right_eq_some]
  rfl

/-- The search finds in a record what stands in its octets. -/
theorem Record.IsIn.shared?_eq_some_iff {r : Record} {data : Bytes} (h : r.IsIn data)
    {owner : UInt16} {a : SockAddr} :
    r.shared? owner = some a ↔ r.HoldsShared owner.toUInt32 a := by
  have hheader := h.header_eq
  have hcurrent : r.header.isCurrent = true ↔ byteAt r.bytes 2 = 5 := by
    rw [hheader]
    exact beq_iff_eq
  have htype : r.header.messageType = .newAddress ↔ byteAt r.bytes 3 = 12 := by
    rw [hheader]
    exact MessageType.ofCode_eq_newAddress
  constructor
  · intro hshared
    obtain ⟨m, hm, haddress⟩ := Option.bind_eq_some_iff.mp hshared
    rw [Record.addressMessage?, Option.ite_none_right_eq_some, h.addressMessage?] at hm
    obtain ⟨hversion, hm⟩ := hm
    obtain ⟨hm, hindex⟩ := Option.filter_eq_some_iff.mp hm
    obtain ⟨⟨hnew, hfixed⟩, hm⟩ := Option.ite_none_right_eq_some.mp hm
    obtain rfl := Option.some.inj hm
    obtain ⟨hpresent, hreads⟩ := AddressMessage.shared?_eq_some_iff.mp haddress
    exact ⟨hcurrent.mp hversion, htype.mp hnew, hfixed,
      congrArg UInt16.toUInt32 (eq_of_beq hindex), hpresent, hreads⟩
  · rintro ⟨hversion, hnew, hfixed, hindex, hpresent, hreads⟩
    have hm : r.addressMessage? owner = some ⟨r.bytes⟩ := by
      rw [Record.addressMessage?, if_pos (hcurrent.mpr hversion), h.addressMessage?,
        if_pos ⟨htype.mpr hnew, hfixed⟩, Option.filter_some, if_pos]
      exact beq_iff_eq.mpr (UInt16.toUInt32_inj.mp hindex)
    rw [Record.shared?, hm, Option.bind_some]
    exact AddressMessage.shared?_eq_some_iff.mpr ⟨hpresent, hreads⟩

/-- A record that holds an address is no interface message. -/
theorem Record.IsIn.not_isInterfaceInfo_of_holdsShared {r : Record} {data : Bytes}
    (h : r.IsIn data) {index : UInt32} {a : SockAddr} (hr : r.HoldsShared index a) :
    ¬ r.isInterfaceInfo = true := by
  intro hinfo
  have htype := eq_of_beq (Bool.and_eq_true_iff.mp hinfo).2
  rw [h.header_eq] at htype
  have hcode := (MessageType.ofCode_eq_interfaceInfo.mp htype).symm.trans hr.type
  exact absurd hcode (by decide)

/-- A search that ends at the first element without a property looks no further. -/
theorem findSome?_takeWhile_eq_some_iff {α β : Type} {p : α → Bool} {f : α → Option β}
    {l : List α} {y : β} : (l.takeWhile p).findSome? f = some y ↔
      ∃ before x later, l = before ++ x :: later ∧ (∀ z ∈ before, p z = true ∧ f z = none) ∧
        p x = true ∧ f x = some y := by
  rw [List.findSome?_eq_some_iff]
  constructor
  · rintro ⟨before, x, later, hfront, hx, hbefore⟩
    have hall := List.all_eq_true.mp (List.all_takeWhile (p := p) (l := l))
    rw [hfront] at hall
    refine ⟨before, x, later ++ l.dropWhile p, ?_,
      fun z hz => ⟨hall z (by simp [hz]), hbefore z hz⟩, hall x (by simp), hx⟩
    rw [← List.cons_append, ← List.append_assoc, ← hfront, List.takeWhile_append_dropWhile]
  · rintro ⟨before, x, later, rfl, hbefore, hpx, hx⟩
    refine ⟨before, x, later.takeWhile p, ?_, hx, fun z hz => (hbefore z hz).2⟩
    rw [List.takeWhile_append_of_pos fun z hz => (hbefore z hz).1, List.takeWhile_cons_of_pos hpx]

theorem Record.IsIn.shared?_eq_none_iff {r : Record} {data : Bytes} (h : r.IsIn data)
    {owner : UInt16} : r.shared? owner = none ↔ ∀ a, ¬ r.HoldsShared owner.toUInt32 a := by
  simp only [Option.eq_none_iff_forall_not_mem, Option.mem_def, h.shared?_eq_some_iff]

theorem sharedSlot?_interface {data : Bytes} {start : Nat} {r : Record} {later : List Record}
    (h : records data start = r :: later) (ho : r.opensInterface = true) :
    (r.interface data later).sharedSlot? =
      (later.takeWhile (!·.isInterfaceInfo)).findSome?
        (·.shared? (⟨r.bytes⟩ : InterfaceMessage).index) := by
  rw [Interface.sharedSlot?, extract_interface h ho, ownAddresses, List.filterMap_filterMap,
    List.head?_filterMap]
  rfl

/-- **The search for the shared slot ends at the first one that can be read.** -/
theorem Dump.Yields.sharedSlot?_eq_some_iff {d : Dump} {i : Interface} (h : d.Yields i)
    {a : SockAddr} : i.sharedSlot? = some a ↔ d.FirstShared i a := by
  obtain ⟨r, later, hrun, ho, rfl⟩ := Dump.interfaceAt?_eq_some_iff.mp h.interfaceAt?
  obtain ⟨-, -, hlater⟩ := records_eq_cons_iff.mp hrun
  have hstop : (r.interface d.bytes later).record.stop = r.stop := rfl
  have hindex : (r.interface d.bytes later).index =
      (⟨r.bytes⟩ : InterfaceMessage).index.toUInt32 := Interface.index_eq _
  rw [sharedSlot?_interface hrun ho, findSome?_takeWhile_eq_some_iff, Dump.FirstShared, hstop,
    ← hlater, hindex]
  refine exists_congr fun before => exists_congr fun q => exists_congr fun rest =>
    and_congr_right fun hsplit => ?_
  have hin : ∀ x ∈ before ++ q :: rest, x.IsIn d.bytes := fun x hx =>
    isIn_of_mem_records (hlater ▸ hsplit ▸ hx)
  have hq := hin q (List.mem_append_right _ List.mem_cons_self)
  rw [hq.shared?_eq_some_iff, Bool.not_eq_true']
  refine and_congr (forall₂_congr fun x hx => ?_) (and_iff_right_of_imp fun hholds => ?_)
  · rw [Bool.not_eq_true', Bool.not_eq_true,
      (hin x (List.mem_append_left _ hx)).shared?_eq_none_iff]
  · exact Bool.eq_false_iff.mpr (hq.not_isInterfaceInfo_of_holdsShared hholds)

/-! ### The lines -/

namespace Listing
variable {ip : Ip.V4} {peer? mask? broadcast? : Option Ip.V4}

/-- The words between the spaces of a text. -/
def words (text : String) : List String := (text.toList.splitOn ' ').map String.ofList

theorem words_inetLine (ip : Ip.V4) (peer? mask? broadcast? : Option Ip.V4) :
    words (inetLine ip peer? mask? broadcast?) = inetWords ip peer? mask? broadcast? := by
  rw [words, inetLine_eq_words, splitOn_toList_intercalate rfl (not_mem_inetWords _ _ _ _)
    (by simp [inetWords]), List.map_map]
  exact List.map_id'' (fun _ => String.ofList_toList) _

/-- What stands in front of the first space of a text is its first word. -/
theorem head?_words (word : List Char) {lead : String} (hlead : lead.toList = word ++ [' '])
    (hword : ' ' ∉ word) (rest : String) :
    (words (lead ++ rest)).head? = some (String.ofList word) := by
  have hletters : ∀ c ∈ word, (c == ' ') = false := by
    intro c hc
    exact beq_eq_false_iff_ne.mpr fun hspace => hword (hspace ▸ hc)
  rw [words, String.toList_append, hlead, List.append_assoc, List.singleton_append, List.splitOn,
    List.splitOnP_append_cons_of_forall_mem hletters ' ' rfl, List.map_cons, List.head?_cons]

theorem mem_labelWords_iff {word label : String} {ip? : Option Ip.V4}
    (h : ∀ ip : Ip.V4, word ≠ ip.text) :
    word ∈ labelWords label ip? ↔ word = label ∧ ip?.isSome = true := by
  cases ip? with
  | none => simp [labelWords]
  | some ip => simp [labelWords, h ip]

theorem arrow_mem_inetWords_iff :
    "-->" ∈ inetWords ip peer? mask? broadcast? ↔ peer?.isSome = true := by
  have hword : ∀ ip : Ip.V4, "-->" ≠ ip.text :=
    Ip.V4.text_ne (c := '>') (by decide) rfl (by decide)
  simp [inetWords, mem_labelWords_iff hword, hword]

theorem broadcast_mem_inetWords_iff :
    "broadcast" ∈ inetWords ip peer? mask? broadcast? ↔ broadcast?.isSome = true := by
  have hword : ∀ ip : Ip.V4, "broadcast" ≠ ip.text :=
    Ip.V4.text_ne (c := 'b') (by decide) rfl (by decide)
  simp [inetWords, mem_labelWords_iff hword, hword]

theorem head?_words_linkLines {i : Interface} {line : String} (h : line ∈ linkLines i) :
    (words line).head? = some "\tether" ∨ (words line).head? = some "\ttype" := by
  rw [linkLines, List.mem_append, Option.mem_toList, Option.map_eq_some_iff,
    List.mem_singleton] at h
  rcases h with ⟨hardware, -, rfl⟩ | rfl
  · exact .inl (head?_words "\tether".toList rfl (by decide) _)
  · exact .inr (head?_words "\ttype".toList rfl (by decide) _)

theorem head?_words_ipv6Line (i : Interface) (a : SocketV6) (prefixLength? : Option UInt8) :
    (words (ipv6Line i a prefixLength?)).head? = some "\tinet6" := by
  unfold ipv6Line
  rw [String.append_assoc, String.append_assoc]
  exact head?_words "\tinet6".toList rfl (by decide) _

/-- The first word of a line below the header tells the lines of IPv4 addresses from others. -/
theorem exists_ipv4Line_of_mem {i : Interface} {args : Arguments} {line : String}
    (h : line ∈ (descriptionLines i args).tail) (hword : (words line).head? = some "\tinet") :
    ∃ a, line = ipv4Line i a := by
  rw [descriptionLines_eq, List.tail_cons, kept, List.mem_map] at h
  obtain ⟨line, hline, rfl⟩ := h
  have hbody := List.mem_of_mem_filter hline
  rw [body, List.append_assoc, List.mem_append, List.mem_append, List.mem_map, List.mem_map,
    List.mem_mapIdx] at hbody
  rcases hbody with ⟨text, htext, rfl⟩ | ⟨a, -, rfl⟩ | ⟨n, _, rfl⟩
  · rcases head?_words_linkLines htext with hlink | hlink
    · exact absurd (hlink.symm.trans hword) (by decide)
    · exact absurd (hlink.symm.trans hword) (by decide)
  · exact ⟨a, rfl⟩
  · exact absurd ((head?_words_ipv6Line _ _ _).symm.trans hword) (by decide)

end Listing

/-! ### What the slot is taken for -/

namespace Interface
variable {i : Interface} {a : SockAddr}

theorem hasBroadcast_iff : i.hasBroadcast = true ↔
    i.options.bits.toNat.testBit 1 = true ∧ i.options.bits.toNat.testBit 4 = false := by
  rw [hasBroadcast, Bool.and_eq_true, Options.contains_broadcast_iff, Bool.not_eq_true',
    Bool.eq_false_iff, ne_eq, Options.isPointToPoint_iff, Bool.not_eq_true]

theorem broadcastAddress?_eq_some_iff : i.broadcastAddress? = some a ↔
    (i.options.bits.toNat.testBit 1 = true ∧ i.options.bits.toNat.testBit 4 = false) ∧
      i.sharedSlot? = some a := by
  rw [broadcastAddress?, Option.ite_none_right_eq_some, hasBroadcast_iff]

theorem destinationAddress?_eq_some_iff : i.destinationAddress? = some a ↔
    i.options.bits.toNat.testBit 4 = true ∧ i.sharedSlot? = some a := by
  rw [destinationAddress?, Option.ite_none_right_eq_some, Options.isPointToPoint_iff]

/-- The options leave room for one of the two. -/
theorem broadcastAddress?_or_destinationAddress? (i : Interface) :
    i.broadcastAddress? = none ∨ i.destinationAddress? = none := by
  cases hbroadcast : i.broadcastAddress? with
  | none => exact .inl rfl
  | some a =>
    have hoff := (broadcastAddress?_eq_some_iff.mp hbroadcast).1.2
    refine .inr (Option.eq_none_iff_forall_not_mem.mpr fun b hpeer => ?_)
    have hon := (destinationAddress?_eq_some_iff.mp hpeer).1
    rw [hoff] at hon
    contradiction

end Interface

/-- A line has the word for a peer only if there is a peer, and the word for a broadcast address
only if there is one. -/
theorem Listing.labels_ipv4Line (i : Interface) (a : SocketV4) :
    ("-->" ∈ words (ipv4Line i a) → i.destinationAddress? ≠ none) ∧
      ("broadcast" ∈ words (ipv4Line i a) → i.broadcastAddress? ≠ none) := by
  have hwords : words (ipv4Line i a) = inetWords a.ip
      ((i.destinationAddress?.bind (·.v4?)).map (·.ip)) i.ipv4Netmask?
      ((i.broadcastAddress?.bind (·.v4?)).map (·.ip)) := words_inetLine _ _ _ _
  rw [hwords, arrow_mem_inetWords_iff, broadcast_mem_inetWords_iff]
  constructor
  · intro hpeer hnone
    rw [hnone] at hpeer
    contradiction
  · intro hbroadcast hnone
    rw [hnone] at hbroadcast
    contradiction

/-- What the shared slot means on an interface of a dump. Bit 1 of the options is BROADCAST,
bit 4 is POINTOPOINT. -/
structure SharesSlot (d : Dump) (i : Interface) : Prop where
  broadcast : ∀ a, i.broadcastAddress? = some a ↔
    (i.options.bits.toNat.testBit 1 = true ∧ i.options.bits.toNat.testBit 4 = false) ∧
      d.FirstShared i a
  destination : ∀ a, i.destinationAddress? = some a ↔
    i.options.bits.toNat.testBit 4 = true ∧ d.FirstShared i a
  /-- There is at most one first slot. -/
  unique : ∀ a b, d.FirstShared i a → d.FirstShared i b → a = b
  /-- A slot that declares less than its two leading octets is not the first one. -/
  placeholder : ∀ r a, Record.HoldsShared r i.index a →
    2 ≤ declaredLength (r.bytes.drop ((⟨r.bytes⟩ : AddressMessage).slotStart 7))
  exclusive : i.broadcastAddress? = none ∨ i.destinationAddress? = none
  /-- Below the header of a description, no line of an IPv4 address has the words for both. -/
  lines : ∀ args, ∀ line ∈ (Listing.descriptionLines i args).tail,
    (Listing.words line).head? = some "\tinet" →
      ¬ ("-->" ∈ Listing.words line ∧ "broadcast" ∈ Listing.words line)

/-- **The shared slot has one meaning on an interface**, that of its options, and one value,
that of the first slot that can be read. -/
theorem shared_slot_one_meaning {d : Dump} {i : Interface} (h : d.Yields i) : SharesSlot d i where
  broadcast a := by
    rw [Interface.broadcastAddress?_eq_some_iff, h.sharedSlot?_eq_some_iff]
  destination a := by
    rw [Interface.destinationAddress?_eq_some_iff, h.sharedSlot?_eq_some_iff]
  unique a b ha hb := by
    have hsame := (h.sharedSlot?_eq_some_iff.mpr ha).symm.trans (h.sharedSlot?_eq_some_iff.mpr hb)
    exact Option.some.inj hsame
  placeholder r a hr := hr.two_le
  exclusive := i.broadcastAddress?_or_destinationAddress?
  lines args line hline hword hboth := by
    obtain ⟨a, rfl⟩ := Listing.exists_ipv4Line_of_mem hline hword
    obtain ⟨hpeer, hbroadcast⟩ := Listing.labels_ipv4Line i a
    rcases i.broadcastAddress?_or_destinationAddress? with hnone | hnone
    · exact hbroadcast hboth.2 hnone
    · exact hpeer hboth.1 hnone

/-- An address message whose shared slot is filled with these octets. -/
def Sample.sharing (index : UInt16) (version : UInt8) (raw : Bytes) : AddressTemplate :=
  ({ index := index, version := version } : AddressTemplate).set
    AddressKind.broadcastOrDestination.slot raw

/-- An interface with a placeholder and an unreadable slot, and with messages of another
interface and another version, in front of the slot that counts and a later one. -/
def Sample.sharedSlots (options : Options) : Bytes :=
  ({ index := 4, name := "en0", options := options, interfaceType := 6 } :
    InterfaceTemplate).encode ++
  (Sample.sharing 4 5 []).encode ++ (Sample.sharing 4 5 [20, 2, 0, 0, 10, 0, 0, 1]).encode ++
  (Sample.sharing 5 5 [8, 2, 0, 0, 10, 0, 0, 2]).encode ++
  (Sample.sharing 4 4 [8, 2, 0, 0, 10, 0, 0, 3]).encode ++
  (Sample.sharing 4 5 [8, 2, 0, 0, 10, 255, 255, 255]).encode ++
  (Sample.sharing 4 5 [8, 2, 0, 0, 10, 0, 0, 5]).encode

theorem Sample.firstShared_sharedSlots (options : Options) (a : SockAddr)
    (h : (Dump.mk (Sample.sharedSlots options)).interfaces.map
      (fun i => (i.options, i.sharedSlot?)) = [(options, some a)]) :
    ∃ i, Dump.Yields ⟨Sample.sharedSlots options⟩ i ∧ i.options = options ∧
      Dump.FirstShared ⟨Sample.sharedSlots options⟩ i a := by
  obtain ⟨i, rest, hlist, hi, -⟩ := List.map_eq_cons_iff.mp h
  obtain ⟨hoptions, hslot⟩ := Prod.mk.inj hi
  have hyields : Dump.Yields ⟨Sample.sharedSlots options⟩ i := .inl (hlist ▸ List.mem_cons_self)
  exact ⟨i, hyields, hoptions, hyields.sharedSlot?_eq_some_iff.mp hslot⟩

/-- The same slot is a broadcast address, or a peer even where BROADCAST is set as well. -/
theorem shared_slot_one_meaning_crowded :
    (∃ i, Dump.Yields ⟨Sample.sharedSlots (Options.up.union Options.broadcast)⟩ i ∧
      i.broadcastAddress? = some (.v4 ⟨⟨[10, 255, 255, 255], rfl⟩, 0⟩) ∧
      i.destinationAddress? = none) ∧
    (∃ i, Dump.Yields ⟨Sample.sharedSlots (Options.pointToPoint.union Options.broadcast)⟩ i ∧
      i.destinationAddress? = some (.v4 ⟨⟨[10, 255, 255, 255], rfl⟩, 0⟩) ∧
      i.broadcastAddress? = none) := by
  constructor
  · obtain ⟨i, hyields, hoptions, hfirst⟩ := Sample.firstShared_sharedSlots
      (Options.up.union Options.broadcast) (.v4 ⟨⟨[10, 255, 255, 255], rfl⟩, 0⟩)
      (by decide +kernel)
    have hshares := shared_slot_one_meaning hyields
    have hfound := (hshares.broadcast _).mpr ⟨by rw [hoptions]; decide, hfirst⟩
    exact ⟨i, hyields, hfound, hshares.exclusive.resolve_left (by rw [hfound]; exact nofun)⟩
  · obtain ⟨i, hyields, hoptions, hfirst⟩ := Sample.firstShared_sharedSlots
      (Options.pointToPoint.union Options.broadcast) (.v4 ⟨⟨[10, 255, 255, 255], rfl⟩, 0⟩)
      (by decide +kernel)
    have hshares := shared_slot_one_meaning hyields
    have hfound := (hshares.destination _).mpr ⟨by rw [hoptions]; decide, hfirst⟩
    exact ⟨i, hyields, hfound, hshares.exclusive.resolve_right (by rw [hfound]; exact nofun)⟩

end InterfaceDump
