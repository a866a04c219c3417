import InterfaceDump.Message.Sample
import InterfaceDump.Proofs.Checked.Walk
import InterfaceDump.Proofs.Dump.Attributes

/-! Interfaces and dumps, with operations that can fail.

Every accessor of an interface reads the dump again, and every search walks it again.
`Held` is what a view of an interface brings along: its message was accepted, and it
ends inside a dump that the machine can hold. `no_fault` puts everything together:
whatever the octets, the offsets and the addresses, no operation fails, and the fields
of accepted messages are what stands in their octets. -/
namespace InterfaceDump
open Bytes

namespace Checked
variable (M : Machine)

/-! ### What an interface is asked -/

def link (i : Interface) : Checked (Option LinkAddress) := do
  match ← linkAddress M i.message with
  | none =>
    let _ ← index M i.message.bytes
    pure none
  | some link => pure (some link)

def interfaceIndex (i : Interface) : Checked UInt32 := do
  let link ← link M i
  let own ← index M i.message.bytes
  pure ((link.map (·.index.toUInt32)).getD own.toUInt32)

def name (i : Interface) : Checked String := do
  pure (((← link M i).map (·.name)).getD "")

def hardware (i : Interface) : Checked (Option Bytes) := do
  pure (((← link M i).map (·.hardware)).filter (!·.isEmpty))

def isEthernetCompatible (i : Interface) : Checked Bool := do
  pure ((← link M i).any (·.isEthernet))

def extractFor (i : Interface) (kind : AddressKind) : Checked (List SockAddr) := do
  let stop ← M.add i.start i.message.bytes.length
  extract M i.data kind ⟨i.start, stop⟩ i.stop

def ipv6Netmasks (i : Interface) : Checked (List Ip.V6) := do
  pure (((← extractFor M i .netmask).filterMap (·.v6?)).map (·.ip))

def prefixLengths (i : Interface) : Checked (List UInt8) := do
  (← ipv6Netmasks M i).mapM fun mask => prefixOctet mask.octets

def sharedSlot (i : Interface) : Checked (Option SockAddr) := do
  pure (← extractFor M i .broadcastOrDestination).head?

def broadcastAddress (i : Interface) : Checked (Option SockAddr) := do
  let options ← options M i.message
  if !options.contains Options.broadcast || options.isPointToPoint then pure none
  else sharedSlot M i

def destinationAddress (i : Interface) : Checked (Option SockAddr) := do
  if !(← options M i.message).isPointToPoint then pure none else sharedSlot M i

def profile (i : Interface) : Checked Profile := do
  pure
    { index := ← interfaceIndex M i
      name := ← name M i
      interfaceType := (← linkData M i.message).interfaceType
      options := ← options M i.message
      linkData := ← linkData M i.message
      mtu := (← linkData M i.message).mtu
      metric := (← linkData M i.message).metric
      baudRate := (← linkData M i.message).baudRate
      physicalPort := (← linkData M i.message).physical
      statistics := (← linkData M i.message).statistics
      hardware := ← hardware M i
      isEthernetCompatible := ← isEthernetCompatible M i }

def attributes (i : Interface) : Checked Attributes := do
  pure
    { toProfile := ← profile M i
      addresses := ← extractFor M i .address
      ipv4Addresses := (← extractFor M i .address).filterMap (·.v4?)
      ipv6Addresses := (← extractFor M i .address).filterMap (·.v6?)
      netmasks := ← extractFor M i .netmask
      ipv4Netmask := ((← extractFor M i .netmask).findSome? (·.v4?)).map (·.ip)
      ipv6Netmasks := ← ipv6Netmasks M i
      ipv6PrefixLengths := ← prefixLengths M i
      sharedSlots := ← extractFor M i .broadcastOrDestination
      broadcastAddress := ← broadcastAddress M i
      destinationAddress := ← destinationAddress M i }

/-- What the accessors count on: an accepted message that ends inside a dump in memory. -/
structure Held (i : Interface) : Prop where
  accepted : Accepted i.message
  stop_le : i.start + i.message.bytes.length ≤ i.data.length
  fits : i.data.length ≤ M.largest

section
variable {M} {i : Interface}

theorem link_eq (h : Held M i) : link M i = .ok i.link? := by
  rw [link, linkAddress_eq M h.accepted, ok_bind, Interface.link?]
  cases i.message.linkAddress? with
  | none =>
    simp only [index_message_eq M h.accepted, ok_bind]
    rfl
  | some link => rfl

theorem interfaceIndex_eq (h : Held M i) : interfaceIndex M i = .ok i.index := by
  rw [interfaceIndex, link_eq h, ok_bind, index_message_eq M h.accepted, ok_bind, Interface.index]
  cases i.link? <;> rfl

theorem name_eq (h : Held M i) : name M i = .ok i.name := by
  rw [name, link_eq h, ok_bind, Interface.name]
  cases i.link? <;> rfl

theorem extractFor_eq (h : Held M i) (kind : AddressKind) :
    extractFor M i kind = .ok (i.extract kind) := by
  rw [extractFor, M.add_eq (Nat.le_trans h.stop_le h.fits), ok_bind, extract_eq M h.fits]
  rfl

theorem ipv6Netmasks_eq (h : Held M i) : ipv6Netmasks M i = .ok i.ipv6Netmasks := by
  rw [ipv6Netmasks, extractFor_eq h]
  rfl

/-- An address has 128 bits, so a prefix length fits an octet. -/
theorem prefixLengths_eq (h : Held M i) : prefixLengths M i = .ok i.ipv6PrefixLengths := by
  rw [prefixLengths, ipv6Netmasks_eq h, ok_bind, Interface.ipv6PrefixLengths]
  induction i.ipv6Netmasks with
  | nil => rfl
  | cons mask rest ih =>
    rw [List.mapM_cons, prefixOctet_eq, ok_bind, ih]
    rfl

theorem sharedSlot_eq (h : Held M i) : sharedSlot M i = .ok i.sharedSlot? := by
  rw [sharedSlot, extractFor_eq h]
  rfl

theorem broadcastAddress_eq (h : Held M i) : broadcastAddress M i = .ok i.broadcastAddress? := by
  rw [broadcastAddress, options_eq M h.accepted, ok_bind, sharedSlot_eq h,
    Interface.broadcastAddress?, Interface.hasBroadcast, Interface.options]
  cases i.message.options.contains Options.broadcast <;>
    cases i.message.options.isPointToPoint <;> rfl

theorem destinationAddress_eq (h : Held M i) :
    destinationAddress M i = .ok i.destinationAddress? := by
  rw [destinationAddress, options_eq M h.accepted, ok_bind, sharedSlot_eq h,
    Interface.destinationAddress?, Interface.options]
  cases i.message.options.isPointToPoint <;> rfl

theorem profile_eq (h : Held M i) : profile M i = .ok i.profile := by
  have hhardware : hardware M i = .ok i.hardware? := by
    rw [hardware, link_eq h]
    rfl
  have hethernet : isEthernetCompatible M i = .ok i.isEthernetCompatible := by
    rw [isEthernetCompatible, link_eq h]
    rfl
  simp only [profile, interfaceIndex_eq h, name_eq h, linkData_eq M h.accepted,
    options_eq M h.accepted, hhardware, hethernet, ok_bind]
  rfl

/-- **No accessor of an interface fails.** -/
theorem attributes_eq (h : Held M i) : attributes M i = .ok i.attributes := by
  simp only [attributes, profile_eq h, extractFor_eq h, ipv6Netmasks_eq h, prefixLengths_eq h,
    broadcastAddress_eq h, destinationAddress_eq h, ok_bind]
  rfl

end

/-! ### Positions -/

def startPosition (d : Dump) : Checked Nat := nextBoundary M d.bytes 0

def positionAfter (d : Dump) (position : Nat) : Checked Nat := do
  match ← interfaceRecord M d.bytes position with
  | some record => nextBoundary M d.bytes record.stop
  | none => pure d.endPosition

def interfaceAt (d : Dump) (position : Nat) : Checked (Option Interface) := do
  if (← nextBoundary M d.bytes position) ≠ position then pure none
  else
    match slice? d.bytes position d.bytes.length with
    | none => pure none
    | some rest =>
      match ← interfaceMessage M rest with
      | none => pure none
      | some m =>
        let stop ← nextBoundary M d.bytes (← M.add position m.bytes.length)
        pure (some ⟨d.bytes, m, position, stop⟩)

section
variable {M} {d : Dump} (hfits : d.bytes.length ≤ M.largest)
include hfits

theorem positionAfter_eq (position : Nat) :
    positionAfter M d position = .ok (d.positionAfter position) := by
  rw [positionAfter, interfaceRecord_eq M hfits, ok_bind, Dump.positionAfter]
  cases interfaceRecord? d.bytes position with
  | none => rfl
  | some record => exact nextBoundary_eq M hfits record.stop

theorem interfaceAt_eq (position : Nat) :
    interfaceAt M d position = .ok (d.interfaceAt? position) := by
  rw [interfaceAt, nextBoundary_eq M hfits, ok_bind, Dump.interfaceAt?]
  by_cases hboundary : InterfaceDump.nextBoundary d.bytes position = position
  · have hstart : position ≤ d.bytes.length := hboundary ▸ nextBoundary_le d.bytes position
    rw [if_neg (not_not_intro hboundary), if_pos hboundary, slice?_from_eq, if_pos hstart]
    simp only [interfaceMessage_eq, ok_bind]
    cases hm : InterfaceMessage.parse? (d.bytes.drop position) with
    | none => rfl
    | some m =>
      have hlength := (InterfaceMessage.length_of_parse? hm).2
      rw [List.length_drop] at hlength
      simp only [M.add_eq (show position + m.bytes.length ≤ M.largest by omega), ok_bind,
        nextBoundary_eq M hfits]
      rfl
  · rw [if_pos hboundary, if_neg hboundary]
    rfl

theorem held_of_interfaceAt? {position : Nat} {i : Interface}
    (h : d.interfaceAt? position = some i) : Held M i := by
  obtain ⟨r, later, hrun, ho, rfl⟩ := Dump.interfaceAt?_eq_some_iff.mp h
  obtain ⟨-, hin, -⟩ := records_eq_cons_iff.mp hrun
  exact ⟨accepted_of_parse? (hin.interfaceMessage?_of_opens ho).1, hin.stop_le, hfits⟩

end

/-! ### Walks over interfaces -/

def nextInterface (d : Dump) (position : Nat) : Checked (Option (Interface × Nat)) := do
  match ← interfaceAt M d position with
  | none => pure none
  | some i => pure (some (i, i.stop))

/-- A loop over the interfaces of a dump. -/
def forInterfaces {β : Type} (d : Dump) (body : Interface → β → Checked (ForInStep β)) (acc : β) :
    Checked β := do
  loop (nextInterface M d) (d.endPosition - ·) body (← startPosition M d) acc

def findByIndex (d : Dump) (wanted : UInt32) : Checked (Option Interface) :=
  forInterfaces M d (fun i found => do
    if (← interfaceIndex M i) == wanted then pure (.done (some i)) else pure (.yield found)) none

def findByName (d : Dump) (wanted : String) : Checked (Option Interface) :=
  forInterfaces M d (fun i found => do
    if (← name M i) == wanted then pure (.done (some i)) else pure (.yield found)) none

def multicastCapable (d : Dump) : Checked (List Interface) :=
  forInterfaces M d (fun i found => do
    if (← options M i.message).contains Dump.multicastOptions then pure (.yield (found ++ [i]))
    else pure (.yield found)) []

/-- Every interface asked for everything. -/
def shown (d : Dump) : Checked (List (Nat × Attributes)) :=
  forInterfaces M d (fun i found => do
    let attributes ← attributes M i
    pure (.yield (found ++ [(i.start, attributes)]))) []

section
variable {M} {d : Dump} (hfits : d.bytes.length ≤ M.largest)
include hfits

theorem gives_interfaces (position : Nat) :
    Gives (nextInterface M d) (d.endPosition - ·) position (d.interfacesFrom position) := by
  fun_induction Dump.interfacesFrom d position with
  | case1 position i hi ih =>
    refine Gives.cons (t := i.stop) ?_ ?_ ih
    · rw [nextInterface, interfaceAt_eq hfits, ok_bind, hi]
      rfl
    · have hbounds := Dump.interfaceAt?_bounds hi
      rw [InterfaceMessage.fixedLength] at hbounds
      omega
  | case2 position hnone =>
    apply Gives.nil
    rw [nextInterface, interfaceAt_eq hfits, ok_bind, hnone]
    rfl

/-- **A loop over the interfaces is a loop over their list**, if its body has no fault. -/
theorem forInterfaces_eq {β : Type} {body : Interface → β → Checked (ForInStep β)}
    {step : Interface → β → ForInStep β} {acc : β}
    (hbody : ∀ i, Held M i → ∀ acc, body i acc = .ok (step i acc)) :
    forInterfaces M d body acc = .ok (runUntil step d.interfaces acc) := by
  have hgives := gives_interfaces hfits d.startPosition
  rw [← List.map_id (d.interfacesFrom d.startPosition)] at hgives
  rw [forInterfaces, startPosition, nextBoundary_eq M hfits, ok_bind]
  refine loop_eq hgives fun i hi acc => hbody i ?_ acc
  exact held_of_interfaceAt? hfits (Dump.interfaceAt?_of_mem_interfacesFrom hi)

theorem findByIndex_eq (wanted : UInt32) :
    findByIndex M d wanted = .ok (d.findByIndex? wanted) := by
  have hfind := runUntil_find (fun i : Interface => i.index == wanted) id d.interfaces
  rw [Option.map_id, id_eq] at hfind
  rw [findByIndex, Dump.findByIndex?, ← hfind]
  apply forInterfaces_eq hfits
  intro i hi found
  rw [interfaceIndex_eq hi, ok_bind]
  split <;> rfl

theorem findByName_eq (wanted : String) :
    findByName M d wanted = .ok (d.findByName? wanted) := by
  have hfind := runUntil_find (fun i : Interface => i.name == wanted) id d.interfaces
  rw [Option.map_id, id_eq] at hfind
  rw [findByName, Dump.findByName?, ← hfind]
  apply forInterfaces_eq hfits
  intro i hi found
  rw [name_eq hi, ok_bind]
  split <;> rfl

theorem multicastCapable_eq : multicastCapable M d = .ok d.multicastCapable := by
  have hfilter := runUntil_filterMap
    (Option.guard fun i : Interface => i.options.contains Dump.multicastOptions) d.interfaces []
  rw [List.filterMap_eq_filter, List.nil_append] at hfilter
  rw [multicastCapable, Dump.multicastCapable, ← hfilter]
  apply forInterfaces_eq hfits
  intro i hi found
  rw [options_eq M hi.accepted, ok_bind, Option.guard, Interface.options]
  split
  · rfl
  · rw [Option.toList_none, List.append_nil]
    rfl

theorem shown_eq : shown M d = .ok d.shown := by
  have hmap := runUntil_filterMap (some ∘ fun i : Interface => (i.position, i.attributes))
    d.interfaces []
  rw [List.filterMap_eq_map, List.nil_append] at hmap
  rw [shown, Dump.shown, ← hmap]
  apply forInterfaces_eq hfits
  intro i hi found
  rw [attributes_eq hi]
  rfl

end

/-! ### No fault -/

/-- What comes of reading an address from any octets, in one form or in the form that its
family names, or as a mask. -/
structure ReadsAddress (raw : Bytes) : Prop where
  v4 : decodeForm SocketV4.form readV4 raw = .ok (SocketV4.form.decode? raw)
  v6 : decodeForm SocketV6.form readV6 raw = .ok (SocketV6.form.decode? raw)
  link : decodeForm LinkAddress.form (readLink M) raw = .ok (LinkAddress.form.decode? raw)
  other : decodeForm OpaqueAddress.form readOpaque raw = .ok (OpaqueAddress.form.decode? raw)
  any : decode M raw = .ok (SockAddr.decode? raw)
  mask : decodeNetmask M raw = .ok (SockAddr.decodeNetmask? raw)

/-- What comes of the accessors of an interface message, and what its fields are. -/
structure ReadsInterfaceMessage (m : InterfaceMessage) : Prop where
  version : version m = .ok m.version
  slots : slots M m.bytes = .ok m.slots
  options : options M m = .ok m.options
  index : index M m.bytes = .ok m.index
  linkData : linkData M m = .ok m.linkData
  linkAddress : linkAddress M m = .ok m.linkAddress?
  fields : ∀ f ∈ m.fields, f.StandsIn m.bytes

/-- What comes of the accessors of an address message, and what its fields are. -/
structure ReadsAddressMessage (m : AddressMessage) : Prop where
  slots : slots M m.bytes = .ok m.slots
  flags : flags M m = .ok m.flags
  index : index M m.bytes = .ok m.index
  metric : metric M m = .ok m.metric
  address : ∀ kind, address M m kind = .ok (m.address? kind)
  fields : ∀ f ∈ m.fields, f.StandsIn m.bytes

/-- What comes of every walk over a dump, from any offset and with any range. -/
structure WalksDump (d : Dump) : Prop where
  nextRecord : ∀ offset, nextRecord M ⟨d.bytes, offset⟩ =
    .ok ((Reader.mk d.bytes offset).next.1.map seen, (Reader.mk d.bytes offset).next.2)
  nextBoundary : ∀ start, nextBoundary M d.bytes start =
    .ok (InterfaceDump.nextBoundary d.bytes start)
  interfaceRecord : ∀ boundary, interfaceRecord M d.bytes boundary =
    .ok (interfaceRecord? d.bytes boundary)
  extract : ∀ kind record limit, extract M d.bytes kind record limit =
    .ok (extractAddresses d.bytes kind record limit)
  startPosition : startPosition M d = .ok d.startPosition
  positionAfter : ∀ position, positionAfter M d position = .ok (d.positionAfter position)
  interfaceAt : ∀ position, interfaceAt M d position = .ok (d.interfaceAt? position)
  attributes : ∀ position, ∀ i ∈ d.interfaceAt? position, attributes M i = .ok i.attributes
  shown : shown M d = .ok d.shown
  findByIndex : ∀ wanted, findByIndex M d wanted = .ok (d.findByIndex? wanted)
  findByName : ∀ wanted, findByName M d wanted = .ok (d.findByName? wanted)
  multicastCapable : multicastCapable M d = .ok d.multicastCapable

theorem readsAddress (raw : Bytes) : ReadsAddress M raw where
  v4 := decodeForm_eq (fun wire _ => readV4_eq wire) raw
  v6 := decodeForm_eq (fun wire _ => readV6_eq wire) raw
  link := decodeForm_eq (fun wire _ => readLink_eq M wire) raw
  other := decodeForm_eq (fun _ => readOpaque_eq) raw
  any := decode_eq M raw
  mask := decodeNetmask_eq M raw

theorem readsInterfaceMessage {raw : Bytes} {m : InterfaceMessage}
    (h : InterfaceMessage.parse? raw = some m) : ReadsInterfaceMessage M m where
  version := version_eq (accepted_of_parse? h)
  slots := slots_message_eq M (accepted_of_parse? h)
  options := options_eq M (accepted_of_parse? h)
  index := index_message_eq M (accepted_of_parse? h)
  linkData := linkData_eq M (accepted_of_parse? h)
  linkAddress := linkAddress_eq M (accepted_of_parse? h)
  fields := InterfaceMessage.fields_standIn h

theorem readsAddressMessage {raw : Bytes} {m : AddressMessage}
    (h : AddressMessage.parse? raw = some m) : ReadsAddressMessage M m := by
  have hlength := AddressMessage.length_of_parse? h
  rw [AddressMessage.fixedLength] at hlength
  exact {
    slots := slots_eq M (by omega)
    flags := flags_eq M hlength
    index := index_eq M (by omega)
    metric := metric_eq M hlength
    address := address_eq M hlength
    fields := AddressMessage.fields_standIn h }

theorem walksDump (b : M.Buffer) : WalksDump M ⟨b.bytes⟩ where
  nextRecord := fun offset => nextRecord_eq M (r := ⟨b.bytes, offset⟩) b.fits
  nextBoundary := nextBoundary_eq M b.fits
  interfaceRecord := interfaceRecord_eq M b.fits
  extract := extract_eq M b.fits
  startPosition := nextBoundary_eq M b.fits 0
  positionAfter := positionAfter_eq (d := ⟨b.bytes⟩) b.fits
  interfaceAt := interfaceAt_eq (d := ⟨b.bytes⟩) b.fits
  attributes := fun _ _ hi => attributes_eq (held_of_interfaceAt? (d := ⟨b.bytes⟩) b.fits hi)
  shown := shown_eq (d := ⟨b.bytes⟩) b.fits
  findByIndex := findByIndex_eq (d := ⟨b.bytes⟩) b.fits
  findByName := findByName_eq (d := ⟨b.bytes⟩) b.fits
  multicastCapable := multicastCapable_eq (d := ⟨b.bytes⟩) b.fits

/-- **Nothing that is read or written meets a fault**, on any machine: not an address, from
or to any octets, not a message, and not a walk over a dump. The fields of a message that
is accepted are the numbers in its octets, so no default ever stands in for one. -/
theorem no_fault :
    (∀ raw, ReadsAddress M raw) ∧
      (∀ a, encode M a = .ok a.encode) ∧
      (∀ raw, interfaceMessage M raw = .ok (InterfaceMessage.parse? raw) ∧
        ∀ m ∈ InterfaceMessage.parse? raw, ReadsInterfaceMessage M m) ∧
      (∀ raw, addressMessage M raw = .ok (AddressMessage.parse? raw) ∧
        ∀ m ∈ AddressMessage.parse? raw, ReadsAddressMessage M m) ∧
      ∀ b : M.Buffer, WalksDump M ⟨b.bytes⟩ :=
  ⟨readsAddress M, encode_eq M,
    fun raw => ⟨interfaceMessage_eq M raw, fun _ hm => readsInterfaceMessage M hm⟩,
    fun raw => ⟨addressMessage_eq M raw, fun _ hm => readsAddressMessage M hm⟩, walksDump M⟩

/-- The captured dump, its interface message and the message of its global address, on the
smallest machine. -/
theorem no_fault_tunnel :
    (InterfaceMessage.parse? Sample.tunnel = some ⟨Sample.tunnelInterface⟩ ∧
        ReadsInterfaceMessage .smallest ⟨Sample.tunnelInterface⟩) ∧
      (AddressMessage.parse? Sample.tunnelGlobal = some ⟨Sample.tunnelGlobal⟩ ∧
        ReadsAddressMessage .smallest ⟨Sample.tunnelGlobal⟩) ∧
      (Sample.tunnel.length ≤ Machine.smallest.largest ∧ WalksDump .smallest ⟨Sample.tunnel⟩) := by
  obtain ⟨-, -, hinterfaces, haddresses, hdumps⟩ := no_fault .smallest
  have hinterface : InterfaceMessage.parse? Sample.tunnel = some ⟨Sample.tunnelInterface⟩ := by
    decide +kernel
  have haddress : AddressMessage.parse? Sample.tunnelGlobal = some ⟨Sample.tunnelGlobal⟩ := by
    decide +kernel
  have hfits : Sample.tunnel.length ≤ Machine.smallest.largest := by decide +kernel
  exact ⟨⟨hinterface, (hinterfaces Sample.tunnel).2 _ hinterface⟩,
    ⟨haddress, (haddresses Sample.tunnelGlobal).2 _ haddress⟩,
    ⟨hfits, hdumps ⟨Sample.tunnel, hfits⟩⟩⟩

end Checked

end InterfaceDump
