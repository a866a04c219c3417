import InterfaceDump.Proofs.Dump.Sweep
import InterfaceDump.Proofs.Record.Moved
import Mathlib.Data.List.Forall2

/-! What can be asked of an interface.

`Interface.attributes` are the answers to all questions about an interface but the
one where it stands. They come from two places: its own message, which settles its
`profile`, and the addresses that are extracted for it (`attributes_congr`). So two
dumps show the same interfaces as soon as they list the same messages with the same
addresses (`map_attributes`), and that list is read off the records
(`Dump.map_ofInterface`), wherever they stand (`Listed.ofRun_relocate`). -/
namespace InterfaceDump

/-! ### Questions and answers -/

/-- What the interface's own message says of it. -/
structure Profile where
  index : UInt32
  name : String
  interfaceType : InterfaceType
  options : Options
  linkData : LinkData
  mtu : UInt32
  metric : UInt32
  baudRate : UInt32
  physicalPort : UInt8
  statistics : LinkStatistics
  hardware : Option Bytes
  isEthernetCompatible : Bool
deriving DecidableEq

/-- All that can be asked of an interface but its position. -/
structure Attributes extends Profile where
  addresses : List SockAddr
  ipv4Addresses : List SocketV4
  ipv6Addresses : List SocketV6
  netmasks : List SockAddr
  ipv4Netmask : Option Ip.V4
  ipv6Netmasks : List Ip.V6
  ipv6PrefixLengths : List UInt8
  /-- What stands in the slot that broadcast and destination addresses share. -/
  sharedSlots : List SockAddr
  broadcastAddress : Option SockAddr
  destinationAddress : Option SockAddr
deriving DecidableEq

namespace Interface

def profile (i : Interface) : Profile where
  index := i.index
  name := i.name
  interfaceType := i.interfaceType
  options := i.options
  linkData := i.message.linkData
  mtu := i.mtu
  metric := i.metric
  baudRate := i.baudRate
  physicalPort := i.physicalPort
  statistics := i.statistics
  hardware := i.hardware?
  isEthernetCompatible := i.isEthernetCompatible

def attributes (i : Interface) : Attributes where
  toProfile := i.profile
  addresses := i.addresses
  ipv4Addresses := i.ipv4Addresses
  ipv6Addresses := i.ipv6Addresses
  netmasks := i.extract .netmask
  ipv4Netmask := i.ipv4Netmask?
  ipv6Netmasks := i.ipv6Netmasks
  ipv6PrefixLengths := i.ipv6PrefixLengths
  sharedSlots := i.extract .broadcastOrDestination
  broadcastAddress := i.broadcastAddress?
  destinationAddress := i.destinationAddress?

theorem profile_congr {i j : Interface} (h : i.message = j.message) : i.profile = j.profile := by
  obtain ⟨data, message, start, stop⟩ := i
  obtain rfl : message = j.message := h
  rfl

/-- Apart from the profile, the answers come from the options and the addresses. -/
theorem attributes_eq_of_extract {i j : Interface} (hoptions : i.options = j.options)
    (hextract : i.extract = j.extract) :
    i.attributes = { j.attributes with toProfile := i.profile } := by
  have hslot : i.sharedSlot? = j.sharedSlot? := by rw [sharedSlot?, hextract, sharedSlot?]
  have hbroadcast : i.broadcastAddress? = j.broadcastAddress? := by
    rw [broadcastAddress?, broadcastAddress?, hasBroadcast, hasBroadcast, hoptions, hslot]
  have hdestination : i.destinationAddress? = j.destinationAddress? := by
    rw [destinationAddress?, destinationAddress?, hoptions, hslot]
  simp only [attributes, addresses, ipv4Addresses, ipv6Addresses, ipv4Netmask?,
    ipv6Netmasks, ipv6PrefixLengths, hextract, hbroadcast, hdestination]

theorem attributes_congr {i j : Interface} (hmessage : i.message = j.message)
    (hextract : i.extract = j.extract) : i.attributes = j.attributes := by
  have hoptions : i.options = j.options := congrArg InterfaceMessage.options hmessage
  rw [attributes_eq_of_extract hoptions hextract, profile_congr hmessage]
  rfl

end Interface

/-- All that a dump tells of its interfaces: where each one stands, and the answers. -/
def Dump.shown (d : Dump) : List (Nat × Attributes) :=
  d.interfaces.map fun i => (i.position, i.attributes)

/-! ### Listed interfaces -/

namespace Listed

/-- The interfaces that a run of records opens, each with its addresses. -/
def ofRun : List Record → List Listed
  | [] => []
  | r :: later =>
    if r.opensInterface then
      ⟨r.offset, ⟨r.bytes⟩, fun kind =>
        ownAddresses (⟨r.bytes⟩ : InterfaceMessage).index kind later⟩ :: ofRun later
    else ofRun later

def relocate (f : Nat → Nat) (e : Listed) : Listed := { e with position := f e.position }

theorem ofRun_of_opens {r : Record} {later : List Record} (ho : r.opensInterface = true) :
    ofRun (r :: later) = ⟨r.offset, ⟨r.bytes⟩, fun kind =>
      ownAddresses (⟨r.bytes⟩ : InterfaceMessage).index kind later⟩ :: ofRun later := by
  rw [ofRun, if_pos ho]

theorem ofRun_of_passed {r : Record} {later : List Record} (ho : ¬ r.opensInterface = true) :
    ofRun (r :: later) = ofRun later := by
  rw [ofRun, if_neg ho]

theorem ofRun_eq_nil {run : List Record} (h : ∀ r ∈ run, ¬ r.opensInterface = true) :
    ofRun run = [] := by
  induction run with
  | nil => rfl
  | cons r later ih =>
    rw [ofRun_of_passed (h r List.mem_cons_self)]
    exact ih fun q hq => h q (List.mem_cons_of_mem r hq)

end Listed

theorem ofInterface_interface {data : Bytes} {start : Nat} {r : Record} {later : List Record}
    (h : records data start = r :: later) (ho : r.opensInterface = true) :
    Listed.ofInterface (r.interface data later) = ⟨r.offset, ⟨r.bytes⟩, fun kind =>
      ownAddresses (⟨r.bytes⟩ : InterfaceMessage).index kind later⟩ :=
  congrArg (Listed.mk r.offset ⟨r.bytes⟩) (funext (extract_interface h ho))

theorem map_ofInterface_openings {data : Bytes} {start : Nat} {run : List Record}
    (h : records data start = run) :
    (openings data run).map Listed.ofInterface = Listed.ofRun run := by
  induction run generalizing start with
  | nil => rfl
  | cons r later ih =>
    obtain ⟨-, -, hlater⟩ := records_eq_cons_iff.mp h
    have hrest := ih hlater.symm
    by_cases ho : r.opensInterface = true
    · rw [openings, if_pos ho, List.map_cons, hrest, ofInterface_interface h ho,
        Listed.ofRun_of_opens ho]
    · rw [openings, if_neg ho, hrest, Listed.ofRun_of_passed ho]

/-- The interfaces of a dump with their addresses, read off its records. -/
theorem Dump.map_ofInterface (d : Dump) :
    d.interfaces.map Listed.ofInterface = Listed.ofRun (records d.bytes 0) := by
  rw [d.interfaces_eq_openings, map_ofInterface_openings rfl]

/-! ### Moved runs -/

theorem ownAddresses_relocate (owner : UInt16) (kind : AddressKind) (f : Nat → Nat)
    (run : List Record) : ownAddresses owner kind (run.map (·.relocate f)) =
      ownAddresses owner kind run := by
  rw [ownAddresses, List.takeWhile_map, List.filterMap_map]
  rfl

/-- Where the records stand matters for the positions alone. -/
theorem Listed.ofRun_relocate (f : Nat → Nat) (run : List Record) :
    ofRun (run.map (·.relocate f)) = (ofRun run).map (·.relocate f) := by
  induction run with
  | nil => rfl
  | cons r later ih =>
    have hopens : (r.relocate f).opensInterface = r.opensInterface := rfl
    rw [List.map_cons]
    by_cases ho : r.opensInterface = true
    · rw [ofRun_of_opens (hopens.trans ho), ofRun_of_opens ho, List.map_cons, ih]
      simp only [ownAddresses_relocate]
      rfl
    · rw [ofRun_of_passed (hopens ▸ ho), ofRun_of_passed ho, ih]

/-! ### From lists to attributes -/

theorem map_eq_map_iff_forall₂ {α β γ : Type} {f : α → γ} {g : β → γ} {l : List α} {m : List β} :
    l.map f = m.map g ↔ List.Forall₂ (fun a b => f a = g b) l m := by
  rw [← List.forall₂_eq_eq_eq, List.forall₂_map_left_iff, List.forall₂_map_right_iff]

/-- Interfaces that list the same have the same attributes, and their positions are moved
as those in the lists are. -/
theorem map_attributes {f : Nat → Nat} {l m : List Interface}
    (h : l.map Listed.ofInterface = (m.map Listed.ofInterface).map (·.relocate f)) :
    l.map (fun i => (i.position, i.attributes)) =
      m.map fun j => (f j.position, j.attributes) := by
  rw [List.map_map, map_eq_map_iff_forall₂] at h
  rw [map_eq_map_iff_forall₂]
  refine h.imp fun i j hij => ?_
  obtain ⟨hposition, hmessage, hextract⟩ := Listed.mk.inj hij
  exact Prod.ext hposition (Interface.attributes_congr hmessage hextract)

end InterfaceDump
