import InterfaceDump.Listing.Describe
import InterfaceDump.Message.Build
import InterfaceDump.Proofs.Dump.Pairing
import InterfaceDump.Proofs.Text.Words

/-! What the line of an IPv4 address says.

Beside the address stand a mask and a peer or a broadcast address. Only the address is
taken from the message it was read from. The others are the interface's: its first IPv4
mask, and what its first readable shared slot holds. `inet_lines_share` says so for the
description as a whole, and says when a line tells about its own message alone; since no
two different lines have one text (`inetLine_inj`), this is a matter of what was read.
`not_ownLines` is a dump where one address stands beside the mask of another. -/
namespace InterfaceDump

namespace Ip.V4

/-- Different addresses have different dotted quads. -/
theorem text_inj {ip other : Ip.V4} : ip.text = other.text ↔ ip = other := by
  refine ⟨fun h => ?_, congrArg text⟩
  have hdotless (b : Bytes) : ∀ x ∈ b.map (fun octet => toString octet.toNat), '.' ∉ x.toList := by
    intro x hx
    obtain ⟨octet, -, rfl⟩ := List.mem_map.mp hx
    exact not_mem_decimal rfl _
  have hne (ip : Ip.V4) : ip.octets.map (fun octet => toString octet.toNat) ≠ [] := by
    intro hnil
    have hlength := ip.length_octets
    rw [List.map_eq_nil_iff.mp hnil] at hlength
    contradiction
  have hdecimals := eq_of_intercalate_eq (by rfl) (hdotless _) (hdotless _) (hne ip) (hne other) h
  have hoctets : ip.octets = other.octets := List.map_injective_iff.mpr
    (fun a b hab => UInt8.toNat_inj.mp (eq_of_decimal_eq hab)) hdecimals
  rw [← ofBytes_octets ip, hoctets, ofBytes_octets]

/-- A dotted quad is made of digits and dots. -/
theorem not_mem_text {c : Char} (hdigit : c.isDigit = false) (hdot : c ≠ '.') (ip : Ip.V4) :
    c ∉ ip.text.toList := by
  obtain ⟨octets, hlength⟩ := ip
  obtain ⟨a, b, c', d, rfl⟩ : ∃ a b c' d, octets = [a, b, c', d] := by
    match octets, hlength with
    | [a, b, c', d], _ => exact ⟨a, b, c', d, rfl⟩
  have hdecimal : ∀ octet : UInt8, c ∉ (toString octet.toNat).toList :=
    fun octet => not_mem_decimal hdigit _
  have hseparator : ".".toList = ['.'] := rfl
  simp only [text, String.toList_intercalate, List.map_cons, List.map_nil,
    List.intercalate_cons_cons, List.intercalate_singleton, List.mem_append, hdecimal, hseparator,
    List.mem_singleton, hdot, or_self, not_false_eq_true]

/-- A word with another character in it is no dotted quad. -/
theorem text_ne {word : String} {c : Char} (hc : c ∈ word.toList) (hdigit : c.isDigit = false)
    (hdot : c ≠ '.') (ip : Ip.V4) : word ≠ ip.text := by
  rintro rfl
  exact ip.not_mem_text hdigit hdot hc

end Ip.V4

namespace Listing
variable {ip other : Ip.V4} {peer? mask? broadcast? peer'? mask'? broadcast'? : Option Ip.V4}

/-! ### The line of an address -/

/-- An address with a peer, a mask and a broadcast address, as far as there are any. -/
def inetLine (ip : Ip.V4) (peer? mask? broadcast? : Option Ip.V4) : String :=
  "\tinet " ++ ip.text ++ labelled "-->" peer? ++ labelled "netmask" mask? ++
    labelled "broadcast" broadcast?

/-- The words that a label and an address make. -/
def labelWords (label : String) (ip? : Option Ip.V4) : List String :=
  ip?.elim [] fun ip => [label, ip.text]

def inetWords (ip : Ip.V4) (peer? mask? broadcast? : Option Ip.V4) : List String :=
  ["\tinet", ip.text] ++ labelWords "-->" peer? ++ labelWords "netmask" mask? ++
    labelWords "broadcast" broadcast?

theorem intercalate_append_labelWords {words : List String} (hne : words ≠ []) (label : String)
    (ip? : Option Ip.V4) :
    " ".intercalate (words ++ labelWords label ip?) =
      " ".intercalate words ++ labelled label ip? := by
  cases ip? with
  | none => rw [labelWords, Option.elim_none, List.append_nil, labelled, String.append_empty]
  | some ip =>
    rw [labelWords, Option.elim_some, String.intercalate_append_of_ne_nil hne (by simp), labelled,
      String.intercalate_cons_cons, String.intercalate_singleton]
    simp only [String.append_assoc]

theorem inetLine_eq_words (ip : Ip.V4) (peer? mask? broadcast? : Option Ip.V4) :
    inetLine ip peer? mask? broadcast? = " ".intercalate (inetWords ip peer? mask? broadcast?) := by
  have hstart : " ".intercalate ["\tinet", ip.text] = "\tinet " ++ ip.text := by
    rw [String.intercalate_cons_cons, String.intercalate_singleton]
    rfl
  rw [inetWords, intercalate_append_labelWords (by simp), intercalate_append_labelWords (by simp),
    intercalate_append_labelWords (by simp), hstart, inetLine]

theorem not_mem_labelWords {label : String} (hlabel : ' ' ∉ label.toList) (ip? : Option Ip.V4) :
    ∀ word ∈ labelWords label ip?, ' ' ∉ word.toList := by
  cases ip? with
  | none => exact nofun
  | some ip =>
    intro word hword
    obtain rfl | rfl : word = label ∨ word = ip.text := by simpa [labelWords] using hword
    · exact hlabel
    · exact ip.not_mem_text rfl (by decide)

theorem not_mem_inetWords (ip : Ip.V4) (peer? mask? broadcast? : Option Ip.V4) :
    ∀ word ∈ inetWords ip peer? mask? broadcast?, ' ' ∉ word.toList := by
  simp only [inetWords, List.forall_mem_append, List.forall_mem_cons]
  have hip : ' ' ∉ ip.text.toList := ip.not_mem_text rfl (by decide)
  exact ⟨⟨⟨⟨by decide, hip, nofun⟩, not_mem_labelWords (by decide) peer?⟩,
    not_mem_labelWords (by decide) mask?⟩, not_mem_labelWords (by decide) broadcast?⟩

/-- Where the words behind do not start with the label, it shows whether there is an address. -/
theorem eq_of_labelWords_append_eq {label : String} {ip? other? : Option Ip.V4}
    {xs ys : List String} (hxs : label ∉ xs.head?) (hys : label ∉ ys.head?)
    (h : labelWords label ip? ++ xs = labelWords label other? ++ ys) :
    ip? = other? ∧ xs = ys := by
  cases ip? with
  | none =>
    cases other? with
    | none => exact ⟨rfl, h⟩
    | some other =>
      rw [labelWords, Option.elim_none, List.nil_append] at h
      exact absurd (by rw [h]; rfl) hxs
  | some ip =>
    cases other? with
    | none =>
      rw [labelWords, labelWords, Option.elim_none, List.nil_append] at h
      exact absurd (by rw [← h]; rfl) hys
    | some other =>
      simpa [labelWords, Ip.V4.text_inj] using h

/-- **The text of a line tells all that is in it.** -/
theorem inetLine_inj :
    inetLine ip peer? mask? broadcast? = inetLine other peer'? mask'? broadcast'? ↔
      ip = other ∧ peer? = peer'? ∧ mask? = mask'? ∧ broadcast? = broadcast'? := by
  constructor
  · intro h
    rw [inetLine_eq_words, inetLine_eq_words] at h
    have hwords := eq_of_intercalate_eq (by rfl) (not_mem_inetWords _ _ _ _)
      (not_mem_inetWords _ _ _ _) (by simp [inetWords]) (by simp [inetWords]) h
    simp only [inetWords, List.append_assoc, List.cons_append, List.nil_append, List.cons.injEq,
      true_and] at hwords
    have hmasked (mask? broadcast? : Option Ip.V4) :
        "-->" ∉ (labelWords "netmask" mask? ++ labelWords "broadcast" broadcast?).head? := by
      cases mask? <;> cases broadcast? <;> simp [labelWords]
    have hunmasked (broadcast? : Option Ip.V4) :
        "netmask" ∉ (labelWords "broadcast" broadcast?).head? := by
      cases broadcast? <;> simp [labelWords]
    obtain ⟨hip, hwords⟩ := hwords
    obtain ⟨hpeer, hwords⟩ := eq_of_labelWords_append_eq (hmasked _ _) (hmasked _ _) hwords
    obtain ⟨hmask, hwords⟩ := eq_of_labelWords_append_eq (hunmasked _) (hunmasked _) hwords
    have hend : "broadcast" ∉ ([] : List String).head? := by simp
    obtain ⟨hbroadcast, -⟩ := eq_of_labelWords_append_eq hend hend (congrArg (· ++ []) hwords)
    exact ⟨Ip.V4.text_inj.mp hip, hpeer, hmask, hbroadcast⟩
  · rintro ⟨rfl, rfl, rfl, rfl⟩
    rfl

end Listing

/-! ### Where it was read from -/

namespace AddressMessage

def ipv4Address? (m : AddressMessage) : Option SocketV4 := (m.address? .address).bind (·.v4?)

def ipv4Mask? (m : AddressMessage) : Option Ip.V4 :=
  ((m.address? .netmask).bind (·.v4?)).map (·.ip)

/-- The broadcast or destination address, if it is an IPv4 address. -/
def ipv4Shared? (m : AddressMessage) : Option Ip.V4 :=
  ((m.address? .broadcastOrDestination).bind (·.v4?)).map (·.ip)

end AddressMessage

namespace Interface
variable (i : Interface)

/-- The first IPv4 mask that a message carries. -/
def firstMask? : Option Ip.V4 := i.messages.findSome? (·.ipv4Mask?)

/-- The first readable broadcast or destination address, if it is an IPv4 address. -/
def firstShared? : Option Ip.V4 :=
  ((i.messages.findSome? (·.address? .broadcastOrDestination)).bind (·.v4?)).map (·.ip)

theorem ipv4Addresses_eq : i.ipv4Addresses = i.messages.filterMap (·.ipv4Address?) := by
  rw [ipv4Addresses, addresses, extract_eq_filterMap, List.filterMap_filterMap]
  rfl

theorem ipv4Netmask?_eq : i.ipv4Netmask? = i.firstMask? := by
  rw [ipv4Netmask?, extract_eq_filterMap, ← List.head?_filterMap, List.filterMap_filterMap,
    List.head?_filterMap, List.map_findSome?]
  rfl

theorem sharedSlot?_eq :
    i.sharedSlot? = i.messages.findSome? (·.address? .broadcastOrDestination) := by
  rw [sharedSlot?, extract_eq_filterMap, List.head?_filterMap]

end Interface

namespace Listing
variable {i : Interface} {args : Arguments}

/-! ### The lines of an interface -/

/-- The line of an address on an interface, whose flags say what the shared slot holds. -/
def lineOn (i : Interface) (ip : Ip.V4) (mask? shared? : Option Ip.V4) : String :=
  inetLine ip (if i.options.isPointToPoint then shared? else none) mask?
    (if i.hasBroadcast then shared? else none)

/-- The line of an address as its own message has it. -/
def ownLine (i : Interface) (m : AddressMessage) (a : SocketV4) : String :=
  lineOn i a.ip m.ipv4Mask? m.ipv4Shared?

/-- The lines of a description of everything, with these lines for the IPv4 addresses. -/
def linesWith (i : Interface) (lines : List String) : List String :=
  headerLine i :: linkLines i ++ lines ++
    (prefixedAddresses i).map fun p => ipv6Line i p.1 p.2

/-- Every line of an IPv4 address tells about the message of the address alone. -/
def OwnLines (i : Interface) : Prop :=
  ∀ args : Arguments, args.family = .all → args.skipLinkLocal = false →
    descriptionLines i args =
      linesWith i (i.messages.filterMap fun m => m.ipv4Address?.map (ownLine i m))

/-- A message carries what the interface shows beside every IPv4 address: the mask, and
with a broadcast address or a peer to show, that one too. -/
structure Carries (i : Interface) (m : AddressMessage) : Prop where
  mask : i.firstMask? = m.ipv4Mask?
  shared : i.options.isPointToPoint = true ∨ i.hasBroadcast = true →
    i.firstShared? = m.ipv4Shared?

theorem ipv4Line_eq (i : Interface) (a : SocketV4) :
    ipv4Line i a = lineOn i a.ip i.firstMask? i.firstShared? := by
  rw [ipv4Line, lineOn, inetLine, i.ipv4Netmask?_eq, Interface.destinationAddress?,
    Interface.broadcastAddress?, i.sharedSlot?_eq, Interface.firstShared?]
  congr 3
  all_goals split <;> rfl

theorem ipv4Line_eq_ownLine_iff {m : AddressMessage} {a : SocketV4} :
    ipv4Line i a = ownLine i m a ↔ Carries i m := by
  rw [ipv4Line_eq, ownLine, lineOn, lineOn, inetLine_inj]
  constructor
  · rintro ⟨-, hpeer, hmask, hbroadcast⟩
    refine ⟨hmask, fun hshown => ?_⟩
    rcases hshown with hpoint | hcast
    · rwa [if_pos hpoint, if_pos hpoint] at hpeer
    · rwa [if_pos hcast, if_pos hcast] at hbroadcast
  · rintro ⟨hmask, hshared⟩
    refine ⟨rfl, ?_, hmask, ?_⟩
    · split
      case isTrue hpoint => exact hshared (.inl hpoint)
      case isFalse => rfl
    · split
      case isTrue hcast => exact hshared (.inr hcast)
      case isFalse => rfl

theorem descriptionLines_all (hfamily : args.family = .all) (hskip : args.skipLinkLocal = false) :
    descriptionLines i args =
      linesWith i (i.messages.filterMap fun m => m.ipv4Address?.map (ipv4Line i)) := by
  have hwants : ∀ a, args.wants a = true := fun a => by
    rw [Arguments.wants, hfamily, hskip]
    rfl
  have hlink : args.wantsLink = true := by rw [Arguments.wantsLink, hfamily]; rfl
  simp only [descriptionLines, linesWith, hwants, hlink, if_true, List.filter_true,
    i.ipv4Addresses_eq, List.map_filterMap]

/-- Lists read off one list with the same gaps are equal if they agree element by element. -/
theorem filterMap_map_eq_iff {α β γ : Type} {f : α → Option β} {g h : α → β → γ} {l : List α} :
    (l.filterMap fun x => (f x).map (g x)) = (l.filterMap fun x => (f x).map (h x)) ↔
      ∀ x ∈ l, ∀ y, f x = some y → g x y = h x y := by
  induction l with
  | nil => exact iff_of_true rfl nofun
  | cons x later ih =>
    rw [List.filterMap_cons, List.filterMap_cons, List.forall_mem_cons]
    cases hx : f x with
    | none =>
      rw [Option.map_none, Option.map_none, ih]
      exact (and_iff_right nofun).symm
    | some y =>
      rw [Option.map_some, Option.map_some, List.cons.injEq, ih]
      exact and_congr_left fun _ => ⟨fun hy z hz => Option.some.inj hz ▸ hy, fun hy => hy y rfl⟩

theorem linesWith_inj {lines lines' : List String} :
    linesWith i lines = linesWith i lines' ↔ lines = lines' := by
  simp only [linesWith, List.append_cancel_right_eq, List.append_cancel_left_eq]

theorem ownLines_iff (i : Interface) :
    OwnLines i ↔ ∀ m ∈ i.messages, ∀ a, m.ipv4Address? = some a → Carries i m := by
  have hlines : OwnLines i ↔ linesWith i (i.messages.filterMap fun m =>
      m.ipv4Address?.map (ipv4Line i)) =
        linesWith i (i.messages.filterMap fun m => m.ipv4Address?.map (ownLine i m)) := by
    constructor
    · intro h
      exact (descriptionLines_all rfl rfl).symm.trans (h {} rfl rfl)
    · intro h args hfamily hskip
      rw [descriptionLines_all hfamily hskip, h]
  rw [hlines, linesWith_inj, filterMap_map_eq_iff]
  simp only [ipv4Line_eq_ownLine_iff]

/-- A message that is the only one carries all that is shown. -/
theorem carries_of_lone {m : AddressMessage} (h : i.messages = [m]) : Carries i m where
  mask := by
    rw [Interface.firstMask?, h, List.findSome?_singleton]
  shared _ := by
    rw [Interface.firstShared?, h, List.findSome?_singleton]
    rfl

/-- What the lines of the IPv4 addresses of an interface show. -/
structure InetLines (i : Interface) : Prop where
  /-- There is a line for each message with an IPv4 address, and only the address on it
  changes from line to line. -/
  lines : ∀ args : Arguments, args.family = .all → args.skipLinkLocal = false →
    descriptionLines i args = linesWith i (i.messages.filterMap fun m =>
      m.ipv4Address?.map fun a => lineOn i a.ip i.firstMask? i.firstShared?)
  own : ∀ m ∈ i.messages, ∀ a, m.ipv4Address? = some a →
    (lineOn i a.ip i.firstMask? i.firstShared? = ownLine i m a ↔ Carries i m)
  all : OwnLines i ↔ ∀ m ∈ i.messages, ∀ a, m.ipv4Address? = some a → Carries i m
  lone : i.messages.length ≤ 1 → OwnLines i

/-- **The lines of an interface differ in their addresses alone.** A line tells about one
message exactly if that message carries the first mask, and what the first shared slot
holds. -/
theorem inet_lines_share (i : Interface) : InetLines i where
  lines args hfamily hskip := by
    rw [descriptionLines_all hfamily hskip]
    simp only [← ipv4Line_eq]
  own m _ a _ := by rw [← ipv4Line_eq, ipv4Line_eq_ownLine_iff]
  all := ownLines_iff i
  lone hlength := by
    refine (ownLines_iff i).mpr fun m hm _ _ => carries_of_lone ?_
    obtain ⟨before, later, hmessages⟩ := List.append_of_mem hm
    rw [hmessages, List.length_append, List.length_cons] at hlength
    obtain rfl : before = [] := List.length_eq_zero_iff.mp (by omega)
    obtain rfl : later = [] := List.length_eq_zero_iff.mp (by omega)
    exact hmessages

end Listing

/-- An address message of interface 4. -/
def Sample.inetMessage (ip mask broadcast : Bytes) : AddressTemplate :=
  ((({ index := 4 } : AddressTemplate).setAddress .address (.v4 ⟨.ofBytes ip, 0⟩)).setAddress
    .netmask (.v4 ⟨.ofBytes mask, 0⟩)).setAddress .broadcastOrDestination
      (.v4 ⟨.ofBytes broadcast, 0⟩)

/-- An interface with addresses in two networks. -/
def Sample.aliased : Bytes :=
  ({ index := 4, name := "en0", options := Options.up.union Options.broadcast,
     interfaceType := 6 } : InterfaceTemplate).encode ++
  (Sample.inetMessage [10, 0, 0, 2] [255, 0, 0, 0] [10, 255, 255, 255]).encode ++
  (Sample.inetMessage [192, 168, 1, 20] [255, 255, 255, 0] [192, 168, 1, 255]).encode

/-- The second address stands beside the mask and the broadcast address of the first. -/
theorem aliased_lines :
    (Dump.mk Sample.aliased).interfaces.map (fun i => (Listing.descriptionLines i {},
        Listing.linesWith i (i.messages.filterMap fun m =>
          m.ipv4Address?.map (Listing.ownLine i m)))) =
      [(["en0: flags=3<UP,BROADCAST> index 4 mtu 1500", "\ttype Ethernet",
          "\tinet 10.0.0.2 netmask 255.0.0.0 broadcast 10.255.255.255",
          "\tinet 192.168.1.20 netmask 255.0.0.0 broadcast 10.255.255.255"],
        ["en0: flags=3<UP,BROADCAST> index 4 mtu 1500", "\ttype Ethernet",
          "\tinet 10.0.0.2 netmask 255.0.0.0 broadcast 10.255.255.255",
          "\tinet 192.168.1.20 netmask 255.255.255.0 broadcast 192.168.1.255"])] := by
  decide +kernel

/-- A line need not tell about one message. -/
theorem not_ownLines : ¬ ∀ d : Dump, ∀ i ∈ d.interfaces, Listing.OwnLines i := by
  intro hown
  obtain ⟨i, rest, hlist, hi, -⟩ := List.map_eq_cons_iff.mp aliased_lines
  obtain ⟨hshown, hwanted⟩ := Prod.mk.inj hi
  have hsame := hown _ i (hlist ▸ List.mem_cons_self) {} rfl rfl
  rw [hshown, hwanted] at hsame
  exact absurd hsame (by decide)

end InterfaceDump
