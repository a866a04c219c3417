import InterfaceDump.Dump.Interface
import InterfaceDump.Proofs.Address.Masks
import InterfaceDump.Proofs.Address.Prefix
import InterfaceDump.Proofs.Address.Scope

/-! Masks that look like scoped addresses.

An IPv6 mask is read by the reader of addresses, which clears octets 2 and 3 of an address
with a scope in them. A mask in the range of those addresses has a zero bit in front of a
one bit within its first two octets (`Ip.V6.IsScoped.gap`). So its prefix ends before
anything that is cleared, and no contiguous mask is in that range. `mask_prefix_kept` says
what follows: the prefix length of a mask is that of the octets it was read from, and a
contiguous mask is these octets. -/
namespace InterfaceDump
open Bytes

/-! ### The gap in a scoped address -/

namespace Ip.V6
variable {ip : Ip.V6}

theorem getElem?_bits_octets (ip : Ip.V6) {i : Nat} (h : i < 128) :
    (bits ip.octets)[i]? = some ((byteAt ip.octets (i / 8)).toNat.testBit (7 - i % 8)) :=
  getElem?_bits (by rwa [ip.length_octets])

/-- A scoped address has a zero bit in front of a one bit, both in its first two octets. -/
theorem IsScoped.gap (h : ip.IsScoped) :
    ∃ i j, i < j ∧ j < 16 ∧ (bits ip.octets)[i]? = some false ∧
      (bits ip.octets)[j]? = some true := by
  have hhigh : ∀ b : UInt8, 0x80 ≤ b → b.toNat.testBit 7 = true := forall_octet (by decide +kernel)
  have hone : ∀ b : UInt8, b.toNat % 16 = 1 →
      b.toNat.testBit 3 = false ∧ b.toNat.testBit 0 = true := forall_octet (by decide +kernel)
  have htwo : ∀ b : UInt8, b.toNat % 16 = 2 →
      b.toNat.testBit 3 = false ∧ b.toNat.testBit 1 = true := forall_octet (by decide +kernel)
  have hbit := fun i => ip.getElem?_bits_octets (i := i)
  rcases h with ⟨hfirst, hsecond, -⟩ | ⟨-, hscope | hscope⟩
  · -- The zero that ends 0xfe stands in front of the one that starts the second octet.
    refine ⟨7, 8, by decide, by decide, ?_, ?_⟩
    · rw [hbit 7 (by decide), hfirst]
      rfl
    · rw [hbit 8 (by decide)]
      exact congrArg some (hhigh _ hsecond)
  · -- The scope has four bits and starts with a zero.
    refine ⟨12, 15, by decide, by decide, ?_, ?_⟩
    · rw [hbit 12 (by decide)]
      exact congrArg some (hone _ hscope).1
    · rw [hbit 15 (by decide)]
      exact congrArg some (hone _ hscope).2
  · refine ⟨12, 14, by decide, by decide, ?_, ?_⟩
    · rw [hbit 12 (by decide)]
      exact congrArg some (htwo _ hscope).1
    · rw [hbit 14 (by decide)]
      exact congrArg some (htwo _ hscope).2

theorem not_isScoped_of_contiguous (h : Contiguous ip.octets) : ¬ ip.IsScoped := by
  intro hscoped
  obtain ⟨i, j, hij, -, hzero, hone⟩ := hscoped.gap
  have hfilled := h.ones_before (Nat.le_of_lt hij) hone
  exact nomatch hzero.symm.trans hfilled

/-- The ones in front of a scoped address end in its first two octets. -/
theorem IsScoped.onesInFront_take_two (h : ip.IsScoped) :
    onesInFront (ip.octets.take 2) < 8 * (ip.octets.take 2).length := by
  obtain ⟨i, j, hij, hj, hzero, -⟩ := h.gap
  have hlength : (bits (ip.octets.take 2)).length = 16 := by
    rw [length_bits, ip.length_take_two]
  rw [← List.take_append_drop 2 ip.octets, bits_append,
    List.getElem?_append_left (by omega)] at hzero
  have hstops := onesInFront_le_of_zero hzero
  rw [ip.length_take_two]
  omega

/-- Whatever is written into octets 2 and 3 of a scoped address, the ones in front of it are
the same. -/
theorem onesInFront_withScope (h : ip.IsScoped) (scope : UInt16) :
    onesInFront (ip.withScope scope).octets = onesInFront ip.octets := by
  have hhead := onesInFront_append h.onesInFront_take_two
  calc onesInFront (ip.withScope scope).octets
      = onesInFront (ip.octets.take 2 ++ (bigEndian 2 scope.toNat ++ ip.octets.drop 4)) := by
        rw [octets_withScope]
    _ = onesInFront (ip.octets.take 2 ++ ip.octets.drop 2) := by rw [hhead, hhead]
    _ = onesInFront ip.octets := by rw [List.take_append_drop]

theorem prefixLength_octets (ip : Ip.V6) : prefixLength ip.octets = onesInFront ip.octets :=
  prefixLength_of_length_lt (by rw [ip.length_octets]; decide)

end Ip.V6

/-! ### The octets of a mask -/

/-- The 16 octets of an IPv6 mask, zero where fewer are declared. -/
def maskOctets (raw : Bytes) : Bytes := field (resize 28 (declaredOctets raw)) 8 16

theorem octets_ofBytes_maskOctets (raw : Bytes) :
    (Ip.V6.ofBytes (maskOctets raw)).octets = maskOctets raw :=
  resize_of_length (length_field _ 8 16)

theorem SocketV6.ip_ofWire (raw : Bytes) :
    (SocketV6.ofWire (declaredOctets raw)).ip =
      if (Ip.V6.ofBytes (maskOctets raw)).embeddedScope = 0 then .ofBytes (maskOctets raw)
      else (Ip.V6.ofBytes (maskOctets raw)).clearScope := by
  have hoctets : field (declaredOctets raw) 8 16 = maskOctets raw :=
    (field_field (b := declaredOctets raw) (i := 0) (show 8 + 16 ≤ 28 by decide)).symm
  rw [ofWire, hoctets, relocateScope]
  split <;> rfl

namespace SockAddr
variable {raw : Bytes} {m : SocketV6}

theorem ofWire_of_decode? (h : decode? raw = some (v6 m)) :
    m = SocketV6.ofWire (declaredOctets raw) := by
  cases reads_of_decode? h with
  | v6 hread =>
    obtain ⟨-, -, -, -, hwire⟩ := Form.decode?_eq_some_iff.mp hread
    rw [SocketV6.form_ofWire] at hwire
    rw [declaredOctets, hwire]

/-- An IPv6 mask is read from its declared octets, with or without a family. -/
theorem ofWire_of_decodeNetmask? (h : decodeNetmask? raw = some (v6 m)) :
    m = SocketV6.ofWire (declaredOctets raw) := by
  by_cases hfamily : Family.ofBytes? raw = some .unspecified
  · have htwo := Family.two_le_length hfamily
    rw [decodeNetmask?_of_unspecified hfamily] at h
    split at h
    · rw [decode?_of_inet (SocketV4.isFixed.ofBytes?_set htwo)] at h
      obtain ⟨a, -, ha⟩ := Option.map_eq_some_iff.mp h
      exact nomatch ha
    · split at h
      · next hdeclared =>
        have hroom : declaredLength raw ≤ SocketV6.form.capacity := Nat.le_of_eq hdeclared
        rw [decode?_of_inet6 (SocketV6.isFixed.ofBytes?_set htwo),
          SocketV6.isFixed.decode?_set htwo (by omega) hroom, SocketV6.form_ofWire] at h
        split at h
        · rw [← SockAddr.v6.inj (Option.some.inj h)]
        · exact nomatch h
      · exact ofWire_of_decode? h
  · rw [decodeNetmask?_of_family hfamily] at h
    exact ofWire_of_decode? h

/-- What reading does to the octets of an IPv6 mask, if it does anything. -/
theorem ip_of_decodeNetmask? (h : decodeNetmask? raw = some (v6 m)) :
    m.ip = .ofBytes (maskOctets raw) ∨
      (Ip.V6.ofBytes (maskOctets raw)).IsScoped ∧
        m.ip = (Ip.V6.ofBytes (maskOctets raw)).withScope 0 := by
  rw [ofWire_of_decodeNetmask? h, SocketV6.ip_ofWire]
  split
  · exact .inl rfl
  · next hscope =>
    refine .inr ⟨?_, rfl⟩
    by_contra hrange
    exact hscope (if_neg (mt Ip.V6.isScoped_iff.mpr hrange))

end SockAddr

/-! ### Prefix lengths of an interface -/

/-- A prefix length fits the octet that it is shown in. -/
theorem Interface.toNat_ipv6PrefixLengths (i : Interface) :
    i.ipv6PrefixLengths.map (·.toNat) =
      i.ipv6Netmasks.map fun mask => prefixLength mask.octets := by
  rw [ipv6PrefixLengths, List.map_map]
  refine List.map_congr_left fun mask _ => UInt8.toNat_ofNat_of_lt' ?_
  have hbound := prefixLength_le mask.octets
  rw [mask.length_octets] at hbound
  exact Nat.lt_of_le_of_lt hbound (by decide)

/-- **Reading an IPv6 mask does not distort its prefix length.** It is the number of leading
one bits of the octets that the mask was read from, though some of them may have been
cleared; and the octets of a contiguous mask are not. The prefix lengths of an interface
are those of its masks, without a loss. -/
theorem mask_prefix_kept :
    (∀ raw m, SockAddr.decodeNetmask? raw = some (.v6 m) →
      prefixLength m.ip.octets = ((bits (maskOctets raw)).takeWhile id).length ∧
        prefixLength m.ip.octets ≤ 128 ∧
        (Contiguous (maskOctets raw) → m.ip.octets = maskOctets raw)) ∧
      ∀ i : Interface, i.ipv6PrefixLengths.map (·.toNat) =
        i.ipv6Netmasks.map fun mask => prefixLength mask.octets := by
  refine ⟨fun raw m h => ?_, Interface.toNat_ipv6PrefixLengths⟩
  have hbound := prefixLength_le m.ip.octets
  rw [m.ip.length_octets] at hbound
  have hoctets := octets_ofBytes_maskOctets raw
  rcases SockAddr.ip_of_decodeNetmask? h with hip | ⟨hscoped, hip⟩
  · have hkept : m.ip.octets = maskOctets raw := by rw [hip, hoctets]
    exact ⟨by rw [m.ip.prefixLength_octets, hkept, onesInFront], hbound, fun _ => hkept⟩
  · refine ⟨?_, hbound, fun hcontiguous => absurd hscoped ?_⟩
    · rw [m.ip.prefixLength_octets, hip, Ip.V6.onesInFront_withScope hscoped, hoctets, onesInFront]
    · exact Ip.V6.not_isScoped_of_contiguous (by rwa [hoctets])

/-- The 28 octets of a mask of 64 bits, without a family. -/
def Sample.wideMask : Bytes :=
  [28, 0, 0, 0, 0, 0, 0, 0] ++ List.replicate 8 255 ++ List.replicate 12 0

/-- Twelve octets of fe80:7::, which is no mask but may stand as one. -/
def Sample.scopedMask : Bytes := [12, 30, 0, 0, 0, 0, 0, 0, 0xfe, 0x80, 0, 7]

/-- A mask of 64 bits without a family, and one that is no contiguous mask: its octets 2 and
3 are read as a scope, and its seven leading ones are left. -/
theorem mask_prefix_kept_cleared :
    (SockAddr.decodeNetmask? Sample.wideMask =
        some (.v6 ⟨.ofBytes (List.replicate 8 255), 0, 0, 0⟩) ∧
      prefixLength (Ip.V6.ofBytes (List.replicate 8 255)).octets =
        ((bits (maskOctets Sample.wideMask)).takeWhile id).length ∧
      prefixLength (Ip.V6.ofBytes (List.replicate 8 255)).octets ≤ 128 ∧
      Contiguous (maskOctets Sample.wideMask) ∧
      (Ip.V6.ofBytes (List.replicate 8 255)).octets = maskOctets Sample.wideMask) ∧
      SockAddr.decodeNetmask? Sample.scopedMask = some (.v6 ⟨.ofBytes [0xfe, 0x80], 0, 0, 7⟩) ∧
      prefixLength (Ip.V6.ofBytes [0xfe, 0x80]).octets =
        ((bits (maskOctets Sample.scopedMask)).takeWhile id).length ∧
      prefixLength (Ip.V6.ofBytes [0xfe, 0x80]).octets ≤ 128 ∧
      (Ip.V6.ofBytes [0xfe, 0x80]).octets ≠ maskOctets Sample.scopedMask := by
  obtain ⟨hmasks, -⟩ := mask_prefix_kept
  have hwide : SockAddr.decodeNetmask? Sample.wideMask =
      some (.v6 ⟨.ofBytes (List.replicate 8 255), 0, 0, 0⟩) := by decide +kernel
  have hcontiguous : Contiguous (maskOctets Sample.wideMask) := ⟨64, 64, by decide +kernel⟩
  have hscoped : SockAddr.decodeNetmask? Sample.scopedMask =
      some (.v6 ⟨.ofBytes [0xfe, 0x80], 0, 0, 7⟩) := by decide +kernel
  obtain ⟨hones, hbound, hkept⟩ := hmasks _ _ hwide
  obtain ⟨hones', hbound', -⟩ := hmasks _ _ hscoped
  exact ⟨⟨hwide, hones, hbound, hcontiguous, hkept hcontiguous⟩, hscoped, hones', hbound',
    by decide +kernel⟩

end InterfaceDump
