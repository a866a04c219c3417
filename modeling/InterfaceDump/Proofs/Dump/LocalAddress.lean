import InterfaceDump.Dump.LocalAddress
import InterfaceDump.Proofs.Address.Scope
import InterfaceDump.Proofs.Dump.Identity
import InterfaceDump.Proofs.Dump.Pairing

/-! The address that a socket is bound to.

A link-local address is of use only together with a scope, and none may be left inside it.
Four places see to that: no interface has index zero (`Dump.Yields.index_bounds`), the index
is the one in the header, the reader moves a scope out of an address
(`SockAddr.not_carriesScope_of_read`), and the address of a socket gets the index where it
has no scope. The last two tell link-local addresses by tests of their own, and
`isUnicastLinkLocal_iff` and `isLinkLocal_iff` say that both mean the same range.
`local_addresses_usable` puts this together for every interface of every dump. -/
namespace InterfaceDump
open Bytes

/-! ### The link-local range -/

theorem and_ffc0 {x : Nat} (hx : x < 65536) : x &&& 0xffc0 = x / 64 * 64 := by
  have hmask : 0xffc0 = (2 ^ 10 - 1) <<< 6 := rfl
  rw [hmask, ← Nat.shiftRight_eq_div_pow x 6, ← Nat.shiftLeft_eq (x >>> 6) 6]
  apply Nat.eq_of_testBit_eq
  intro k
  simp only [Nat.testBit_and, Nat.testBit_shiftLeft, Nat.testBit_shiftRight,
    Nat.testBit_two_pow_sub_one]
  by_cases hlow : 6 ≤ k
  · have hk : 6 + (k - 6) = k := by omega
    by_cases hhigh : k < 16
    · simp [hlow, hk, show k - 6 < 10 by omega]
    · have hpow : 65536 ≤ 2 ^ k := Nat.pow_le_pow_right (n := 2) (by omega) (Nat.le_of_not_lt hhigh)
      have hzero : x.testBit k = false := Nat.testBit_lt_two_pow (Nat.lt_of_lt_of_le hx hpow)
      simp [hk, hzero]
  · simp [hlow]

namespace Ip.V6
variable {ip : Ip.V6}

/-- fe80::/10: the first group lies between fe80 and febf. -/
def InLinkLocalRange (ip : Ip.V6) : Prop :=
  0xfe80 ≤ (u16be ip.octets 0).toNat ∧ (u16be ip.octets 0).toNat ≤ 0xfebf

instance decidableInLinkLocalRange (ip : Ip.V6) : Decidable ip.InLinkLocalRange :=
  inferInstanceAs (Decidable (0xfe80 ≤ (u16be ip.octets 0).toNat ∧ _))

theorem isUnicastLinkLocal_iff : ip.isUnicastLinkLocal = true ↔ ip.InLinkLocalRange := by
  have hlt := (u16be ip.octets 0).toNat_lt
  rw [isUnicastLinkLocal, beq_iff_eq, ← UInt16.toNat_inj, UInt16.toNat_and, InLinkLocalRange]
  show (u16be ip.octets 0).toNat &&& 0xffc0 = 0xfe80 ↔ _
  rw [and_ffc0 hlt]
  omega

theorem isLinkLocal_iff : ip.isLinkLocal = true ↔ ip.InLinkLocalRange := by
  have hlow := (byteAt ip.octets 1).toNat_lt
  have hmask : ∀ b : UInt8, b &&& 0xc0 = 0x80 ↔ 0x80 ≤ b ∧ b ≤ 0xbf :=
    forall_octet (by decide +kernel)
  rw [isLinkLocal, Bool.and_eq_true, beq_iff_eq, beq_iff_eq, hmask, InLinkLocalRange, toNat_u16be,
    ← UInt8.toNat_inj, UInt8.le_iff_toNat_le, UInt8.le_iff_toNat_le]
  show (byteAt ip.octets 0).toNat = 0xfe ∧ 0x80 ≤ (byteAt ip.octets 1).toNat ∧
    (byteAt ip.octets 1).toNat ≤ 0xbf ↔
    0xfe80 ≤ 256 * (byteAt ip.octets 0).toNat + (byteAt ip.octets 1).toNat ∧
    256 * (byteAt ip.octets 0).toNat + (byteAt ip.octets 1).toNat ≤ 0xfebf
  omega

end Ip.V6

/-! ### Addresses that were read -/

namespace Interface
variable {i : Interface} {a : SocketV6}

theorem exists_decode?_of_mem_ipv6Addresses (h : a ∈ i.ipv6Addresses) :
    ∃ raw, SockAddr.decode? raw = some (.v6 a) := by
  rw [ipv6Addresses_eq] at h
  obtain ⟨m, -, hm⟩ := List.mem_filterMap.mp h
  obtain ⟨address, haddress, hv6⟩ := Option.bind_eq_some_iff.mp hm
  obtain ⟨offset, -, hread⟩ := Option.bind_eq_some_iff.mp haddress
  cases address with
  | v6 b =>
    obtain rfl : b = a := Option.some.inj hv6
    exact ⟨_, hread⟩
  | _ => exact nomatch hv6

/-- No IPv6 address of an interface has a scope inside it. -/
theorem clear_of_mem_ipv6Addresses (h : a ∈ i.ipv6Addresses) (hrange : a.ip.InLinkLocalRange) :
    byteAt a.ip.octets 2 = 0 ∧ byteAt a.ip.octets 3 = 0 := by
  obtain ⟨raw, hread⟩ := exists_decode?_of_mem_ipv6Addresses h
  have hclear := SockAddr.not_carriesScope_of_read (.inl hread)
  rw [Ip.V6.CarriesScope, and_iff_right (.inl (Ip.V6.isLinkLocal_iff.mpr hrange)), not_or] at hclear
  exact ⟨Decidable.not_not.mp hclear.1, Decidable.not_not.mp hclear.2⟩

theorem scopeOf_eq (i : Interface) (a : SocketV6) :
    i.scopeOf a = if a.scopeId ≠ 0 then a.scopeId
      else if a.ip.InLinkLocalRange then i.index else 0 := by
  simp only [scopeOf, Ip.V6.isUnicastLinkLocal_iff]
  by_cases hscope : a.scopeId = 0
  · simp only [hscope, true_and, ne_eq, not_true_eq_false, if_false]
  · simp only [hscope, false_and, if_false, ne_eq, not_false_eq_true, if_true]

/-! ### Local addresses -/

/-- The address for a socket with a port is the first one of its family, if there is one. -/
structure Binds (i : Interface) (port : UInt16) : Prop where
  inet_iff : (∃ a, i.localAddress .inet port = .ok a) ↔ i.ipv4Addresses ≠ []
  inet6_iff : (∃ a, i.localAddress .inet6 port = .ok a) ↔ i.ipv6Addresses ≠ []
  others : ∀ family, family ≠ .inet → family ≠ .inet6 →
    ∃ failure, i.localAddress family port = .error failure
  failed : ∀ family failure, i.localAddress family port = .error failure →
    failure = .noAddress
      (if family = .inet then "IPv4" else if family = .inet6 then "IPv6" else "IP") i.index
  inet : ∀ first later, i.ipv4Addresses = first :: later →
    i.localAddress .inet port = .ok (.v4 ⟨first.ip, port⟩)
  inet6 : ∀ first later, i.ipv6Addresses = first :: later →
    i.localAddress .inet6 port = .ok (.v6 ⟨first.ip, port, 0,
      if first.scopeId ≠ 0 then first.scopeId
      else if first.ip.InLinkLocalRange then i.index else 0⟩)
  /-- No link-local address is handed out without a scope, or with one inside it. -/
  usable : ∀ family a, i.localAddress family port = .ok (.v6 a) → a.ip.InLinkLocalRange →
    a.scopeId ≠ 0 ∧ byteAt a.ip.octets 2 = 0 ∧ byteAt a.ip.octets 3 = 0

variable {port : UInt16}

theorem localAddress_inet (i : Interface) (port : UInt16) : i.localAddress .inet port =
    match i.ipv4Addresses with
    | first :: _ => .ok (.v4 ⟨first.ip, port⟩)
    | [] => .error (.noAddress "IPv4" i.index) := by
  rw [localAddress, localAddress?]
  cases i.ipv4Addresses <;> rfl

theorem localAddress_inet6 (i : Interface) (port : UInt16) : i.localAddress .inet6 port =
    match i.ipv6Addresses with
    | first :: _ => .ok (.v6 ⟨first.ip, port, 0, i.scopeOf first⟩)
    | [] => .error (.noAddress "IPv6" i.index) := by
  rw [localAddress, localAddress?]
  cases i.ipv6Addresses <;> rfl

theorem localAddress_other (i : Interface) (port : UInt16) {family : Family}
    (hinet : family ≠ .inet) (hinet6 : family ≠ .inet6) :
    i.localAddress family port = .error (.noAddress "IP" i.index) := by
  cases family with
  | inet => exact absurd rfl hinet
  | inet6 => exact absurd rfl hinet6
  | _ => rfl

theorem failure_of_localAddress {family : Family} {failure : Failure}
    (h : i.localAddress family port = .error failure) :
    failure = .noAddress
      (if family = .inet then "IPv4" else if family = .inet6 then "IPv6" else "IP") i.index := by
  by_cases hinet : family = .inet
  · subst hinet
    rw [localAddress_inet] at h
    cases haddresses : i.ipv4Addresses with
    | nil => simpa [haddresses] using h.symm
    | cons first later => simp [haddresses] at h
  · by_cases hinet6 : family = .inet6
    · subst hinet6
      rw [localAddress_inet6] at h
      cases haddresses : i.ipv6Addresses with
      | nil => simpa [haddresses] using h.symm
      | cons first later => simp [haddresses] at h
    · rw [localAddress_other i port hinet hinet6] at h
      rw [if_neg hinet, if_neg hinet6]
      exact (Except.error.inj h).symm

/-- An IPv6 address for a socket comes from the list, and its scope is `scopeOf`. -/
theorem exists_mem_of_localAddress_v6 {family : Family}
    (h : i.localAddress family port = .ok (.v6 a)) :
    ∃ first ∈ i.ipv6Addresses, a = ⟨first.ip, port, 0, i.scopeOf first⟩ := by
  by_cases hinet : family = .inet
  · subst hinet
    rw [localAddress_inet] at h
    cases haddresses : i.ipv4Addresses <;> simp [haddresses] at h
  · by_cases hinet6 : family = .inet6
    · subst hinet6
      rw [localAddress_inet6] at h
      cases haddresses : i.ipv6Addresses with
      | nil => simp [haddresses] at h
      | cons first later =>
        rw [haddresses] at h
        exact ⟨first, List.mem_cons_self, (SockAddr.v6.inj (Except.ok.inj h)).symm⟩
    · rw [localAddress_other i port hinet hinet6] at h
      exact absurd h (by simp)

/-- An address that is in the range has a scope, once the interface has an index. -/
theorem scopeOf_ne_zero (hindex : i.index ≠ 0) (hrange : a.ip.InLinkLocalRange) :
    i.scopeOf a ≠ 0 := by
  rw [scopeOf_eq, if_pos hrange]
  split
  · assumption
  · exact hindex

theorem binds (hindex : i.index ≠ 0) (port : UInt16) : i.Binds port where
  inet_iff := by
    rw [localAddress_inet]
    cases i.ipv4Addresses <;> simp
  inet6_iff := by
    rw [localAddress_inet6]
    cases i.ipv6Addresses <;> simp
  others _ hinet hinet6 := ⟨_, localAddress_other i port hinet hinet6⟩
  failed _ _ := failure_of_localAddress
  inet first later h := by rw [localAddress_inet, h]
  inet6 first later h := by rw [localAddress_inet6, h, ← scopeOf_eq]
  usable family b h hrange := by
    obtain ⟨first, hmem, rfl⟩ := exists_mem_of_localAddress_v6 h
    have hclear : byteAt first.ip.octets 2 = 0 ∧ byteAt first.ip.octets 3 = 0 :=
      clear_of_mem_ipv6Addresses hmem hrange
    exact ⟨scopeOf_ne_zero hindex hrange, hclear⟩

end Interface

/-- **The address for a socket is the first one of its family**, and a link-local one has
a scope, beside the address and not inside it. -/
theorem local_addresses_usable {d : Dump} {i : Interface} (h : d.Yields i) (port : UInt16) :
    i.Binds port := by
  have hindex : i.index ≠ 0 := fun hzero => by
    have hlow := h.index_bounds.1
    rw [hzero] at hlow
    exact absurd hlow (by decide)
  exact Interface.binds hindex port

/-- The message of the tunnel and one address message behind it, with fe80::1 and no scope. -/
def Sample.unscoped : Bytes := Sample.tunnelInterface ++
  [48, 0, 5, 12, 32, 0, 0, 0, 0, 0, 0, 0, 19, 0, 0, 0, 0, 0, 0, 0, 28, 30, 0, 0, 0, 0, 0, 0,
   254, 128, 0, 0, 0, 0, 0, 0, 0, 0, 0, 0, 0, 0, 0, 1, 0, 0, 0, 0]

def Sample.unscopedView : Interface :=
  ⟨Sample.unscoped, ⟨Sample.tunnelInterface⟩, 0, Sample.unscoped.length⟩

/-- An address that was stored without a scope gets the index of its tunnel. -/
theorem local_addresses_usable_unscoped :
    Dump.Yields ⟨Sample.unscoped⟩ Sample.unscopedView ∧
      Sample.unscopedView.localAddress .inet6 5353 =
        .ok (.v6 ⟨⟨[254, 128, 0, 0, 0, 0, 0, 0, 0, 0, 0, 0, 0, 0, 0, 1], rfl⟩, 5353, 0, 19⟩) ∧
      ¬ (∃ a, Sample.unscopedView.localAddress .inet 5353 = .ok a) := by
  have hyields : Dump.Yields ⟨Sample.unscoped⟩ Sample.unscopedView := .inr ⟨0, by decide +kernel⟩
  have hinet6 : Sample.unscopedView.ipv6Addresses =
      [⟨⟨[254, 128, 0, 0, 0, 0, 0, 0, 0, 0, 0, 0, 0, 0, 0, 1], rfl⟩, 0, 0, 0⟩] := by decide +kernel
  have hinet : Sample.unscopedView.ipv4Addresses = [] := by decide +kernel
  have hbinds := local_addresses_usable hyields 5353
  refine ⟨hyields, (hbinds.inet6 _ _ hinet6).trans (by decide +kernel), fun hfound => ?_⟩
  exact hbinds.inet_iff.mp hfound hinet

end InterfaceDump
