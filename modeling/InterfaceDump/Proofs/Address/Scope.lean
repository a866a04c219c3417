import InterfaceDump.Proofs.Address.Declared
import InterfaceDump.Proofs.Address.Survival

/-! The scope of an IPv6 address.

A link-local address, or a multicast group of the narrowest two scopes, means something
on one interface only, and its scope is written in one of two places: inside the address,
in octets 2 and 3, or in the field behind it. `IsScoped` names these addresses by the
range they lie in, and `isScoped_iff` says that the masks of the reader pick out exactly
them. `scope_forms_agree` says that both forms are read as the same address, that the
scope is then never inside it, and that an address out of that range comes back octet by
octet as it was found. -/
namespace InterfaceDump
open Bytes

/-! ### The addresses that have a scope -/

namespace Ip.V6
variable {ip : Ip.V6}

/-- The address is in fe80::/10, or it is a multicast group of scope 1 or 2. -/
def IsScoped (ip : Ip.V6) : Prop :=
  byteAt ip.octets 0 = 0xfe ∧ 0x80 ≤ byteAt ip.octets 1 ∧ byteAt ip.octets 1 ≤ 0xbf ∨
    byteAt ip.octets 0 = 0xff ∧
      ((byteAt ip.octets 1).toNat % 16 = 1 ∨ (byteAt ip.octets 1).toNat % 16 = 2)

instance decidableIsScoped (ip : Ip.V6) : Decidable ip.IsScoped := by
  unfold IsScoped; infer_instance

theorem isScoped_iff : ip.IsScoped ↔ ip.embedsScope = true := by
  have hhigh : ∀ b : UInt8, b &&& 0xc0 = 0x80 ↔ 0x80 ≤ b ∧ b ≤ 0xbf :=
    forall_octet (by decide +kernel)
  have hone : ∀ b : UInt8, b &&& 0x0f = 1 ↔ b.toNat % 16 = 1 := forall_octet (by decide +kernel)
  have htwo : ∀ b : UInt8, b &&& 0x0f = 2 ↔ b.toNat % 16 = 2 := forall_octet (by decide +kernel)
  simp only [IsScoped, embedsScope, isLinkLocal, isNarrowMulticast, isMulticast, Bool.or_eq_true,
    Bool.and_eq_true, beq_iff_eq, hhigh, hone, htwo]

/-! ### Writing a scope into an address -/

/-- The address with a scope in octets 2 and 3. -/
def withScope (ip : Ip.V6) (scope : UInt16) : Ip.V6 :=
  .ofBytes (ip.octets.take 2 ++ bigEndian 2 scope.toNat ++ ip.octets.drop 4)

theorem octets_withScope (ip : Ip.V6) (scope : UInt16) :
    (ip.withScope scope).octets =
      ip.octets.take 2 ++ (bigEndian 2 scope.toNat ++ ip.octets.drop 4) := by
  have hlength : (ip.octets.take 2 ++ (bigEndian 2 scope.toNat ++ ip.octets.drop 4)).length =
      16 := by
    simp [ip.length_octets]
  rw [withScope, octets_ofBytes, List.append_assoc, resize_of_length hlength]

/-- A scope in an address is found behind its first two octets, which say that it is there. -/
theorem embeddedScope_withScope (h : ip.embedsScope = true) (scope : UInt16) :
    (ip.withScope scope).embeddedScope = scope := by
  have htwo := ip.length_take_two
  have hfirst : ∀ i < 2, byteAt (ip.withScope scope).octets i = byteAt ip.octets i := by
    intro i hi
    rw [octets_withScope, byteAt_append_left (by omega), byteAt_take hi]
  have hembeds : (ip.withScope scope).embedsScope = true := by
    simp only [embedsScope, isLinkLocal, isNarrowMulticast, isMulticast, hfirst 0 (by decide),
      hfirst 1 (by decide)] at h ⊢
    exact h
  rw [embeddedScope, if_pos hembeds, octets_withScope, u16be_skip (Nat.le_of_eq htwo), htwo,
    u16be_append]

theorem clearScope_eq_withScope (ip : Ip.V6) : ip.clearScope = ip.withScope 0 := rfl

theorem withScope_withScope (ip : Ip.V6) (scope other : UInt16) :
    (ip.withScope scope).withScope other = ip.withScope other := by
  have htwo := ip.length_take_two
  have hfour : (ip.octets.take 2 ++ bigEndian 2 scope.toNat).length = 4 := by
    simp [htwo]
  have hhead : (ip.withScope scope).octets.take 2 = ip.octets.take 2 := by
    rw [octets_withScope, List.take_left' htwo]
  have htail : (ip.withScope scope).octets.drop 4 = ip.octets.drop 4 := by
    rw [octets_withScope, ← List.append_assoc, List.drop_left' hfour]
  rw [withScope, hhead, htail, withScope]

/-- An address whose octets 2 and 3 are clear stays as it is when they are cleared. -/
theorem clearScope_of_clear (hhigh : byteAt ip.octets 2 = 0) (hlow : byteAt ip.octets 3 = 0) :
    ip.clearScope = ip := by
  obtain ⟨octets, hlength⟩ := ip
  match octets, hlength, hhigh, hlow with
  | first :: second :: third :: fourth :: rest, hlength, hhigh, hlow =>
    obtain rfl : third = 0 := hhigh
    obtain rfl : fourth = 0 := hlow
    exact ofBytes_octets ⟨_, hlength⟩

end Ip.V6

/-! ### Both forms of an address -/

/-- The 28 octets of an IPv6 socket address: length and family, port, flow information, the
address, and the scope in the byte order of the machine. -/
def SocketV6.wire (a : SocketV6) : Bytes :=
  [28, 30] ++ bigEndian 2 a.port.toNat ++ bigEndian 4 a.flowInfo.toNat ++ a.ip.octets ++
    littleEndian 4 a.scopeId.toNat

theorem SocketV6.wire_eq (a : SocketV6) : a.wire = (SockAddr.v6 a).encode := by
  have hlength : 1 + (SockAddr.v6 a).tail.length = 28 := by
    rw [← SockAddr.length_encode, SockAddr.length_encode_v6]
  rw [SockAddr.encode, hlength]
  rfl

/-- A scope inside the address is read as the scope of the address, whatever the field says. -/
theorem SocketV6.relocateScope_withScope {ip : Ip.V6} {port : UInt16} {flowInfo scopeField : UInt32}
    {scope : UInt16} (hembeds : ip.embedsScope = true) (hhigh : byteAt ip.octets 2 = 0)
    (hlow : byteAt ip.octets 3 = 0) (hscope : scope ≠ 0) :
    relocateScope ⟨ip.withScope scope, port, flowInfo, scopeField⟩ =
      ⟨ip, port, flowInfo, scope.toUInt32⟩ := by
  have hembedded := Ip.V6.embeddedScope_withScope hembeds scope
  have hcleared : (ip.withScope scope).clearScope = ip := by
    rw [Ip.V6.clearScope_eq_withScope, Ip.V6.withScope_withScope, ← Ip.V6.clearScope_eq_withScope,
      Ip.V6.clearScope_of_clear hhigh hlow]
  simp only [relocateScope, hembedded, hscope, if_false, hcleared]

theorem SocketV6.relocateScope_of_not_carriesScope {a : SocketV6} (h : ¬ a.ip.CarriesScope) :
    a.relocateScope = a := if_pos (Ip.V6.embeddedScope_eq_zero_iff.mpr h)

/-- What is read has no scope left inside the address. -/
theorem SockAddr.not_carriesScope_of_read {raw : Bytes} {a : SocketV6}
    (h : decode? raw = some (v6 a) ∨ decodeNetmask? raw = some (v6 a)) : ¬ a.ip.CarriesScope := by
  have hcanonical : (v6 a).Canonical := by
    rcases h with haddress | hmask
    · exact canonical_of_decode? haddress
    · exact (canonical_of_decodeNetmask? hmask).1
  exact Ip.V6.embeddedScope_eq_zero_iff.mp hcanonical

/-! ### Addresses out of range -/

theorem SocketV6.wire_ofWire {wire : Bytes} (hlength : byteAt wire 0 = 28)
    (hfamily : byteAt wire 1 = 30) :
    SocketV6.wire ⟨.ofBytes (field wire 8 16), u16be wire 2, u32be wire 4, u32le wire 24⟩ =
      resize 28 wire := by
  have hip : (Ip.V6.ofBytes (field wire 8 16)).octets = field wire 8 16 :=
    resize_of_length (length_field wire 8 16)
  have htag : [28, 30] = field wire 0 2 := by
    rw [field_succ, field_succ, field_zero, hlength, hfamily]
  simp only [SocketV6.wire, hip, bigEndian_u16be, bigEndian_u32be, littleEndian_u32le, htag]
  rw [field_append_field wire 0 2 2, field_append_field wire 0 4 4, field_append_field wire 0 8 16,
    field_append_field wire 0 24 4]
  rfl

/-- A whole address that has no scope inside it is read as it stands there. -/
theorem SockAddr.decode?_of_not_isScoped {raw : Bytes} (hall : 28 ≤ raw.length)
    (hlength : byteAt raw 0 = 28) (hfamily : byteAt raw 1 = 30)
    (hrange : ¬ (Ip.V6.ofBytes (field raw 8 16)).IsScoped) :
    decode? raw = some (v6
      ⟨.ofBytes (field raw 8 16), u16be raw 2, u32be raw 4, u32le raw 24⟩) := by
  have hdeclared : declaredLength raw = 28 := by
    rw [declaredLength, hlength]
    rfl
  have hinet6 : Family.ofBytes? raw = some .inet6 := by
    rw [Family.ofBytes?_of_le (by omega), hfamily]
    rfl
  have hembedded : (Ip.V6.ofBytes (field raw 8 16)).embeddedScope = 0 :=
    if_neg (mt Ip.V6.isScoped_iff.mpr hrange)
  have hread : SocketV6.form.decode? raw = some (SocketV6.ofWire (raw.take 28)) := by
    have hroom : declaredLength raw ≤ SocketV6.form.capacity := Nat.le_of_eq hdeclared
    rw [Form.decode?_eq hinet6 rfl (by omega) hroom, declaredOctets, hdeclared, if_pos hall]
    rfl
  rw [decode?_of_inet6 hinet6, hread, Option.map_some, SocketV6.ofWire]
  simp only [u16be, u32be, u32le, field_take (show 8 + 16 ≤ 28 by decide),
    field_take (show 2 + 2 ≤ 28 by decide), field_take (show 4 + 4 ≤ 28 by decide),
    field_take (show 24 + 4 ≤ 28 by decide)]
  rw [SocketV6.relocateScope, if_pos hembedded]

/-- **Both forms of a scoped address are read as the same address, and no other address is
touched.** The scope inside an address wins over the field behind it. Whatever is read,
as an address or as a mask, has no scope inside it. An address out of the range comes back
as the 28 octets that it was read from. -/
theorem scope_forms_agree :
    (∀ (ip : Ip.V6) (port : UInt16) (flowInfo scopeField : UInt32) (scope : UInt16) (rest : Bytes),
      ip.IsScoped → byteAt ip.octets 2 = 0 → byteAt ip.octets 3 = 0 → scope ≠ 0 →
        SockAddr.decode? (SocketV6.wire ⟨ip.withScope scope, port, flowInfo, scopeField⟩ ++ rest) =
            some (.v6 ⟨ip, port, flowInfo, scope.toUInt32⟩) ∧
          SockAddr.decode? (SocketV6.wire ⟨ip, port, flowInfo, scope.toUInt32⟩ ++ rest) =
            some (.v6 ⟨ip, port, flowInfo, scope.toUInt32⟩)) ∧
      (∀ raw a, SockAddr.decode? raw = some (.v6 a) ∨ SockAddr.decodeNetmask? raw = some (.v6 a) →
        a.ip.IsScoped → byteAt a.ip.octets 2 = 0 ∧ byteAt a.ip.octets 3 = 0) ∧
      ∀ raw : Bytes, 28 ≤ raw.length → byteAt raw 0 = 28 → byteAt raw 1 = 30 →
        ¬ (Ip.V6.ofBytes (field raw 8 16)).IsScoped →
          ∃ a : SocketV6, SockAddr.decode? raw = some (.v6 a) ∧ a.wire = raw.take 28 := by
  refine ⟨fun ip port flowInfo scopeField scope rest hscoped hhigh hlow hscope => ⟨?_, ?_⟩,
    fun raw a hread hscoped => ?_, fun raw hall hlength hfamily hrange => ?_⟩
  · have hembeds := Ip.V6.isScoped_iff.mp hscoped
    rw [SocketV6.wire_eq, SockAddr.decode?_encode_v6,
      SocketV6.relocateScope_withScope hembeds hhigh hlow hscope]
  · have hclear : ¬ ip.CarriesScope := fun hcarries => hcarries.2.elim (· hhigh) (· hlow)
    rw [SocketV6.wire_eq, SockAddr.decode?_encode_v6,
      SocketV6.relocateScope_of_not_carriesScope hclear]
  · have hclear := SockAddr.not_carriesScope_of_read hread
    have hembeds := Ip.V6.isScoped_iff.mp hscoped
    rw [Ip.V6.embedsScope, Bool.or_eq_true] at hembeds
    rw [Ip.V6.CarriesScope, and_iff_right hembeds, not_or] at hclear
    exact ⟨Decidable.not_not.mp hclear.1, Decidable.not_not.mp hclear.2⟩
  · refine ⟨_, SockAddr.decode?_of_not_isScoped hall hlength hfamily hrange, ?_⟩
    rw [SocketV6.wire_ofWire hlength hfamily, resize_of_le hall]

/-- fe80::1. -/
def Sample.linkLocal : Ip.V6 := ⟨[0xfe, 0x80, 0, 0, 0, 0, 0, 0, 0, 0, 0, 0, 0, 0, 0, 1], rfl⟩

/-- The multicast group ff12::fb with scope 3 in it, and 9 in the field behind it. -/
def Sample.narrowGroup : Bytes :=
  [28, 30, 0x14, 0xe9, 0, 0, 0, 0, 0xff, 0x12, 0, 3, 0, 0, 0, 0, 0, 0, 0, 0, 0, 0, 0, 0xfb,
   9, 0, 0, 0]

/-- 2001:db8:1::1, whose octets 2 and 3 are part of the address, under scope 5. -/
def Sample.globalAddress : Bytes :=
  [28, 30, 0x1f, 0x90, 0, 0, 0, 1, 0x20, 0x01, 0x0d, 0xb8, 0, 1, 0, 0, 0, 0, 0, 0, 0, 0, 0, 1,
   5, 0, 0, 0]

/-- Scope 7 inside fe80::1 wins over 99 in the field, and 2001:db8:1::1 keeps all its octets. -/
theorem scope_forms_agree_link_local :
    ((Sample.linkLocal.IsScoped ∧ byteAt Sample.linkLocal.octets 2 = 0 ∧
        byteAt Sample.linkLocal.octets 3 = 0 ∧ (7 : UInt16) ≠ 0) ∧
      SockAddr.decode? (SocketV6.wire ⟨Sample.linkLocal.withScope 7, 80, 1, 99⟩ ++ [1, 2]) =
        some (.v6 ⟨Sample.linkLocal, 80, 1, 7⟩) ∧
      SockAddr.decode? (SocketV6.wire ⟨Sample.linkLocal, 80, 1, 7⟩ ++ [1, 2]) =
        some (.v6 ⟨Sample.linkLocal, 80, 1, 7⟩)) ∧
      (∃ a, SockAddr.decode? Sample.narrowGroup = some (.v6 a) ∧ a.ip.IsScoped ∧
        byteAt a.ip.octets 2 = 0 ∧ byteAt a.ip.octets 3 = 0) ∧
      (28 ≤ Sample.globalAddress.length ∧ byteAt Sample.globalAddress 0 = 28 ∧
        byteAt Sample.globalAddress 1 = 30 ∧
        ¬ (Ip.V6.ofBytes (field Sample.globalAddress 8 16)).IsScoped) ∧
      ∃ a : SocketV6, SockAddr.decode? Sample.globalAddress = some (.v6 a) ∧
        a.wire = Sample.globalAddress := by
  obtain ⟨hforms, hclear, hkept⟩ := scope_forms_agree
  have hscoped : Sample.linkLocal.IsScoped := by decide
  have hscope : (7 : UInt16) ≠ 0 := by decide
  have hgroup : SockAddr.decode? Sample.narrowGroup =
      some (.v6 ⟨⟨[0xff, 0x12, 0, 0, 0, 0, 0, 0, 0, 0, 0, 0, 0, 0, 0, 0xfb], rfl⟩, 5353, 0, 3⟩) := by
    decide
  have hnarrow : Ip.V6.IsScoped
      ⟨[0xff, 0x12, 0, 0, 0, 0, 0, 0, 0, 0, 0, 0, 0, 0, 0, 0xfb], rfl⟩ := by decide
  have hrange : ¬ (Ip.V6.ofBytes (field Sample.globalAddress 8 16)).IsScoped := by decide
  exact ⟨⟨⟨hscoped, rfl, rfl, hscope⟩,
      hforms Sample.linkLocal 80 1 99 7 [1, 2] hscoped rfl rfl hscope⟩,
    ⟨_, hgroup, hnarrow, hclear _ _ (.inl hgroup) hnarrow⟩,
    ⟨by decide, rfl, rfl, hrange⟩, hkept Sample.globalAddress (by decide) rfl rfl hrange⟩

end InterfaceDump
