import InterfaceDump.Address.Netmask
import InterfaceDump.Proofs.Address.Link

/-! Addresses as reading leaves them.

Reading forgets things: which fields lay past a short declared length, what stood
in the room behind an IPv4 address, where the scope of an IPv6 address was, a name
that is no text. What it leaves is `Canonical` (`canonical_of_decode?`): no scope is
inside an address, and no name, hardware address or opaque address is longer than
a record has room for. A canonical address is written so that it is read back as it
was, whatever follows it (`decode?_encode_of_canonical`). What a mask is read as is
canonical too, and is written so that it is not taken for a mask with octets
missing (`IsComplete`). `decode_stable` puts this together: reading once more
changes nothing. -/
namespace InterfaceDump
open Bytes

/-! ### Forms -/

theorem Form.decode?_eq_some_iff {α : Type} {form : Form α} {raw : Bytes} {a : α} :
    form.decode? raw = some a ↔
      (∃ family, Family.ofBytes? raw = some family ∧ form.accepts family = true) ∧
        2 ≤ declaredLength raw ∧ declaredLength raw ≤ form.capacity ∧
        declaredLength raw ≤ raw.length ∧ form.ofWire (raw.take (declaredLength raw)) = a := by
  unfold Form.decode?
  cases Family.ofBytes? raw with
  | none => simp
  | some family =>
    simp only [Option.bind_eq_bind, Option.bind_some, Option.ite_none_right_eq_some,
      Option.some.injEq, exists_eq_left', and_assoc]

/-- Octets that declare their own number are read whole, and nothing behind them is. -/
theorem Form.decode?_append {α : Type} (form : Form α) {b rest : Bytes} {family : Family}
    (hfamily : Family.ofBytes? (b ++ rest) = some family) (haccepts : form.accepts family = true)
    (hdeclared : declaredLength (b ++ rest) = b.length) (hlow : 2 ≤ b.length)
    (hroom : b.length ≤ form.capacity) : form.decode? (b ++ rest) = some (form.ofWire b) := by
  rw [Form.decode?_eq_some_iff, hdeclared, List.take_left, List.length_append]
  exact ⟨⟨family, hfamily, haccepts⟩, hlow, hroom, Nat.le_add_right _ _, rfl⟩

@[simp] theorem SocketV4.form_ofWire : SocketV4.form.ofWire = SocketV4.ofWire := rfl

@[simp] theorem SocketV6.form_ofWire : SocketV6.form.ofWire = SocketV6.ofWire := rfl

@[simp] theorem OpaqueAddress.form_ofWire : OpaqueAddress.form.ofWire = OpaqueAddress.ofWire := rfl

/-! ### What is written -/

namespace SockAddr

theorem ofBytes?_encode (a : SockAddr) (rest : Bytes) :
    Family.ofBytes? (a.encode ++ rest) = some a.family := by
  cases a <;> rfl

theorem length_encode (a : SockAddr) : a.encode.length = 1 + a.tail.length := by
  rw [encode, List.length_cons, Nat.add_comm]

theorem length_encode_v4 (a : SocketV4) : (v4 a).encode.length = 16 := by
  simp [length_encode, tail, a.ip.length_octets]

theorem length_encode_v6 (a : SocketV6) : (v6 a).encode.length = 28 := by
  simp [length_encode, tail, a.ip.length_octets]

theorem length_encode_other {a : OpaqueAddress} (h : a.data.length + 2 ≤ storageLength) :
    (other a).encode.length = a.data.length + 2 := by
  simp only [length_encode, tail, List.length_cons, List.length_take, longestAddress,
    storageLength] at h ⊢
  omega

/-- What is written has the two octets that every address has, and no more than can be counted. -/
theorem length_encode_bounds (a : SockAddr) : 2 ≤ a.encode.length ∧ a.encode.length ≤ 255 := by
  cases a with
  | v4 a =>
    rw [length_encode_v4]
    decide
  | v6 a =>
    rw [length_encode_v6]
    decide
  | link a =>
    have hlength := a.length_encode
    have hwire := a.length_wire
    rw [LinkAddress.headerLength] at hlength
    omega
  | other a =>
    have hdata : (a.data.take 253).length ≤ 253 := List.length_take_le _ _
    have hlength : (other a).encode.length = (a.data.take 253).length + 2 := rfl
    omega

/-- The length octet counts every octet of an address. -/
theorem declaredLength_encode (a : SockAddr) (rest : Bytes) :
    declaredLength (a.encode ++ rest) = a.encode.length := by
  have hbounds := a.length_encode_bounds
  rw [length_encode] at hbounds ⊢
  rw [declaredLength, encode, List.cons_append, byteAt_cons_zero,
    UInt8.toNat_ofNat_of_lt' (show _ < 256 by omega)]

end SockAddr

/-! ### Written and read again -/

theorem SocketV4.ofWire_encode (a : SocketV4) : SocketV4.ofWire (SockAddr.v4 a).encode = a := by
  have hip : field (SockAddr.v4 a).encode 4 4 = a.ip.octets := by
    have hself := field_append_self (a := a.ip.octets) (b := List.replicate 8 0)
    rw [a.ip.length_octets] at hself
    rw [SockAddr.encode, SockAddr.tail, List.append_assoc, ← List.cons_append,
      field_append_right (by simp)]
    simpa using hself
  have hport : u16be (SockAddr.v4 a).encode 2 = a.port := by
    simp [SockAddr.encode, SockAddr.tail]
  rw [ofWire, hip, hport, Ip.V4.ofBytes_octets]

/-- Only a scope inside the address is read from somewhere else than it was written. -/
theorem SocketV6.ofWire_encode (a : SocketV6) :
    SocketV6.ofWire (SockAddr.v6 a).encode = a.relocateScope := by
  have hencode : (SockAddr.v6 a).encode = UInt8.ofNat (1 + (SockAddr.v6 a).tail.length) ::
      Family.inet6.code :: (bigEndian 2 a.port.toNat ++ (bigEndian 4 a.flowInfo.toNat ++
        (a.ip.octets ++ (littleEndian 4 a.scopeId.toNat ++ [])))) := by
    simp only [SockAddr.encode, SockAddr.tail, List.cons_append, List.append_assoc,
      List.append_nil]
  have hip : field (SockAddr.v6 a).encode 8 16 = a.ip.octets := by
    have hself := field_append_self (a := a.ip.octets) (b := littleEndian 4 a.scopeId.toNat ++ [])
    rw [a.ip.length_octets] at hself
    rw [hencode, ← List.append_assoc, ← List.cons_append, ← List.cons_append,
      field_append_right (by simp)]
    simpa using hself
  have hport : u16be (SockAddr.v6 a).encode 2 = a.port := by
    simp [hencode]
  have hflow : u32be (SockAddr.v6 a).encode 4 = a.flowInfo := by
    simp [hencode, u32be_skip]
  have hscope : u32le (SockAddr.v6 a).encode 24 = a.scopeId := by
    rw [hencode]
    simp [u32le_skip, a.ip.length_octets, -List.append_nil]
  rw [ofWire, hip, hport, hflow, hscope, Ip.V6.ofBytes_octets]

theorem OpaqueAddress.ofWire_encode {a : OpaqueAddress} (h : a.data.length + 2 ≤ storageLength) :
    OpaqueAddress.ofWire (SockAddr.other a).encode = a := by
  have hdata : a.data.take (longestAddress - 2) = a.data := by
    refine List.take_of_length_le ?_
    simp only [longestAddress, storageLength] at h ⊢
    omega
  rw [SockAddr.encode, SockAddr.tail, hdata]
  rfl

/-! ### Canonical addresses -/

/-- Families without a form of their own; their addresses are kept as octets. -/
def Family.isOpaque : Family → Bool
  | inet | inet6 | link => false
  | unspecified | other _ => true

namespace SockAddr

/-- The addresses that reading can give. -/
def Canonical : SockAddr → Prop
  | v4 _ => True
  | v6 a => a.ip.embeddedScope = 0
  | link a => a.IsShort
  | other a => (Family.ofCode a.family).isOpaque = true ∧ a.data.length + 2 ≤ storageLength

section Dispatch
variable {raw : Bytes} {family : Family}

theorem decode?_of_inet (h : Family.ofBytes? raw = some .inet) :
    decode? raw = (SocketV4.form.decode? raw).map .v4 := by
  rw [decode?, h]
  rfl

theorem decode?_of_inet6 (h : Family.ofBytes? raw = some .inet6) :
    decode? raw = (SocketV6.form.decode? raw).map .v6 := by
  rw [decode?, h]
  rfl

theorem decode?_of_link (h : Family.ofBytes? raw = some .link) :
    decode? raw = (LinkAddress.form.decode? raw).map .link := by
  rw [decode?, h]
  rfl

theorem decode?_of_isOpaque (h : Family.ofBytes? raw = some family)
    (hother : family.isOpaque = true) :
    decode? raw = (OpaqueAddress.form.decode? raw).map .other := by
  rw [decode?, h]
  cases family with
  | inet => exact nomatch hother
  | inet6 => exact nomatch hother
  | link => exact nomatch hother
  | unspecified => rfl
  | other code => rfl

end Dispatch

theorem length_encode_le {a : SockAddr} (h : a.Canonical) : a.encode.length ≤ storageLength := by
  cases a with
  | v4 a =>
    rw [length_encode_v4]
    decide
  | v6 a =>
    rw [length_encode_v6]
    decide
  | link a => exact a.length_encode_le_iff.mpr h
  | other a =>
    rw [length_encode_other h.2]
    exact h.2

/-- An IPv6 address is read back with its scope outside the address. -/
theorem decode?_encode_v6 (a : SocketV6) (rest : Bytes) :
    decode? ((v6 a).encode ++ rest) = some (v6 a.relocateScope) := by
  have hlength := length_encode_v6 a
  have hfamily := (v6 a).ofBytes?_encode rest
  have hdeclared := (v6 a).declaredLength_encode rest
  have hread := SocketV6.form.decode?_append hfamily rfl hdeclared
    (by omega) (Nat.le_of_eq hlength)
  rw [decode?_of_inet6 hfamily, hread, Option.map_some, SocketV6.form_ofWire, a.ofWire_encode]

/-- **A canonical address is read back as it was written**, whatever follows it. -/
theorem decode?_encode_of_canonical {a : SockAddr} (h : a.Canonical) (rest : Bytes) :
    decode? (a.encode ++ rest) = some a := by
  have hfamily := a.ofBytes?_encode rest
  have hdeclared := a.declaredLength_encode rest
  cases a with
  | v4 a =>
    have hlength := length_encode_v4 a
    have hread := SocketV4.form.decode?_append hfamily rfl hdeclared
      (by omega) (Nat.le_of_eq hlength)
    rw [decode?_of_inet hfamily, hread, Option.map_some, SocketV4.form_ofWire, a.ofWire_encode]
  | v6 a =>
    have hscope : a.ip.embeddedScope = 0 := h
    have hstays : a.relocateScope = a := if_pos hscope
    rw [decode?_encode_v6, hstays]
  | link a =>
    rw [decode?_of_link hfamily, LinkAddress.decode?_encode_of_isShort h rest, Option.map_some]
  | other a =>
    have hlength := length_encode_other h.2
    have hread := OpaqueAddress.form.decode?_append hfamily rfl hdeclared
      (by omega) (length_encode_le h)
    rw [decode?_of_isOpaque hfamily h.1, hread, Option.map_some, OpaqueAddress.form_ofWire,
      OpaqueAddress.ofWire_encode h.2]

end SockAddr

/-! ### What reading gives -/

theorem Ip.V6.length_take_two (ip : Ip.V6) : (ip.octets.take 2).length = 2 := by
  rw [List.length_take, ip.length_octets]
  rfl

/-- A cleared address has no scope in it. -/
theorem Ip.V6.embeddedScope_clearScope (ip : Ip.V6) : ip.clearScope.embeddedScope = 0 := by
  have hlength := ip.length_take_two
  have hcleared : u16be ip.clearScope.octets 2 = 0 := by
    have hfield : ip.clearScope.octets =
        field (ip.octets.take 2 ++ (bigEndian 2 (0 : UInt16).toNat ++ ip.octets.drop 4)) 0 16 := by
      rw [← List.append_assoc]
      rfl
    rw [hfield, u16be, field_field (by decide), ← u16be, u16be_skip (by omega), hlength,
      u16be_append]
  show (if ip.clearScope.embedsScope then u16be ip.clearScope.octets 2 else 0) = 0
  rw [hcleared, ite_self]

theorem SocketV6.embeddedScope_relocateScope (a : SocketV6) :
    a.relocateScope.ip.embeddedScope = 0 := by
  unfold relocateScope
  split
  · next hscope => exact hscope
  · exact a.ip.embeddedScope_clearScope

theorem LinkAddress.isShort_ofWire {wire : Bytes} (h : wire.length ≤ storageLength) :
    (ofWire wire).IsShort := by
  simp only [ofWire]
  split
  · next hfits =>
    have hname := Text.Utf8.length_encode_decode_le
      (field wire headerLength (byteAt wire 5).toNat)
    rw [length_field] at hname
    simp only [Fits, headerLength, storageLength] at hfits h hname
    simp only [IsShort, length_field, headerLength]
    omega
  · exact Nat.zero_le 120

namespace SockAddr
variable {raw : Bytes}

theorem canonical_of_v6 {a : SocketV6} (h : SocketV6.form.decode? raw = some a) :
    (v6 a).Canonical := by
  obtain ⟨-, -, -, -, rfl⟩ := Form.decode?_eq_some_iff.mp h
  exact SocketV6.embeddedScope_relocateScope _

/-- An address of link-layer form is short, since a record has no room for a long one. -/
theorem canonical_of_link {a : LinkAddress} (h : LinkAddress.form.decode? raw = some a) :
    (link a).Canonical := by
  obtain ⟨-, -, hroom, -, rfl⟩ := Form.decode?_eq_some_iff.mp h
  refine LinkAddress.isShort_ofWire ?_
  rw [List.length_take]
  exact Nat.le_trans (Nat.min_le_left _ _) hroom

/-- An opaque address keeps its family and all of its declared octets. -/
theorem opaque_of_decode? {family : Family} {a : OpaqueAddress}
    (hfamily : Family.ofBytes? raw = some family) (h : OpaqueAddress.form.decode? raw = some a) :
    Family.ofCode a.family = family ∧ a.data.length + 2 = declaredLength raw := by
  obtain ⟨-, hlow, -, hall, rfl⟩ := Form.decode?_eq_some_iff.mp h
  obtain ⟨code, hcode, rfl⟩ := Option.map_eq_some_iff.mp hfamily
  rw [OpaqueAddress.form_ofWire]
  constructor
  · show Family.ofCode (byteAt (raw.take (declaredLength raw)) 1) = _
    rw [byteAt_take (by omega), byteAt, List.getD_eq_getElem?_getD, hcode, Option.getD_some]
  · simp only [OpaqueAddress.ofWire, List.length_drop, List.length_take]
    omega

theorem canonical_of_opaque {family : Family} {a : OpaqueAddress}
    (hfamily : Family.ofBytes? raw = some family) (hother : family.isOpaque = true)
    (h : OpaqueAddress.form.decode? raw = some a) : (other a).Canonical := by
  obtain ⟨hcode, hlength⟩ := opaque_of_decode? hfamily h
  obtain ⟨-, -, hroom, -, -⟩ := Form.decode?_eq_some_iff.mp h
  refine ⟨?_, ?_⟩
  · rw [hcode]
    exact hother
  · rw [hlength]
    exact hroom

/-- What an address is read as: it has the form of its family. -/
inductive Reads (raw : Bytes) : SockAddr → Prop where
  | v4 {a : SocketV4} (h : SocketV4.form.decode? raw = some a) : Reads raw (v4 a)
  | v6 {a : SocketV6} (h : SocketV6.form.decode? raw = some a) : Reads raw (v6 a)
  | link {a : LinkAddress} (h : LinkAddress.form.decode? raw = some a) : Reads raw (link a)
  | other {a : OpaqueAddress} {family : Family} (hfamily : Family.ofBytes? raw = some family)
      (hother : family.isOpaque = true) (h : OpaqueAddress.form.decode? raw = some a) :
      Reads raw (other a)

theorem reads_of_decode? {a : SockAddr} (h : decode? raw = some a) : Reads raw a := by
  cases hfamily : Family.ofBytes? raw with
  | none =>
    rw [decode?, hfamily] at h
    exact nomatch h
  | some family =>
    by_cases hother : family.isOpaque = true
    · rw [decode?_of_isOpaque hfamily hother] at h
      obtain ⟨x, hx, rfl⟩ := Option.map_eq_some_iff.mp h
      exact .other hfamily hother hx
    · cases family with
      | inet =>
        rw [decode?_of_inet hfamily] at h
        obtain ⟨x, hx, rfl⟩ := Option.map_eq_some_iff.mp h
        exact .v4 hx
      | inet6 =>
        rw [decode?_of_inet6 hfamily] at h
        obtain ⟨x, hx, rfl⟩ := Option.map_eq_some_iff.mp h
        exact .v6 hx
      | link =>
        rw [decode?_of_link hfamily] at h
        obtain ⟨x, hx, rfl⟩ := Option.map_eq_some_iff.mp h
        exact .link hx
      | unspecified => exact absurd rfl hother
      | other code => exact absurd rfl hother

/-- **Whatever is read is canonical.** -/
theorem canonical_of_decode? {a : SockAddr} (h : decode? raw = some a) : a.Canonical := by
  cases reads_of_decode? h with
  | v4 _ => trivial
  | v6 hread => exact canonical_of_v6 hread
  | link hread => exact canonical_of_link hread
  | other hfamily hother hread => exact canonical_of_opaque hfamily hother hread

/-! ### Masks -/

/-- The declared length stands for a mask of which octets are missing. -/
def Shortened (family : Family) (declared : Nat) : Prop :=
  match family with
  | .inet => 2 ≤ declared ∧ declared < 16
  | .unspecified => (2 ≤ declared ∧ declared ≤ 16) ∨ declared = 28
  | _ => False

/-- A mask that is not completed is read like any other address. -/
theorem decodeNetmask?_eq_decode? {family : Family} (hfamily : Family.ofBytes? raw = some family)
    (h : ¬ Shortened family (declaredLength raw)) : decodeNetmask? raw = decode? raw := by
  rw [decodeNetmask?, hfamily]
  cases family with
  | inet => exact if_neg h
  | unspecified =>
    obtain ⟨hshort, hlong⟩ := not_or.mp h
    exact (if_neg hshort).trans (if_neg hlong)
  | inet6 => rfl
  | link => rfl
  | other code => rfl

/-- What a mask is read as: an address that it was completed to, or the one that it is. -/
inductive ReadsMask (raw : Bytes) : SockAddr → Prop where
  | v4 {full : Bytes} {a : SocketV4} (h : SocketV4.form.decode? full = some a) :
      ReadsMask raw (v4 a)
  | v6 {full : Bytes} {a : SocketV6} (h : SocketV6.form.decode? full = some a) :
      ReadsMask raw (v6 a)
  | asIs {a : SockAddr} {family : Family} (hfamily : Family.ofBytes? raw = some family)
      (hwhole : ¬ Shortened family (declaredLength raw)) (h : decode? raw = some a) :
      ReadsMask raw a

theorem readsMask_of_completed_v4 {m : SockAddr}
    (h : (completeMask? raw 16 .inet).bind (fun full => (SocketV4.form.decode? full).map v4) =
      some m) : ReadsMask raw m := by
  obtain ⟨full, -, hfull⟩ := Option.bind_eq_some_iff.mp h
  obtain ⟨x, hx, rfl⟩ := Option.map_eq_some_iff.mp hfull
  exact .v4 hx

theorem readsMask_of_decodeNetmask? {m : SockAddr} (h : decodeNetmask? raw = some m) :
    ReadsMask raw m := by
  cases hfamily : Family.ofBytes? raw with
  | none =>
    rw [decodeNetmask?, hfamily] at h
    exact nomatch h
  | some family =>
    by_cases hshort : Shortened family (declaredLength raw)
    · rw [decodeNetmask?, hfamily] at h
      cases family with
      | inet =>
        exact readsMask_of_completed_v4 ((if_pos hshort).symm.trans h)
      | unspecified =>
        by_cases hv4 : 2 ≤ declaredLength raw ∧ declaredLength raw ≤ 16
        · exact readsMask_of_completed_v4 ((if_pos hv4).symm.trans h)
        · have hv6 : declaredLength raw = 28 := hshort.resolve_left hv4
          have hcompleted := (if_pos hv6).symm.trans ((if_neg hv4).symm.trans h)
          obtain ⟨full, -, hfull⟩ := Option.bind_eq_some_iff.mp hcompleted
          obtain ⟨x, hx, rfl⟩ := Option.map_eq_some_iff.mp hfull
          exact .v6 hx
      | inet6 => exact absurd hshort id
      | link => exact absurd hshort id
      | other code => exact absurd hshort id
    · rw [decodeNetmask?_eq_decode? hfamily hshort] at h
      exact .asIs hfamily hshort h

/-- As a mask, the address is written with no octet missing. -/
def IsComplete (m : SockAddr) : Prop := ¬ Shortened m.family m.encode.length

theorem isComplete_v4 (a : SocketV4) : (v4 a).IsComplete := by
  rw [IsComplete, length_encode_v4]
  rintro ⟨-, hlt⟩
  exact absurd hlt (by decide)

theorem canonical_of_decodeNetmask? {m : SockAddr} (h : decodeNetmask? raw = some m) :
    m.Canonical ∧ m.IsComplete := by
  cases readsMask_of_decodeNetmask? h with
  | v4 _ => exact ⟨trivial, isComplete_v4 _⟩
  | v6 hread => exact ⟨canonical_of_v6 hread, id⟩
  | asIs hfamily hwhole hread =>
    have hcanonical := canonical_of_decode? hread
    refine ⟨hcanonical, ?_⟩
    cases reads_of_decode? hread with
    | v4 _ => exact isComplete_v4 _
    | v6 _ => exact id
    | link _ => exact id
    | other hfamily' _ hother =>
      -- An opaque mask is written at the length that it was found at.
      obtain rfl := Option.some.inj (hfamily.symm.trans hfamily')
      obtain ⟨hcode, hlength⟩ := opaque_of_decode? hfamily hother
      rw [IsComplete, length_encode_other hcanonical.2, hlength]
      show ¬ Shortened (Family.ofCode _) _
      rwa [hcode]

/-- **A mask is read back as it was written**, whatever follows it. -/
theorem decodeNetmask?_encode_of_canonical {m : SockAddr} (h : m.Canonical) (hm : m.IsComplete)
    (rest : Bytes) : decodeNetmask? (m.encode ++ rest) = some m := by
  rw [← decode?_encode_of_canonical h rest]
  apply decodeNetmask?_eq_decode? (m.ofBytes?_encode rest)
  rw [declaredLength_encode]
  exact hm

end SockAddr

/-- **Reading once more changes nothing**: what an address or a mask was read as is written
so that it is read as the same again. -/
theorem decode_stable (raw rest : Bytes) :
    (∀ a, SockAddr.decode? raw = some a → SockAddr.decode? (a.encode ++ rest) = some a) ∧
      ∀ m, SockAddr.decodeNetmask? raw = some m →
        SockAddr.decodeNetmask? (m.encode ++ rest) = some m ∧
          SockAddr.decode? (m.encode ++ rest) = some m := by
  constructor
  · intro a h
    exact SockAddr.decode?_encode_of_canonical (SockAddr.canonical_of_decode? h) rest
  · intro m h
    obtain ⟨hcanonical, hcomplete⟩ := SockAddr.canonical_of_decodeNetmask? h
    exact ⟨SockAddr.decodeNetmask?_encode_of_canonical hcanonical hcomplete rest,
      SockAddr.decode?_encode_of_canonical hcanonical rest⟩

/-- Seven octets without a family: an opaque address, and a mask of 24 bits. -/
theorem decode_stable_short_mask :
    (SockAddr.decode? [7, 0, 0, 0, 255, 255, 255] = some (.other ⟨0, [0, 0, 255, 255, 255]⟩) ∧
      SockAddr.decode? ((SockAddr.other ⟨0, [0, 0, 255, 255, 255]⟩).encode ++ [1, 2]) =
        some (.other ⟨0, [0, 0, 255, 255, 255]⟩)) ∧
      SockAddr.decodeNetmask? [7, 0, 0, 0, 255, 255, 255] =
        some (.v4 ⟨.ofBytes [255, 255, 255], 0⟩) ∧
      SockAddr.decodeNetmask? ((SockAddr.v4 ⟨.ofBytes [255, 255, 255], 0⟩).encode ++ [1, 2]) =
        some (.v4 ⟨.ofBytes [255, 255, 255], 0⟩) ∧
      SockAddr.decode? ((SockAddr.v4 ⟨.ofBytes [255, 255, 255], 0⟩).encode ++ [1, 2]) =
        some (.v4 ⟨.ofBytes [255, 255, 255], 0⟩) := by
  have haddress : SockAddr.decode? [7, 0, 0, 0, 255, 255, 255] =
      some (.other ⟨0, [0, 0, 255, 255, 255]⟩) := by decide
  have hmask : SockAddr.decodeNetmask? [7, 0, 0, 0, 255, 255, 255] =
      some (.v4 ⟨.ofBytes [255, 255, 255], 0⟩) := by decide
  obtain ⟨haddresses, hmasks⟩ := decode_stable [7, 0, 0, 0, 255, 255, 255] [1, 2]
  exact ⟨⟨haddress, haddresses _ haddress⟩, hmask, hmasks _ hmask⟩

end InterfaceDump
