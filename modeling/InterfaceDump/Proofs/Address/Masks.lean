import InterfaceDump.Proofs.Address.Declared

/-! Masks as addresses.

A mask that is stored without its trailing zeros is completed before it is read, and a
mask without its family is read as what its length says it is. An address of fixed size
(`Form.IsFixed`) gives the missing octets as zeros anyway, so completing changes nothing
but the family: a mask with a family is read as any address is
(`SockAddr.decodeNetmask?_of_family`), and one without as if the family stood in it
(`SockAddr.decodeNetmask?_of_unspecified`). It follows that an internet address may be cut
anywhere behind its last octet that is not zero (`SockAddr.decode?_shortened`). -/
namespace InterfaceDump
open Bytes

/-! ### Forms of fixed size -/

/-- The form takes the family, and gives a meaning to the octets behind the two leading
ones alone, as far as it has room. -/
structure Form.IsFixed {α : Type} (form : Form α) (family : Family) : Prop where
  accepts : form.accepts family = true
  ofCode_code : Family.ofCode family.code = family
  two_le : 2 ≤ form.capacity
  lt_256 : form.capacity < 256
  ofWire_congr : ∀ {a b : Bytes},
    field a 2 (form.capacity - 2) = field b 2 (form.capacity - 2) → form.ofWire a = form.ofWire b

theorem SocketV4.isFixed : SocketV4.form.IsFixed .inet where
  accepts := rfl
  ofCode_code := rfl
  two_le := by decide
  lt_256 := by decide
  ofWire_congr {a b} h := by
    have h : field a 2 14 = field b 2 14 := h
    have hport : ∀ c, u16be c 2 = u16be (field c 2 14) 0 := fun c => by
      rw [u16be, u16be, field_field (by decide)]
    have hip : ∀ c, field c 4 4 = field (field c 2 14) 2 4 := fun c => by
      rw [field_field (by decide)]
    rw [form_ofWire, ofWire, ofWire, hport a, hip a, h, ← hport b, ← hip b]

theorem SocketV6.isFixed : SocketV6.form.IsFixed .inet6 where
  accepts := rfl
  ofCode_code := rfl
  two_le := by decide
  lt_256 := by decide
  ofWire_congr {a b} h := by
    have h : field a 2 26 = field b 2 26 := h
    have hport : ∀ c, u16be c 2 = u16be (field c 2 26) 0 := fun c => by
      rw [u16be, u16be, field_field (by decide)]
    have hflow : ∀ c, u32be c 4 = u32be (field c 2 26) 2 := fun c => by
      rw [u32be, u32be, field_field (by decide)]
    have hip : ∀ c, field c 8 16 = field (field c 2 26) 6 16 := fun c => by
      rw [field_field (by decide)]
    have hscope : ∀ c, u32le c 24 = u32le (field c 2 26) 22 := fun c => by
      rw [u32le_field (by decide)]
    rw [form_ofWire, ofWire, ofWire, hport a, hflow a, hip a, hscope a, h, ← hport b, ← hflow b,
      ← hip b, ← hscope b]

namespace Form.IsFixed
variable {α : Type} {form : Form α} {family : Family} {raw : Bytes}

/-- Completing gives what the declared octets give when they are read as they are. -/
theorem decode?_completed {β : Type} (hform : form.IsFixed family) (wrap : α → β) (raw : Bytes) :
    ((completeMask? raw form.capacity family).bind fun full => (form.decode? full).map wrap) =
      if declaredLength raw ≤ raw.length then some (wrap (form.ofWire (declaredOctets raw)))
      else none := by
  rw [completeMask?, slice?_to_eq, ← declaredOctets]
  split
  · have htwo := hform.two_le
    let full := UInt8.ofNat form.capacity :: family.code ::
      field (declaredOctets raw) 2 (form.capacity - 2)
    have hlength : full.length = form.capacity := by
      simp only [full, List.length_cons, length_field]
      omega
    have hdeclared : declaredLength full = full.length := by
      rw [hlength]
      exact UInt8.toNat_ofNat_of_lt' hform.lt_256
    have hfamily : Family.ofBytes? full = some family := congrArg some hform.ofCode_code
    have hoctets : declaredOctets full = full := by
      rw [declaredOctets, hdeclared, List.take_length]
    have hsame : form.ofWire full = form.ofWire (declaredOctets raw) := by
      refine hform.ofWire_congr ?_
      show field (field (declaredOctets raw) 2 (form.capacity - 2)) 0 (form.capacity - 2) = _
      rw [field_field (by omega), Nat.add_zero]
    show (form.decode? full).map wrap = _
    rw [Form.decode?_eq hfamily hform.accepts (by omega) (by omega), if_pos (by omega), hoctets,
      hsame, Option.map_some]
  · rfl

theorem ofBytes?_set (hform : form.IsFixed family) (htwo : 2 ≤ raw.length) :
    Family.ofBytes? (raw.set 1 family.code) = some family := by
  rw [Family.ofBytes?, List.getElem?_set_self htwo, Option.map_some, hform.ofCode_code]

/-- Octets are read under a family that is put into them. -/
theorem decode?_set (hform : form.IsFixed family) (htwo : 2 ≤ raw.length)
    (hlow : 2 ≤ declaredLength raw) (hroom : declaredLength raw ≤ form.capacity) :
    form.decode? (raw.set 1 family.code) =
      if declaredLength raw ≤ raw.length then some (form.ofWire (declaredOctets raw))
      else none := by
  have hdeclared : declaredLength (raw.set 1 family.code) = declaredLength raw := by
    simp [declaredLength, byteAt, List.getD_eq_getElem?_getD]
  have hoctets : declaredOctets (raw.set 1 family.code) =
      (declaredOctets raw).set 1 family.code := by
    rw [declaredOctets, hdeclared, List.take_set, declaredOctets]
  have hsame : form.ofWire ((declaredOctets raw).set 1 family.code) =
      form.ofWire (declaredOctets raw) := by
    refine hform.ofWire_congr ?_
    rw [field, List.drop_set_of_lt (by decide), field]
  rw [Form.decode?_eq (hform.ofBytes?_set htwo) hform.accepts (by rwa [hdeclared])
    (by rwa [hdeclared]), hdeclared, List.length_set, hoctets, hsame]

/-- Zeros at the end may be left out. -/
theorem decode?_cut (hform : form.IsFixed family) {full : Bytes} {k : Nat}
    (hfull : full.length = form.capacity) (hlow : 2 ≤ k) (hroom : k ≤ form.capacity)
    (hzeros : ∀ x ∈ full.drop k, x = 0) (rest : Bytes) :
    form.decode? (UInt8.ofNat k :: family.code :: (full.take k).drop 2 ++ rest) =
      some (form.ofWire full) := by
  let cut := UInt8.ofNat k :: family.code :: (full.take k).drop 2
  have hlt := hform.lt_256
  have hlength : cut.length = k := by
    simp only [cut, List.length_cons, List.length_drop, List.length_take]
    omega
  have hdeclared : declaredLength (cut ++ rest) = cut.length := by
    rw [hlength]
    exact UInt8.toNat_ofNat_of_lt' (show k < 256 by omega)
  have hfamily : Family.ofBytes? (cut ++ rest) = some family := congrArg some hform.ofCode_code
  have hsame : form.ofWire cut = form.ofWire full := by
    refine hform.ofWire_congr ?_
    show field ((full.take k).drop 2) 0 (form.capacity - 2) = _
    rw [field_drop, field_take_of_zeros hzeros]
  rw [← hsame]
  exact form.decode?_append (b := cut) hfamily hform.accepts hdeclared (by rwa [hlength])
    (by rwa [hlength])

end Form.IsFixed

/-! ### Masks with and without a family -/

namespace SockAddr
variable {raw : Bytes}

/-- **A mask with a family is read as any address is**, completed or not. -/
theorem decodeNetmask?_of_family (h : Family.ofBytes? raw ≠ some .unspecified) :
    decodeNetmask? raw = decode? raw := by
  cases hfamily : Family.ofBytes? raw with
  | none => rw [decodeNetmask?, decode?, hfamily]; rfl
  | some family =>
    by_cases hshort : Shortened family (declaredLength raw)
    · cases family with
      | inet =>
        have hmask : decodeNetmask? raw =
            (completeMask? raw 16 .inet).bind fun full => (SocketV4.form.decode? full).map v4 := by
          rw [decodeNetmask?, hfamily]
          exact if_pos hshort
        have hroom : declaredLength raw ≤ SocketV4.form.capacity := Nat.le_of_lt hshort.2
        rw [hmask, decode?_of_inet hfamily, Form.decode?_eq hfamily rfl hshort.1 hroom]
        refine (SocketV4.isFixed.decode?_completed v4 raw).trans ?_
        split <;> rfl
      | unspecified => exact absurd hfamily h
      | inet6 => exact hshort.elim
      | link => exact hshort.elim
      | other code => exact hshort.elim
    · exact decodeNetmask?_eq_decode? hfamily hshort

/-- **A mask without a family is read as if it had the one that its length stands for.** -/
theorem decodeNetmask?_of_unspecified (h : Family.ofBytes? raw = some .unspecified) :
    decodeNetmask? raw =
      if 2 ≤ declaredLength raw ∧ declaredLength raw ≤ 16 then
        decode? (raw.set 1 Family.inet.code)
      else if declaredLength raw = 28 then decode? (raw.set 1 Family.inet6.code)
      else decode? raw := by
  have htwo := Family.two_le_length h
  have hinet := decode?_of_inet (SocketV4.isFixed.ofBytes?_set htwo)
  have hinet6 := decode?_of_inet6 (SocketV6.isFixed.ofBytes?_set htwo)
  have hmask : decodeNetmask? raw =
      if 2 ≤ declaredLength raw ∧ declaredLength raw ≤ 16 then
        (completeMask? raw 16 .inet).bind fun full => (SocketV4.form.decode? full).map v4
      else if declaredLength raw = 28 then
        (completeMask? raw 28 .inet6).bind fun full => (SocketV6.form.decode? full).map v6
      else decode? raw := by
    rw [decodeNetmask?, h]
    rfl
  rw [hmask]
  by_cases hv4 : 2 ≤ declaredLength raw ∧ declaredLength raw ≤ 16
  · rw [if_pos hv4, if_pos hv4, hinet, SocketV4.isFixed.decode?_set htwo hv4.1 hv4.2]
    refine (SocketV4.isFixed.decode?_completed v4 raw).trans ?_
    split <;> rfl
  · rw [if_neg hv4, if_neg hv4]
    by_cases hv6 : declaredLength raw = 28
    · have hroom : declaredLength raw ≤ SocketV6.form.capacity := Nat.le_of_eq hv6
      rw [if_pos hv6, if_pos hv6, hinet6, SocketV6.isFixed.decode?_set htwo (by omega) hroom]
      refine (SocketV6.isFixed.decode?_completed v6 raw).trans ?_
      split <;> rfl
    · rw [if_neg hv6, if_neg hv6]

/-! ### Addresses without their trailing zeros -/

/-- The first `k` octets of an address, declared as that many and put under a family. -/
def shortened (a : SockAddr) (family : Family) (k : Nat) : Bytes :=
  UInt8.ofNat k :: family.code :: (a.encode.take k).drop 2

section
variable {k : Nat}

theorem decode?_shortened_v4 {a : SocketV4} (hlow : 2 ≤ k) (hroom : k ≤ 16)
    (hzeros : ∀ x ∈ (v4 a).encode.drop k, x = 0) (rest : Bytes) :
    decode? ((v4 a).shortened .inet k ++ rest) = some (v4 a) := by
  have hfamily : Family.ofBytes? ((v4 a).shortened .inet k ++ rest) = some .inet := rfl
  have hread := SocketV4.isFixed.decode?_cut (length_encode_v4 a) hlow hroom hzeros rest
  rw [SocketV4.form_ofWire, a.ofWire_encode] at hread
  rw [decode?_of_inet hfamily, shortened, hread, Option.map_some]

theorem decode?_shortened_v6 {a : SocketV6} (hlow : 2 ≤ k) (hroom : k ≤ 28)
    (hzeros : ∀ x ∈ (v6 a).encode.drop k, x = 0) (rest : Bytes) :
    decode? ((v6 a).shortened .inet6 k ++ rest) = some (v6 a.relocateScope) := by
  have hfamily : Family.ofBytes? ((v6 a).shortened .inet6 k ++ rest) = some .inet6 := rfl
  have hread := SocketV6.isFixed.decode?_cut (length_encode_v6 a) hlow hroom hzeros rest
  rw [SocketV6.form_ofWire, a.ofWire_encode] at hread
  rw [decode?_of_inet6 hfamily, shortened, hread, Option.map_some]

/-- An IPv4 mask without its family is completed to what it was cut from. -/
theorem decodeNetmask?_shortened_unspecified {a : SocketV4} (hlow : 2 ≤ k) (hroom : k ≤ 16)
    (hzeros : ∀ x ∈ (v4 a).encode.drop k, x = 0) (rest : Bytes) :
    decodeNetmask? ((v4 a).shortened .unspecified k ++ rest) = some (v4 a) := by
  have hdeclared : declaredLength ((v4 a).shortened .unspecified k ++ rest) = k :=
    UInt8.toNat_ofNat_of_lt' (show k < 256 by omega)
  have hretagged : ((v4 a).shortened .unspecified k ++ rest).set 1 Family.inet.code =
      (v4 a).shortened .inet k ++ rest := rfl
  rw [decodeNetmask?_of_unspecified rfl, hdeclared, if_pos ⟨hlow, hroom⟩, hretagged,
    decode?_shortened_v4 hlow hroom hzeros rest]

end

end SockAddr

/-- **A mask is read as an address with its family repaired, and trailing zeros may be left
out.** The family is repaired where there is none and the length stands for one; zeros may
be left out of every IPv4 address, and of every IPv6 address that survives being written. -/
theorem masks_read_as_addresses :
    (∀ raw, Family.ofBytes? raw ≠ some .unspecified →
      SockAddr.decodeNetmask? raw = SockAddr.decode? raw) ∧
      (∀ raw, Family.ofBytes? raw = some .unspecified →
        SockAddr.decodeNetmask? raw =
          if 2 ≤ declaredLength raw ∧ declaredLength raw ≤ 16 then
            SockAddr.decode? (raw.set 1 Family.inet.code)
          else if declaredLength raw = 28 then SockAddr.decode? (raw.set 1 Family.inet6.code)
          else SockAddr.decode? raw) ∧
      (∀ (a : SocketV4) (k : Nat) (rest : Bytes), 2 ≤ k → k ≤ 16 →
        (∀ x ∈ (SockAddr.v4 a).encode.drop k, x = 0) →
          SockAddr.decode? ((SockAddr.v4 a).shortened .inet k ++ rest) = some (.v4 a) ∧
          SockAddr.decodeNetmask? ((SockAddr.v4 a).shortened .inet k ++ rest) = some (.v4 a) ∧
          SockAddr.decodeNetmask? ((SockAddr.v4 a).shortened .unspecified k ++ rest) =
            some (.v4 a)) ∧
      ∀ (a : SocketV6) (k : Nat) (rest : Bytes),
        SockAddr.decode? (SockAddr.v6 a).encode = some (.v6 a) → 2 ≤ k → k ≤ 28 →
        (∀ x ∈ (SockAddr.v6 a).encode.drop k, x = 0) →
          SockAddr.decode? ((SockAddr.v6 a).shortened .inet6 k ++ rest) = some (.v6 a) ∧
          SockAddr.decodeNetmask? ((SockAddr.v6 a).shortened .inet6 k ++ rest) =
            some (.v6 a) := by
  refine ⟨fun raw => SockAddr.decodeNetmask?_of_family,
    fun raw => SockAddr.decodeNetmask?_of_unspecified,
    fun a k rest hlow hroom hzeros => ?_, fun a k rest hround hlow hroom hzeros => ?_⟩
  · have hread := SockAddr.decode?_shortened_v4 hlow hroom hzeros rest
    have hfamily : Family.ofBytes? ((SockAddr.v4 a).shortened .inet k ++ rest) = some .inet := rfl
    refine ⟨hread, ?_, SockAddr.decodeNetmask?_shortened_unspecified hlow hroom hzeros rest⟩
    rw [SockAddr.decodeNetmask?_of_family (by rw [hfamily]; exact nofun), hread]
  · have hread := SockAddr.decode?_shortened_v6 hlow hroom hzeros rest
    have hstays : SockAddr.v6 a.relocateScope = .v6 a := by
      have hwhole := SockAddr.decode?_encode_v6 a []
      rw [List.append_nil, hround] at hwhole
      exact (Option.some.inj hwhole).symm
    have hfamily : Family.ofBytes? ((SockAddr.v6 a).shortened .inet6 k ++ rest) = some .inet6 := rfl
    rw [hstays] at hread
    refine ⟨hread, ?_⟩
    rw [SockAddr.decodeNetmask?_of_family (by rw [hfamily]; exact nofun), hread]

/-- Seven octets of a mask of 24 bits, with and without a family, and twelve of an IPv6 mask
of 32 bits. -/
theorem masks_read_as_addresses_cut_short :
    (Family.ofBytes? [7, 2, 0, 0, 255, 255, 255] ≠ some .unspecified ∧
      SockAddr.decodeNetmask? [7, 2, 0, 0, 255, 255, 255] =
        SockAddr.decode? [7, 2, 0, 0, 255, 255, 255]) ∧
      (Family.ofBytes? [7, 0, 0, 0, 255, 255, 255] = some .unspecified ∧
        SockAddr.decodeNetmask? [7, 0, 0, 0, 255, 255, 255] =
          SockAddr.decode? [7, 2, 0, 0, 255, 255, 255]) ∧
      ((∀ x ∈ (SockAddr.v4 ⟨.ofBytes [255, 255, 255], 0⟩).encode.drop 7, x = 0) ∧
        SockAddr.decode? [7, 2, 0, 0, 255, 255, 255, 1, 2] =
          some (.v4 ⟨.ofBytes [255, 255, 255], 0⟩) ∧
        SockAddr.decodeNetmask? [7, 2, 0, 0, 255, 255, 255, 1, 2] =
          some (.v4 ⟨.ofBytes [255, 255, 255], 0⟩) ∧
        SockAddr.decodeNetmask? [7, 0, 0, 0, 255, 255, 255, 1, 2] =
          some (.v4 ⟨.ofBytes [255, 255, 255], 0⟩)) ∧
      SockAddr.decode? (SockAddr.v6 ⟨.ofBytes [255, 255, 255, 255], 0, 0, 0⟩).encode =
        some (.v6 ⟨.ofBytes [255, 255, 255, 255], 0, 0, 0⟩) ∧
      (∀ x ∈ (SockAddr.v6 ⟨.ofBytes [255, 255, 255, 255], 0, 0, 0⟩).encode.drop 12, x = 0) ∧
      SockAddr.decode? [12, 30, 0, 0, 0, 0, 0, 0, 255, 255, 255, 255, 1, 2] =
        some (.v6 ⟨.ofBytes [255, 255, 255, 255], 0, 0, 0⟩) ∧
      SockAddr.decodeNetmask? [12, 30, 0, 0, 0, 0, 0, 0, 255, 255, 255, 255, 1, 2] =
        some (.v6 ⟨.ofBytes [255, 255, 255, 255], 0, 0, 0⟩) := by
  obtain ⟨hfamily, hrepaired, hv4, hv6⟩ := masks_read_as_addresses
  have hknown : Family.ofBytes? [7, 2, 0, 0, 255, 255, 255] ≠ some .unspecified := by decide
  have hshort : 2 ≤ declaredLength [7, 0, 0, 0, 255, 255, 255] ∧
      declaredLength [7, 0, 0, 0, 255, 255, 255] ≤ 16 := by decide
  have hfilled : ∀ {b : Bytes} (n : Nat), b = List.replicate n 0 → ∀ x ∈ b, x = 0 :=
    fun n h x hx => List.eq_of_mem_replicate (h ▸ hx)
  have hzeros : ∀ x ∈ (SockAddr.v4 ⟨.ofBytes [255, 255, 255], 0⟩).encode.drop 7, x = 0 :=
    hfilled 9 (by decide)
  have hround : SockAddr.decode? (SockAddr.v6 ⟨.ofBytes [255, 255, 255, 255], 0, 0, 0⟩).encode =
      some (.v6 ⟨.ofBytes [255, 255, 255, 255], 0, 0, 0⟩) := by decide
  have hzeros6 : ∀ x ∈ (SockAddr.v6 ⟨.ofBytes [255, 255, 255, 255], 0, 0, 0⟩).encode.drop 12,
      x = 0 := hfilled 16 (by decide)
  have hcut : (SockAddr.v4 ⟨.ofBytes [255, 255, 255], 0⟩).shortened .inet 7 =
      [7, 2, 0, 0, 255, 255, 255] := by decide
  have hbare : (SockAddr.v4 ⟨.ofBytes [255, 255, 255], 0⟩).shortened .unspecified 7 =
      [7, 0, 0, 0, 255, 255, 255] := by decide
  have hcut6 : (SockAddr.v6 ⟨.ofBytes [255, 255, 255, 255], 0, 0, 0⟩).shortened .inet6 12 =
      [12, 30, 0, 0, 0, 0, 0, 0, 255, 255, 255, 255] := by decide
  have hmask := hv4 _ 7 [1, 2] (by decide) (by decide) hzeros
  have hmask6 := hv6 _ 12 [1, 2] hround (by decide) (by decide) hzeros6
  rw [hcut, hbare] at hmask
  rw [hcut6] at hmask6
  exact ⟨⟨hknown, hfamily _ hknown⟩, ⟨rfl, (hrepaired _ rfl).trans (if_pos hshort)⟩,
    ⟨hzeros, hmask⟩, hround, hzeros6, hmask6⟩

end InterfaceDump
