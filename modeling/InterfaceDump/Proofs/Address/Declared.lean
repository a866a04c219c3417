import InterfaceDump.Proofs.Address.Canonical

/-! The declared octets of an address.

An address says in its first octet how long it is, and a reader looks at no octet
behind that length: `SockAddr.decode?_declaredOctets` and
`SockAddr.decodeNetmask?_declaredOctets` say that the declared octets alone are read
as the whole is. An address is read whenever they are all there, are no fewer than the
two leading ones and no more than its family has room for
(`SockAddr.isSome_decode?_iff`). A link-layer address announces two more lengths inside
its declared one; name and hardware address stand in exactly the octets announced for
them, or there is neither (`LinkAddress.StandsIn`). -/
namespace InterfaceDump
open Bytes

/-! ### Declared octets -/

/-- The octets that an address declares as its own, as many of them as there are. -/
def declaredOctets (raw : Bytes) : Bytes := raw.take (declaredLength raw)

section
variable {raw : Bytes}

theorem declaredLength_take {n : Nat} (h : 0 < n) :
    declaredLength (raw.take n) = declaredLength raw := by
  rw [declaredLength, byteAt_take h, declaredLength]

@[simp] theorem declaredLength_declaredOctets (raw : Bytes) :
    declaredLength (declaredOctets raw) = declaredLength raw := by
  rcases Nat.eq_zero_or_pos (declaredLength raw) with hzero | hpos
  · rw [declaredOctets, hzero]
    rfl
  · exact declaredLength_take hpos

theorem take_declaredOctets (raw : Bytes) :
    (declaredOctets raw).take (declaredLength raw) = declaredOctets raw := by
  rw [declaredOctets, List.take_take, Nat.min_self]

/-- All declared octets of a part are there if and only if they are all there of the whole. -/
theorem declaredLength_le_length_declaredOctets :
    declaredLength raw ≤ (declaredOctets raw).length ↔ declaredLength raw ≤ raw.length := by
  rw [declaredOctets, List.length_take, Nat.le_min]
  exact and_iff_right (Nat.le_refl _)

/-- Octets that agree as far as the first of them declares have the same declared octets. -/
theorem declaredOctets_congr {a b : Bytes} {n : Nat} (hpos : 0 < n) (hn : declaredLength a ≤ n)
    (h : a.take n = b.take n) : declaredOctets a = declaredOctets b := by
  have hlength : declaredLength a = declaredLength b := by
    rw [← declaredLength_take hpos, h, declaredLength_take hpos]
  have hcut : ∀ c : Bytes, c.take (declaredLength a) = (c.take n).take (declaredLength a) :=
    fun c => by rw [List.take_take, Nat.min_eq_left hn]
  rw [declaredOctets, declaredOctets, ← hlength, hcut a, hcut b, h]

theorem Family.ofBytes?_of_le (h : 2 ≤ raw.length) :
    ofBytes? raw = some (ofCode (byteAt raw 1)) := by
  rw [ofBytes?, getElem?_eq_byteAt h, Option.map_some]

theorem Family.ofBytes?_of_lt (h : raw.length < 2) : ofBytes? raw = none := by
  rw [ofBytes?, List.getElem?_eq_none (Nat.le_of_lt_succ h), Option.map_none]

theorem Family.two_le_length {family : Family} (h : ofBytes? raw = some family) :
    2 ≤ raw.length := by
  rcases Nat.lt_or_ge raw.length 2 with hshort | htwo
  · exact nomatch (ofBytes?_of_lt hshort).symm.trans h
  · exact htwo

theorem Family.ofBytes?_take {n : Nat} (h : 2 ≤ n) : ofBytes? (raw.take n) = ofBytes? raw := by
  rw [ofBytes?, List.getElem?_take_of_lt h, ofBytes?]

theorem Family.ofBytes?_declaredOctets (h : 2 ≤ declaredLength raw) :
    ofBytes? (declaredOctets raw) = ofBytes? raw := ofBytes?_take h

end

/-! ### Reading in one form -/

section
variable {α : Type} {form : Form α} {raw : Bytes} {family : Family}

theorem Form.isSome_decode?_iff :
    (form.decode? raw).isSome ↔
      (∃ family, Family.ofBytes? raw = some family ∧ form.accepts family = true) ∧
        2 ≤ declaredLength raw ∧ declaredLength raw ≤ form.capacity ∧
        declaredLength raw ≤ raw.length := by
  simp only [Option.isSome_iff_exists, Form.decode?_eq_some_iff, exists_and_left, exists_eq',
    and_true]

/-- An address of a family that the form takes and a length that it has room for. -/
theorem Form.decode?_eq (hfamily : Family.ofBytes? raw = some family)
    (haccepts : form.accepts family = true) (hlow : 2 ≤ declaredLength raw)
    (hroom : declaredLength raw ≤ form.capacity) :
    form.decode? raw = if declaredLength raw ≤ raw.length then
      some (form.ofWire (declaredOctets raw)) else none := by
  simp only [Form.decode?, hfamily, Option.bind_eq_bind, Option.bind_some, haccepts, hlow, hroom,
    true_and, declaredOctets]

theorem Form.decode?_of_declaredLength_lt (h : declaredLength raw < 2) :
    form.decode? raw = none := by
  rw [← Option.not_isSome_iff_eq_none, Form.isSome_decode?_iff]
  exact fun hread => Nat.not_le_of_lt h hread.2.1

theorem Form.decode?_declaredOctets (form : Form α) (raw : Bytes) :
    form.decode? (declaredOctets raw) = form.decode? raw := by
  rcases Nat.lt_or_ge (declaredLength raw) 2 with hshort | hlow
  · rw [Form.decode?_of_declaredLength_lt hshort,
      Form.decode?_of_declaredLength_lt (by rwa [declaredLength_declaredOctets])]
  · simp only [Form.decode?, Family.ofBytes?_declaredOctets hlow, declaredLength_declaredOctets,
      declaredLength_le_length_declaredOctets, take_declaredOctets]
    rw [declaredOctets]

end

/-! ### Reading any address -/

/-- The longest length that an address of a family may declare. -/
def Family.room : Family → Nat
  | inet => 16
  | inet6 => 28
  | unspecified | link | other _ => 128

namespace SockAddr
variable {raw : Bytes}

/-- **An address is read whenever its declared octets are there and its family has room for
them.** -/
theorem isSome_decode?_iff (raw : Bytes) :
    (decode? raw).isSome ↔
      2 ≤ raw.length ∧ 2 ≤ declaredLength raw ∧ declaredLength raw ≤ raw.length ∧
        declaredLength raw ≤ (Family.ofCode (byteAt raw 1)).room := by
  rcases Nat.lt_or_ge raw.length 2 with hshort | htwo
  · rw [decode?, Family.ofBytes?_of_lt hshort]
    exact iff_of_false Bool.false_ne_true fun h => Nat.not_le_of_lt hshort h.1
  have hfamily := Family.ofBytes?_of_le htwo
  -- Each form takes the family that leads to it, so only the lengths are left to compare.
  have hform : ∀ {α : Type} (form : Form α), form.accepts (.ofCode (byteAt raw 1)) = true →
      ((form.decode? raw).isSome ↔ 2 ≤ raw.length ∧ 2 ≤ declaredLength raw ∧
        declaredLength raw ≤ raw.length ∧ declaredLength raw ≤ form.capacity) := by
    intro α form haccepts
    rw [Form.isSome_decode?_iff, and_iff_right ⟨_, hfamily, haccepts⟩, and_iff_right htwo,
      and_comm (a := declaredLength raw ≤ form.capacity)]
  cases h : Family.ofCode (byteAt raw 1) with
  | inet =>
    rw [h] at hfamily hform
    rw [decode?_of_inet hfamily, Option.isSome_map]
    exact hform SocketV4.form rfl
  | inet6 =>
    rw [h] at hfamily hform
    rw [decode?_of_inet6 hfamily, Option.isSome_map]
    exact hform SocketV6.form rfl
  | link =>
    rw [h] at hfamily hform
    rw [decode?_of_link hfamily, Option.isSome_map]
    exact hform LinkAddress.form rfl
  | unspecified =>
    rw [h] at hfamily
    rw [decode?_of_isOpaque hfamily rfl, Option.isSome_map]
    exact hform OpaqueAddress.form rfl
  | other code =>
    rw [h] at hfamily
    rw [decode?_of_isOpaque hfamily rfl, Option.isSome_map]
    exact hform OpaqueAddress.form rfl

theorem decode?_of_declaredLength_lt (h : declaredLength raw < 2) : decode? raw = none := by
  rw [← Option.not_isSome_iff_eq_none, isSome_decode?_iff]
  exact fun hread => Nat.not_le_of_lt h hread.2.1

theorem decode?_of_length_lt (h : raw.length < declaredLength raw) : decode? raw = none := by
  rw [← Option.not_isSome_iff_eq_none, isSome_decode?_iff]
  exact fun hread => Nat.not_le_of_lt h hread.2.2.1

/-- **The declared octets of an address are all that is read of it.** -/
theorem decode?_declaredOctets (raw : Bytes) : decode? (declaredOctets raw) = decode? raw := by
  rcases Nat.lt_or_ge (declaredLength raw) 2 with hshort | hlow
  · rw [decode?_of_declaredLength_lt hshort,
      decode?_of_declaredLength_lt (by rwa [declaredLength_declaredOctets])]
  · simp only [decode?, Family.ofBytes?_declaredOctets hlow, Form.decode?_declaredOctets]

/-! ### Masks -/

theorem completeMask?_declaredOctets (raw : Bytes) (length : Nat) (family : Family) :
    completeMask? (declaredOctets raw) length family = completeMask? raw length family := by
  rw [completeMask?, completeMask?, declaredLength_declaredOctets, slice?_to_eq, slice?_to_eq,
    take_declaredOctets]
  simp only [declaredLength_le_length_declaredOctets]
  rw [declaredOctets]

theorem Shortened.two_le {family : Family} {declared : Nat} (h : Shortened family declared) :
    2 ≤ declared := by
  cases family with
  | inet => exact h.1
  | unspecified => rcases h with h | h <;> omega
  | inet6 => exact h.elim
  | link => exact h.elim
  | other code => exact h.elim

theorem decodeNetmask?_of_declaredLength_lt (h : declaredLength raw < 2) :
    decodeNetmask? raw = none := by
  cases hfamily : Family.ofBytes? raw with
  | none =>
    rw [decodeNetmask?, hfamily]
    rfl
  | some family =>
    have hwhole : ¬ Shortened family (declaredLength raw) := fun hshort =>
      Nat.not_le_of_lt h hshort.two_le
    rw [decodeNetmask?_eq_decode? hfamily hwhole, decode?_of_declaredLength_lt h]

/-- **The declared octets of a mask are all that is read of it.** -/
theorem decodeNetmask?_declaredOctets (raw : Bytes) :
    decodeNetmask? (declaredOctets raw) = decodeNetmask? raw := by
  rcases Nat.lt_or_ge (declaredLength raw) 2 with hshort | hlow
  · rw [decodeNetmask?_of_declaredLength_lt hshort,
      decodeNetmask?_of_declaredLength_lt (by rwa [declaredLength_declaredOctets])]
  · simp only [decodeNetmask?, Family.ofBytes?_declaredOctets hlow, declaredLength_declaredOctets,
      completeMask?_declaredOctets, decode?_declaredOctets]

theorem decodeNetmask?_of_length_lt (h : raw.length < declaredLength raw) :
    decodeNetmask? raw = none := by
  have hmissing : ∀ length family, completeMask? raw length family = none := fun length family => by
    rw [completeMask?, slice?_to_eq, if_neg (Nat.not_le_of_lt h), Option.map_none]
  rw [decodeNetmask?]
  cases Family.ofBytes? raw with
  | none => rfl
  | some family =>
    -- Whole masks are read as addresses, and there is nothing to complete the others from.
    cases family <;> simp [hmissing, decode?_of_length_lt h]

end SockAddr

/-! ### Link-layer addresses -/

namespace LinkAddress

/-- The octets that the name takes, as announced inside the declared ones. -/
def nameLength (raw : Bytes) : Nat := (byteAt (declaredOctets raw) 5).toNat

/-- The octets that the hardware address takes, as announced inside the declared ones. -/
def hardwareLength (raw : Bytes) : Nat := (byteAt (declaredOctets raw) 6).toNat

/-- Where the parts of a link-layer address stand: index and type in the fixed part, name
and hardware address in the octets announced for them, or nowhere if these are too many. -/
structure StandsIn (a : LinkAddress) (raw : Bytes) : Prop where
  index : a.index = u16le (declaredOctets raw) 2
  linkType : a.linkType = byteAt (declaredOctets raw) 4
  lost : declaredLength raw < 8 + nameLength raw + hardwareLength raw →
    a.name = "" ∧ a.hardware = []
  kept : 8 + nameLength raw + hardwareLength raw ≤ declaredLength raw →
    ∃ name, slice? raw 8 (8 + nameLength raw) = some name ∧ a.name = Text.Utf8.decode name ∧
      slice? raw (8 + nameLength raw) (8 + nameLength raw + hardwareLength raw) =
        some a.hardware

theorem standsIn_of_decode? {raw : Bytes} {a : LinkAddress} (h : form.decode? raw = some a) :
    a.StandsIn raw := by
  obtain ⟨-, -, -, hall, rfl⟩ := Form.decode?_eq_some_iff.mp h
  have hlength : (declaredOctets raw).length = declaredLength raw := by
    rw [declaredOctets, List.length_take, Nat.min_eq_left hall]
  have hfits : Fits (declaredOctets raw) ↔
      8 + nameLength raw + hardwareLength raw ≤ declaredLength raw := by
    rw [Fits, hlength]
    exact Iff.rfl
  show (ofWire (declaredOctets raw)).StandsIn raw
  by_cases hroom : 8 + nameLength raw + hardwareLength raw ≤ declaredLength raw
  · -- Both parts end within the declared octets, so they are the same in the whole.
    have hname : field (declaredOctets raw) 8 (nameLength raw) = field raw 8 (nameLength raw) :=
      field_take (by omega)
    have hhardware : field (declaredOctets raw) (8 + nameLength raw) (hardwareLength raw) =
        field raw (8 + nameLength raw) (hardwareLength raw) := field_take hroom
    rw [ofWire, if_pos (hfits.mpr hroom)]
    refine ⟨rfl, rfl, fun hlong => absurd hroom (Nat.not_le_of_lt hlong), fun _ =>
      ⟨field raw 8 (nameLength raw), slice?_eq_field (by omega), ?_, ?_⟩⟩
    · exact congrArg Text.Utf8.decode hname
    · rw [slice?_eq_field (by omega)]
      exact congrArg some hhardware.symm
  · rw [ofWire, if_neg (mt hfits.mp hroom)]
    exact ⟨rfl, rfl, fun _ => ⟨rfl, rfl⟩, fun hroom' => absurd hroom' hroom⟩

end LinkAddress

/-- **Reading keeps to the declared octets, and takes every address whose declared octets
are there.** Octets that follow them change nothing, and the name and the hardware address
of a link-layer address come from the octets that it announces for them. -/
theorem decode_keeps_to_declared :
    (∀ raw, (SockAddr.decode? raw).isSome ↔
      2 ≤ raw.length ∧ 2 ≤ declaredLength raw ∧ declaredLength raw ≤ raw.length ∧
        declaredLength raw ≤ (Family.ofCode (byteAt raw 1)).room) ∧
      (∀ a b : Bytes, max (declaredLength a) 2 ≤ a.length → max (declaredLength a) 2 ≤ b.length →
        a.take (max (declaredLength a) 2) = b.take (max (declaredLength a) 2) →
          SockAddr.decode? a = SockAddr.decode? b ∧
            SockAddr.decodeNetmask? a = SockAddr.decodeNetmask? b) ∧
      ∀ raw a, Family.ofBytes? raw = some .link → SockAddr.decode? raw = some a →
        ∃ link, a = .link link ∧ link.StandsIn raw := by
  refine ⟨SockAddr.isSome_decode?_iff, fun a b _ _ hagree => ?_, fun raw a hfamily hread => ?_⟩
  · have hoctets : declaredOctets a = declaredOctets b :=
      declaredOctets_congr (by omega) (Nat.le_max_left _ _) hagree
    constructor
    · rw [← SockAddr.decode?_declaredOctets a, hoctets, SockAddr.decode?_declaredOctets]
    · rw [← SockAddr.decodeNetmask?_declaredOctets a, hoctets,
        SockAddr.decodeNetmask?_declaredOctets]
  · rw [SockAddr.decode?_of_link hfamily] at hread
    obtain ⟨link, hlink, rfl⟩ := Option.map_eq_some_iff.mp hread
    exact ⟨link, rfl, LinkAddress.standsIn_of_decode? hlink⟩

/-- A link-layer address of `lo0`, which has index 2, with two octets of hardware address. -/
def Sample.loopbackLink : Bytes := [13, 18, 2, 0, 24, 3, 2, 0, 108, 111, 48, 0xa4, 0x83]

/-- What follows the address is not read. Declared with ten octets, it cannot hold what it
announces, and index and type are all that is left of it. -/
theorem decode_keeps_to_declared_loopback :
    (max (declaredLength Sample.loopbackLink) 2 ≤ Sample.loopbackLink.length ∧
      max (declaredLength Sample.loopbackLink) 2 ≤ (Sample.loopbackLink ++ [0x65, 0x6e]).length ∧
      Sample.loopbackLink.take (max (declaredLength Sample.loopbackLink) 2) =
        (Sample.loopbackLink ++ [0x65, 0x6e]).take (max (declaredLength Sample.loopbackLink) 2) ∧
      SockAddr.decode? Sample.loopbackLink = some (.link ⟨2, 24, "lo0", [0xa4, 0x83]⟩) ∧
      SockAddr.decode? Sample.loopbackLink =
        SockAddr.decode? (Sample.loopbackLink ++ [0x65, 0x6e]) ∧
      SockAddr.decodeNetmask? Sample.loopbackLink =
        SockAddr.decodeNetmask? (Sample.loopbackLink ++ [0x65, 0x6e])) ∧
      Family.ofBytes? (Sample.loopbackLink.set 0 10) = some .link ∧
      SockAddr.decode? (Sample.loopbackLink.set 0 10) = some (.link ⟨2, 24, "", []⟩) ∧
      ∃ link, SockAddr.link ⟨2, 24, "", []⟩ = .link link ∧
        link.StandsIn (Sample.loopbackLink.set 0 10) := by
  obtain ⟨-, hagree, hlink⟩ := decode_keeps_to_declared
  have hthere : max (declaredLength Sample.loopbackLink) 2 ≤ Sample.loopbackLink.length := by decide
  have hmore : max (declaredLength Sample.loopbackLink) 2 ≤
      (Sample.loopbackLink ++ [0x65, 0x6e]).length := by decide
  have hsame : Sample.loopbackLink.take (max (declaredLength Sample.loopbackLink) 2) =
      (Sample.loopbackLink ++ [0x65, 0x6e]).take (max (declaredLength Sample.loopbackLink) 2) := by
    decide
  have hread : SockAddr.decode? Sample.loopbackLink =
      some (.link ⟨2, 24, "lo0", [0xa4, 0x83]⟩) := by decide
  have hshort : SockAddr.decode? (Sample.loopbackLink.set 0 10) =
      some (.link ⟨2, 24, "", []⟩) := by decide
  exact ⟨⟨hthere, hmore, hsame, hread, hagree _ _ hthere hmore hsame⟩, rfl, hshort,
    hlink _ _ rfl hshort⟩

end InterfaceDump
