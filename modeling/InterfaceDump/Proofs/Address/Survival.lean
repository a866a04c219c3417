import InterfaceDump.Proofs.Address.Canonical

/-! Addresses that survive being written.

Every address can be written, but not every one is read back as it was. A scope
inside an IPv6 address moves to the scope field. A name and hardware address that
do not fit the room of a record are lost altogether, though the writer would have
had room for them, and so is an opaque address that is too long. An opaque address
of a family that has a form of its own is read in that form. `Survives` leaves these
out, and `survival` says that it leaves out nothing else and what becomes of those
that it leaves out. -/
namespace InterfaceDump
open Bytes

/-! ### Conditions -/

/-- The address may carry its scope in octets 2 and 3, and there is one. -/
def Ip.V6.CarriesScope (ip : Ip.V6) : Prop :=
  (ip.isLinkLocal = true ∨ ip.isNarrowMulticast = true) ∧
    (byteAt ip.octets 2 ≠ 0 ∨ byteAt ip.octets 3 ≠ 0)

theorem Ip.V6.embeddedScope_eq_zero_iff {ip : Ip.V6} :
    ip.embeddedScope = 0 ↔ ¬ ip.CarriesScope := by
  have hembeds : ip.isLinkLocal = true ∨ ip.isNarrowMulticast = true ↔ ip.embedsScope = true := by
    rw [embedsScope, Bool.or_eq_true]
  rw [CarriesScope, hembeds, embeddedScope]
  split
  · next h => simp [h, u16be_eq_zero_iff]
  · next h => simp [h]

/-- The families with a form of their own. -/
def Family.formed : List UInt8 := [inet.code, inet6.code, link.code]

theorem Family.isOpaque_ofCode_iff {code : UInt8} :
    (ofCode code).isOpaque = true ↔ code ∉ formed := by
  constructor
  · intro hkept hformed
    simp only [formed, List.mem_cons, List.not_mem_nil, or_false] at hformed
    rcases hformed with rfl | rfl | rfl <;> exact nomatch hkept
  · intro hother
    have hcode := code_ofCode code
    cases h : ofCode code with
    | unspecified => rfl
    | other _ => rfl
    | _ =>
      rw [h] at hcode
      exact absurd (hcode ▸ by decide) hother

namespace SockAddr

/-- The addresses that are read back as they were written. -/
def Survives : SockAddr → Prop
  | v4 _ => True
  | v6 a => ¬ a.ip.CarriesScope
  | link a => (Text.Utf8.encode a.name).length + a.hardware.length ≤ 120
  | other a => a.family ∉ Family.formed ∧ a.data.length ≤ 126

theorem canonical_iff_survives {a : SockAddr} : a.Canonical ↔ a.Survives := by
  cases a with
  | v4 a => exact Iff.rfl
  | v6 a => exact Ip.V6.embeddedScope_eq_zero_iff
  | link a => exact Iff.rfl
  | other a =>
    refine and_congr Family.isOpaque_ofCode_iff ?_
    simp only [storageLength]
    omega

/-! ### Losses -/

/-- No form has room for more than a record has. -/
theorem declaredLength_le_of_decode? {raw : Bytes} {a : SockAddr} (h : decode? raw = some a) :
    declaredLength raw ≤ storageLength := by
  cases reads_of_decode? h with
  | v4 hread => exact Nat.le_trans (Form.decode?_eq_some_iff.mp hread).2.2.1 (by decide)
  | v6 hread => exact Nat.le_trans (Form.decode?_eq_some_iff.mp hread).2.2.1 (by decide)
  | link hread => exact (Form.decode?_eq_some_iff.mp hread).2.2.1
  | other _ _ hread => exact (Form.decode?_eq_some_iff.mp hread).2.2.1

/-- An address that does not fit is not read in part. -/
theorem decode?_encode_of_long_other {a : OpaqueAddress} (h : 126 < a.data.length) :
    decode? (other a).encode = none := by
  have hdeclared : storageLength < declaredLength (other a).encode := by
    have hall := (other a).declaredLength_encode []
    rw [List.append_nil] at hall
    rw [hall]
    simp only [encode, tail, List.length_cons, List.length_take, longestAddress, storageLength]
    omega
  rw [Option.eq_none_iff_forall_not_mem]
  intro b hb
  exact Nat.not_le_of_lt hdeclared (declaredLength_le_of_decode? hb)

theorem decode?_encode_of_long_link {a : LinkAddress}
    (h : 120 < (Text.Utf8.encode a.name).length + a.hardware.length) :
    decode? (link a).encode = none := by
  have hfamily := (link a).ofBytes?_encode []
  have hlost := LinkAddress.decode?_encode_of_not_isShort (a := a) (Nat.not_le_of_lt h) []
  rw [List.append_nil] at hfamily hlost
  rw [decode?_of_link hfamily, hlost, Option.map_none]

/-- A scope inside the address is read as the scope of the address. -/
theorem decode?_encode_of_carriesScope {a : SocketV6} (h : a.ip.CarriesScope) :
    decode? (v6 a).encode = some (v6 { a with
      ip := .ofBytes (a.ip.octets.take 2 ++ [0, 0] ++ a.ip.octets.drop 4)
      scopeId := (u16be a.ip.octets 2).toUInt32 }) := by
  have hscope : a.ip.embeddedScope = u16be a.ip.octets 2 := by
    refine if_pos ?_
    rw [Ip.V6.embedsScope, Bool.or_eq_true]
    exact h.1
  have hmoves : ¬ a.ip.embeddedScope = 0 := fun hzero => Ip.V6.embeddedScope_eq_zero_iff.mp hzero h
  have hread := decode?_encode_v6 a []
  rw [List.append_nil, SocketV6.relocateScope, if_neg hmoves, hscope] at hread
  exact hread

end SockAddr

/-- **The addresses that survive being written are exactly those of `Survives`.** Of the
others, what does not fit is lost whole, and a scope that an IPv6 address carries is moved
out of it. -/
theorem survival :
    (∀ a : SockAddr, SockAddr.decode? a.encode = some a ↔ a.Survives) ∧
      (∀ a : LinkAddress, 120 < (Text.Utf8.encode a.name).length + a.hardware.length →
        SockAddr.decode? (SockAddr.link a).encode = none) ∧
      (∀ a : OpaqueAddress, 126 < a.data.length →
        SockAddr.decode? (SockAddr.other a).encode = none) ∧
      ∀ a : SocketV6, a.ip.CarriesScope →
        SockAddr.decode? (SockAddr.v6 a).encode = some (.v6 { a with
          ip := .ofBytes (a.ip.octets.take 2 ++ [0, 0] ++ a.ip.octets.drop 4)
          scopeId := (u16be a.ip.octets 2).toUInt32 }) := by
  refine ⟨fun a => ?_, fun _ => SockAddr.decode?_encode_of_long_link,
    fun _ => SockAddr.decode?_encode_of_long_other,
    fun _ => SockAddr.decode?_encode_of_carriesScope⟩
  rw [← SockAddr.canonical_iff_survives]
  constructor
  · exact SockAddr.canonical_of_decode?
  · intro hcanonical
    have hread := SockAddr.decode?_encode_of_canonical hcanonical []
    rwa [List.append_nil] at hread

/-- Three octets of name leave room for 117 of hardware address and not for one more, 126
octets of another family survive and 127 do not, and scope 7 leaves its address. -/
theorem survival_at_limits :
    ((SockAddr.link ⟨4, 6, "en0", List.replicate 117 1⟩).Survives ∧
      SockAddr.decode? (SockAddr.link ⟨4, 6, "en0", List.replicate 117 1⟩).encode =
        some (.link ⟨4, 6, "en0", List.replicate 117 1⟩)) ∧
      (120 < (Text.Utf8.encode "en0").length + (List.replicate 118 (1 : UInt8)).length ∧
        SockAddr.decode? (SockAddr.link ⟨4, 6, "en0", List.replicate 118 1⟩).encode = none) ∧
      ((SockAddr.other ⟨99, List.replicate 126 1⟩).Survives ∧
        SockAddr.decode? (SockAddr.other ⟨99, List.replicate 126 1⟩).encode =
          some (.other ⟨99, List.replicate 126 1⟩)) ∧
      (126 < (List.replicate 127 (1 : UInt8)).length ∧
        SockAddr.decode? (SockAddr.other ⟨99, List.replicate 127 1⟩).encode = none) ∧
      (Ip.V6.CarriesScope ⟨[0xfe, 0x80, 0, 7, 0, 0, 0, 0, 0, 0, 0, 0, 0, 0, 0, 1], rfl⟩ ∧
        SockAddr.decode? (SockAddr.v6
          ⟨⟨[0xfe, 0x80, 0, 7, 0, 0, 0, 0, 0, 0, 0, 0, 0, 0, 0, 1], rfl⟩, 80, 0, 0⟩).encode =
          some (.v6 ⟨⟨[0xfe, 0x80, 0, 0, 0, 0, 0, 0, 0, 0, 0, 0, 0, 0, 0, 1], rfl⟩, 80, 0, 7⟩)) := by
  obtain ⟨hsurvives, hlink, hother, hscope⟩ := survival
  have hname : (Text.Utf8.encode "en0").length = 3 := by decide
  have hshort : (SockAddr.link ⟨4, 6, "en0", List.replicate 117 1⟩).Survives := by
    simp [SockAddr.Survives, hname]
  have hlong : 120 < (Text.Utf8.encode "en0").length + (List.replicate 118 (1 : UInt8)).length := by
    simp [hname]
  have hkept : (SockAddr.other ⟨99, List.replicate 126 1⟩).Survives :=
    ⟨by decide, by simp⟩
  have hlongOpaque : 126 < (List.replicate 127 (1 : UInt8)).length := by simp
  have hcarries : Ip.V6.CarriesScope
      ⟨[0xfe, 0x80, 0, 7, 0, 0, 0, 0, 0, 0, 0, 0, 0, 0, 0, 1], rfl⟩ :=
    ⟨.inl (by decide), .inr (by decide)⟩
  exact ⟨⟨hshort, (hsurvives _).mpr hshort⟩, ⟨hlong, hlink _ hlong⟩,
    ⟨hkept, (hsurvives _).mpr hkept⟩, ⟨hlongOpaque, hother _ hlongOpaque⟩,
    ⟨hcarries, hscope ⟨_, 80, 0, 0⟩ hcarries⟩⟩

end InterfaceDump
