import InterfaceDump.Proofs.Address.Canonical
import InterfaceDump.Proofs.Checked.Address

/-! The layout of a written address.

Whoever steps over an address has nothing to go by but its first octet. It counts the
octets of every address that can be written, however much there is to write, since
what does not fit is dropped before it is counted: of a name all but its longest prefix
in 247 octets, of a hardware address all but its longest prefix in the room that this
name leaves, of the octets of another family all but their longest prefix in 253.
`encode_self_describing` says so, and that no number on the way there is cut, overflows
or falls below zero. -/
namespace InterfaceDump
open Bytes

/-- What is kept of octets that there is only so much room for. -/
structure LongestPrefix (kept whole : Bytes) (room : Nat) : Prop where
  starts : kept <+: whole
  fits : kept.length ≤ room
  longest : ∀ other, other <+: whole → other.length ≤ room → other.length ≤ kept.length

theorem LongestPrefix.of_take (whole : Bytes) (room : Nat) :
    LongestPrefix (whole.take room) whole room where
  starts := List.take_prefix room whole
  fits := List.length_take_le room whole
  longest other hstarts hfits := by
    rw [List.length_take]
    exact Nat.le_min.mpr ⟨hfits, hstarts.length_le⟩

/-- Where there is no room, nothing is kept. -/
theorem LongestPrefix.eq_nil {kept whole : Bytes} (h : LongestPrefix kept whole 0) : kept = [] :=
  List.eq_nil_of_length_eq_zero (Nat.le_zero.mp h.fits)

/-! ### Link-layer addresses -/

namespace LinkAddress

/-- A link-layer address in its octets: the name behind eight fixed ones, the hardware
address behind the name, and zeros up to the twentieth octet. -/
structure Layout (a : LinkAddress) (b name hardware : Bytes) : Prop where
  least : 20 ≤ b.length
  inside : 8 + (byteAt b 5).toNat + (byteAt b 6).toNat ≤ b.length
  name_at : slice? b 8 (8 + (byteAt b 5).toNat) = some name
  hardware_at : slice? b (8 + (byteAt b 5).toNat)
    (8 + (byteAt b 5).toNat + (byteAt b 6).toNat) = some hardware
  zeros : b.drop (8 + (byteAt b 5).toNat + (byteAt b 6).toNat) =
    List.replicate (20 - (8 + (byteAt b 5).toNat + (byteAt b 6).toNat)) 0
  name_longest : LongestPrefix name (Text.Utf8.encode a.name) 247
  hardware_longest : LongestPrefix hardware a.hardware (247 - (byteAt b 5).toNat)
  /-- A name that takes all of the room leaves none. -/
  name_first : (byteAt b 5).toNat = 247 → hardware = []

variable (a : LinkAddress)

theorem nameLength_encode : (byteAt (SockAddr.link a).encode 5).toNat = a.wireName.length := by
  have hwire := a.length_wire
  exact UInt8.toNat_ofNat_of_lt' (show _ < 256 by omega)

theorem hardwareLength_encode :
    (byteAt (SockAddr.link a).encode 6).toNat = a.wireHardware.length := by
  have hwire := a.length_wire
  exact UInt8.toNat_ofNat_of_lt' (show _ < 256 by omega)

theorem layout : a.Layout (SockAddr.link a).encode a.wireName a.wireHardware := by
  have hlength := a.length_encode
  have hheader := a.length_wireHeader
  have hname : LongestPrefix a.wireName (Text.Utf8.encode a.name) 247 := .of_take _ _
  have hhardware : LongestPrefix a.wireHardware a.hardware (247 - a.wireName.length) :=
    .of_take _ _
  rw [headerLength] at hlength hheader
  constructor
  case least => omega
  case name_longest => exact hname
  all_goals rw [nameLength_encode]
  case hardware_longest => exact hhardware
  case name_first =>
    intro hfull
    rw [hfull] at hhardware
    exact hhardware.eq_nil
  case name_at =>
    rw [encode_eq, ← hheader]
    exact slice?_append _ _ _
  all_goals rw [hardwareLength_encode]
  case inside => omega
  case hardware_at =>
    rw [encode_eq, ← hheader, ← List.append_assoc, ← List.length_append]
    exact slice?_append _ _ _
  case zeros =>
    rw [encode_eq, ← hheader, ← List.append_assoc, ← List.append_assoc, ← List.length_append,
      ← List.length_append, List.drop_left, padding, List.length_append, List.length_append,
      length_wireHeader]
    rfl

end LinkAddress

/-! ### Every address -/

namespace SockAddr

/-- The octets of an address of each form. -/
def LaidOut (b : Bytes) : SockAddr → Prop
  | v4 _ => b.length = 16
  | v6 _ => b.length = 28
  | link a => ∃ name hardware, a.Layout b name hardware
  | other a => LongestPrefix (b.drop 2) a.data 253

theorem laidOut_encode (a : SockAddr) : a.LaidOut a.encode := by
  cases a with
  | v4 a => exact length_encode_v4 a
  | v6 a => exact length_encode_v6 a
  | link a => exact ⟨a.wireName, a.wireHardware, a.layout⟩
  | other a => exact .of_take a.data 253

theorem familyOctet_encode (a : SockAddr) : byteAt a.encode 1 = a.family.code := by
  cases a with
  | v4 a => rfl
  | v6 a => rfl
  | link a => rfl
  | other a => exact (Family.code_ofCode a.family).symm

end SockAddr

/-- **Every written address describes itself**: its first octet counts its octets and the
second names its family, and what there was no room for is missing at the end of its
part and nowhere else. -/
theorem encode_self_describing (a : SockAddr) :
    (2 ≤ a.encode.length ∧ a.encode.length ≤ 255) ∧
      (byteAt a.encode 0).toNat = a.encode.length ∧ byteAt a.encode 1 = a.family.code ∧
      a.LaidOut a.encode ∧ ∀ M, Checked.encode M a = .ok a.encode := by
  have hlength := a.declaredLength_encode []
  rw [List.append_nil] at hlength
  exact ⟨a.length_encode_bounds, hlength, a.familyOctet_encode, a.laidOut_encode,
    fun M => Checked.encode_eq M a⟩

-- A name of 300 octets leaves no room for a hardware address.
example : (SockAddr.link ⟨3, 6, String.ofList (List.replicate 300 'x'), [1, 2, 3]⟩).encode.take 8 =
    [255, 18, 3, 0, 6, 247, 0, 0] := by decide +kernel

end InterfaceDump
