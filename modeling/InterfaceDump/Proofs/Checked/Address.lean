import InterfaceDump.Address.Netmask
import InterfaceDump.Proofs.Address.Link
import InterfaceDump.Proofs.Address.Prefix
import InterfaceDump.Proofs.Checked.Basic

/-! Addresses, read and written with operations that can fail.

An address is read in the steps of a program: the family and the declared length are
looked at, the declared octets are taken, and the form of the family reads its fields
one by one. `decode_eq`, `decodeNetmask_eq` and `encode_eq` say that no step fails,
whatever the octets or the address. -/
namespace InterfaceDump
open Bytes

namespace Checked

/-! ### Arrays -/

/-- An array of `n` octets that starts with those of `wire`. -/
def zeroExtended (n : Nat) (wire : Bytes) : Checked Bytes := do
  let count := min wire.length n
  copyInto (List.replicate n 0) count (← sliceTo wire count)

theorem zeroExtended_eq (n : Nat) (wire : Bytes) :
    zeroExtended n wire = .ok (resize n wire) := by
  have hcount : min wire.length n ≤ wire.length := Nat.min_le_left _ _
  have hroom : min wire.length n ≤ (List.replicate n (0 : UInt8)).length := by
    rw [List.length_replicate]
    exact Nat.min_le_right _ _
  have hsource : (wire.take (min wire.length n)).length = min wire.length n := by
    rw [List.length_take, Nat.min_eq_left hcount]
  have hzeros : n - min wire.length n = n - wire.length := by omega
  have hcut : wire.take (min wire.length n) = wire.take n := by
    rw [Nat.min_comm, ← List.take_take, List.take_length]
  rw [zeroExtended, sliceTo_eq hcount, ok_bind, copyInto_eq hroom hsource, List.drop_replicate,
    hzeros, hcut, resize]

theorem octet_resize {n i : Nat} {wire : Bytes} (h : i < n) :
    octet (resize n wire) i = .ok (byteAt wire i) := by
  rw [octet_eq (by rwa [length_resize]), byteAt_resize h]

theorem resize_eq_field (n : Nat) (b : Bytes) : resize n b = field b 0 n := rfl

/-! ### Internet addresses -/

def readV4 (wire : Bytes) : Checked SocketV4 := do
  let array ← zeroExtended 16 wire
  let port := UInt16.ofNat (ofBigEndian [← octet array 2, ← octet array 3])
  let ip := [← octet array 4, ← octet array 5, ← octet array 6, ← octet array 7]
  pure ⟨.ofBytes ip, port⟩

theorem readV4_eq (wire : Bytes) : readV4 wire = .ok (SocketV4.ofWire wire) := by
  simp (disch := decide) only [readV4, zeroExtended_eq, ok_bind, octet_resize, pure_eq]
  simp only [SocketV4.ofWire, u16be, field_succ, field_zero]

/-- The scope written inside the octets of an IPv6 address, zero for none. -/
def embeddedScope (octets : Bytes) : Checked UInt16 := do
  let first ← octet octets 0
  let second ← octet octets 1
  if first == 0xfe && second &&& 0xc0 == 0x80 ||
      first == 0xff && (second &&& 0x0f == 1 || second &&& 0x0f == 2) then
    pure (.ofNat (ofBigEndian [← octet octets 2, ← octet octets 3]))
  else pure 0

theorem embeddedScope_eq (ip : Ip.V6) : embeddedScope ip.octets = .ok ip.embeddedScope := by
  have hlength := ip.length_octets
  have hoctet : ∀ i < 16, octet ip.octets i = .ok (byteAt ip.octets i) := fun i hi =>
    octet_eq (by omega)
  simp only [embeddedScope, hoctet 0 (by decide), hoctet 1 (by decide), hoctet 2 (by decide),
    hoctet 3 (by decide), ok_bind, pure_eq, Ip.V6.embeddedScope, Ip.V6.embedsScope,
    Ip.V6.isLinkLocal, Ip.V6.isNarrowMulticast, Ip.V6.isMulticast, u16be, field_succ, field_zero]
  split <;> rfl

def readV6 (wire : Bytes) : Checked SocketV6 := do
  let array ← zeroExtended 28 wire
  let port := UInt16.ofNat (ofBigEndian [← octet array 2, ← octet array 3])
  let flowInfo := UInt32.ofNat
    (ofBigEndian [← octet array 4, ← octet array 5, ← octet array 6, ← octet array 7])
  let octets ← copyInto (List.replicate 16 0) 16 (← slice array 8 24)
  let scopeId := UInt32.ofNat
    (ofLittleEndian [← octet array 24, ← octet array 25, ← octet array 26, ← octet array 27])
  let embedded ← embeddedScope octets
  if embedded = 0 then pure ⟨.ofBytes octets, port, flowInfo, scopeId⟩
  else
    let octets ← replaceAt octets 2 0
    let octets ← replaceAt octets 3 0
    pure ⟨.ofBytes octets, port, flowInfo, embedded.toUInt32⟩

/-- Clearing octets 2 and 3 one after the other clears the scope. -/
theorem clearScope_eq (ip : Ip.V6) :
    ip.clearScope = .ofBytes ((ip.octets.set 2 0).set 3 0) := by
  obtain ⟨octets, hlength⟩ := ip
  match octets, hlength with
  | _ :: _ :: _ :: _ :: rest, _ => rfl

theorem readV6_eq (wire : Bytes) : readV6 wire = .ok (SocketV6.ofWire wire) := by
  let ip : Ip.V6 := .ofBytes (field wire 8 16)
  have hoctets : field wire 8 16 = ip.octets := (resize_of_length (length_field wire 8 16)).symm
  have hcopy : copyInto (List.replicate 16 0) 16 ip.octets = .ok ip.octets := by
    rw [copyInto_eq (by simp) ip.length_octets, List.drop_replicate]
    exact congrArg _ (List.append_nil _)
  have hslice : slice (resize 28 wire) 8 24 = .ok ip.octets := by
    rw [slice_eq (by decide) (by simp), resize_eq_field, field_field (by decide), hoctets]
  have hfirst : replaceAt ip.octets 2 0 = .ok (ip.octets.set 2 0) :=
    replaceAt_eq (by rw [ip.length_octets]; decide) 0
  have hsecond : replaceAt (ip.octets.set 2 0) 3 0 = .ok ((ip.octets.set 2 0).set 3 0) :=
    replaceAt_eq (by rw [List.length_set, ip.length_octets]; decide) 0
  simp (disch := decide) only [readV6, zeroExtended_eq, ok_bind, octet_resize, pure_eq, hslice,
    hcopy, embeddedScope_eq, hfirst, hsecond, ← clearScope_eq, Ip.V6.ofBytes_octets]
  have hscope : SocketV6.ofWire wire =
      SocketV6.relocateScope ⟨ip, u16be wire 2, u32be wire 4, u32le wire 24⟩ := rfl
  rw [hscope, SocketV6.relocateScope]
  simp only [u16be, u32be, u32le, field_succ, field_zero]
  split <;> rfl

/-! ### Link-layer and other addresses -/

def readLink (M : Machine) (wire : Bytes) : Checked LinkAddress := do
  let header ← zeroExtended 8 wire
  let nameLength := (← octet header 5).toNat
  let hardwareLength := (← octet header 6).toNat
  let nameStop ← M.add 8 nameLength
  let hardwareStop ← M.add nameStop hardwareLength
  let index := UInt16.ofNat (ofLittleEndian [← octet header 2, ← octet header 3])
  let linkType ← octet header 4
  if hardwareStop ≤ wire.length then
    let name ← slice wire 8 nameStop
    let hardware ← slice wire nameStop hardwareStop
    pure ⟨index, linkType, Text.Utf8.decode name, hardware⟩
  else pure ⟨index, linkType, "", []⟩

theorem readLink_eq (M : Machine) (wire : Bytes) :
    readLink M wire = .ok (LinkAddress.ofWire wire) := by
  have hname := (byteAt wire 5).toNat_lt
  have hhardware := (byteAt wire 6).toNat_lt
  have hnameStop : M.add 8 (byteAt wire 5).toNat = .ok (8 + (byteAt wire 5).toNat) :=
    M.add_eq_of_le (by omega)
  have hstop : M.add (8 + (byteAt wire 5).toNat) (byteAt wire 6).toNat =
      .ok (8 + (byteAt wire 5).toNat + (byteAt wire 6).toNat) := M.add_eq_of_le (by omega)
  simp (disch := decide) only [readLink, zeroExtended_eq, ok_bind, octet_resize, pure_eq,
    hnameStop, hstop]
  rw [LinkAddress.ofWire]
  by_cases hfits : LinkAddress.Fits wire
  · have hroom : 8 + (byteAt wire 5).toNat + (byteAt wire 6).toNat ≤ wire.length := hfits
    rw [if_pos hroom, if_pos hfits, slice_eq (by omega) (by omega), slice_eq (by omega) hroom,
      Nat.add_sub_cancel_left, Nat.add_sub_cancel_left]
    simp only [ok_bind, u16le, field_succ, field_zero]
    rfl
  · have hroom : ¬ 8 + (byteAt wire 5).toNat + (byteAt wire 6).toNat ≤ wire.length := hfits
    rw [if_neg hroom, if_neg hfits]
    simp only [u16le, field_succ, field_zero]

def readOpaque (wire : Bytes) : Checked OpaqueAddress := do
  pure ⟨← octet wire 1, ← sliceFrom wire 2⟩

/-- The family and the octets behind it are taken unchecked; the reader of a form has
made sure that they are there. -/
theorem readOpaque_eq {wire : Bytes} (h : 2 ≤ wire.length) :
    readOpaque wire = .ok (OpaqueAddress.ofWire wire) := by
  rw [readOpaque, octet_eq h, sliceFrom_eq h]
  rfl

example : readOpaque [1] = .error .outOfRange := rfl

/-! ### Reading any address -/

section
variable {α : Type}

/-- Reading in one form; `read` gets the declared octets. -/
def decodeForm (form : Form α) (read : Bytes → Checked α) (raw : Bytes) : Checked (Option α) := do
  match Family.ofBytes? raw with
  | none => pure none
  | some family =>
    if !form.accepts family then pure none
    else
      let declared := (← octet raw 0).toNat
      if declared < 2 ∨ form.capacity < declared then pure none
      else
        match slice? raw 0 declared with
        | none => pure none
        | some wire => pure (some (← read wire))

/-- What a form reads has two octets at least, and that is all that it may count on. -/
theorem decodeForm_eq {form : Form α} {read : Bytes → Checked α}
    (hread : ∀ wire, 2 ≤ wire.length → read wire = .ok (form.ofWire wire)) (raw : Bytes) :
    decodeForm form read raw = .ok (form.decode? raw) := by
  cases hfamily : Family.ofBytes? raw with
  | none => simp [decodeForm, Form.decode?, hfamily]
  | some family =>
    have hroom : 0 < raw.length := by
      rcases raw with _ | ⟨x, rest⟩
      · contradiction
      · exact Nat.succ_pos _
    simp only [decodeForm, Form.decode?, hfamily, octet_eq hroom, ok_bind, pure_eq,
      Option.bind_eq_bind, Option.bind_some, declaredLength, slice?_to_eq]
    -- Family, declared length and room are checked in turn; `read` is reached behind all three.
    by_cases haccepts : form.accepts family = true
    · by_cases hdeclared : 2 ≤ (byteAt raw 0).toNat ∧ (byteAt raw 0).toNat ≤ form.capacity
      · have hno : ¬ ((byteAt raw 0).toNat < 2 ∨ form.capacity < (byteAt raw 0).toNat) := by omega
        by_cases hall : (byteAt raw 0).toNat ≤ raw.length
        · have hwire : 2 ≤ (raw.take (byteAt raw 0).toNat).length := by
            rw [List.length_take]
            omega
          simp only [haccepts, Bool.not_true, Bool.false_eq_true, if_false, hno, hdeclared, hall,
            hread _ hwire, and_self, if_true, ok_bind]
        · simp only [haccepts, Bool.not_true, Bool.false_eq_true, if_false, hno, hall, and_false]
      · have hyes : (byteAt raw 0).toNat < 2 ∨ form.capacity < (byteAt raw 0).toNat := by omega
        simp only [haccepts, Bool.not_true, Bool.false_eq_true, if_false, hyes, if_true, true_and]
        rw [if_neg fun h => hdeclared ⟨h.1, h.2.1⟩]
    · simp only [haccepts, Bool.not_false, if_true, Bool.false_eq_true, false_and, if_false]

end

def decodeV4 (raw : Bytes) : Checked (Option SockAddr) := do
  pure ((← decodeForm SocketV4.form readV4 raw).map .v4)

def decodeV6 (raw : Bytes) : Checked (Option SockAddr) := do
  pure ((← decodeForm SocketV6.form readV6 raw).map .v6)

def decodeLink (M : Machine) (raw : Bytes) : Checked (Option LinkAddress) :=
  decodeForm LinkAddress.form (readLink M) raw

def decode (M : Machine) (raw : Bytes) : Checked (Option SockAddr) := do
  match Family.ofBytes? raw with
  | none => pure none
  | some .inet => decodeV4 raw
  | some .inet6 => decodeV6 raw
  | some .link => pure ((← decodeLink M raw).map .link)
  | some _ => pure ((← decodeForm OpaqueAddress.form readOpaque raw).map .other)

theorem decodeV4_eq (raw : Bytes) :
    decodeV4 raw = .ok ((SocketV4.form.decode? raw).map .v4) := by
  rw [decodeV4, decodeForm_eq fun wire _ => readV4_eq wire]
  rfl

theorem decodeV6_eq (raw : Bytes) :
    decodeV6 raw = .ok ((SocketV6.form.decode? raw).map .v6) := by
  rw [decodeV6, decodeForm_eq fun wire _ => readV6_eq wire]
  rfl

theorem decodeLink_eq (M : Machine) (raw : Bytes) :
    decodeLink M raw = .ok (LinkAddress.form.decode? raw) :=
  decodeForm_eq (fun wire _ => readLink_eq M wire) raw

theorem decode_eq (M : Machine) (raw : Bytes) : decode M raw = .ok (SockAddr.decode? raw) := by
  have hother : decodeForm OpaqueAddress.form readOpaque raw =
      .ok (OpaqueAddress.form.decode? raw) := decodeForm_eq (fun _ => readOpaque_eq) raw
  unfold decode SockAddr.decode?
  cases Family.ofBytes? raw with
  | none => rfl
  | some family =>
    cases family with
    | inet => exact decodeV4_eq raw
    | inet6 => exact decodeV6_eq raw
    | link =>
      simp only [decodeLink_eq, ok_bind]
      rfl
    | unspecified =>
      simp only [hother, ok_bind]
      rfl
    | other code =>
      simp only [hother, ok_bind]
      rfl

/-! ### Reading masks -/

/-- The declared octets of a mask in an array of `length` octets. -/
def maskArray? (raw : Bytes) (declared length : Nat) : Checked (Option Bytes) := do
  match slice? raw 0 declared with
  | none => pure none
  | some wire => pure (some (← zeroExtended length wire))

def completeV4 (raw : Bytes) (declared : Nat) : Checked (Option SockAddr) := do
  match ← maskArray? raw declared 16 with
  | none => pure none
  | some array =>
    let array ← replaceAt array 0 16
    let array ← replaceAt array 1 Family.inet.code
    decodeV4 array

/-- Only the family is written: the length is right already. -/
def completeV6 (raw : Bytes) (declared : Nat) : Checked (Option SockAddr) := do
  match ← maskArray? raw declared 28 with
  | none => pure none
  | some array =>
    let array ← replaceAt array 1 Family.inet6.code
    decodeV6 array

def decodeNetmask (M : Machine) (raw : Bytes) : Checked (Option SockAddr) := do
  match raw[0]? with
  | none => pure none
  | some length =>
    let declared := length.toNat
    match Family.ofBytes? raw with
    | none => pure none
    | some .inet =>
      if 2 ≤ declared ∧ declared < 16 then completeV4 raw declared else decode M raw
    | some .unspecified =>
      if 2 ≤ declared ∧ declared ≤ 16 then completeV4 raw declared
      else if declared = 28 then completeV6 raw declared
      else decode M raw
    | some _ => decode M raw

theorem maskArray?_eq (raw : Bytes) (declared length : Nat) :
    maskArray? raw declared length = .ok ((slice? raw 0 declared).map (resize length)) := by
  unfold maskArray?
  cases slice? raw 0 declared with
  | none => rfl
  | some wire =>
    simp only [zeroExtended_eq, ok_bind]
    rfl

theorem resize_eq_cons (n : Nat) (wire : Bytes) :
    resize (n + 2) wire = byteAt wire 0 :: byteAt wire 1 :: field wire 2 n := by
  rw [resize_eq_field, field_succ, field_succ]

theorem completeV4_eq (raw : Bytes) :
    completeV4 raw (declaredLength raw) = .ok ((completeMask? raw 16 .inet).bind fun b =>
      (SocketV4.form.decode? b).map .v4) := by
  rw [completeV4, maskArray?_eq, completeMask?]
  cases slice? raw 0 (declaredLength raw) with
  | none => rfl
  | some wire =>
    simp only [Option.map_some, ok_bind, resize_eq_cons 14]
    exact decodeV4_eq _

theorem completeV6_eq {raw : Bytes} (h : declaredLength raw = 28) :
    completeV6 raw (declaredLength raw) = .ok ((completeMask? raw 28 .inet6).bind fun b =>
      (SocketV6.form.decode? b).map .v6) := by
  rw [completeV6, maskArray?_eq, completeMask?, slice?_to_eq]
  by_cases hall : declaredLength raw ≤ raw.length
  · have hlength : byteAt (raw.take (declaredLength raw)) 0 = UInt8.ofNat 28 := by
      rw [byteAt_take (by omega), ← h, declaredLength, UInt8.ofNat_toNat]
    simp only [hall, if_true, Option.map_some, ok_bind, resize_eq_cons 26, hlength]
    exact decodeV6_eq _
  · simp [hall]

theorem decodeNetmask_eq (M : Machine) (raw : Bytes) :
    decodeNetmask M raw = .ok (SockAddr.decodeNetmask? raw) := by
  rcases raw with _ | ⟨length, rest⟩
  · rfl
  have hdeclared : length.toNat = declaredLength (length :: rest) := rfl
  simp only [decodeNetmask, SockAddr.decodeNetmask?, List.getElem?_cons_zero, hdeclared]
  cases Family.ofBytes? (length :: rest) with
  | none => rfl
  | some family =>
    cases family with
    | inet =>
      simp only [completeV4_eq, decode_eq]
      simp only [Option.bind_eq_bind, Option.bind_some]
      split <;> rfl
    | unspecified =>
      simp only [completeV4_eq, decode_eq, Option.bind_eq_bind, Option.bind_some]
      split
      · rfl
      · split
        · next h => exact completeV6_eq h
        · rfl
    | inet6 => exact decode_eq M _
    | link => exact decode_eq M _
    | other code => exact decode_eq M _

/-! ### Writing -/

/-- The first octets, as many as there is room for. -/
def clamped (b : Bytes) (room : Nat) : Checked Bytes := sliceTo b (min b.length room)

theorem clamped_eq (b : Bytes) (room : Nat) : clamped b room = .ok (b.take room) := by
  rw [clamped, sliceTo_eq (Nat.min_le_left _ _), Nat.min_comm, ← List.take_eq_take_min]

/-- The length is written when everything else is. -/
def declareLength (b : Bytes) : Checked Bytes := do
  replaceAt b 0 (← toOctet b.length)

def encodeLink (a : LinkAddress) : Checked Bytes := do
  let name ← clamped (Text.Utf8.encode a.name) (← sub 255 8)
  let hardware ← clamped a.hardware (← sub (← sub 255 8) name.length)
  let filled := [0, Family.link.code] ++ littleEndian 2 a.index.toNat ++
    [a.linkType, ← toOctet name.length, ← toOctet hardware.length, 0] ++ name ++ hardware
  declareLength (if filled.length < 20 then resize 20 filled else filled)

def encode (M : Machine) : SockAddr → Checked Bytes
  | .v4 a =>
    pure (resize 16 ([16, Family.inet.code] ++ bigEndian 2 a.port.toNat ++ a.ip.octets))
  | .v6 a =>
    pure ([28, Family.inet6.code] ++ bigEndian 2 a.port.toNat ++ bigEndian 4 a.flowInfo.toNat ++
      a.ip.octets ++ littleEndian 4 a.scopeId.toNat)
  | .link a => encodeLink a
  | .other a => do
    let data ← clamped a.data (← sub 255 2)
    pure ([← toOctet (← M.add data.length 2), a.family] ++ data)

theorem declareLength_eq {b : Bytes} (h : 1 + b.length < 256) :
    declareLength (0 :: b) = .ok (UInt8.ofNat (1 + b.length) :: b) := by
  rw [declareLength, List.length_cons, Nat.add_comm, toOctet_eq h, ok_bind,
    replaceAt_eq (Nat.succ_pos _)]
  rfl

/-- What is padded behind the length octet is padded as a whole. -/
theorem resize_zero_cons {n : Nat} {b : Bytes} (h : b.length ≤ n) :
    resize (n + 1) (0 :: b) = 0 :: (b ++ List.replicate (n - b.length) 0) := by
  rw [resize_of_ge (by simpa using h), List.length_cons, Nat.add_sub_add_right, List.cons_append]

theorem encodeLink_eq (a : LinkAddress) : encodeLink a = .ok (SockAddr.link a).encode := by
  have hlength := a.length_encode
  have hwire := a.length_wire
  have hfilled := a.length_filled
  rw [SockAddr.encode, List.length_cons, LinkAddress.headerLength] at hlength
  rw [LinkAddress.headerLength] at hfilled
  have hpadded : (if (0 :: a.filled).length < 20 then resize 20 (0 :: a.filled)
      else 0 :: a.filled) = 0 :: a.wireTail := by
    rw [List.length_cons]
    split
    · exact resize_zero_cons (by omega)
    · have hfull : a.wireTail = a.filled ++ List.replicate (19 - a.filled.length) 0 := rfl
      rw [hfull, Nat.sub_eq_zero_of_le (by omega), List.replicate_zero, List.append_nil]
  have hname : clamped (Text.Utf8.encode a.name) (255 - 8) = .ok a.wireName := clamped_eq _ _
  have hhardware : clamped a.hardware (255 - 8 - a.wireName.length) = .ok a.wireHardware :=
    clamped_eq _ _
  have hroom : sub (255 - 8) a.wireName.length = .ok (255 - 8 - a.wireName.length) :=
    sub_eq (by omega)
  have htail : 1 + a.wireTail.length < 256 := by
    rw [SockAddr.tail] at hlength
    omega
  simp only [encodeLink, sub_eq (show 8 ≤ 255 by decide), ok_bind, hname, hroom, hhardware,
    toOctet_eq (show a.wireName.length < 256 by omega),
    toOctet_eq (show a.wireHardware.length < 256 by omega)]
  show declareLength (if (0 :: a.filled).length < 20 then resize 20 (0 :: a.filled)
    else 0 :: a.filled) = _
  rw [hpadded, declareLength_eq htail]
  rfl

theorem encode_eq (M : Machine) (a : SockAddr) : encode M a = .ok a.encode := by
  cases a with
  | v4 a =>
    have hlength : ([16, Family.inet.code] ++ bigEndian 2 a.port.toNat ++ a.ip.octets).length = 8 := by
      simp [a.ip.length_octets]
    have htail : 1 + (SockAddr.v4 a).tail.length = 16 := by
      simp [SockAddr.tail, a.ip.length_octets]
    rw [encode, resize_of_ge (by omega), hlength, SockAddr.encode, htail]
    rfl
  | v6 a =>
    have htail : 1 + (SockAddr.v6 a).tail.length = 28 := by
      simp [SockAddr.tail, a.ip.length_octets]
    rw [encode, SockAddr.encode, htail]
    rfl
  | link a => exact encodeLink_eq a
  | other a =>
    have hdata : (a.data.take (255 - 2)).length ≤ 253 := List.length_take_le _ _
    have htail : 1 + (SockAddr.other a).tail.length = (a.data.take (255 - 2)).length + 2 := by
      simp only [SockAddr.tail, longestAddress, List.length_cons]
      omega
    simp only [encode, sub_eq (show 2 ≤ 255 by decide), ok_bind, clamped_eq, pure_eq,
      M.add_eq_of_le (show (a.data.take (255 - 2)).length + 2 ≤ 65535 by omega),
      toOctet_eq (show (a.data.take (255 - 2)).length + 2 < 256 by omega)]
    rw [SockAddr.encode, htail]
    rfl

/-! ### Prefix lengths -/

/-- The one bits before the first zero bit, counted in 32 bits. -/
def countOnes (count : Nat) : Bytes → Checked Nat
  | [] => pure count
  | b :: rest => do
    let count ← addUpTo 4294967295 count (leadingOnes b)
    if leadingOnes b < 8 then pure count else countOnes count rest

def prefixOctet (mask : Bytes) : Checked UInt8 := do
  toOctet (← countOnes 0 mask)

/-- The count fails where the sum of all that is counted does. -/
theorem countOnes_eq {count : Nat} (mask : Bytes) (h : count ≤ 4294967295) :
    countOnes count mask = addUpTo 4294967295 count (onesInFront mask) := by
  induction mask generalizing count with
  | nil => exact (addUpTo_eq (show count + 0 ≤ 4294967295 from h)).symm
  | cons b rest ih =>
    have hb := leadingOnes_le b
    rw [countOnes, onesInFront_cons]
    by_cases hfull : leadingOnes b = 8
    · rw [if_pos hfull, hfull]
      by_cases hsum : count + 8 ≤ 4294967295
      · rw [addUpTo_eq hsum, ok_bind, if_neg (by decide), ih hsum, addUpTo, addUpTo,
          Nat.add_assoc]
      · rw [addUpTo, addUpTo, if_neg hsum, if_neg (by omega)]
        rfl
    · have hlast : leadingOnes b < 8 := by omega
      simp only [if_neg hfull, if_pos hlast, bind_pure]

theorem prefixOctet_eq (mask : Ip.V6) :
    prefixOctet mask.octets = .ok (UInt8.ofNat (prefixLength mask.octets)) := by
  have hlength := mask.length_octets
  have hones := onesInFront_le mask.octets
  rw [prefixOctet, countOnes_eq mask.octets (by decide), addUpTo_eq (by omega), ok_bind,
    Nat.zero_add, toOctet_eq (by omega), prefixLength_of_length_lt (by omega)]

end Checked

end InterfaceDump
