import InterfaceDump.Address.Decode

/-! Netmasks.

A mask is stored as a socket address, but often without its trailing zero octets
and sometimes without its family. Such a mask is filled up to the full length of
the address it stands for, and its length and family are repaired, before it is
read. The prefix length of a mask counts the one bits before its first zero bit, in a
number of 32 bits. -/
namespace InterfaceDump
open Bytes

/-! ### Reading -/

/-- The declared octets of `raw`, filled up to `length` and retagged. -/
def completeMask? (raw : Bytes) (length : Nat) (family : Family) : Option Bytes :=
  (slice? raw 0 (declaredLength raw)).map fun wire =>
    UInt8.ofNat length :: family.code :: field wire 2 (length - 2)

def SockAddr.decodeNetmask? (raw : Bytes) : Option SockAddr := do
  let declared := declaredLength raw
  match ← Family.ofBytes? raw with
  | .inet =>
    if 2 ≤ declared ∧ declared < 16 then
      (SocketV4.form.decode? (← completeMask? raw 16 .inet)).map .v4
    else decode? raw
  | .unspecified =>
    if 2 ≤ declared ∧ declared ≤ 16 then
      (SocketV4.form.decode? (← completeMask? raw 16 .inet)).map .v4
    else if declared = 28 then
      (SocketV6.form.decode? (← completeMask? raw 28 .inet6)).map .v6
    else decode? raw
  | _ => decode? raw

/-! ### Prefix lengths -/

/-- The one bits of an octet before its first zero bit, most significant first. -/
def leadingOnes (b : UInt8) : Nat :=
  ((List.range 8).takeWhile fun i => b.toBitVec.getMsbD i).length

/-- Adds the one bits of a mask before its first zero bit to a count of 32 bits, which wraps
around. -/
def addLeadingOnes (count : UInt32) : Bytes → UInt32
  | [] => count
  | b :: rest =>
    let count := count + UInt32.ofNat (leadingOnes b)
    if leadingOnes b < 8 then count else addLeadingOnes count rest

/-- The one bits of a mask before its first zero bit, as counted; later ones do not count. -/
def prefixLength (mask : Bytes) : Nat := (addLeadingOnes 0 mask).toNat

end InterfaceDump
