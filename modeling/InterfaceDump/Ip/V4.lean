import InterfaceDump.Bytes

/-! IPv4 addresses: four octets, shown as a dotted quad. -/
namespace InterfaceDump.Ip

structure V4 where
  octets : Bytes
  length_octets : octets.length = 4
deriving DecidableEq

namespace V4
open Bytes

/-- The address whose octets are the first four, zero where there are fewer. -/
def ofBytes (b : Bytes) : V4 := ⟨resize 4 b, length_resize 4 b⟩

@[simp] theorem octets_ofBytes (b : Bytes) : (ofBytes b).octets = resize 4 b := rfl

theorem ofBytes_octets (ip : V4) : ofBytes ip.octets = ip := by
  obtain ⟨octets, h⟩ := ip
  simp only [ofBytes, resize_of_length h]

/-- Decimal octets between dots. -/
def text (ip : V4) : String := ".".intercalate (ip.octets.map fun b => toString b.toNat)

/-- The dotted quad read back; each octet is decimal and below 256. -/
def ofText? (s : String) : Option V4 := do
  let octets ← (s.splitOn ".").mapM fun part => do
    let n ← part.toNat?
    if n < 256 then some (UInt8.ofNat n) else none
  if h : octets.length = 4 then some ⟨octets, h⟩ else none

/-! ### Ranges -/

/-- 169.254.0.0/16. -/
def isLinkLocal (ip : V4) : Bool := byteAt ip.octets 0 == 169 && byteAt ip.octets 1 == 254

/-- 224.0.0.0/4. -/
def isMulticast (ip : V4) : Bool := byteAt ip.octets 0 &&& 0xf0 == 0xe0

/-- 127.0.0.1, and no other address of its block. -/
def isLoopback (ip : V4) : Bool := ip.octets == [127, 0, 0, 1]

/-- 0.0.0.0. -/
def isWildcard (ip : V4) : Bool := ip.octets == List.replicate 4 0

end V4

end InterfaceDump.Ip
