import InterfaceDump.Text.Hex
import InterfaceDump.Ip.V4

/-! IPv6 addresses: sixteen octets, shown as eight groups.

The text is the recommended one: lowercase groups without leading zeros, the
longest run of two or more zero groups written as a double colon, the first of
them where two are equally long. An address that maps an IPv4 address shows the
dotted quad in its last two groups. -/
namespace InterfaceDump.Ip

structure V6 where
  octets : Bytes
  length_octets : octets.length = 16
deriving DecidableEq

namespace V6
open Bytes Text

/-- The address whose octets are the first sixteen, zero where there are fewer. -/
def ofBytes (b : Bytes) : V6 := ⟨resize 16 b, length_resize 16 b⟩

@[simp] theorem octets_ofBytes (b : Bytes) : (ofBytes b).octets = resize 16 b := rfl

theorem ofBytes_octets (ip : V6) : ofBytes ip.octets = ip := by
  obtain ⟨octets, h⟩ := ip
  simp only [ofBytes, resize_of_length h]

/-! ### Text -/

/-- The eight 16-bit groups. -/
def groups (ip : V6) : List Nat :=
  (List.range 8).map fun i => ofBigEndian (field ip.octets (2 * i) 2)

/-- Start and length of the longest run of zeros, the first of several that long. -/
def longestZeroRun (groups : List Nat) : Nat × Nat :=
  (List.range groups.length).foldl
    (fun best i =>
      let length := ((groups.drop i).takeWhile (· == 0)).length
      if best.2 < length then (i, length) else best)
    (0, 0)

def groupsText (groups : List Nat) : String := ":".intercalate (groups.map Hex.ofNat)

/-- ::ffff:0:0/96, the addresses that stand for an IPv4 address. -/
def mapped? (ip : V6) : Option V4 :=
  if ip.octets.take 12 = List.replicate 10 0 ++ [0xff, 0xff] then
    some (V4.ofBytes (ip.octets.drop 12))
  else none

def text (ip : V6) : String :=
  match ip.mapped? with
  | some v4 => "::ffff:" ++ v4.text
  | none =>
    let (start, length) := longestZeroRun ip.groups
    if 2 ≤ length then
      groupsText (ip.groups.take start) ++ "::" ++ groupsText (ip.groups.drop (start + length))
    else groupsText ip.groups

/-! ### Reading a literal -/

/-- The number written by one to four hexadecimal digits. -/
def groupOfText? (s : String) : Option Nat := do
  let digits := s.toList
  if digits.isEmpty || 4 < digits.length then none
  else
    digits.foldlM (fun n c => do
      let digit ←
        if c.isDigit then some (c.toNat - '0'.toNat)
        else if 'a' ≤ c ∧ c ≤ 'f' then some (c.toNat - 'a'.toNat + 10)
        else if 'A' ≤ c ∧ c ≤ 'F' then some (c.toNat - 'A'.toNat + 10)
        else none
      some (16 * n + digit)) 0

/-- The octets of one side of a double colon; the last group may be a dotted quad. -/
def sideOfText? (s : String) : Option Bytes :=
  if s.isEmpty then some []
  else
    let parts := s.splitOn ":"
    let last := parts.getLastD ""
    let groupOctets := fun part => (groupOfText? part).map (bigEndian 2)
    if last.contains '.' then do
      let front ← parts.dropLast.mapM groupOctets
      let quad ← V4.ofText? last
      some (front.flatten ++ quad.octets)
    else (parts.mapM groupOctets).map List.flatten

/-- The address a literal denotes: eight groups, or fewer around one double colon. -/
def ofText? (s : String) : Option V6 := do
  let octets ←
    match s.splitOn "::" with
    | [whole] => sideOfText? whole
    | [front, back] => do
      let front ← sideOfText? front
      let back ← sideOfText? back
      if front.length + back.length ≤ 14 then
        some (front ++ List.replicate (16 - front.length - back.length) 0 ++ back)
      else none
    | _ => none
  if h : octets.length = 16 then some ⟨octets, h⟩ else none

/-! ### Ranges -/

/-- fe80::/10. -/
def isLinkLocal (ip : V6) : Bool := byteAt ip.octets 0 == 0xfe && byteAt ip.octets 1 &&& 0xc0 == 0x80

/-- ff00::/8. -/
def isMulticast (ip : V6) : Bool := byteAt ip.octets 0 == 0xff

/-- Multicast whose scope is the interface or the link. -/
def isNarrowMulticast (ip : V6) : Bool :=
  ip.isMulticast && (byteAt ip.octets 1 &&& 0x0f == 1 || byteAt ip.octets 1 &&& 0x0f == 2)

/-- ::1. -/
def isLoopback (ip : V6) : Bool := ip.octets == List.replicate 15 0 ++ [1]

/-- The address of all zeros. -/
def isWildcard (ip : V6) : Bool := ip.octets == List.replicate 16 0

end V6

end InterfaceDump.Ip
