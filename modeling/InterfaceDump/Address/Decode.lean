import InterfaceDump.Address.Basic

/-! Reading socket addresses.

Every socket address starts with an octet for its length and one for its
family. A `Form` is a kind of address that can be read: the families it takes,
the longest length it has room for, and what its octets mean. Reading looks at
the declared octets only, so what follows an address cannot leak into it, and
fields past a short declared length read as zero. An address that declares less
than its two leading octets, more than the form has room for, or more than is
there, is absent. -/
namespace InterfaceDump
open Bytes

/-! ### Forms -/

structure Form (α : Type) where
  /-- The largest declared length. -/
  capacity : Nat
  accepts : Family → Bool
  /-- The value of the declared octets, length and family included. -/
  ofWire : Bytes → α

/-- The length octet of the address at the start of `raw`. -/
def declaredLength (raw : Bytes) : Nat := (byteAt raw 0).toNat

def Form.decode? {α : Type} (form : Form α) (raw : Bytes) : Option α := do
  let family ← Family.ofBytes? raw
  let declared := declaredLength raw
  if form.accepts family ∧ 2 ≤ declared ∧ declared ≤ form.capacity ∧ declared ≤ raw.length then
    some (form.ofWire (raw.take declared))
  else none

/-! ### IPv4 and IPv6 -/

/-- Port and address; the eight octets after them carry nothing. -/
def SocketV4.ofWire (wire : Bytes) : SocketV4 :=
  ⟨.ofBytes (field wire 4 4), u16be wire 2⟩

def SocketV4.form : Form SocketV4 := ⟨16, (· == .inet), SocketV4.ofWire⟩

/-- Link-local addresses and narrow multicast groups may carry their scope in
octets 2 and 3, big-endian. -/
def Ip.V6.embedsScope (ip : Ip.V6) : Bool := ip.isLinkLocal || ip.isNarrowMulticast

/-- The scope written inside an address, zero for none. -/
def Ip.V6.embeddedScope (ip : Ip.V6) : UInt16 := if ip.embedsScope then u16be ip.octets 2 else 0

/-- The address with octets 2 and 3 cleared. -/
def Ip.V6.clearScope (ip : Ip.V6) : Ip.V6 :=
  .ofBytes (ip.octets.take 2 ++ [0, 0] ++ ip.octets.drop 4)

/-- A scope inside the address moves to the scope field, where it wins. -/
def SocketV6.relocateScope (a : SocketV6) : SocketV6 :=
  if a.ip.embeddedScope = 0 then a
  else { a with ip := a.ip.clearScope, scopeId := a.ip.embeddedScope.toUInt32 }

/-- Port, flow information, address and scope. -/
def SocketV6.ofWire (wire : Bytes) : SocketV6 :=
  relocateScope ⟨.ofBytes (field wire 8 16), u16be wire 2, u32be wire 4, u32le wire 24⟩

def SocketV6.form : Form SocketV6 := ⟨28, (· == .inet6), SocketV6.ofWire⟩

/-! ### Link-layer and other addresses -/

/-- The length of the fixed part of a link-layer address; name and hardware
address follow it. -/
def LinkAddress.headerLength : Nat := 8

/-- Whether the declared octets hold the name and hardware address they announce. -/
def LinkAddress.Fits (wire : Bytes) : Prop :=
  headerLength + (byteAt wire 5).toNat + (byteAt wire 6).toNat ≤ wire.length

instance LinkAddress.decidableFits (wire : Bytes) : Decidable (LinkAddress.Fits wire) := by
  unfold LinkAddress.Fits; infer_instance

/-- Index and type are kept in every case; name and hardware address are both
empty where the declared octets do not hold them. -/
def LinkAddress.ofWire (wire : Bytes) : LinkAddress :=
  let nameLength := (byteAt wire 5).toNat
  let hardwareLength := (byteAt wire 6).toNat
  if Fits wire then
    { index := u16le wire 2
      linkType := byteAt wire 4
      name := Text.Utf8.decode (field wire headerLength nameLength)
      hardware := field wire (headerLength + nameLength) hardwareLength }
  else { index := u16le wire 2, linkType := byteAt wire 4, name := "", hardware := [] }

/-- The room a record keeps for an address of unknown size. -/
def storageLength : Nat := 128

def LinkAddress.form : Form LinkAddress := ⟨storageLength, (· == .link), LinkAddress.ofWire⟩

def OpaqueAddress.ofWire (wire : Bytes) : OpaqueAddress := ⟨byteAt wire 1, wire.drop 2⟩

def OpaqueAddress.form : Form OpaqueAddress :=
  ⟨storageLength, fun _ => true, OpaqueAddress.ofWire⟩

/-! ### Any address -/

/-- The address at the start of `raw`, in the form its family names. -/
def SockAddr.decode? (raw : Bytes) : Option SockAddr := do
  match ← Family.ofBytes? raw with
  | .inet => (SocketV4.form.decode? raw).map .v4
  | .inet6 => (SocketV6.form.decode? raw).map .v6
  | .link => (LinkAddress.form.decode? raw).map .link
  | _ => (OpaqueAddress.form.decode? raw).map .other

end InterfaceDump
