import InterfaceDump.Address.Netmask
import InterfaceDump.Diagnostics.Event

/-! What reading an address reports.

An address of a family that the form does not take is passed over silently, and
so is a mask that is too short to be completed. -/
namespace InterfaceDump.Diagnostics
open Bytes

/-- What reading an address in a form reports; `ofWire` adds what the declared
octets themselves give rise to. -/
def decodeEvents {α : Type} (form : Form α) (ofWire : Bytes → List Event) (raw : Bytes) :
    List Event :=
  match Family.ofBytes? raw with
  | none => []
  | some family =>
    let declared := declaredLength raw
    if form.accepts family then
      if declared < 2 ∨ form.capacity < declared then [.rejectedLength family declared]
      else if raw.length < declared then [.missingOctets declared raw.length]
      else ofWire (raw.take declared)
    else []

def v4Events : Bytes → List Event := decodeEvents SocketV4.form fun _ => []

def v6Events : Bytes → List Event := decodeEvents SocketV6.form fun _ => []

def opaqueEvents : Bytes → List Event := decodeEvents OpaqueAddress.form fun _ => []

def linkEvents : Bytes → List Event := decodeEvents LinkAddress.form fun wire =>
  if LinkAddress.Fits wire then []
  else [.linkOverflow wire.length (byteAt wire 5).toNat (byteAt wire 6).toNat]

/-- What reading an address of any family reports. -/
def addressEvents (raw : Bytes) : List Event :=
  match Family.ofBytes? raw with
  | none => []
  | some .inet => v4Events raw
  | some .inet6 => v6Events raw
  | some .link => linkEvents raw
  | some _ => opaqueEvents raw

/-- Whether a mask is read by completing it. -/
def isAbbreviatedMask (family : Family) (declared : Nat) : Bool :=
  match family with
  | .inet => 2 ≤ declared && declared < 16
  | .unspecified => 2 ≤ declared && declared ≤ 16 || declared == 28
  | _ => false

/-- What reading a mask reports: a completed mask is well formed. -/
def netmaskEvents (raw : Bytes) : List Event :=
  match Family.ofBytes? raw with
  | none => []
  | some family =>
    if isAbbreviatedMask family (declaredLength raw) then [] else addressEvents raw

end InterfaceDump.Diagnostics
