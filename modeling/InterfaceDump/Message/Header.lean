import InterfaceDump.Bytes
import InterfaceDump.Text.Inspect

/-! Message headers.

Every message opens with its length, a version and a type. Lengths and all other
numbers of a message are little-endian. -/
namespace InterfaceDump
open Bytes

/-! ### Message types -/

inductive MessageType where
  | add
  | delete
  | change
  | get
  | newAddress
  | deleteAddress
  | interfaceInfo
  | newMulticastAddress
  | deleteMulticastAddress
  | interfaceInfo2
  | newMulticastAddress2
  | get2
  | other (code : UInt8)
deriving DecidableEq

namespace MessageType

def ofCode : UInt8 → MessageType
  | 0x01 => add
  | 0x02 => delete
  | 0x03 => change
  | 0x04 => get
  | 0x0c => newAddress
  | 0x0d => deleteAddress
  | 0x0e => interfaceInfo
  | 0x0f => newMulticastAddress
  | 0x10 => deleteMulticastAddress
  | 0x12 => interfaceInfo2
  | 0x13 => newMulticastAddress2
  | 0x14 => get2
  | code => other code

def code : MessageType → UInt8
  | add => 0x01
  | delete => 0x02
  | change => 0x03
  | get => 0x04
  | newAddress => 0x0c
  | deleteAddress => 0x0d
  | interfaceInfo => 0x0e
  | newMulticastAddress => 0x0f
  | deleteMulticastAddress => 0x10
  | interfaceInfo2 => 0x12
  | newMulticastAddress2 => 0x13
  | get2 => 0x14
  | other code => code

theorem code_ofCode (c : UInt8) : (ofCode c).code = c := by
  unfold ofCode
  split <;> rfl

def text : MessageType → String
  | add => "Add"
  | delete => "Delete"
  | change => "Change"
  | get => "Get"
  | newAddress => "NewAddress"
  | deleteAddress => "DeleteAddress"
  | interfaceInfo => "InterfaceInfo"
  | newMulticastAddress => "NewMulticastAddress"
  | deleteMulticastAddress => "DeleteMulticastAddress"
  | interfaceInfo2 => "InterfaceInfo2"
  | newMulticastAddress2 => "NewMulticastAddress2"
  | get2 => "Get2"
  | other code => Text.Inspect.applied "Other" (toString code.toNat)

/-- A code outside the range that message types are numbered in. -/
structure OutOfRange where
  code : UInt8
deriving DecidableEq

def OutOfRange.message (e : OutOfRange) : String :=
  s!"invalid message type {e.code.toNat}, needs to be between 1 and 20"

/-- The type of a code from 1 to 20. -/
def checked (code : UInt8) : Except OutOfRange MessageType :=
  if 1 ≤ code.toNat ∧ code.toNat ≤ 20 then .ok (ofCode code) else .error ⟨code⟩

end MessageType

/-! ### Headers -/

structure Header where
  length : UInt16
  version : UInt8
  messageType : MessageType
deriving DecidableEq

namespace Header

/-- The octets of a header. -/
def size : Nat := 4

/-- The version of the messages that are understood. -/
def currentVersion : UInt8 := 5

/-- The header at the start of `raw`, if four octets are there. -/
def parse? (raw : Bytes) : Option Header :=
  if size ≤ raw.length then
    some ⟨u16le raw 0, byteAt raw 2, .ofCode (byteAt raw 3)⟩
  else none

/-- The octets of the whole message, header included. -/
def recordLength (h : Header) : Nat := h.length.toNat

def isCurrent (h : Header) : Bool := h.version == currentVersion

end Header

end InterfaceDump
