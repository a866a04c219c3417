import InterfaceDump.Address.Decode
import InterfaceDump.Address.Slot
import InterfaceDump.Message.Header
import InterfaceDump.Message.LinkData
import InterfaceDump.Message.Options

/-! Interface messages.

There is one for every interface: a fixed part with its slots, options, index and
link data, then its link-layer address. Only the declared octets of a message
are kept, so nothing behind it is read. -/
namespace InterfaceDump
open Bytes

structure InterfaceMessage where
  /-- The declared octets, header included. -/
  bytes : Bytes
deriving DecidableEq

namespace InterfaceMessage

/-- The length of the fixed part; the link-layer address starts behind it. -/
def fixedLength : Nat := 112

/-- Where the block of link data starts in the fixed part. -/
def linkDataOffset : Nat := 16

/-- The interface message at the start of `raw`, if its type says so and its
declared octets hold the fixed part and are all there. -/
def parse? (raw : Bytes) : Option InterfaceMessage := do
  let header ← Header.parse? raw
  let length := header.recordLength
  if header.messageType = .interfaceInfo ∧ fixedLength ≤ length ∧ length ≤ raw.length then
    some ⟨raw.take length⟩
  else none

theorem parse?_eq_some_iff {raw : Bytes} {m : InterfaceMessage} :
    parse? raw = some m ↔ ∃ h, Header.parse? raw = some h ∧ h.messageType = .interfaceInfo ∧
      fixedLength ≤ h.recordLength ∧ h.recordLength ≤ raw.length ∧
      m = ⟨raw.take h.recordLength⟩ := by
  unfold parse?
  cases Header.parse? raw with
  | none => simp
  | some h =>
    simp only [Option.bind_eq_bind, Option.bind_some, Option.some.injEq, exists_eq_left']
    split
    · next hc => simp [hc, eq_comm]
    · next hc =>
      simp only [reduceCtorEq, false_iff, not_and]
      exact fun h1 h2 h3 => absurd ⟨h1, h2, h3⟩ hc

theorem length_of_parse? {raw : Bytes} {m : InterfaceMessage} (hp : parse? raw = some m) :
    fixedLength ≤ m.bytes.length ∧ m.bytes.length ≤ raw.length := by
  obtain ⟨h, -, -, hlow, hhigh, rfl⟩ := parse?_eq_some_iff.mp hp
  simp only [List.length_take]
  omega

/-! ### Fields -/

/-- The declared length of the message. -/
def recordLength (m : InterfaceMessage) : Nat := m.bytes.length

def version (m : InterfaceMessage) : UInt8 := byteAt m.bytes 2

def slots (m : InterfaceMessage) : SlotSet := ⟨u32le m.bytes 4⟩

def options (m : InterfaceMessage) : Options := ⟨u32le m.bytes 8⟩

def index (m : InterfaceMessage) : UInt16 := u16le m.bytes 12

def linkData (m : InterfaceMessage) : LinkData :=
  .ofBytes (field m.bytes linkDataOffset (fixedLength - linkDataOffset))

/-- The link-layer address that follows the fixed part, whatever interface it describes. -/
def storedLink? (m : InterfaceMessage) : Option LinkAddress :=
  if m.slots.hasInterfaceLink then LinkAddress.form.decode? (m.bytes.drop fixedLength) else none

/-- The link-layer address of this interface: one that names another index is ignored. -/
def linkAddress? (m : InterfaceMessage) : Option LinkAddress :=
  m.storedLink?.filter (·.index == m.index)

/-- Whether the message can stand for an interface: it announces a link-layer
address and has an index. -/
def isUsable (m : InterfaceMessage) : Bool := m.slots.hasInterfaceLink && m.index != 0

end InterfaceMessage

end InterfaceDump
