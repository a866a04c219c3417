import InterfaceDump.Message.Interface
import InterfaceDump.Message.Record

/-! Where interfaces start.

An interface starts at an interface message of the current version that announces
a link-layer address and has an index. A dump may hold messages that nobody asked
for; the search for the next start steps over them, and over interface messages
that cannot stand for an interface. Where none follows, the next start is the end
of the dump. -/
namespace InterfaceDump

/-- A range of offsets, `stop` excluded. -/
structure Span where
  start : Nat
  stop : Nat
deriving DecidableEq

namespace Record

/-- A current interface message, usable or not. -/
def isInterfaceInfo (r : Record) : Bool :=
  r.header.isCurrent && r.header.messageType == .interfaceInfo

/-- A current interface message that stands for an interface. -/
def opensInterface (r : Record) : Bool :=
  r.isInterfaceInfo && (InterfaceMessage.parse? r.bytes).any (·.isUsable)

end Record

/-- The offset of the first interface at or after `start`, or the end of the dump. -/
def nextBoundary (data : Bytes) (start : Nat) : Nat :=
  match (records data start).find? (·.opensInterface) with
  | some r => r.offset
  | none => data.length

theorem nextBoundary_le (data : Bytes) (start : Nat) : nextBoundary data start ≤ data.length := by
  unfold nextBoundary
  split
  · next r hr => exact Nat.le_of_add_right_le (offset_add_le_of_mem_records (List.mem_of_find?_eq_some hr))
  · exact Nat.le_refl _

theorem le_nextBoundary {data : Bytes} {start : Nat} (h : start ≤ data.length) :
    start ≤ nextBoundary data start := by
  unfold nextBoundary
  split
  · next r hr => exact le_offset_of_mem_records (List.mem_of_find?_eq_some hr)
  · exact h

/-- The range of the interface message at an offset. -/
def interfaceRecord? (data : Bytes) (start : Nat) : Option Span :=
  (InterfaceMessage.parse? (data.drop start)).map fun m => ⟨start, start + m.recordLength⟩

theorem interfaceRecord?_bounds {data : Bytes} {start : Nat} {span : Span}
    (h : interfaceRecord? data start = some span) :
    span.start = start ∧ start + InterfaceMessage.fixedLength ≤ span.stop ∧
      span.stop ≤ data.length := by
  obtain ⟨m, hm, rfl⟩ := Option.map_eq_some_iff.mp h
  have hlen := InterfaceMessage.length_of_parse? hm
  simp only [List.length_drop, InterfaceMessage.fixedLength] at hlen
  simp only [InterfaceMessage.recordLength, InterfaceMessage.fixedLength, true_and]
  omega

end InterfaceDump
