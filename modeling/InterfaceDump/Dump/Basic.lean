import InterfaceDump.Dump.Interface

/-! Dumps.

A dump is the answer to one query for all interfaces, kept as its octets. A
position is an offset into it. The interfaces can be walked in two ways: by
`positionAfter`, which takes any offset to the next interface, and as the list
`interfaces`, where each interface starts at the boundary that ends the one
before it. `interfaceAt?_bounds` is why both come to an end: an interface takes
at least the fixed part of its message. -/
namespace InterfaceDump

structure Dump where
  bytes : Bytes
deriving DecidableEq

namespace Dump

/-! ### Positions -/

/-- The position of the first interface, or the end. -/
def startPosition (d : Dump) : Nat := nextBoundary d.bytes 0

def endPosition (d : Dump) : Nat := d.bytes.length

/-- The position of the interface after the one at `position`, or the end. -/
def positionAfter (d : Dump) (position : Nat) : Nat :=
  match interfaceRecord? d.bytes position with
  | some record => nextBoundary d.bytes record.stop
  | none => d.endPosition

/-- The interface whose message starts at `position`. -/
def interfaceAt? (d : Dump) (position : Nat) : Option Interface :=
  if nextBoundary d.bytes position = position then
    (InterfaceMessage.parse? (d.bytes.drop position)).map fun message =>
      ⟨d.bytes, message, position, nextBoundary d.bytes (position + message.recordLength)⟩
  else none

theorem interfaceAt?_bounds {d : Dump} {position : Nat} {i : Interface}
    (h : d.interfaceAt? position = some i) :
    i.data = d.bytes ∧ i.start = position ∧
      position + InterfaceMessage.fixedLength ≤ i.stop ∧ i.stop ≤ d.endPosition := by
  unfold interfaceAt? at h
  split at h
  · obtain ⟨m, hm, rfl⟩ := Option.map_eq_some_iff.mp h
    have hlen := InterfaceMessage.length_of_parse? hm
    simp only [List.length_drop, InterfaceMessage.fixedLength] at hlen
    have hstop := nextBoundary_le d.bytes (position + m.bytes.length)
    have hstart : position + m.bytes.length ≤ nextBoundary d.bytes (position + m.bytes.length) :=
      le_nextBoundary (by omega)
    refine ⟨rfl, rfl, ?_, hstop⟩
    simp only [InterfaceMessage.recordLength, InterfaceMessage.fixedLength]
    omega
  · simp at h

/-! ### The list of interfaces -/

/-- The interfaces from a boundary on. -/
def interfacesFrom (d : Dump) (position : Nat) : List Interface :=
  match _ : d.interfaceAt? position with
  | some i => i :: d.interfacesFrom i.stop
  | none => []
termination_by d.endPosition - position
decreasing_by
  rename_i h
  have := interfaceAt?_bounds h
  simp only [InterfaceMessage.fixedLength] at this
  omega

/-- Every interface, in the order of the dump. -/
def interfaces (d : Dump) : List Interface := d.interfacesFrom d.startPosition

theorem interfacesFrom_of_some {d : Dump} {position : Nat} {i : Interface}
    (h : d.interfaceAt? position = some i) :
    d.interfacesFrom position = i :: d.interfacesFrom i.stop := by
  rw [interfacesFrom]
  split <;> simp_all

theorem interfacesFrom_of_none {d : Dump} {position : Nat}
    (h : d.interfaceAt? position = none) : d.interfacesFrom position = [] := by
  rw [interfacesFrom]
  split <;> simp_all

/-! ### Looking for interfaces -/

def findByIndex? (d : Dump) (index : UInt32) : Option Interface :=
  d.interfaces.find? (·.index == index)

def findByName? (d : Dump) (name : String) : Option Interface :=
  d.interfaces.find? (·.name == name)

/-- What an interface needs for multicast: it is up, running and accepts it. -/
def multicastOptions : Options := (Options.up.union Options.running).union Options.multicast

def multicastCapable (d : Dump) : List Interface :=
  d.interfaces.filter (·.options.contains multicastOptions)

end Dump

end InterfaceDump
