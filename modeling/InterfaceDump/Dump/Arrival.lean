import InterfaceDump.Dump.Basic
import InterfaceDump.Error

/-! The interface that a datagram arrived on.

A datagram tells the index of its interface. The name is found by asking for the
list of interfaces again. -/
namespace InterfaceDump

/-- The answer to a query for all interfaces. -/
abbrev Query := Except Failure Dump

/-- The answer on a platform that cannot list its interfaces. -/
def Query.unavailable : Query := .error .unsupported

/-- The name of the interface with an index. -/
def arrivalName (query : Query) (index : UInt32) : Except Failure String := do
  match (← query).findByIndex? index with
  | some i => .ok i.name
  | none => .error (.unknownIndex index)

end InterfaceDump
