import InterfaceDump.Text.Quoted

/-! What can go wrong when interfaces are asked for. -/
namespace InterfaceDump

inductive Failure where
  /-- The platform has no way to list its interfaces. -/
  | unsupported
  | unknownName (name : String)
  | unknownIndex (index : UInt32)
  /-- The interface has no address of the family with this label. -/
  | noAddress (family : String) (index : UInt32)
deriving DecidableEq

def Failure.message : Failure → String
  | unsupported => "interface enumeration is not supported on this platform"
  | unknownName name => "no interface named " ++ Text.Quoted.quote name
  | unknownIndex index => s!"no interface with index {index.toNat}"
  | noAddress family index => s!"interface {index.toNat} has no {family} address"

end InterfaceDump
