import InterfaceDump.Address.Text
import InterfaceDump.Dump.Basic

/-! The inspection text of interfaces and dumps. -/
namespace InterfaceDump
open Text

def Interface.inspect (i : Interface) : String :=
  Inspect.record "Interface"
    [("index", toString i.index.toNat), ("name", Quoted.quote i.name),
     ("type", i.interfaceType.text), ("options", i.options.inspect),
     ("mtu", toString i.mtu.toNat), ("addresses", Inspect.list (i.addresses.map (·.inspect)))]

def Dump.inspect (d : Dump) : String := Inspect.list (d.interfaces.map (·.inspect))

end InterfaceDump
