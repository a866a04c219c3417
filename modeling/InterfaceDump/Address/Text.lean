import InterfaceDump.Text.Quoted
import InterfaceDump.Text.Inspect
import InterfaceDump.Address.Basic

/-! The text of socket addresses. -/
namespace InterfaceDump
open Text

def SocketV4.text (a : SocketV4) : String := a.ip.text ++ ":" ++ toString a.port.toNat

/-- The scope follows the address after a percent sign unless it is zero. -/
def SocketV6.text (a : SocketV6) : String :=
  let scope := if a.scopeId = 0 then "" else "%" ++ toString a.scopeId.toNat
  "[" ++ a.ip.text ++ scope ++ "]:" ++ toString a.port.toNat

def bytesText (b : Bytes) : String := Inspect.list (b.map fun x => toString x.toNat)

namespace SockAddr

/-- Address and port of an internet address. -/
def socketText? : SockAddr → Option String
  | v4 a => some a.text
  | v6 a => some a.text
  | _ => none

/-- The inspection text. -/
def inspect : SockAddr → String
  | v4 a => Inspect.applied "V4" a.text
  | v6 a => Inspect.applied "V6" a.text
  | link a => Inspect.applied "Link" <| Inspect.record "LinkAddr"
      [("index", toString a.index.toNat), ("link_type", toString a.linkType.toNat),
       ("interface_name", Quoted.quote a.name), ("hardware_address", bytesText a.hardware)]
  | other a => Inspect.applied "Other" <| Inspect.record "GenericAddr"
      [("family", toString a.family.toNat), ("data", bytesText a.data)]

end SockAddr

end InterfaceDump
