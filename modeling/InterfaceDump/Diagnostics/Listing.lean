import InterfaceDump.Diagnostics.Dump
import InterfaceDump.Listing.Describe

/-! What describing an interface reports. -/
namespace InterfaceDump.Diagnostics

/-- Every attribute that a line needs is read again for it. The name is read once
more for every IPv6 address that is shown with its scope. -/
def describeEvents (i : Interface) (args : Listing.Arguments) : List Event :=
  let withScope := i.ipv6Addresses.filter fun a => args.wants (.v6 a) && a.scopeId != 0
  identityEvents i ++ (if args.wantsLink then interfaceLinkEvents i else []) ++
    kindEvents .netmask i ++ broadcastEvents i ++ destinationEvents i ++ kindEvents .address i ++
    kindEvents .netmask i ++ kindEvents .address i ++ withScope.flatMap fun _ => interfaceLinkEvents i

end InterfaceDump.Diagnostics
