import InterfaceDump.Address.Basic
import InterfaceDump.Listing.Value

/-! What a listing is asked for, and which addresses it is to show. -/
namespace InterfaceDump.Listing
open Diagnostics

structure Arguments where
  /-- The only interface to show. -/
  selector : Option Selector := none
  family : FamilyFilter := .all
  /-- Show only interfaces that are up, running and accept multicast. -/
  multicast : Bool := false
  /-- Hide link-local addresses. -/
  skipLinkLocal : Bool := false
  verbosity : Verbosity := some .warn
deriving DecidableEq

namespace Arguments

/-- Whether an address is to be shown. -/
def wants (args : Arguments) (a : SockAddr) : Bool :=
  args.family.shows a.family && !(args.skipLinkLocal && a.isLinkLocal)

/-- Whether the hardware address and type are to be shown. -/
def wantsLink (args : Arguments) : Bool := args.family.shows .link

end Arguments

end InterfaceDump.Listing
