import InterfaceDump.Dump.Interface
import InterfaceDump.Listing.Arguments

/-! The description of an interface.

A header line is followed by lines for the hardware address and type, for the
IPv4 addresses and for the IPv6 addresses. The arguments say which of them are
shown. -/
namespace InterfaceDump.Listing
open Text

/-! ### Lines -/

def headerLine (i : Interface) : String :=
  i.name ++ ": flags=" ++ Hex.ofNat i.options.bits.toNat ++
    "<" ++ ",".intercalate i.options.names ++ "> index " ++ toString i.index.toNat ++
    " mtu " ++ toString i.mtu.toNat

def linkLines (i : Interface) : List String :=
  (i.hardware?.map fun hardware => "\tether " ++ Hex.colonSeparated hardware).toList ++
    ["\ttype " ++ i.interfaceType.text]

/-- A word and an IPv4 address behind it, if there is one. -/
def labelled (label : String) (ip? : Option Ip.V4) : String :=
  match ip? with
  | some ip => " " ++ label ++ " " ++ ip.text
  | none => ""

/-- An address with the interface's peer, mask and broadcast address, as far as it has them. -/
def ipv4Line (i : Interface) (a : SocketV4) : String :=
  "\tinet " ++ a.ip.text ++
    labelled "-->" ((i.destinationAddress?.bind (·.v4?)).map (·.ip)) ++
    labelled "netmask" i.ipv4Netmask? ++
    labelled "broadcast" ((i.broadcastAddress?.bind (·.v4?)).map (·.ip))

/-- An address with the interface's name, if it is scoped, and its prefix length, if known. -/
def ipv6Line (i : Interface) (a : SocketV6) (prefixLength? : Option UInt8) : String :=
  "\tinet6 " ++ a.ip.text ++
    (if a.scopeId = 0 then "" else "%" ++ i.name) ++
    match prefixLength? with
    | some n => " prefixlen " ++ toString n.toNat
    | none => ""

/-- The IPv6 addresses of an interface, each with the prefix length at its place. -/
def prefixedAddresses (i : Interface) : List (SocketV6 × Option UInt8) :=
  let lengths := i.ipv6PrefixLengths
  i.ipv6Addresses.zipIdx.map fun (a, n) => (a, lengths[n]?)

/-! ### Descriptions -/

def descriptionLines (i : Interface) (args : Arguments) : List String :=
  headerLine i ::
    (if args.wantsLink then linkLines i else []) ++
    (i.ipv4Addresses.filter fun a => args.wants (.v4 a)).map (ipv4Line i) ++
    ((prefixedAddresses i).filter fun p => args.wants (.v6 p.1)).map fun p => ipv6Line i p.1 p.2

def describe (i : Interface) (args : Arguments) : String :=
  "\n".intercalate (descriptionLines i args)

end InterfaceDump.Listing
