import InterfaceDump.Text.Hex
import InterfaceDump.Text.Inspect

/-! Interface options: the flags of an interface as a bitmask. -/
namespace InterfaceDump

structure Options where
  bits : UInt32
deriving DecidableEq

namespace Options

/-! ### Flags -/

def up : Options := ⟨0x1⟩
def broadcast : Options := ⟨0x2⟩
def loopback : Options := ⟨0x8⟩
def pointToPoint : Options := ⟨0x10⟩
/-- The interface manages its own routes. -/
def smart : Options := ⟨0x20⟩
def running : Options := ⟨0x40⟩
def noArp : Options := ⟨0x80⟩
def promiscuous : Options := ⟨0x100⟩
def allMulticast : Options := ⟨0x200⟩
def simplex : Options := ⟨0x800⟩
/-- The interface uses its alternate physical connection. -/
def alternatePhysical : Options := ⟨0x4000⟩
def multicast : Options := ⟨0x8000⟩

/-- The flags that have a name, in bit order. -/
def named : List (Options × String) :=
  [(up, "UP"), (broadcast, "BROADCAST"), (loopback, "LOOPBACK"), (pointToPoint, "POINTOPOINT"),
   (smart, "SMART"), (running, "RUNNING"), (noArp, "NOARP"), (promiscuous, "PROMISC"),
   (allMulticast, "ALLMULTI"), (simplex, "SIMPLEX"), (alternatePhysical, "ALTPHYS"),
   (multicast, "MULTICAST")]

/-! ### Sets of flags -/

/-- Whether every flag of `other` is set. -/
def contains (o other : Options) : Bool := o.bits &&& other.bits == other.bits

def union (o other : Options) : Options := ⟨o.bits ||| other.bits⟩

def isUp (o : Options) : Bool := o.contains up

def isRunning (o : Options) : Bool := o.contains running

def isPointToPoint (o : Options) : Bool := o.contains pointToPoint

/-- The names of the known flags that are set, in bit order. -/
def names (o : Options) : List String := (named.filter fun n => o.contains n.1).map (·.2)

/-- The inspection text: all bits in hexadecimal, then the known names. -/
def inspect (o : Options) : String :=
  Text.Inspect.applied "InterfaceOptions" <|
    " ".intercalate (("0x" ++ Text.Hex.ofNat o.bits.toNat) :: o.names)

end Options

end InterfaceDump
