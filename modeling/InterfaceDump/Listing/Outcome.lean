import InterfaceDump.Dump.Arrival
import InterfaceDump.Listing.Describe

/-! Listing interfaces.

The listing shows the interface that was asked for, or those that accept
multicast, or all of them. It fails as a whole: either every chosen interface is
printed, or nothing but one error message is. -/
namespace InterfaceDump.Listing

inductive ListingError where
  | failed (failure : Failure)
  | notFound (selector : Selector)
deriving DecidableEq

namespace ListingError

def message : ListingError → String
  | failed failure => failure.message
  | notFound selector => "no interface matches " ++ selector.inspect

def exitCode : ListingError → UInt8
  | failed .unsupported => 2
  | notFound _ => 3
  | failed _ => 1

end ListingError

/-- The interface that a selector names. -/
def Selector.find? (d : Dump) : Selector → Option Interface
  | byIndex index => d.findByIndex? index
  | byName name => d.findByName? name

/-- The interfaces to be shown; a selector leaves no room for other choices. -/
def chosen (d : Dump) (args : Arguments) : Except ListingError (List Interface) :=
  match args.selector with
  | some selector =>
    match selector.find? d with
    | some i => .ok [i]
    | none => .error (.notFound selector)
  | none => .ok (if args.multicast then d.multicastCapable else d.interfaces)

def listing (query : Query) (args : Arguments) : Except ListingError (List String) := do
  let d ← query.mapError .failed
  let interfaces ← chosen d args
  return interfaces.map (describe · args)

/-- What the program leaves behind. -/
structure Outcome where
  exitCode : UInt8
  stdout : String
  stderr : String
deriving DecidableEq

def run (query : Query) (args : Arguments) : Outcome :=
  match listing query args with
  | .ok texts => ⟨0, String.join (texts.map (· ++ "\n")), ""⟩
  | .error e => ⟨e.exitCode, "", "error: " ++ e.message ++ "\n"⟩

end InterfaceDump.Listing
